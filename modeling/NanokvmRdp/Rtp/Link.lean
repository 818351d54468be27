import NanokvmRdp.Rtp.AccessUnit

/-!
# The packets a sender offers

A packet callback that keeps a log: every packet it was given, the access
unit the packet belongs to, and whether it was accepted. What the log can
hold after any number of access units is `SentLog`: unit by unit either all
the packets of the unit, or its packets up to one that was refused.
-/

namespace NanokvmRdp.Rtp

structure LogEntry where
  unit : Nat
  packet : List UInt8
  accepted : Bool
  deriving DecidableEq, Repr

/-- The callback's context: the answer to the `n`-th packet ever offered,
the access unit being sent, and the log. -/
structure Link where
  answers : Nat → Bool
  unit : Nat := 0
  log : List LogEntry := []

def Link.offer (link : Link) (packet : List UInt8) : Bool × Link :=
  let accepted := link.answers link.log.length
  (accepted, { link with log := link.log ++ [⟨link.unit, packet, accepted⟩] })

/-- Access units with their timestamps, sent one after the other whatever
becomes of each. -/
def sendUnits : List (AccessUnit × UInt32) → RtpH264Packetizer → Link →
    List Bool × RtpH264Packetizer × Link
  | [], p, link => ([], p, link)
  | (unit, timestamp) :: units, p, link =>
    let (ok, p, link) := rtpH264PacketizeAccessUnit p unit.data timestamp Link.offer link
    let (oks, p, link) := sendUnits units p { link with unit := link.unit + 1 }
    (ok :: oks, p, link)

def offered (answers : Nat → Bool) (unit : Nat) : Nat → List (List UInt8) → List LogEntry
  | _, [] => []
  | n, packet :: packets =>
    ⟨unit, packet, answers n⟩ :: if answers n then offered answers unit (n + 1) packets else []

structure UnitLog (p : RtpH264Packetizer) (index : Nat) (unit : AccessUnit) (timestamp : UInt32)
    (entries : List LogEntry) : Prop where
  packets : entries.map LogEntry.packet <+: packetsFrom p timestamp (unit.packets p.mtu.toNat)
  index_eq : ∀ e ∈ entries, e.unit = index
  ending : entries.length = (unit.packets p.mtu.toNat).length ∨
    ∃ init last, entries = init ++ [last] ∧ last.accepted = false

inductive SentLog : RtpH264Packetizer → Nat → List (AccessUnit × UInt32) → List LogEntry → Prop
  | nil : SentLog p index [] []
  | cons : UnitLog p index unit timestamp entries →
      SentLog (p.after entries.length) (index + 1) units rest →
      SentLog p index ((unit, timestamp) :: units) (entries ++ rest)

-- ---------------------------------------------------------------------------
-- The entries of one access unit
-- ---------------------------------------------------------------------------

theorem offered_packets (answers : Nat → Bool) (unit n : Nat) (packets : List (List UInt8)) :
    (offered answers unit n packets).map LogEntry.packet <+: packets := by
  induction packets generalizing n with
  | nil => exact List.prefix_refl _
  | cons packet packets ih =>
    rw [offered, List.map_cons, List.prefix_cons_inj]
    split
    · exact ih (n + 1)
    · exact List.nil_prefix

theorem offered_mem (h : e ∈ offered answers unit n packets) :
    e.unit = unit ∧ ∃ m, e.accepted = answers m := by
  induction packets generalizing n with
  | nil => cases h
  | cons packet packets ih =>
    rw [offered] at h
    rcases List.mem_cons.mp h with rfl | h
    · exact ⟨rfl, n, rfl⟩
    · split at h
      · exact ih h
      · cases h

theorem offered_ending (answers : Nat → Bool) (unit n : Nat) (packets : List (List UInt8)) :
    (offered answers unit n packets).length = packets.length ∨
      ∃ init last, offered answers unit n packets = init ++ [last] ∧ last.accepted = false := by
  induction packets generalizing n with
  | nil => exact .inl rfl
  | cons packet packets ih =>
    rw [offered]
    cases hn : answers n with
    | false => exact .inr ⟨[], _, rfl, rfl⟩
    | true =>
      rcases ih (n + 1) with h | ⟨init, last, h, hlast⟩
      · exact .inl (by rw [if_pos rfl, List.length_cons, h, List.length_cons])
      · exact .inr ⟨_ :: init, last, by rw [if_pos rfl, h]; rfl, hlast⟩

theorem emitAll_offer (timestamp : UInt32) (outs : List Outgoing) (p : RtpH264Packetizer)
    (link : Link) (hfits : ∀ out ∈ outs, out.Fits rtpH264DefaultMtu) :
    let entries := offered link.answers link.unit link.log.length (packetsFrom p timestamp outs)
    emitAll timestamp Link.offer outs p link =
      (entries.all LogEntry.accepted, p.after entries.length,
        { link with log := link.log ++ entries }) := by
  induction outs generalizing p link with
  | nil => simp [packetsFrom, offered, emitAll, RtpH264Packetizer.after]
  | cons out outs ih =>
    have hfit := (hfits out List.mem_cons_self).2
    have hemit : emitPacket p out.payload out.marker timestamp Link.offer link =
        (link.answers link.log.length, p.next,
          { link with log := link.log ++ [⟨link.unit, rtpPacket p out.payload out.marker timestamp,
            link.answers link.log.length⟩] }) := by
      rw [emitPacket, if_neg (Nat.not_lt.mpr hfit)]
      rfl
    simp only [emitAll, hemit, packetsFrom, offered]
    cases hanswer : link.answers link.log.length with
    | false => simp [RtpH264Packetizer.after]
    | true =>
      have hrest := ih p.next { link with log := link.log ++ [⟨link.unit,
        rtpPacket p out.payload out.marker timestamp, true⟩] }
        fun o ho => hfits o (List.mem_cons_of_mem _ ho)
      simp only [List.length_append, List.length_cons, List.length_nil, Nat.zero_add] at hrest
      simp only [hrest, if_true, List.all_cons, Bool.true_and, List.length_cons,
        RtpH264Packetizer.after, List.append_assoc, List.cons_append, List.nil_append]

-- ---------------------------------------------------------------------------
-- The whole log
-- ---------------------------------------------------------------------------

theorem AccessUnit.packets_fits (unit : AccessUnit) (p : RtpH264Packetizer) :
    ∀ out ∈ unit.packets p.mtu.toNat, out.Fits p.mtu.toNat :=
  unitPackets_fits p.le_mtu _

theorem sendUnits_sentLog (units : List (AccessUnit × UInt32)) (p : RtpH264Packetizer) (link : Link) :
    ∃ entries, (sendUnits units p link).2.2.log = link.log ++ entries ∧
      SentLog p link.unit units entries ∧
      (∀ e ∈ entries, ∃ n, e.accepted = link.answers n) ∧
      ((∀ e ∈ entries, e.accepted = true) → (sendUnits units p link).1 = units.map fun _ => true) := by
  induction units generalizing p link with
  | nil => exact ⟨[], by simp [sendUnits], .nil, by simp, fun _ => rfl⟩
  | cons unit units ih =>
    obtain ⟨unit, timestamp⟩ := unit
    have hemit := emitAll_offer timestamp (unit.packets p.mtu.toNat) p link fun out hout =>
      ⟨(unit.packets_fits p out hout).1, (unit.packets_fits p out hout).2.trans p.mtu_le⟩
    simp only at hemit
    generalize hentries : offered link.answers link.unit link.log.length
      (packetsFrom p timestamp (unit.packets p.mtu.toNat)) = entries at hemit
    obtain ⟨rest, hlog, hsent, haccepted, hok⟩ := ih (p.after entries.length)
      { link with unit := link.unit + 1, log := link.log ++ entries }
    refine ⟨entries ++ rest, ?_, .cons ⟨?_, ?_, ?_⟩ hsent, ?_, ?_⟩
    · simp only [sendUnits, rtpH264PacketizeAccessUnit_eq, hemit, hlog, List.append_assoc]
    · rw [← hentries]
      exact offered_packets ..
    · intro e he
      rw [← hentries] at he
      exact (offered_mem he).1
    · rw [← hentries, ← length_packetsFrom p timestamp]
      exact offered_ending ..
    · intro e he
      rcases List.mem_append.mp he with he | he
      · rw [← hentries] at he
        exact (offered_mem he).2
      · exact haccepted e he
    · intro hall
      have hfirst : entries.all LogEntry.accepted = true :=
        List.all_eq_true.mpr fun e he => hall e (List.mem_append_left _ he)
      simp only [sendUnits, rtpH264PacketizeAccessUnit_eq, hemit, hfirst, List.map_cons]
      rw [hok fun e he => hall e (List.mem_append_right _ he)]

end NanokvmRdp.Rtp
