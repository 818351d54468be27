import Mathlib.Data.List.Chain
import NanokvmRdp.Rtp.RoundTrip

/-!
# Losses on the video path

The sender's callback may refuse any packet and the network may drop, repeat
and reorder the packets it took. A packet is named by its position in the
sender's log, refused packets included, so its sequence number is that
position modulo 2^16. Every arrival that is not the successor of the one
before it is counted in `losses`. Between two returned units without such a
gap the client has seen exactly the packets of the next unit.
-/

namespace NanokvmRdp.Rtp

/-- A sender at work: its access units, its packetizer and the callback's answers. -/
structure Transmission where
  units : List (AccessUnit × UInt32)
  packetizer : RtpH264Packetizer
  answers : Nat → Bool

def Transmission.log (t : Transmission) : List LogEntry :=
  (sendUnits t.units t.packetizer { answers := t.answers }).2.2.log

def Transmission.packet (t : Transmission) (index : Nat) : List UInt8 :=
  match t.log[index]? with
  | some e => e.packet
  | none => []

def Transmission.Accepted (t : Transmission) (index : Nat) : Prop :=
  ∃ e, t.log[index]? = some e ∧ e.accepted = true

inductive Arrival where
  | packet (index : Nat)
  | interrupted
  | failed
  deriving DecidableEq, Repr

def Transmission.datagram (t : Transmission) : Arrival → Datagram
  | .packet index => .packet (t.packet index)
  | .interrupted => .interrupted
  | .failed => .failed

def indices (arrivals : List Arrival) : List Nat :=
  arrivals.filterMap fun
    | .packet index => some index
    | _ => none

/-- No packet is taken for one that is 65536 or more sequence numbers away. -/
def Close (arrived : List Nat) : Prop :=
  arrived.IsChain fun i j => j < i + 1 + 65536 ∧ i + 1 < j + 65536

def gapCount : Nat → List Nat → Nat
  | _, [] => 0
  | last, index :: arrived => (if index = last + 1 then 0 else 1) + gapCount index arrived

inductive ReadsUnit : RtpClient → List Datagram → List UInt8 → RtpClient → Prop
  | unit : rtpClientReadH264 c datagrams = (.unit data, c', []) → ReadsUnit c datagrams data c'
  | retry : rtpClientReadH264 c datagrams = (.failed, c₁, rest) → ReadsUnit c₁ rest data c' →
      ReadsUnit c datagrams data c'

/-- Two units that a fresh client returns one after the other, with what
arrived before the first, up to it, and up to the second. -/
structure ConsecutiveUnits (t : Transmission) where
  earlier : List Arrival
  first : List Arrival
  second : List Arrival
  accepted : ∀ i ∈ indices (earlier ++ first ++ second), t.Accepted i
  close : Close (indices (earlier ++ first ++ second))
  data₁ : List UInt8
  data₂ : List UInt8
  client₁ : RtpClient
  client₂ : RtpClient
  reads₁ : ReadsUnit (readUnits (earlier.length + 1) {} (earlier.map t.datagram)).2
    (first.map t.datagram) data₁ client₁
  reads₂ : ReadsUnit client₁ (second.map t.datagram) data₂ client₂

def ConsecutiveUnits.firstIndex (r : ConsecutiveUnits t) : Nat := (indices r.first).getLastD 0

/-- The second unit is, bit for bit, the one sent right after the unit whose
last packet returned the first. -/
def ConsecutiveUnits.InOrder (r : ConsecutiveUnits t) : Prop :=
  ∃ e first second, t.log[r.firstIndex]? = some e ∧ t.units[e.unit]? = some first ∧
    t.units[e.unit + 1]? = some second ∧ r.data₂ = second.1.normalised

-- ---------------------------------------------------------------------------
-- Sequence numbers and losses
-- ---------------------------------------------------------------------------

theorem after_sequence_inj (p : RtpH264Packetizer) (h₁ : j < i + 65536) (h₂ : i < j + 65536) :
    (p.after j).sequence = (p.after i).sequence ↔ j = i := by
  rw [after_sequence, after_sequence, UInt16.add_right_inj, ← UInt16.toNat_inj]
  simp only [UInt16.toNat_ofNat', Nat.reducePow]
  omega

theorem after_succ_sequence (p : RtpH264Packetizer) (n : Nat) :
    (p.after n).sequence + 1 = (p.after (n + 1)).sequence := by
  rw [p.after_add n 1]
  rfl

theorem appendAccessUnit_losses (c : RtpClient) (data : List UInt8) :
    (appendAccessUnit c data).2.losses = c.losses := by
  unfold appendAccessUnit
  split <;> rfl

theorem saveNal_losses (c : RtpClient) (nal : List UInt8) (timestamp : UInt32) (marker : Bool) :
    (saveNal c nal timestamp marker).2.losses = c.losses := by
  have hstart : (startUnit c timestamp).losses = c.losses := by
    unfold startUnit
    split <;> rfl
  have hcode := appendAccessUnit_losses (startUnit c timestamp) [0, 0, 0, 1]
  unfold saveNal
  split <;> rename_i heq <;> rw [heq] at hcode
  · exact hcode.trans hstart
  · exact (appendAccessUnit_losses _ _).trans (hcode.trans hstart)

theorem takeUnit_cases (c : RtpClient) (pushed : Bool) (packet : List UInt8) :
    (takeUnit c pushed packet).2.reassembler = c.reassembler ∧
      (takeUnit c pushed packet).2.losses = c.losses ∧
      ((takeUnit c pushed packet).1 ≠ none →
        hasMarker packet = true ∧ (takeUnit c pushed packet).2.haveAccessUnit = false) := by
  unfold takeUnit
  split
  · exact ⟨rfl, rfl, fun h => absurd rfl h⟩
  · split
    · exact ⟨rfl, rfl, fun h => absurd rfl h⟩
    · rename_i hmarked
      refine ⟨rfl, rfl, fun _ => ⟨?_, rfl⟩⟩
      cases hm : hasMarker packet with
      | true => rfl
      | false => simp [hm] at hmarked

theorem noteSequence_losses (c : RtpClient) (sequence : UInt16) :
    (noteSequence c.reassembler sequence countLoss c).1.haveSequence = true ∧
      (noteSequence c.reassembler sequence countLoss c).1.expectedSequence = sequence + 1 ∧
      (c.reassembler.haveSequence = true →
        (noteSequence c.reassembler sequence countLoss c).2.losses =
          c.losses + if sequence = c.reassembler.expectedSequence then 0 else 1) := by
  refine ⟨rfl, rfl, fun hhave => ?_⟩
  unfold noteSequence
  by_cases hseq : sequence = c.reassembler.expectedSequence
  · simp [hseq]
  · simp [hhave, hseq, countLoss]

theorem receivePacket_losses (c : RtpClient) (hne : payload ≠ []) (marker : Bool)
    (timestamp : UInt32) (hc' : (receivePacket c (rtpPacket p payload marker timestamp)).2 = c') :
    c'.reassembler.haveSequence = true ∧ c'.reassembler.expectedSequence = p.sequence + 1 ∧
      (c.reassembler.haveSequence = true → c'.losses =
        c.losses + if p.sequence = c.reassembler.expectedSequence then 0 else 1) := by
  subst hc'
  rw [receivePacket, push_rtpPacket _ _ _ _ _ _ _ _ hne]
  have hnoted := noteSequence_losses c p.sequence
  generalize noteSequence c.reassembler p.sequence countLoss c = noted at hnoted ⊢
  have hpushed := pushPayload_invariant (P := fun context => context.losses = noted.2.losses)
    (fun context nal timestamp marker h => (saveNal_losses context nal timestamp marker).trans h)
    noted.1 payload timestamp marker rfl
  generalize pushPayload noted.1 payload timestamp marker saveNal noted.2 = pushed at hpushed ⊢
  obtain ⟨pushed, r, c₁⟩ := pushed
  obtain ⟨hre, hlost, -⟩ :=
    takeUnit_cases { c₁ with reassembler := r } pushed (rtpPacket p payload marker timestamp)
  rw [hre, hlost]
  exact ⟨hpushed.1.1.trans hnoted.1, hpushed.1.2.trans hnoted.2.1,
    fun h => hpushed.2.trans (hnoted.2.2 h)⟩

theorem receivePacket_return (h : receivePacket c packet = (some data, c')) :
    hasMarker packet = true ∧ c'.haveAccessUnit = false := by
  rw [receivePacket] at h
  have hreturn := (takeUnit_cases
    { (rtpH264ReassemblerPush c.reassembler packet saveNal countLoss c).2.2 with
      reassembler := (rtpH264ReassemblerPush c.reassembler packet saveNal countLoss c).2.1 }
    (rtpH264ReassemblerPush c.reassembler packet saveNal countLoss c).1 packet).2.2
  simp only at h
  rw [h] at hreturn
  exact hreturn (by simp)

-- ---------------------------------------------------------------------------
-- Positions in the log
-- ---------------------------------------------------------------------------

theorem UnitLog.getElem? (h : UnitLog p index unit timestamp entries) (hi : entries[i]? = some e) :
    ∃ out, (unit.packets p.mtu.toNat)[i]? = some out ∧
      e.packet = rtpPacket (p.after i) out.payload out.marker timestamp := by
  obtain ⟨rest, hrest⟩ := h.packets
  have hlt : i < (entries.map LogEntry.packet).length := by
    rw [List.length_map]
    exact (List.getElem?_eq_some_iff.mp hi).1
  have hpacket : (packetsFrom p timestamp (unit.packets p.mtu.toNat))[i]? = some e.packet := by
    rw [← hrest, List.getElem?_append_left hlt, List.getElem?_map, hi]
    rfl
  rw [packetsFrom_getElem?, Option.map_eq_some_iff] at hpacket
  obtain ⟨out, hout, heq⟩ := hpacket
  exact ⟨out, hout, heq.symm⟩

/-- Every entry of the log is a packet with the sequence number of its position. -/
theorem sentLog_getElem? (h : SentLog p index units log) (hi : log[i]? = some e) :
    ∃ payload marker timestamp, payload ≠ [] ∧
      e.packet = rtpPacket (p.after i) payload marker timestamp := by
  induction h generalizing i with
  | nil => cases hi
  | @cons p index unit timestamp entries units rest hunit hrest ih =>
    by_cases hlt : i < entries.length
    · rw [List.getElem?_append_left hlt] at hi
      obtain ⟨out, hout, heq⟩ := hunit.getElem? hi
      exact ⟨out.payload, out.marker, timestamp,
        (unit.packets_fits p out (List.mem_of_getElem? hout)).1, heq⟩
    · rw [List.getElem?_append_right (Nat.not_lt.mp hlt)] at hi
      obtain ⟨payload, marker, timestamp, hne, heq⟩ := ih hi
      refine ⟨payload, marker, timestamp, hne, ?_⟩
      rw [heq, ← RtpH264Packetizer.after_add, Nat.add_sub_cancel' (Nat.not_lt.mp hlt)]

theorem AccessUnit.packets_marked (unit : AccessUnit) (p : RtpH264Packetizer) :
    MarkedLast true (unit.packets p.mtu.toNat) := by
  refine unitPackets_marked p.le_mtu (by simp [unit.ne_nil]) fun nal hmem => ?_
  obtain ⟨n, -, rfl⟩ := List.mem_map.mp hmem
  exact n.2.ne_nil

theorem MarkedLast.last (h : MarkedLast true outs) (hi : outs[i]? = some out)
    (hmarker : out.marker = true) : outs.length = i + 1 := by
  obtain ⟨init, last, rfl, hinit, -⟩ := h
  have hlt := (List.getElem?_eq_some_iff.mp hi).1
  by_cases hlast : i < init.length
  · rw [List.getElem?_append_left hlast] at hi
    rw [hinit out (List.mem_of_getElem? hi)] at hmarker
    cases hmarker
  · rw [List.length_append] at hlt ⊢
    simp only [List.length_cons, List.length_nil] at hlt ⊢
    omega

theorem UnitLog.last (h : UnitLog p index unit timestamp entries) (hi : entries[i]? = some e)
    (hmarker : hasMarker e.packet = true) :
    entries.length = i + 1 ∧ (unit.packets p.mtu.toNat).length = i + 1 := by
  obtain ⟨out, hout, heq⟩ := h.getElem? hi
  rw [heq, hasMarker_rtpPacket] at hmarker
  have hlen := (unit.packets_marked p).last hout hmarker
  have hle := h.packets.length_le
  rw [List.length_map, length_packetsFrom] at hle
  have hlt := (List.getElem?_eq_some_iff.mp hi).1
  exact ⟨by omega, hlen⟩

/-- After an entry with the marker the log goes on with the next unit. -/
theorem sentLog_drop (h : SentLog p index units log) (hi : log[i]? = some e)
    (hmarker : hasMarker e.packet = true) :
    ∃ k, e.unit = index + k ∧ k < units.length ∧
      SentLog (p.after (i + 1)) (index + k + 1) (units.drop (k + 1)) (log.drop (i + 1)) := by
  induction h generalizing i with
  | nil => cases hi
  | @cons p index unit timestamp entries units rest hunit hrest ih =>
    by_cases hlt : i < entries.length
    · rw [List.getElem?_append_left hlt] at hi
      obtain ⟨hlen, -⟩ := hunit.last hi hmarker
      refine ⟨0, hunit.index_eq e (List.mem_of_getElem? hi), Nat.zero_lt_succ _, ?_⟩
      rw [← hlen, List.drop_left]
      exact hrest
    · rw [List.getElem?_append_right (Nat.not_lt.mp hlt)] at hi
      obtain ⟨k, hk, hlen, hsent⟩ := ih hi
      refine ⟨k + 1, by omega, Nat.succ_lt_succ hlen, ?_⟩
      have hdrop : (entries ++ rest).drop (i + 1) = rest.drop (i - entries.length + 1) := by
        rw [List.drop_append, List.drop_eq_nil_of_le (by omega), List.nil_append]
        congr 1
        omega
      have hpos : entries.length + (i - entries.length + 1) = i + 1 := by omega
      rw [← RtpH264Packetizer.after_add, hpos, Nat.add_right_comm index 1 k] at hsent
      rw [hdrop, List.drop_succ_cons]
      exact hsent

-- ---------------------------------------------------------------------------
-- What arrives
-- ---------------------------------------------------------------------------

section

variable {t : Transmission}

theorem Transmission.sentLog (t : Transmission) : SentLog t.packetizer 0 t.units t.log := by
  obtain ⟨log, hlog, hsent, -⟩ := sendUnits_sentLog t.units t.packetizer { answers := t.answers }
  rw [Transmission.log, hlog, List.nil_append]
  exact hsent

theorem Transmission.Accepted.packet_eq {i : Nat} (h : t.Accepted i) :
    ∃ payload marker timestamp, payload ≠ [] ∧
      t.packet i = rtpPacket (t.packetizer.after i) payload marker timestamp := by
  obtain ⟨e, he, -⟩ := h
  obtain ⟨payload, marker, timestamp, hne, heq⟩ := sentLog_getElem? t.sentLog he
  refine ⟨payload, marker, timestamp, hne, ?_⟩
  rw [Transmission.packet, he]
  exact heq

theorem Transmission.Accepted.packet_length {i : Nat} (h : t.Accepted i) :
    t.packet i ≠ [] ∧ (t.packet i).length ≤ 1500 := by
  obtain ⟨e, he, -⟩ := h
  obtain ⟨hne, hlen⟩ := sentLog_packets t.sentLog e (List.mem_of_getElem? he)
  have hmtu : t.packetizer.mtu.toNat ≤ 1500 := t.packetizer.mtu_le.trans (by decide)
  rw [Transmission.packet, he]
  exact ⟨hne, hlen.trans hmtu⟩

theorem datagramPackets_arrivals (h : ∀ i ∈ indices arrivals, t.Accepted i) :
    datagramPackets (arrivals.map t.datagram) = (indices arrivals).map t.packet := by
  induction arrivals with
  | nil => rfl
  | cons arrival arrivals ih =>
    cases arrival with
    | interrupted => exact ih h
    | failed => exact ih h
    | packet i =>
      have hi : t.Accepted i := h i List.mem_cons_self
      obtain ⟨b, bytes, hpacket⟩ := List.exists_cons_of_ne_nil hi.packet_length.1
      have htail := ih fun j hj => h j (List.mem_cons_of_mem _ hj)
      have hcons : indices (.packet i :: arrivals) = i :: indices arrivals := rfl
      rw [hcons, List.map_cons, List.map_cons, Transmission.datagram, hpacket, ← htail]
      rfl

theorem readsUnit_packets (h : ReadsUnit c datagrams data c')
    (hsize : ∀ packet ∈ datagramPackets datagrams, packet.length ≤ 1500) :
    ∃ init last c₁, datagramPackets datagrams = init ++ [last] ∧
      receivePackets c init = ([], c₁) ∧ receivePacket c₁ last = (some data, c') := by
  induction h with
  | @unit c datagrams data c' hread =>
    have hcases := rtpClientReadH264_read c datagrams hsize
    rw [hread] at hcases
    cases hcases with
    | unit init hpackets hinit hlast => exact ⟨_, _, _, hpackets, hinit, hlast⟩
  | @retry c datagrams c₁ rest data c' hread _ ih =>
    have hcases := rtpClientReadH264_read c datagrams hsize
    rw [hread] at hcases
    cases hcases with
    | failed quiet hpackets hinit =>
      rw [hpackets] at hsize
      obtain ⟨init, last, c₂, hrest, hquiet, hlast⟩ := ih fun p hp => hsize p (by simp [hp])
      refine ⟨quiet ++ init, last, c₂, by rw [hpackets, hrest, List.append_assoc], ?_, hlast⟩
      rw [receivePackets_append, hinit, hquiet]
      rfl

-- ---------------------------------------------------------------------------
-- Counting the gaps
-- ---------------------------------------------------------------------------

structure Tracks (t : Transmission) (c : RtpClient) (i : Nat) : Prop where
  haveSequence : c.reassembler.haveSequence = true
  expected : c.reassembler.expectedSequence = (t.packetizer.after (i + 1)).sequence

theorem tracks_packet (h : t.Accepted j) (c : RtpClient) :
    Tracks t (receivePacket c (t.packet j)).2 j := by
  obtain ⟨payload, marker, timestamp, hne, hpacket⟩ := h.packet_eq
  obtain ⟨hhave, hexpected, -⟩ := receivePacket_losses c hne marker timestamp rfl
  rw [hpacket]
  exact ⟨hhave, hexpected.trans (after_succ_sequence _ _)⟩

theorem losses_packet (h : Tracks t c i) (hj : t.Accepted j)
    (hclose : j < i + 1 + 65536 ∧ i + 1 < j + 65536) :
    (receivePacket c (t.packet j)).2.losses = c.losses + if j = i + 1 then 0 else 1 := by
  obtain ⟨payload, marker, timestamp, hne, hpacket⟩ := hj.packet_eq
  obtain ⟨-, -, hlosses⟩ := receivePacket_losses c hne marker timestamp rfl
  have hinj := after_sequence_inj t.packetizer hclose.1 hclose.2
  rw [hpacket, hlosses h.haveSequence, h.expected]
  simp only [hinj]

theorem receivePackets_cons (c : RtpClient) (packet : List UInt8) (packets : List (List UInt8)) :
    (receivePackets c (packet :: packets)).2 =
      (receivePackets (receivePacket c packet).2 packets).2 := by
  rw [receivePackets]
  split <;> rename_i heq <;> rw [heq]

/-- Over a run of arrivals `losses` grows by the number of gaps, modulo 2^32. -/
theorem losses_run (h : Tracks t c i) (hjs : ∀ j ∈ js, t.Accepted j) (hclose : Close (i :: js)) :
    (receivePackets c (js.map t.packet)).2.losses = c.losses + UInt32.ofNat (gapCount i js) := by
  induction js generalizing c i with
  | nil => simp [receivePackets, gapCount]
  | cons j js ih =>
    have hj := hjs j List.mem_cons_self
    obtain ⟨hfirst, hrest⟩ := List.isChain_cons_cons.mp hclose
    rw [List.map_cons, receivePackets_cons,
      ih (tracks_packet hj c) (fun k hk => hjs k (List.mem_cons_of_mem _ hk)) hrest,
      losses_packet h hj hfirst, gapCount, UInt32.ofNat_add, UInt32.add_assoc]
    congr 2
    split <;> rfl

theorem eq_range_of_gapCount (h : gapCount i js = 0) : js = List.range' (i + 1) js.length := by
  induction js generalizing i with
  | nil => rfl
  | cons j js ih =>
    rw [gapCount] at h
    have hj : j = i + 1 := by
      by_contra hne
      rw [if_neg hne] at h
      omega
    subst hj
    rw [List.length_cons, List.range'_succ, ← ih (by omega)]

-- ---------------------------------------------------------------------------
-- Units without a gap between them
-- ---------------------------------------------------------------------------

theorem map_packet_range (h : ∀ j ∈ List.range' a n, t.Accepted j) :
    (List.range' a n).map t.packet = ((t.log.drop a).take n).map LogEntry.packet ∧
      ∀ e ∈ (t.log.drop a).take n, e.accepted = true := by
  induction n generalizing a with
  | zero => simp
  | succ n ih =>
    rw [List.range'_succ] at h ⊢
    obtain ⟨e, he, haccepted⟩ := h a List.mem_cons_self
    obtain ⟨hmap, hrest⟩ := ih fun j hj => h j (List.mem_cons_of_mem _ hj)
    obtain ⟨hlt, hget⟩ := List.getElem?_eq_some_iff.mp he
    rw [List.drop_eq_getElem_cons hlt, List.take_succ_cons, hget, List.map_cons, List.map_cons, hmap,
      Transmission.packet, he]
    refine ⟨rfl, fun e' he' => ?_⟩
    rcases List.mem_cons.mp he' with rfl | he'
    · exact haccepted
    · exact hrest e' he'

/-- A client between two units that takes the next packets of the log and
returns at the last of them returns the next unit. -/
theorem next_unit_returns (h : SentLog p index units log) (hready : c.Ready p.sequence lost)
    (haccepted : ∀ e ∈ log.take n, e.accepted = true)
    (hpackets : (log.take n).map LogEntry.packet = init ++ [last])
    (hinit : receivePackets c init = ([], c₁)) (hlast : receivePacket c₁ last = (some data, c')) :
    ∃ unit, units.head? = some unit ∧ data = unit.1.normalised := by
  cases h with
  | nil => simp at hpackets
  | @cons _ _ unit timestamp entries units rest hunit hrest =>
    refine ⟨(unit, timestamp), rfl, ?_⟩
    have hmarker := (receivePacket_return hlast).1
    have hlen := congrArg List.length hpackets
    simp only [List.length_map, List.length_take, List.length_append, List.length_cons,
      List.length_nil] at hlen
    by_cases hshort : n < entries.length
    · -- The last packet has the marker, so the unit's log cannot go on after it.
      rw [List.take_append_of_le_length hshort.le] at hpackets
      have hn : n = init.length + 1 := by omega
      obtain ⟨e, he, rfl⟩ : ∃ e, entries[init.length]? = some e ∧ e.packet = last := by
        have hget : ((entries.take n).map LogEntry.packet)[init.length]? = some last := by
          rw [hpackets]
          simp
        rw [List.getElem?_map, List.getElem?_take_of_lt (by omega), Option.map_eq_some_iff] at hget
        exact hget
      have hend := (hunit.last he hmarker).1
      omega
    · -- All packets of the unit have come, and its last one returned it.
      rw [List.take_append, List.take_of_length_le (Nat.not_lt.mp hshort)] at hpackets haccepted
      obtain ⟨hcomplete, -⟩ := hunit.complete fun e he => haccepted e (List.mem_append_left _ he)
      obtain ⟨c₂, hreturn, -⟩ := unit_returns hready unit timestamp
      rw [List.map_append, hcomplete] at hpackets
      generalize hmore : (rest.take (n - entries.length)).map LogEntry.packet = more at hpackets
      have hall := receivePackets_append c
        (packetsFrom p timestamp (unit.packets p.mtu.toNat)) more
      rw [hpackets, receivePackets_append, hinit, receivePackets_return hlast, hreturn] at hall
      have hfirst := congrArg Prod.fst hall
      simp only [receivePackets, List.nil_append, List.cons_append, List.cons.injEq,
        Returned.mk.injEq] at hfirst
      exact hfirst.1.1

def ConsecutiveUnits.gaps (r : ConsecutiveUnits t) : Nat := gapCount r.firstIndex (indices r.second)

theorem indices_append (as bs : List Arrival) : indices (as ++ bs) = indices as ++ indices bs :=
  List.filterMap_append

theorem readsUnit_arrivals (h : ReadsUnit c (arrivals.map t.datagram) data c')
    (haccepted : ∀ i ∈ indices arrivals, t.Accepted i) :
    ∃ init last c₁, (indices arrivals).map t.packet = init ++ [last] ∧
      receivePackets c init = ([], c₁) ∧ receivePacket c₁ last = (some data, c') := by
  have hpackets := datagramPackets_arrivals haccepted
  rw [← hpackets]
  refine readsUnit_packets h fun packet hmem => ?_
  rw [hpackets] at hmem
  obtain ⟨i, hi, rfl⟩ := List.mem_map.mp hmem
  exact (haccepted i hi).packet_length.2

theorem ConsecutiveUnits.after_first (r : ConsecutiveUnits t) :
    ∃ before e, indices r.first = before ++ [r.firstIndex] ∧ t.log[r.firstIndex]? = some e ∧
      hasMarker e.packet = true ∧ Tracks t r.client₁ r.firstIndex ∧
      r.client₁.haveAccessUnit = false := by
  have haccepted : ∀ i ∈ indices r.first, t.Accepted i := fun i hi =>
    r.accepted i (by simp [indices_append, hi])
  obtain ⟨init, last, c₁, hpackets, -, hlast⟩ := readsUnit_arrivals r.reads₁ haccepted
  obtain ⟨before, s, hsplit⟩ : ∃ before s, indices r.first = before ++ [s] := by
    rcases List.eq_nil_or_concat (indices r.first) with hnil | ⟨before, s, hsplit⟩
    · rw [hnil] at hpackets
      simp at hpackets
    · exact ⟨before, s, by rw [hsplit, List.concat_eq_append]⟩
  have hs : r.firstIndex = s := by simp [ConsecutiveUnits.firstIndex, hsplit]
  rw [hsplit, List.map_append, List.map_singleton] at hpackets
  obtain ⟨-, hpacket⟩ := List.append_inj' hpackets rfl
  rw [List.singleton_inj] at hpacket
  have hmem : s ∈ indices r.first := by simp [hsplit]
  obtain ⟨e, he, -⟩ := haccepted s hmem
  rw [← hpacket] at hlast
  obtain ⟨hmarker, hno⟩ := receivePacket_return hlast
  have htracks := tracks_packet (haccepted s hmem) c₁
  rw [hlast] at htracks
  rw [Transmission.packet, he] at hmarker
  exact ⟨before, e, by rw [hs, hsplit], by rw [hs, he], hmarker, by rw [hs]; exact htracks, hno⟩

/-- With equal `losses` the second of two units is the one sent after the
first, unless 2^32 gaps or more have turned the counter around. -/
theorem consecutive_units_in_order (r : ConsecutiveUnits t)
    (hlosses : r.client₁.losses = r.client₂.losses) (hgaps : r.gaps < 2 ^ 32) : r.InOrder := by
  have haccepted : ∀ i ∈ indices r.second, t.Accepted i := fun i hi =>
    r.accepted i (by simp [indices_append, hi])
  obtain ⟨before, e, hsplit, he, hmarker, htracks, hno⟩ := r.after_first
  obtain ⟨init, last, c₁, hpackets, hinit, hlast⟩ := readsUnit_arrivals r.reads₂ haccepted
  have hclose : Close (r.firstIndex :: indices r.second) := by
    have hwhole := r.close
    rw [indices_append, indices_append, hsplit, ← List.append_assoc, List.append_assoc] at hwhole
    exact hwhole.right_of_append
  -- The counter is back where it was, so there was no gap at all.
  have hzero : gapCount r.firstIndex (indices r.second) = 0 := by
    have hend : (receivePackets r.client₁ ((indices r.second).map t.packet)).2 = r.client₂ := by
      rw [hpackets, receivePackets_append, hinit, receivePackets_return hlast]
      rfl
    have hrun := losses_run htracks haccepted hclose
    rw [hend, ← hlosses] at hrun
    have hcount : r.client₁.losses + UInt32.ofNat r.gaps = r.client₁.losses + 0 := by
      rw [UInt32.add_zero]
      exact hrun.symm
    have hword := congrArg UInt32.toNat (UInt32.add_right_inj _ |>.mp hcount)
    rw [UInt32.toNat_ofNat', Nat.mod_eq_of_lt hgaps] at hword
    exact hword
  have hrange := eq_range_of_gapCount hzero
  obtain ⟨k, hk, hlt, hsent⟩ := sentLog_drop t.sentLog he hmarker
  rw [hrange] at hpackets haccepted
  obtain ⟨hmap, hall⟩ := map_packet_range haccepted
  have hready : r.client₁.Ready _ r.client₁.losses := ⟨fun _ => htracks.expected, rfl, hno⟩
  obtain ⟨unit, hunit, hdata⟩ := next_unit_returns hsent hready hall (hmap.symm.trans hpackets) hinit hlast
  rw [List.head?_drop] at hunit
  rw [Nat.zero_add] at hk
  subst hk
  exact ⟨e, t.units[e.unit], unit, he, List.getElem?_eq_getElem hlt, hunit, hdata⟩

end

-- ---------------------------------------------------------------------------
-- A unit of one packet and a unit of three
-- ---------------------------------------------------------------------------

def slice (b : UInt8) (h : b ≠ 0) : Nal where
  bytes := [0x41, b]
  type_range := by
    simp only [nalType, List.getD_cons_zero]
    decide
  plain := ⟨by simpa using h, fun hinfix => absurd hinfix.length_le (by simp)⟩

def twoUnits : Transmission where
  units := [
    (⟨[(true, slice 1 (by decide))], by decide, by decide⟩, 0),
    (⟨[(true, slice 2 (by decide)), (true, slice 3 (by decide)), (true, slice 4 (by decide))],
      by decide, by decide⟩, 1)]
  packetizer := rtpH264PacketizerInit 1200 7
  answers := fun _ => true

theorem twoUnits_accepted (h : i < 4) : twoUnits.Accepted i := by
  match i, h with
  | 0, _ | 1, _ | 2, _ | 3, _ => exact ⟨_, rfl, rfl⟩

def twoUnitsFirst : RtpClient := (receivePacket {} (twoUnits.packet 0)).2

def lossless : ConsecutiveUnits twoUnits where
  earlier := []
  first := [.packet 0]
  second := [.packet 1, .packet 2, .packet 3]
  accepted := by
    intro i hi
    simp only [indices, List.nil_append, List.cons_append, List.filterMap_cons, List.filterMap_nil,
      List.mem_cons, List.not_mem_nil, or_false] at hi
    exact twoUnits_accepted (by omega)
  close := by simp [Close, indices]
  data₁ := [0, 0, 0, 1, 0x41, 1]
  data₂ := [0, 0, 0, 1, 0x41, 2, 0, 0, 0, 1, 0x41, 3, 0, 0, 0, 1, 0x41, 4]
  client₁ := twoUnitsFirst
  client₂ := (receivePackets twoUnitsFirst ([1, 2, 3].map twoUnits.packet)).2
  reads₁ := .unit rfl
  reads₂ := .unit rfl

theorem lossless_in_order : lossless.client₁.losses = lossless.client₂.losses ∧
    lossless.gaps < 2 ^ 32 ∧ lossless.InOrder :=
  ⟨rfl, by decide, consecutive_units_in_order lossless rfl (by decide)⟩

def afterGap (lost : UInt32) : RtpClient :=
  { (receivePacket twoUnitsFirst (twoUnits.packet 2)).2 with losses := lost }

theorem rtpClientReadH264_repeated (n : Nat) (lost : UInt32) (datagrams : List Datagram) :
    rtpClientReadH264 (afterGap lost)
        (List.replicate n (.packet (twoUnits.packet 2)) ++ datagrams) =
      rtpClientReadH264 (afterGap (lost + UInt32.ofNat n)) datagrams := by
  induction n generalizing lost with
  | zero => simp
  | succ n ih =>
    have hone : rtpClientReadH264 (afterGap lost)
        (.packet (twoUnits.packet 2) :: (List.replicate n (.packet (twoUnits.packet 2)) ++ datagrams)) =
        rtpClientReadH264 (afterGap (lost + 1))
          (List.replicate n (.packet (twoUnits.packet 2)) ++ datagrams) := rfl
    rw [List.replicate_succ, List.cons_append, hone, ih, UInt32.add_assoc, Nat.add_comm n 1,
      UInt32.ofNat_add]
    rfl

theorem close_repeated (n : Nat) : Close (2 :: (List.replicate n 2 ++ [3])) := by
  induction n with
  | zero => simp [Close]
  | succ n ih => exact List.isChain_cons_cons.mpr ⟨by decide, ih⟩

/-- The packet at position 1 is lost and the one after it comes `n + 1` times. -/
def repeatedGap (n : Nat) : ConsecutiveUnits twoUnits where
  earlier := []
  first := [.packet 0]
  second := .packet 2 :: (List.replicate n (.packet 2) ++ [.packet 3])
  accepted := by
    intro i hi
    have hcases : i = 0 ∨ i = 2 ∨ i = 3 := by
      simp [indices] at hi
      omega
    exact twoUnits_accepted (by omega)
  close := by
    have hindices : indices ([] ++ [.packet 0] ++
        .packet 2 :: (List.replicate n (.packet 2) ++ [.packet 3])) =
        0 :: 2 :: (List.replicate n 2 ++ [3]) := by
      simp [indices]
    rw [hindices]
    exact List.isChain_cons_cons.mpr ⟨by decide, close_repeated n⟩
  data₁ := [0, 0, 0, 1, 0x41, 1]
  data₂ := [0, 0, 0, 1, 0x41, 3, 0, 0, 0, 1, 0x41, 4]
  client₁ := twoUnitsFirst
  client₂ := (receivePacket (afterGap (1 + UInt32.ofNat n)) (twoUnits.packet 3)).2
  reads₁ := .unit rfl
  reads₂ := by
    refine .unit ?_
    have hfirst : ∀ datagrams, rtpClientReadH264 twoUnitsFirst
        (.packet (twoUnits.packet 2) :: datagrams) = rtpClientReadH264 (afterGap 1) datagrams :=
      fun _ => rfl
    rw [List.map_cons, List.map_append, List.map_replicate]
    exact (hfirst _).trans ((rtpClientReadH264_repeated n 1 _).trans rfl)

/-- 2^32 gaps leave `losses` as it was, and the unit returned then has a hole. -/
theorem losses_wrap_hides_gaps : ∃ r : ConsecutiveUnits twoUnits,
    r.client₁.losses = r.client₂.losses ∧ ¬ r.InOrder := by
  have hend : ∀ n, (repeatedGap n).client₂.losses = 1 + UInt32.ofNat n := fun _ => rfl
  refine ⟨repeatedGap (2 ^ 32 - 1), ?_, ?_⟩
  · rw [hend]
    decide
  · generalize 2 ^ 32 - 1 = n
    rintro ⟨e, first, second, he, -, hsecond, hdata⟩
    have hentry : twoUnits.log[(repeatedGap n).firstIndex]? = twoUnits.log[0]? := rfl
    rw [hentry] at he
    obtain rfl : _ = e := Option.some.inj he
    obtain rfl : _ = second := Option.some.inj hsecond
    have hlength : (12 : Nat) = 18 := congrArg List.length hdata
    exact absurd hlength (by decide)

end NanokvmRdp.Rtp
