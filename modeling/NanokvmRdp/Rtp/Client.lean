import NanokvmRdp.Rtp.AccessUnit
import NanokvmRdp.Rtp.Reassembler

/-!
# The RTP client

`RtpClient` gathers NAL units into access units: `save_nal` and `count_loss`
are its callbacks and `rtp_client_read_h264` returns a unit at a packet with
the marker. The second half follows the packets of one access unit through
the client, from any state in which the client expects the first of them.
-/

namespace NanokvmRdp.Rtp

/-- `access_unit` is the first `access_unit_length` bytes of the C buffer. -/
structure RtpClient where
  reassembler : RtpH264Reassembler := {}
  accessUnit : BoundedBuffer UInt8 rtpH264MaxNal := .empty
  accessUnitCapacityHint : Nat := 0
  accessUnitTimestamp : UInt32 := 0
  accessUnitSsrc : UInt32 := 0
  haveAccessUnit : Bool := false
  losses : UInt32 := 0

def nextCapacity (capacity : Nat) : Nat :=
  if capacity > rtpH264MaxNal / 2 then rtpH264MaxNal else capacity * 2

theorem lt_nextCapacity {c needed : Nat} (hneeded : needed ≤ rtpH264MaxNal) (hc : 0 < c)
    (hlt : c < needed) : c < nextCapacity c := by
  unfold nextCapacity
  split <;> omega

theorem le_accessUnitCapacity (first needed : Nat) (h : needed ≤ rtpH264MaxNal) :
    needed ≤ growUntil nextCapacity needed needed
      (if first < 4096 ∨ first > rtpH264MaxNal then 4096 else first) :=
  le_growUntil (fun _ hc hlt => lt_nextCapacity h hc hlt) (by split <;> omega) (by omega)

def accessUnitCapacity (capacity hint needed : Nat) (h : needed ≤ rtpH264MaxNal) :
    { c : Nat // needed ≤ c } :=
  let first := if capacity = 0 then hint else capacity
  ⟨growUntil nextCapacity needed needed
      (if first < 4096 ∨ first > rtpH264MaxNal then 4096 else first),
    le_accessUnitCapacity first needed h⟩

def appendAccessUnit (c : RtpClient) (data : List UInt8) : Bool × RtpClient :=
  match c.accessUnit.append? (accessUnitCapacity c.accessUnit.capacity c.accessUnitCapacityHint)
      data with
  | some accessUnit => (true, { c with accessUnit })
  | none => (false, c)

def capacityHint (length : Nat) : Nat :=
  growUntil nextCapacity (min length rtpH264MaxNal) length 4096

def startUnit (c : RtpClient) (timestamp : UInt32) : RtpClient :=
  if !c.haveAccessUnit || c.accessUnitTimestamp != timestamp then
    { c with
      accessUnit := c.accessUnit.clear
      accessUnitTimestamp := timestamp
      haveAccessUnit := true }
  else c

def saveNal : NalCallback RtpClient := fun c nal timestamp _ =>
  match appendAccessUnit (startUnit c timestamp) [0, 0, 0, 1] with
  | (false, c) => (false, c)
  | (true, c) => appendAccessUnit c nal

def countLoss (c : RtpClient) : RtpClient :=
  { c with losses := c.losses + 1, accessUnit := c.accessUnit.clear, haveAccessUnit := false }

/-- The end of the loop in `rtp_client_read_h264`: at a packet with the marker
the gathered unit goes to the caller. -/
def takeUnit (c : RtpClient) (pushed : Bool) (packet : List UInt8) :
    Option (List UInt8) × RtpClient :=
  if !pushed then (none, c)
  else if !hasMarker packet || c.accessUnit.contents.isEmpty then (none, c)
  else
    (some c.accessUnit.contents,
      { c with
        accessUnitSsrc := readU32At packet 8
        accessUnitCapacityHint := capacityHint c.accessUnit.contents.length
        accessUnit := .empty
        haveAccessUnit := false })

def receivePacket (c : RtpClient) (packet : List UInt8) : Option (List UInt8) × RtpClient :=
  let (pushed, r, c) := rtpH264ReassemblerPush c.reassembler packet saveNal countLoss c
  takeUnit { c with reassembler := r } pushed packet

inductive Datagram where
  | packet (bytes : List UInt8)
  | interrupted
  | failed
  deriving DecidableEq, Repr

inductive ReadResult where
  | unit (data : List UInt8)
  | failed
  | waiting
  deriving DecidableEq, Repr

/-- `rtp_client_read_h264` on an open client. `recv` cuts a datagram off at
1500 bytes and answers 0 for an empty one. -/
def rtpClientReadH264 : RtpClient → List Datagram → ReadResult × RtpClient × List Datagram
  | c, [] => (.waiting, c, [])
  | c, .interrupted :: datagrams => rtpClientReadH264 c datagrams
  | c, .failed :: datagrams => (.failed, c, datagrams)
  | c, .packet [] :: datagrams => (.failed, c, datagrams)
  | c, .packet (b :: bytes) :: datagrams =>
    match receivePacket c ((b :: bytes).take 1500) with
    | (some data, c) => (.unit data, c, datagrams)
    | (none, c) => rtpClientReadH264 c datagrams

structure Returned where
  data : List UInt8
  timestamp : UInt32
  ssrc : UInt32
  losses : UInt32
  deriving DecidableEq, Repr

/-- The units a caller gets that goes on reading, also after a failed read. -/
def readUnits : Nat → RtpClient → List Datagram → List Returned × RtpClient
  | 0, c, _ => ([], c)
  | fuel + 1, c, datagrams =>
    match rtpClientReadH264 c datagrams with
    | (.unit data, c, rest) =>
      let (units, c') := readUnits fuel c rest
      (⟨data, c.accessUnitTimestamp, c.accessUnitSsrc, c.losses⟩ :: units, c')
    | (.failed, c, rest) => readUnits fuel c rest
    | (.waiting, c, _) => ([], c)

-- ---------------------------------------------------------------------------
-- One NAL unit
-- ---------------------------------------------------------------------------

theorem appendAccessUnit_fits (c : RtpClient) (data : List UInt8)
    (h : c.accessUnit.contents.length + data.length ≤ rtpH264MaxNal) :
    ∃ accessUnit, appendAccessUnit c data = (true, { c with accessUnit }) ∧
      accessUnit.contents = c.accessUnit.contents ++ data := by
  obtain ⟨accessUnit, hsome, hcontents⟩ := c.accessUnit.append?_fits
    (accessUnitCapacity c.accessUnit.capacity c.accessUnitCapacityHint) h
  exact ⟨accessUnit, by rw [appendAccessUnit, hsome], hcontents⟩

def RtpClient.Holds (c : RtpClient) (timestamp : UInt32) (unit : List UInt8) : Prop :=
  (c.haveAccessUnit = true ∧ c.accessUnitTimestamp = timestamp ∧ c.accessUnit.contents = unit) ∨
    (c.haveAccessUnit = false ∧ unit = [])

theorem startUnit_holds (h : c.Holds timestamp unit) :
    (startUnit c timestamp).haveAccessUnit = true ∧
      (startUnit c timestamp).accessUnitTimestamp = timestamp ∧
      (startUnit c timestamp).accessUnit.contents = unit ∧
      (startUnit c timestamp).losses = c.losses := by
  unfold startUnit
  rcases h with ⟨hhave, htime, hunit⟩ | ⟨hhave, rfl⟩
  · simp [hhave, htime, hunit]
  · simp [hhave]

theorem saveNal_fits (h : c.Holds timestamp unit) (marker : Bool)
    (hfit : unit.length + (4 + nal.length) ≤ rtpH264MaxNal) :
    ∃ c', saveNal c nal timestamp marker = (true, c') ∧
      c'.Holds timestamp (unit ++ ([0, 0, 0, 1] ++ nal)) ∧
      c'.accessUnit.contents = unit ++ ([0, 0, 0, 1] ++ nal) ∧ c'.losses = c.losses := by
  obtain ⟨hhave, htime, hunit, hlosses⟩ := startUnit_holds h
  unfold saveNal
  generalize startUnit c timestamp = started at hhave htime hunit hlosses ⊢
  obtain ⟨first, hfirst, hcode⟩ := appendAccessUnit_fits started [0, 0, 0, 1]
    (by rw [hunit]; exact Nat.le_trans (Nat.add_le_add_left (Nat.le_add_right 4 _) _) hfit)
  obtain ⟨second, hsecond, hnal⟩ := appendAccessUnit_fits { started with accessUnit := first } nal
    (by rw [hcode, hunit, List.length_append, Nat.add_assoc]; exact hfit)
  have hcontents : second.contents = unit ++ ([0, 0, 0, 1] ++ nal) := by
    rw [hnal, hcode, hunit, List.append_assoc]
  exact ⟨{ started with accessUnit := second }, by rw [hfirst]; exact hsecond,
    .inl ⟨hhave, htime, hcontents⟩, hcontents, hlosses⟩

theorem takeUnit_quiet (h : hasMarker packet = false) (c : RtpClient) (pushed : Bool) :
    takeUnit c pushed packet = (none, c) := by
  unfold takeUnit
  rw [h]
  split <;> rfl

theorem takeUnit_unit (h : hasMarker packet = true) (c : RtpClient)
    (hdata : c.accessUnit.contents = data) (hne : data ≠ []) :
    ∃ c', takeUnit c true packet = (some data, c') ∧ c'.haveAccessUnit = false ∧
      c'.reassembler = c.reassembler ∧ c'.losses = c.losses ∧
      c'.accessUnitTimestamp = c.accessUnitTimestamp ∧ c'.accessUnitSsrc = readU32At packet 8 := by
  subst hdata
  unfold takeUnit
  rw [h, List.isEmpty_eq_false_iff.mpr hne]
  exact ⟨_, rfl, rfl, rfl, rfl, rfl, rfl⟩

/-- Between two access units, with the next sequence number and the losses so far. -/
structure RtpClient.Ready (c : RtpClient) (sequence : UInt16) (losses : UInt32) : Prop where
  expects : c.reassembler.Expects sequence
  losses_eq : c.losses = losses
  no_unit : c.haveAccessUnit = false

/-- Inside an access unit, with the bytes gathered for it and the fragments
of its next NAL unit. -/
structure RtpClient.Gathering (c : RtpClient) (sequence : UInt16) (losses : UInt32)
    (timestamp : UInt32) (unit fragments : List UInt8) : Prop where
  expects : c.reassembler.Expects sequence
  losses_eq : c.losses = losses
  holds : c.Holds timestamp unit
  collected : fragments = [] ∨ c.reassembler.Collected timestamp fragments

theorem RtpClient.Ready.gathering {c : RtpClient} {sequence : UInt16} (h : c.Ready sequence lost)
    (timestamp : UInt32) : c.Gathering sequence lost timestamp [] [] :=
  ⟨h.expects, h.losses_eq, .inr ⟨h.no_unit, rfl⟩, .inl rfl⟩

theorem push_follows {c : RtpClient} (h : c.reassembler.Expects p.sequence) (hne : payload ≠ [])
    (marker : Bool) (timestamp : UInt32) :
    rtpH264ReassemblerPush c.reassembler (rtpPacket p payload marker timestamp) saveNal countLoss c =
      pushPayload (c.reassembler.expectAfter p.sequence) payload timestamp marker saveNal c := by
  rw [push_rtpPacket _ _ _ _ _ _ _ _ hne, noteSequence_expected h]

def HandsOver (c : RtpClient) (packet nal : List UInt8) (timestamp : UInt32) (marker : Bool)
    (sequence : UInt16) : Prop :=
  ∃ r : RtpH264Reassembler, r.Expects sequence ∧
    rtpH264ReassemblerPush c.reassembler packet saveNal countLoss c =
      ((saveNal c nal timestamp marker).1, r, (saveNal c nal timestamp marker).2)

theorem handsOver_single {c : RtpClient} {nal : List UInt8} (h : c.reassembler.Expects p.sequence)
    (htype : 1 ≤ nalType nal ∧ nalType nal ≤ 23) (marker : Bool) (timestamp : UInt32) :
    HandsOver c (rtpPacket p nal marker timestamp) nal timestamp marker (p.sequence + 1) := by
  have hne : nal ≠ [] := by
    rintro rfl
    exact absurd htype.1 (by decide)
  refine ⟨c.reassembler.expectAfter p.sequence, fun _ => rfl, ?_⟩
  rw [push_follows h hne, pushPayload]
  exact if_pos htype

section

variable {c : RtpClient} {p : RtpH264Packetizer} {timestamp : UInt32} {chunk fragments : List UInt8}
  (h : c.reassembler.Expects p.sequence)
  (header : UInt8) (first : Bool)
  (hcollected : first = true ∨ c.reassembler.Collected timestamp fragments) (hne : chunk ≠ [])

include h hcollected hne

theorem push_fragment (last marker : Bool)
    (hfit : ((if first then [header] else fragments) ++ chunk).length ≤ rtpH264MaxNal) :
    ∃ r', r'.Collected timestamp ((if first then [header] else fragments) ++ chunk) ∧
      r'.Expects (p.sequence + 1) ∧
      rtpH264ReassemblerPush c.reassembler
          (rtpPacket p (fuHeader header first last ++ chunk) marker timestamp) saveNal countLoss c =
        if last then deliver r' saveNal c marker else (true, r', c) := by
  have hr₁ : first = true ∨ (c.reassembler.expectAfter p.sequence).Collected timestamp fragments :=
    hcollected.imp_right fun h => ⟨h.assembling, h.timestamp_eq, h.contents_eq⟩
  obtain ⟨r', hr', hsame, hpush⟩ :=
    pushFragment_collected header first last marker saveNal c hr₁ hfit
  refine ⟨r', hr', fun _ => hsame.2, ?_⟩
  rw [push_follows h (by simp [fuHeader]), pushPayload_fragment _ _ _ _ hne, hpush]

theorem receivePacket_fragment
    (hfit : ((if first then [header] else fragments) ++ chunk).length ≤ rtpH264MaxNal) :
    ∃ r', receivePacket c (rtpPacket p (fuHeader header first false ++ chunk) false timestamp) =
        (none, { c with reassembler := r' }) ∧
      r'.Collected timestamp ((if first then [header] else fragments) ++ chunk) ∧
      r'.Expects (p.sequence + 1) := by
  obtain ⟨r', hr', hexpects, hpush⟩ := push_fragment h header first hcollected hne false false hfit
  refine ⟨r', ?_, hr', hexpects⟩
  rw [receivePacket, hpush]
  exact takeUnit_quiet (hasMarker_rtpPacket ..) _ _

theorem handsOver_lastFragment (marker : Bool)
    (hnal : (if first then [header] else fragments) ++ chunk = nal)
    (hfit : nal.length ≤ rtpH264MaxNal) :
    HandsOver c (rtpPacket p (fuHeader header first true ++ chunk) marker timestamp) nal timestamp
      marker (p.sequence + 1) := by
  subst hnal
  obtain ⟨r', hr', hexpects, hpush⟩ := push_fragment h header first hcollected hne true marker hfit
  refine ⟨{ r' with assembling := false, buffer := r'.buffer.clear }, hexpects, ?_⟩
  rw [hpush, if_pos rfl, deliver, hr'.contents_eq, hr'.timestamp_eq]

end

structure NalArrived (c : RtpClient) (sequence : UInt16) (lost timestamp : UInt32)
    (unit : List UInt8) (ssrc : UInt32) (marker : Bool) : Prop where
  gathering : marker = false → c.Gathering sequence lost timestamp unit []
  ready : marker = true → c.Ready sequence lost
  timestamp_eq : marker = true → c.accessUnitTimestamp = timestamp
  ssrc_eq : marker = true → c.accessUnitSsrc = ssrc

/-- A packet that hands over a NAL unit adds it to the gathered unit, which the
marker returns. -/
theorem receivePacket_saveNal {sequence : UInt16} (hholds : c.Holds timestamp unit)
    (hfit : unit.length + (4 + nal.length) ≤ rtpH264MaxNal)
    (hhands : HandsOver c (rtpPacket p payload marker timestamp) nal timestamp marker sequence) :
    ∃ c', receivePacket c (rtpPacket p payload marker timestamp) =
        (if marker then some (unit ++ ([0, 0, 0, 1] ++ nal)) else none, c') ∧
      NalArrived c' sequence c.losses timestamp (unit ++ ([0, 0, 0, 1] ++ nal)) p.ssrc marker := by
  obtain ⟨r', hexpects, hpush⟩ := hhands
  obtain ⟨c₁, hsave, hholds₁, hcontents, hlosses⟩ := saveNal_fits hholds marker hfit
  have hmarker := hasMarker_rtpPacket p payload marker timestamp
  rw [receivePacket, hpush, hsave]
  cases marker with
  | false =>
    refine ⟨_, takeUnit_quiet hmarker _ _, ⟨fun _ => ⟨hexpects, hlosses, hholds₁, .inl rfl⟩, ?_, ?_, ?_⟩⟩
    all_goals exact fun h => absurd h Bool.false_ne_true
  | true =>
    have htime : c₁.accessUnitTimestamp = timestamp := by
      rcases hholds₁ with ⟨-, htime, -⟩ | ⟨-, hempty⟩
      · exact htime
      · simp at hempty
    obtain ⟨c', htake, hno, hre, hlost, htime', hssrc⟩ :=
      takeUnit_unit hmarker { c₁ with reassembler := r' } hcontents (by simp)
    refine ⟨c', htake, fun h => absurd h.symm Bool.false_ne_true,
      fun _ => ⟨hre ▸ hexpects, hlost.trans hlosses, hno⟩, fun _ => htime'.trans htime,
      fun _ => hssrc.trans (ssrc_rtpPacket ..)⟩

end NanokvmRdp.Rtp
