import Mathlib.Data.List.Chain
import NanokvmRdp.Lib.Machine
import NanokvmRdp.Rtp.Reassembler

/-!
# Fragmented NAL units

A run of `rtp_h264_reassembler_push` over packets of any content, with the
packets pushed so far as its history. What the FU-A path hands to the NAL
callback is the rebuilt header and the payloads of all fragments since the
most recent start fragment, as long as no fragment is refused for its size:
a refused fragment leaves `assembling` set, and the next one that fits is
joined to what came before.
-/

namespace NanokvmRdp.Rtp

-- ---------------------------------------------------------------------------
-- Packets and their fragments
-- ---------------------------------------------------------------------------

def rtpValid (packet : List UInt8) : Bool :=
  decide (rtpHeaderSize < packet.length) && packet.getD 0 0 >>> 6 == 2

def rtpSequence (packet : List UInt8) : UInt16 := readU16At packet 2

def rtpTimestamp (packet : List UInt8) : UInt32 := readU32At packet 4

def rtpPayload (packet : List UInt8) : List UInt8 := packet.drop rtpHeaderSize

def isFragment (packet : List UInt8) : Bool :=
  rtpValid packet && (rtpPayload packet).getD 0 0 &&& 0x1f == 28 && decide (3 ≤ (rtpPayload packet).length)

def isStart (packet : List UInt8) : Bool :=
  isFragment packet && (rtpPayload packet).getD 1 0 &&& 0x80 != 0

def isEnd (packet : List UInt8) : Bool :=
  isFragment packet && (rtpPayload packet).getD 1 0 &&& 0x40 != 0

def fragmentBytes (packet : List UInt8) : List UInt8 := (rtpPayload packet).drop 2

/-- What a packet adds to the NAL unit of a timestamp. -/
def share (timestamp : UInt32) (packet : List UInt8) : List UInt8 :=
  if isFragment packet && rtpTimestamp packet == timestamp then fragmentBytes packet else []

def Unbroken (packets : List (List UInt8)) : Prop :=
  (packets.filter rtpValid).IsChain fun packet next => rtpSequence next = rtpSequence packet + 1

/-- `nal` has everything that was pushed for its timestamp since the most recent
start fragment. -/
inductive Gathered : List (List UInt8) → UInt32 → List UInt8 → Prop
  | intro (before : List (List UInt8)) (start : List UInt8) (rest : List (List UInt8)) :
    isStart start = true → (∀ packet ∈ rest, isStart packet = false) → Unbroken (start :: rest) →
    Gathered (before ++ start :: rest) (rtpTimestamp start)
      (rebuiltHeader (rtpPayload start) :: (start :: rest).flatMap (share (rtpTimestamp start)))

structure Handed where
  nal : List UInt8
  timestamp : UInt32
  marker : Bool
  deriving DecidableEq, Repr

structure CompleteNal (pushed : List (List UInt8)) (handed : Handed) : Prop where
  gathered : Gathered pushed handed.timestamp handed.nal
  ended : ∃ last, pushed.getLast? = some last ∧ isEnd last = true ∧
    rtpTimestamp last = handed.timestamp

-- ---------------------------------------------------------------------------
-- Runs
-- ---------------------------------------------------------------------------

/-- A NAL callback that keeps what it is handed and gives any answers. -/
def keepNal (answers : Nat → Bool) : NalCallback (List Handed) := fun handed nal timestamp marker =>
  (answers handed.length, handed ++ [⟨nal, timestamp, marker⟩])

/-- The reassembler, the packets pushed, and what the FU-A path handed over,
each with the packets pushed until then. -/
structure Reassembly where
  reassembler : RtpH264Reassembler := {}
  pushed : List (List UInt8) := []
  units : List (List (List UInt8) × Handed) := []

structure PacketPush where
  packet : List UInt8
  answers : Nat → Bool

namespace Reassembly

def push (s : Reassembly) (e : PacketPush) : Reassembly :=
  let (_, reassembler, handed) :=
    rtpH264ReassemblerPush s.reassembler e.packet (keepNal e.answers) id []
  let pushed := s.pushed ++ [e.packet]
  { reassembler, pushed
    units := s.units ++ if isFragment e.packet then handed.map fun unit => (pushed, unit) else [] }

def step (s : Reassembly) (e : PacketPush) : Option Reassembly := some (s.push e)

theorem push_eq {s : Reassembly} {e : PacketPush} {r : RtpH264Reassembler}
    (h : rtpH264ReassemblerPush s.reassembler e.packet (keepNal e.answers) id [] = (ok, r, handed)) :
    s.push e =
      { reassembler := r
        pushed := s.pushed ++ [e.packet]
        units := s.units ++ if isFragment e.packet then
          handed.map fun unit => (s.pushed ++ [e.packet], unit) else [] } := by
  simp only [push, h]

/-- The fragment is not refused for its size. -/
def Fits (s : Reassembly) (e : PacketPush) : Prop :=
  let r := (noteSequence s.reassembler (rtpSequence e.packet) id ()).1
  if isStart e.packet then 1 + (fragmentBytes e.packet).length ≤ rtpH264MaxNal
  else isFragment e.packet = true → r.assembling = true → r.timestamp = rtpTimestamp e.packet →
    r.buffer.contents.length + (fragmentBytes e.packet).length ≤ rtpH264MaxNal

end Reassembly

-- ---------------------------------------------------------------------------
-- What one push does
-- ---------------------------------------------------------------------------

theorem push_invalid (h : rtpValid packet = false) (r : RtpH264Reassembler)
    (nalCallback : NalCallback σ) (lossCallback : σ → σ) (context : σ) :
    rtpH264ReassemblerPush r packet nalCallback lossCallback context = (false, r, context) := by
  have hreject : packet.length ≤ rtpHeaderSize ∨ packet.getD 0 0 >>> 6 ≠ 2 := by
    rw [rtpValid, Bool.and_eq_false_iff] at h
    simpa using h
  rw [rtpH264ReassemblerPush, if_pos hreject]

theorem push_valid (h : rtpValid packet = true) (r : RtpH264Reassembler)
    (nalCallback : NalCallback σ) (context : σ) :
    rtpH264ReassemblerPush r packet nalCallback id context =
      pushPayload (noteSequence r (rtpSequence packet) id ()).1 (rtpPayload packet)
        (rtpTimestamp packet) (hasMarker packet) nalCallback context := by
  have hgood : ¬ (packet.length ≤ rtpHeaderSize ∨ packet.getD 0 0 >>> 6 ≠ 2) := by
    rw [rtpValid, Bool.and_eq_true] at h
    simpa using h
  have hnote : noteSequence r (readU16At packet 2) id context =
      ((noteSequence r (rtpSequence packet) id ()).1, context) := by
    change noteSequence r (rtpSequence packet) id context = _
    generalize rtpSequence packet = sequence
    by_cases hgap : r.haveSequence ∧ sequence ≠ r.expectedSequence
    · simp only [noteSequence, if_pos hgap, id]
    · simp only [noteSequence, if_neg hgap]
  rw [rtpH264ReassemblerPush, if_neg hgood, hnote]
  rfl

theorem noteSequence_kept (r : RtpH264Reassembler) (sequence : UInt16) :
    let noted := (noteSequence r sequence id ()).1
    noted.haveSequence = true ∧ noted.expectedSequence = sequence + 1 ∧
      (noted.assembling = true → r.assembling = true ∧ r.Expects sequence ∧
        noted.timestamp = r.timestamp ∧ noted.buffer = r.buffer) := by
  simp only [noteSequence]
  split
  · exact ⟨rfl, rfl, fun hassembling => absurd hassembling Bool.false_ne_true⟩
  · rename_i hno
    refine ⟨rfl, rfl, fun hassembling => ⟨hassembling, fun hhave => ?_, rfl, rfl⟩⟩
    by_contra hne
    exact hno ⟨hhave, fun heq => hne heq.symm⟩

theorem pushPayload_other (r : RtpH264Reassembler) (timestamp : UInt32) (marker : Bool)
    (callback : NalCallback σ) (context : σ)
    (h : ¬ (payload.getD 0 0 &&& 0x1f = 28 ∧ 3 ≤ payload.length)) :
    (pushPayload r payload timestamp marker callback context).2.1 = r := by
  have hother : payload.getD 0 0 &&& 0x1f ≠ 28 ∨ payload.length < 3 := by
    rw [not_and_or, Nat.not_le] at h
    exact h
  simp only [pushPayload, if_pos hother]
  split
  · rfl
  · split <;> rfl

theorem pushFragment_refused (hstart : ¬ payload.getD 1 0 &&& 0x80 ≠ 0)
    (h : ¬ (r.assembling = true ∧ r.timestamp = timestamp)) (marker : Bool)
    (callback : NalCallback σ) (context : σ) :
    pushFragment r payload timestamp marker callback context = (false, r, context) := by
  have hrefuse : (!r.assembling || timestamp != r.timestamp) = true := by
    rw [Bool.or_eq_true, Bool.not_eq_true', bne_iff_ne]
    rw [not_and_or, Bool.not_eq_true] at h
    exact h.imp_right Ne.symm
  rw [pushFragment, startFragment, if_neg hstart]
  simp only
  rw [if_pos hrefuse]

-- ---------------------------------------------------------------------------
-- What is gathered
-- ---------------------------------------------------------------------------

theorem rtpValid_of_isFragment (h : isFragment packet = true) : rtpValid packet = true := by
  simp only [isFragment, Bool.and_eq_true] at h
  exact h.1.1

theorem isFragment_of_isStart (h : isStart packet = true) : isFragment packet = true := by
  rw [isStart, Bool.and_eq_true] at h
  exact h.1

theorem fragment_payload (h : isFragment packet = true) :
    (rtpPayload packet).getD 0 0 &&& 0x1f = 28 ∧ 3 ≤ (rtpPayload packet).length := by
  simp only [isFragment, Bool.and_eq_true, beq_iff_eq, decide_eq_true_eq] at h
  exact ⟨h.1.2, h.2⟩

theorem Gathered.start (before : List (List UInt8)) (h : isStart packet = true) :
    Gathered (before ++ [packet]) (rtpTimestamp packet)
      ([rebuiltHeader (rtpPayload packet)] ++ fragmentBytes packet) := by
  have hshare : share (rtpTimestamp packet) packet = fragmentBytes packet := by
    simp [share, isFragment_of_isStart h]
  have hvalid := rtpValid_of_isFragment (isFragment_of_isStart h)
  have hunbroken : Unbroken [packet] := by simp [Unbroken, hvalid]
  have hgathered := Gathered.intro before packet [] h (by simp) hunbroken
  simpa [hshare] using hgathered

theorem Gathered.snoc (h : Gathered pushed timestamp nal) (hstart : isStart packet = false)
    (hsequence : rtpValid packet = true → ∀ last ∈ (pushed.filter rtpValid).getLast?,
      rtpSequence packet = rtpSequence last + 1) :
    Gathered (pushed ++ [packet]) timestamp (nal ++ share timestamp packet) := by
  obtain ⟨before, start, rest, hfirst, hrest, hunbroken⟩ := h
  have hvalid := rtpValid_of_isFragment (isFragment_of_isStart hfirst)
  have hmore : Unbroken (start :: (rest ++ [packet])) := by
    rw [Unbroken, ← List.cons_append, List.filter_append, List.isChain_append]
    refine ⟨hunbroken, ?_, fun last hlast next hnext => ?_⟩
    · cases hv : rtpValid packet <;> simp [hv]
    · cases hv : rtpValid packet with
      | false => simp [hv] at hnext
      | true =>
        obtain rfl : packet = next := by simpa [hv] using hnext
        refine hsequence hv last ?_
        rw [List.filter_append, List.getLast?_append]
        rw [hlast]
        rfl
  have hgathered := Gathered.intro before start (rest ++ [packet]) hfirst (by
    intro p hp
    rcases List.mem_append.mp hp with hp | hp
    · exact hrest p hp
    · rw [List.mem_singleton.mp hp]
      exact hstart) hmore
  simpa using hgathered

-- ---------------------------------------------------------------------------
-- Every run
-- ---------------------------------------------------------------------------

namespace Reassembly

structure Sound (s : Reassembly) : Prop where
  expected : ∀ last ∈ (s.pushed.filter rtpValid).getLast?,
    s.reassembler.haveSequence = true ∧ s.reassembler.expectedSequence = rtpSequence last + 1
  gathered : s.reassembler.assembling = true →
    Gathered s.pushed s.reassembler.timestamp s.reassembler.buffer.contents
  complete : ∀ unit ∈ s.units, CompleteNal unit.1 unit.2

theorem Sound.invalid {s : Reassembly} (h : s.Sound) (hvalid : rtpValid e.packet = false) :
    (s.push e).Sound := by
  have hfragment : isFragment e.packet = false := by simp [isFragment, hvalid]
  have hpush : s.push e = { s with pushed := s.pushed ++ [e.packet] } := by
    simp [push, push_invalid hvalid, hfragment]
  have hshare (timestamp : UInt32) : share timestamp e.packet = [] := by simp [share, hfragment]
  rw [hpush]
  refine ⟨?_, fun hassembling => ?_, h.complete⟩
  · simpa [List.filter_append, hvalid] using h.expected
  · have hmore := (h.gathered hassembling).snoc (by simp [isStart, hfragment] : isStart e.packet = false)
      fun hv => by simp [hvalid] at hv
    rwa [hshare, List.append_nil] at hmore

def noted (s : Reassembly) (packet : List UInt8) : RtpH264Reassembler :=
  (noteSequence s.reassembler (rtpSequence packet) id ()).1

theorem Sound.noted {s : Reassembly} (h : s.Sound) (hassembling : (s.noted packet).assembling = true)
    (hstart : isStart packet = false) :
    Gathered (s.pushed ++ [packet]) (s.noted packet).timestamp
      ((s.noted packet).buffer.contents ++ share (s.noted packet).timestamp packet) := by
  obtain ⟨-, -, hkept⟩ := noteSequence_kept s.reassembler (rtpSequence packet)
  obtain ⟨hbefore, hexpects, htimestamp, hbuffer⟩ := hkept hassembling
  have hgathered := h.gathered hbefore
  rw [← htimestamp, ← hbuffer] at hgathered
  refine hgathered.snoc hstart fun _ last hlast => ?_
  obtain ⟨hhave, hexpected⟩ := h.expected last hlast
  rw [← hexpected, hexpects hhave]

theorem Sound.valid {s : Reassembly} (h : s.Sound) (hvalid : rtpValid e.packet = true)
    (hpush : rtpH264ReassemblerPush s.reassembler e.packet (keepNal e.answers) id [] = (ok, r, handed))
    (hsame : (s.noted e.packet).SameSequence r)
    (hgathered : r.assembling = true → Gathered (s.pushed ++ [e.packet]) r.timestamp r.buffer.contents)
    (hcomplete : isFragment e.packet = true →
      ∀ unit ∈ handed, CompleteNal (s.pushed ++ [e.packet]) unit) :
    (s.push e).Sound := by
  obtain ⟨hhave, hexpected, -⟩ := noteSequence_kept s.reassembler (rtpSequence e.packet)
  rw [push_eq hpush]
  refine ⟨?_, hgathered, ?_⟩
  · simp only [List.filter_append, List.filter_cons, hvalid, if_true, List.filter_nil,
      List.getLast?_append, List.getLast?_singleton, Option.some_or, Option.mem_some_iff]
    rintro last rfl
    exact ⟨hsame.1.trans hhave, hsame.2.trans hexpected⟩
  · intro unit hmem
    rcases List.mem_append.mp hmem with hmem | hmem
    · exact h.complete unit hmem
    · split at hmem
      · obtain ⟨one, hone, rfl⟩ := List.mem_map.mp hmem
        exact hcomplete ‹_› one hone
      · cases hmem

/-- A fragment that was taken: its NAL unit goes on, or is handed over. -/
theorem Sound.taken {s : Reassembly} (h : s.Sound) (hfragment : isFragment e.packet = true)
    (hstart : startFragment (s.noted e.packet) (rtpPayload e.packet) (rtpTimestamp e.packet) =
      (true, r₁))
    (hsame : (s.noted e.packet).SameSequence r₁)
    (hcollected : r₁.Collected (rtpTimestamp e.packet) nal)
    (hfit : (nal ++ fragmentBytes e.packet).length ≤ rtpH264MaxNal)
    (hgathered : Gathered (s.pushed ++ [e.packet]) (rtpTimestamp e.packet)
      (nal ++ fragmentBytes e.packet)) :
    (s.push e).Sound := by
  have hvalid := rtpValid_of_isFragment hfragment
  obtain ⟨htype, hlen⟩ := fragment_payload hfragment
  obtain ⟨r', hcollected', hsame', hpush⟩ := pushFragment_taken hstart hcollected hfit
    (hasMarker e.packet) (keepNal e.answers) []
  change r'.Collected _ (nal ++ fragmentBytes e.packet) at hcollected'
  have hall := (push_valid hvalid s.reassembler (keepNal e.answers) []).trans
    ((pushPayload_of_fragment htype hlen _ _ _ _ _).trans hpush)
  by_cases hend : (rtpPayload e.packet).getD 1 0 &&& 0x40 ≠ 0
  · rw [if_pos hend] at hall
    refine h.valid hvalid hall (hsame.trans hsame') nofun fun _ unit hmem => ?_
    obtain rfl := List.mem_singleton.mp hmem
    refine ⟨?_, e.packet, by simp, ?_, hcollected'.timestamp_eq.symm⟩
    · simp only [hcollected'.contents_eq, hcollected'.timestamp_eq]
      exact hgathered
    · simp only [isEnd, hfragment, Bool.true_and, bne_iff_ne]
      exact hend
  · rw [if_neg hend] at hall
    refine h.valid hvalid hall (hsame.trans hsame') (fun _ => ?_) (fun _ _ hmem => by cases hmem)
    rw [hcollected'.timestamp_eq, hcollected'.contents_eq]
    exact hgathered

theorem Sound.start {s : Reassembly} (h : s.Sound) (hfragment : isFragment e.packet = true)
    (hstart : isStart e.packet = true)
    (hfits : 1 + (fragmentBytes e.packet).length ≤ rtpH264MaxNal) : (s.push e).Sound := by
  have hbit : (rtpPayload e.packet).getD 1 0 &&& 0x80 ≠ 0 := by
    simpa [isStart, hfragment] using hstart
  obtain ⟨r₁, hstarted, hcollected, hsame⟩ :=
    startFragment_start (s.noted e.packet) (rtpTimestamp e.packet) hbit
  refine h.taken hfragment hstarted hsame hcollected ?_ (.start s.pushed hstart)
  rw [List.length_append]
  exact hfits

theorem Sound.continued {s : Reassembly} (h : s.Sound) (hfragment : isFragment e.packet = true)
    (hcontinue : isStart e.packet = false)
    (hfits : (s.noted e.packet).assembling = true →
      (s.noted e.packet).timestamp = rtpTimestamp e.packet →
      (s.noted e.packet).buffer.contents.length + (fragmentBytes e.packet).length ≤ rtpH264MaxNal) :
    (s.push e).Sound := by
  have hbit : ¬ (rtpPayload e.packet).getD 1 0 &&& 0x80 ≠ 0 := by
    simpa [isStart, hfragment] using hcontinue
  by_cases htake : (s.noted e.packet).assembling = true ∧
      (s.noted e.packet).timestamp = rtpTimestamp e.packet
  · obtain ⟨hassembling, htimestamp⟩ := htake
    have hgathered := h.noted hassembling hcontinue
    have hshare : share (rtpTimestamp e.packet) e.packet = fragmentBytes e.packet := by
      simp [share, hfragment]
    rw [htimestamp, hshare] at hgathered
    refine h.taken hfragment ?_ ⟨rfl, rfl⟩ ⟨hassembling, htimestamp, rfl⟩ ?_ hgathered
    · rw [startFragment, if_neg hbit]
    · rw [List.length_append]
      exact hfits hassembling htimestamp
  · have hvalid := rtpValid_of_isFragment hfragment
    obtain ⟨htype, hlen⟩ := fragment_payload hfragment
    have hrefused := pushFragment_refused hbit htake (hasMarker e.packet) (keepNal e.answers) []
    have hall := (push_valid hvalid s.reassembler (keepNal e.answers) []).trans
      ((pushPayload_of_fragment htype hlen _ _ _ _ _).trans hrefused)
    refine h.valid hvalid hall ⟨rfl, rfl⟩ (fun hassembling => ?_) (fun _ _ hmem => by cases hmem)
    have hgathered := h.noted hassembling hcontinue
    have hshare : share (s.noted e.packet).timestamp e.packet = [] := by
      have hother : rtpTimestamp e.packet ≠ (s.noted e.packet).timestamp := fun heq =>
        htake ⟨hassembling, heq.symm⟩
      simp [share, hother]
    rwa [hshare, List.append_nil] at hgathered

theorem Sound.other {s : Reassembly} (h : s.Sound) (hvalid : rtpValid e.packet = true)
    (hfragment : isFragment e.packet = false) : (s.push e).Sound := by
  have hother : ¬ ((rtpPayload e.packet).getD 0 0 &&& 0x1f = 28 ∧
      3 ≤ (rtpPayload e.packet).length) := by
    simpa [isFragment, hvalid] using hfragment
  have hsame := pushPayload_other (s.noted e.packet) (rtpTimestamp e.packet) (hasMarker e.packet)
    (keepNal e.answers) [] hother
  generalize hresult : pushPayload (s.noted e.packet) (rtpPayload e.packet) (rtpTimestamp e.packet)
    (hasMarker e.packet) (keepNal e.answers) [] = result at hsame
  obtain ⟨ok, r, handed⟩ := result
  cases hsame
  have hpush := push_valid hvalid s.reassembler (keepNal e.answers) []
  refine h.valid hvalid (hpush.trans hresult) ⟨rfl, rfl⟩ (fun hassembling => ?_) fun hyes => ?_
  · have hgathered := h.noted hassembling (by simp [isStart, hfragment] : isStart e.packet = false)
    have hshare : share (s.noted e.packet).timestamp e.packet = [] := by simp [share, hfragment]
    rwa [hshare, List.append_nil] at hgathered
  · rw [hfragment] at hyes
    cases hyes

theorem Sound.push {s : Reassembly} (h : s.Sound) (hfits : s.Fits e) : (s.push e).Sound := by
  cases hvalid : rtpValid e.packet with
  | false => exact h.invalid hvalid
  | true =>
    cases hfragment : isFragment e.packet with
    | false => exact h.other hvalid hfragment
    | true =>
      unfold Fits at hfits
      cases hstart : isStart e.packet with
      | true =>
        rw [if_pos hstart] at hfits
        exact h.start hfragment hstart hfits
      | false =>
        rw [if_neg (Bool.eq_false_iff.mp hstart)] at hfits
        exact h.continued hfragment hstart (hfits hfragment)

theorem sound_init : Sound {} := ⟨nofun, nofun, nofun⟩

/-- Every NAL unit of the FU-A path is complete, in every run in which no
fragment is refused for its size. -/
theorem fragmented_nals_complete (events : List PacketPush) (s : Reassembly)
    (hrun : Machine.run step {} events = some s) (hfits : Machine.Along step Fits {} events) :
    ∀ unit ∈ s.units, CompleteNal unit.1 unit.2 := by
  refine (Machine.run_invariant (fun s e s' h hfit hstep => ?_) sound_init hfits hrun : s.Sound).complete
  cases hstep
  exact h.push hfit

instance (s : Reassembly) (e : PacketPush) : Decidable (s.Fits e) := by
  unfold Fits
  infer_instance

def fragmentPush (p : RtpH264Packetizer) (header : UInt8) (first last : Bool) (chunk : List UInt8) :
    PacketPush :=
  ⟨rtpPacket p (fuHeader header first last ++ chunk) last 7, fun _ => true⟩

def twoFragments : List PacketPush :=
  let p := rtpH264PacketizerInit 1200 42
  [fragmentPush p 0x65 true false [1], fragmentPush p.next 0x65 false true [2]]

theorem twoFragments_complete :
    ∃ s, Machine.run step {} twoFragments = some s ∧ Machine.Along step Fits {} twoFragments ∧
      s.units.map (fun unit => unit.2.nal) = [[0x65, 1, 2]] ∧
      ∀ unit ∈ s.units, CompleteNal unit.1 unit.2 :=
  ⟨_, rfl, by decide, by decide, fragmented_nals_complete twoFragments _ rfl (by decide)⟩

-- ---------------------------------------------------------------------------
-- A fragment that is refused
-- ---------------------------------------------------------------------------

section

variable (p : RtpH264Packetizer) (header : UInt8) (first last : Bool) {chunk : List UInt8}
  (hne : chunk ≠ [])

include hne

theorem isFragment_fragmentPush : isFragment (fragmentPush p header first last chunk).packet = true := by
  obtain ⟨htype, -, -, -⟩ := fuHeader_bits header first last chunk
  have hpos := List.length_pos_of_ne_nil hne
  have hpayload : rtpPayload (fragmentPush p header first last chunk).packet =
      fuHeader header first last ++ chunk := drop_rtpPacket ..
  have hlen : 3 ≤ (fuHeader header first last ++ chunk).length := by
    simp only [fuHeader, List.length_append, List.length_cons, List.length_nil]
    omega
  have hvalid : rtpValid (fragmentPush p header first last chunk).packet = true := by
    have hlength := length_rtpPacket p (fuHeader header first last ++ chunk) last 7
    have hversion : (0x80 : UInt8) >>> 6 = 2 := by decide
    rw [rtpValid, Bool.and_eq_true, decide_eq_true_eq, beq_iff_eq]
    refine ⟨?_, hversion⟩
    rw [fragmentPush, hlength]
    omega
  rw [isFragment, hvalid, hpayload, htype]
  simpa using hlen

theorem isStart_fragmentPush : isStart (fragmentPush p header first last chunk).packet = first := by
  obtain ⟨-, -, hfirst, -⟩ := fuHeader_bits header first last chunk
  rw [isStart, isFragment_fragmentPush p header first last hne, Bool.true_and]
  rw [Bool.eq_iff_iff, bne_iff_ne]
  exact hfirst

theorem push_fragmentPush {r : RtpH264Reassembler} (hexpects : r.Expects p.sequence) (handed : List Handed) :
    rtpH264ReassemblerPush r (fragmentPush p header first last chunk).packet (keepNal fun _ => true) id
        handed =
      pushFragment (r.expectAfter p.sequence) (fuHeader header first last ++ chunk) 7 last
        (keepNal fun _ => true) handed := by
  rw [fragmentPush, push_rtpPacket _ _ _ _ _ _ _ _ (by simp [fuHeader]),
    noteSequence_expected hexpects]
  exact pushPayload_fragment _ header first last hne 7 last _ _

theorem push_collects {r : RtpH264Reassembler} (nal : List UInt8) (hexpects : r.Expects p.sequence)
    (h : first = true ∨ r.Collected 7 nal)
    (hfit : ((if first then [header] else nal) ++ chunk).length ≤ rtpH264MaxNal) (handed : List Handed) :
    ∃ r', r'.Collected 7 ((if first then [header] else nal) ++ chunk) ∧ r'.Expects p.next.sequence ∧
      rtpH264ReassemblerPush r (fragmentPush p header first last chunk).packet (keepNal fun _ => true)
          id handed =
        if last then deliver r' (keepNal fun _ => true) handed last else (true, r', handed) := by
  have hnoted : first = true ∨ (r.expectAfter p.sequence).Collected 7 nal :=
    h.imp_right fun hc => ⟨hc.assembling, hc.timestamp_eq, hc.contents_eq⟩
  obtain ⟨r', hcollected, hsame, hpush⟩ :=
    pushFragment_collected header first last last (keepNal fun _ => true) handed hnoted hfit
  exact ⟨r', hcollected, fun _ => hsame.2, (push_fragmentPush p header first last hne hexpects _).trans hpush⟩

end

theorem pushFragment_oversized (header : UInt8) (last : Bool) (marker : Bool)
    (callback : NalCallback σ) (context : σ) (h : r.Collected timestamp nal)
    (hlong : rtpH264MaxNal < nal.length + chunk.length) :
    pushFragment r (fuHeader header false last ++ chunk) timestamp marker callback context =
      (false, r, context) := by
  obtain ⟨-, -, hfirst, -⟩ := fuHeader_bits header false last chunk
  have hstart : ¬ (fuHeader header false last ++ chunk).getD 1 0 &&& 0x80 ≠ 0 := fun hset =>
    Bool.false_ne_true (hfirst.mp hset)
  have hdrop : (fuHeader header false last ++ chunk).drop 2 = chunk := rfl
  have hrefuse : append r chunk = (false, r) := by
    have hnone : r.buffer.append? (fun needed _ => reassemblerCapacity r.buffer.capacity needed) chunk =
        none := by
      have hle := r.buffer.length_le_limit
      rw [h.contents_eq] at hle
      rw [BoundedBuffer.append?, dif_pos (by rw [h.contents_eq]; omega)]
    rw [append, hnone]
  simp only [pushFragment, startFragment, if_neg hstart, hdrop, hrefuse, h.assembling,
    h.timestamp_eq, Bool.not_true, bne_self_eq_false, Bool.or_false, Bool.false_eq_true, if_false]

def threeFragments (middle : List UInt8) : List PacketPush :=
  let p := rtpH264PacketizerInit 1200 42
  [fragmentPush p 0x65 true false [1], fragmentPush p.next 0x65 false false middle,
    fragmentPush p.next.next 0x65 false true [2]]

section

variable {middle : List UInt8} (hlong : rtpH264MaxNal ≤ middle.length)

include hlong

theorem ne_nil_of_long : middle ≠ [] := by
  rintro rfl
  exact absurd hlong (by decide)

theorem gathered_threeFragments
    (h : Gathered ((threeFragments middle).map PacketPush.packet) timestamp nal) :
    rtpH264MaxNal < nal.length := by
  have hne := ne_nil_of_long hlong
  generalize hpushed : (threeFragments middle).map PacketPush.packet = pushed at h
  obtain ⟨before, start, rest, hstart, hrest, hunbroken⟩ := h
  let p := rtpH264PacketizerInit 1200 42
  have hmiddle : isStart (fragmentPush p.next 0x65 false false middle).packet = false :=
    isStart_fragmentPush _ _ _ _ hne
  have hend : isStart (fragmentPush p.next.next 0x65 false true [2]).packet = false :=
    isStart_fragmentPush _ _ _ _ (List.cons_ne_nil _ _)
  match before, hpushed with
  | [], hpushed =>
    obtain ⟨rfl, rfl⟩ := List.cons.inj hpushed
    have htimestamp : ∀ first last chunk q,
        rtpTimestamp (fragmentPush q 0x65 first last chunk).packet = 7 := fun _ _ _ _ =>
      timestamp_rtpPacket ..
    have hshare : share 7 (fragmentPush p.next 0x65 false false middle).packet = middle := by
      rw [share, isFragment_fragmentPush _ _ _ _ hne, htimestamp]
      rfl
    simp only [List.map_cons, List.length_cons, List.flatMap_cons, List.length_append, htimestamp]
    rw [hshare]
    omega
  | [_], hpushed =>
    obtain ⟨-, hpushed⟩ := List.cons.inj hpushed
    obtain ⟨rfl, -⟩ := List.cons.inj hpushed
    exact absurd (hmiddle.symm.trans hstart) Bool.false_ne_true
  | [_, _], hpushed =>
    obtain ⟨-, hpushed⟩ := List.cons.inj hpushed
    obtain ⟨-, hpushed⟩ := List.cons.inj hpushed
    obtain ⟨rfl, -⟩ := List.cons.inj hpushed
    exact absurd (hend.symm.trans hstart) Bool.false_ne_true
  | _ :: _ :: _ :: before, hpushed =>
    have hlength := congrArg List.length hpushed
    simp [threeFragments] at hlength

theorem handed_threeFragments :
    ∃ s, Machine.run step {} (threeFragments middle) = some s ∧
      s.units = [((threeFragments middle).map PacketPush.packet, ⟨[0x65, 1, 2], 7, true⟩)] := by
  let p := rtpH264PacketizerInit 1200 42
  have hne := ne_nil_of_long hlong
  obtain ⟨r₁, hcollected₁, hexpects₁, hpush₁⟩ :=
    push_collects p 0x65 true false (List.cons_ne_nil 1 []) [] (nofun : RtpH264Reassembler.Expects {} _)
      (.inl rfl) (by decide : ([0x65] ++ [1] : List UInt8).length ≤ rtpH264MaxNal) []
  have hcollected₂ : (r₁.expectAfter p.next.sequence).Collected 7 [0x65, 1] :=
    ⟨hcollected₁.assembling, hcollected₁.timestamp_eq, hcollected₁.contents_eq⟩
  have hpush₂ := (push_fragmentPush p.next 0x65 false false hne hexpects₁ []).trans
    (pushFragment_oversized 0x65 false false _ _ hcollected₂
      (Nat.lt_of_le_of_lt hlong (Nat.lt_add_of_pos_left (by decide))))
  obtain ⟨r₃, hcollected₃, -, hpush₃⟩ :=
    push_collects p.next.next 0x65 false true (List.cons_ne_nil 2 []) [0x65, 1]
      (fun _ => rfl : (r₁.expectAfter p.next.sequence).Expects _) (.inr hcollected₂)
      (by decide : ([0x65, 1] ++ [2] : List UInt8).length ≤ rtpH264MaxNal) []
  simp only [Bool.false_eq_true, if_false, if_true] at hpush₁ hpush₃
  have hfirst := push_eq (s := {}) (e := fragmentPush p 0x65 true false [1]) hpush₁
  have hsecond := push_eq (s := ⟨r₁, [(fragmentPush p 0x65 true false [1]).packet], []⟩)
    (e := fragmentPush p.next 0x65 false false middle) hpush₂
  have hthird := push_eq (s := ⟨r₁.expectAfter p.next.sequence,
      [(fragmentPush p 0x65 true false [1]).packet, (fragmentPush p.next 0x65 false false middle).packet],
      []⟩) (e := fragmentPush p.next.next 0x65 false true [2]) hpush₃
  have hfragment := isFragment_fragmentPush p.next.next 0x65 false true (List.cons_ne_nil 2 [])
  simp only [List.map_nil, ite_self, List.append_nil, List.nil_append, List.cons_append, hfragment,
    if_true] at hfirst hsecond hthird
  refine ⟨push (push (push {} (fragmentPush p 0x65 true false [1]))
    (fragmentPush p.next 0x65 false false middle)) (fragmentPush p.next.next 0x65 false true [2]),
    rfl, ?_⟩
  rw [hfirst, hsecond, hthird]
  simp only [hcollected₃.contents_eq, hcollected₃.timestamp_eq]
  rfl

end

/-- The middle fragment is refused, and the NAL unit is handed over without it. -/
theorem refused_fragment_leaves_hole :
    ∃ s, Machine.run step {} (threeFragments (List.replicate rtpH264MaxNal 0)) = some s ∧
      ∃ unit ∈ s.units, unit.2.nal = [0x65, 1, 2] ∧ ¬ CompleteNal unit.1 unit.2 := by
  have hlong : rtpH264MaxNal ≤ (List.replicate rtpH264MaxNal (0 : UInt8)).length := by
    rw [List.length_replicate]
  generalize List.replicate rtpH264MaxNal (0 : UInt8) = middle at hlong ⊢
  obtain ⟨s, hrun, hunits⟩ := handed_threeFragments hlong
  refine ⟨s, hrun, _, by rw [hunits]; exact List.mem_singleton_self _, rfl, fun h => ?_⟩
  have hlength : rtpH264MaxNal < 3 := gathered_threeFragments hlong h.gathered
  exact absurd hlength (by decide)

end Reassembly

end NanokvmRdp.Rtp
