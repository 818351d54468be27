import NanokvmRdp.Lib.BoundedBuffer
import NanokvmRdp.Rtp.Packetizer

/-!
# The RTP reassembler

`rtp_h264_reassembler_push` over any packet: single NAL units, STAP-A
aggregates and FU-A fragments. Both callbacks share one context, as they do
in `rtp_client_read_h264`.
-/

namespace NanokvmRdp.Rtp

/-- The buffer is the first `length` bytes of the C buffer. -/
structure RtpH264Reassembler where
  expectedSequence : UInt16 := 0
  haveSequence : Bool := false
  assembling : Bool := false
  buffer : BoundedBuffer UInt8 rtpH264MaxNal := .empty
  nalHeader : UInt8 := 0
  timestamp : UInt32 := 0

def reassemblerCapacity (capacity needed : Nat) : { c : Nat // needed ≤ c } :=
  ⟨growUntil (· * 2) needed needed (if capacity = 0 then 2048 else capacity),
    le_growUntil (fun c hc _ => by omega) (by split <;> omega) (by omega)⟩

def append (r : RtpH264Reassembler) (data : List UInt8) : Bool × RtpH264Reassembler :=
  match r.buffer.append? (fun needed _ => reassemblerCapacity r.buffer.capacity needed) data with
  | some buffer => (true, { r with buffer })
  | none => (false, r)

abbrev NalCallback (σ : Type) := σ → List UInt8 → UInt32 → Bool → Bool × σ

def deliver (r : RtpH264Reassembler) (callback : NalCallback σ) (context : σ) (marker : Bool) :
    Bool × RtpH264Reassembler × σ :=
  let (result, context) := callback context r.buffer.contents r.timestamp marker
  (result, { r with assembling := false, buffer := r.buffer.clear }, context)

/-- The STAP-A loop. `rest` is the payload from `offset` on. -/
def pushAggregate (timestamp : UInt32) (marker : Bool) (callback : NalCallback σ) :
    Nat → Bool → List UInt8 → σ → Bool × σ
  | 0, delivered, rest, context => (delivered && rest.isEmpty, context)
  | fuel + 1, delivered, rest, context =>
    if rest.length < 2 then (delivered && rest.isEmpty, context)
    else
      let nalLength := (BigEndian.readU16 (rest.getD 0 0) (rest.getD 1 0)).toNat
      let rest := rest.drop 2
      if nalLength = 0 ∨ nalLength > rest.length then (false, context)
      else match callback context (rest.take nalLength) timestamp
          (marker && nalLength == rest.length) with
        | (false, context) => (false, context)
        | (true, context) =>
          pushAggregate timestamp marker callback fuel true (rest.drop nalLength) context

/-- A start fragment begins a new NAL unit with the rebuilt header. -/
def startFragment (r : RtpH264Reassembler) (payload : List UInt8) (timestamp : UInt32) :
    Bool × RtpH264Reassembler :=
  if payload.getD 1 0 &&& 0x80 ≠ 0 then
    let nalHeader := (payload.getD 0 0 &&& 0xe0) ||| (payload.getD 1 0 &&& 0x1f)
    append { r with assembling := true, timestamp, buffer := r.buffer.clear, nalHeader } [nalHeader]
  else (true, r)

def pushFragment (r : RtpH264Reassembler) (payload : List UInt8) (timestamp : UInt32)
    (marker : Bool) (callback : NalCallback σ) (context : σ) : Bool × RtpH264Reassembler × σ :=
  match startFragment r payload timestamp with
  | (false, r) => (false, r, context)
  | (true, r) =>
    if !r.assembling || timestamp != r.timestamp then (false, r, context)
    else match append r (payload.drop 2) with
      | (false, r) => (false, r, context)
      | (true, r) =>
        if payload.getD 1 0 &&& 0x40 ≠ 0 then deliver r callback context marker
        else (true, r, context)

def pushPayload (r : RtpH264Reassembler) (payload : List UInt8) (timestamp : UInt32)
    (marker : Bool) (callback : NalCallback σ) (context : σ) : Bool × RtpH264Reassembler × σ :=
  let type := payload.getD 0 0 &&& 0x1f
  if 1 ≤ type ∧ type ≤ 23 then
    let (ok, context) := callback context payload timestamp marker
    (ok, r, context)
  else if type = 24 then
    let (ok, context) :=
      pushAggregate timestamp marker callback payload.length false (payload.drop 1) context
    (ok, r, context)
  else if type ≠ 28 ∨ payload.length < 3 then (true, r, context)
  else pushFragment r payload timestamp marker callback context

def RtpH264Reassembler.expectAfter (r : RtpH264Reassembler) (sequence : UInt16) :
    RtpH264Reassembler :=
  { r with haveSequence := true, expectedSequence := sequence + 1 }

/-- A packet that is not the expected one drops the fragments gathered so far. -/
def noteSequence (r : RtpH264Reassembler) (sequence : UInt16) (lossCallback : σ → σ) (context : σ) :
    RtpH264Reassembler × σ :=
  let (r, context) :=
    if r.haveSequence ∧ sequence ≠ r.expectedSequence then
      ({ r with assembling := false, buffer := r.buffer.clear }, lossCallback context)
    else (r, context)
  (r.expectAfter sequence, context)

def readU16At (packet : List UInt8) (offset : Nat) : UInt16 :=
  BigEndian.readU16 (packet.getD offset 0) (packet.getD (offset + 1) 0)

def readU32At (packet : List UInt8) (offset : Nat) : UInt32 :=
  BigEndian.readU32 (packet.getD offset 0) (packet.getD (offset + 1) 0)
    (packet.getD (offset + 2) 0) (packet.getD (offset + 3) 0)

def hasMarker (packet : List UInt8) : Bool := packet.getD 1 0 &&& 0x80 != 0

def rtpH264ReassemblerPush (r : RtpH264Reassembler) (packet : List UInt8)
    (nalCallback : NalCallback σ) (lossCallback : σ → σ) (context : σ) :
    Bool × RtpH264Reassembler × σ :=
  if packet.length ≤ rtpHeaderSize ∨ packet.getD 0 0 >>> 6 ≠ 2 then (false, r, context)
  else
    let (r, context) := noteSequence r (readU16At packet 2) lossCallback context
    pushPayload r (packet.drop rtpHeaderSize) (readU32At packet 4) (hasMarker packet) nalCallback
      context

-- ---------------------------------------------------------------------------
-- The packets of a packetizer
-- ---------------------------------------------------------------------------

section

variable (p : RtpH264Packetizer) (payload : List UInt8) (marker : Bool) (timestamp : UInt32)

theorem hasMarker_rtpPacket : hasMarker (rtpPacket p payload marker timestamp) = marker := by
  have hbit : ∀ m : Bool, ((rtpPayloadType ||| if m then 0x80 else 0) &&& 0x80 != 0) = m := by decide
  exact hbit marker

theorem sequence_rtpPacket : readU16At (rtpPacket p payload marker timestamp) 2 = p.sequence :=
  BigEndian.readU16_writeU16 p.sequence

theorem timestamp_rtpPacket : readU32At (rtpPacket p payload marker timestamp) 4 = timestamp :=
  BigEndian.readU32_writeU32 timestamp

theorem ssrc_rtpPacket : readU32At (rtpPacket p payload marker timestamp) 8 = p.ssrc :=
  BigEndian.readU32_writeU32 p.ssrc

theorem drop_rtpPacket : (rtpPacket p payload marker timestamp).drop rtpHeaderSize = payload := rfl

theorem push_rtpPacket (r : RtpH264Reassembler) (nalCallback : NalCallback σ)
    (lossCallback : σ → σ) (context : σ) (h : payload ≠ []) :
    rtpH264ReassemblerPush r (rtpPacket p payload marker timestamp) nalCallback lossCallback context =
      pushPayload (noteSequence r p.sequence lossCallback context).1 payload timestamp marker
        nalCallback (noteSequence r p.sequence lossCallback context).2 := by
  have hpos := List.length_pos_of_ne_nil h
  have hlen := length_rtpPacket p payload marker timestamp
  have hgood : ¬ ((rtpPacket p payload marker timestamp).length ≤ rtpHeaderSize ∨
      (rtpPacket p payload marker timestamp).getD 0 0 >>> 6 ≠ 2) := by
    have hversion : (0x80 : UInt8) >>> 6 = 2 := by decide
    rw [not_or, hlen, rtpHeaderSize]
    exact ⟨by omega, not_not.mpr hversion⟩
  rw [rtpH264ReassemblerPush, if_neg hgood, sequence_rtpPacket, timestamp_rtpPacket,
    hasMarker_rtpPacket, drop_rtpPacket]

end

def RtpH264Reassembler.Expects (r : RtpH264Reassembler) (sequence : UInt16) : Prop :=
  r.haveSequence = true → r.expectedSequence = sequence

theorem noteSequence_expected {sequence : UInt16} (h : r.Expects sequence) (lossCallback : σ → σ)
    (context : σ) :
    noteSequence r sequence lossCallback context = (r.expectAfter sequence, context) := by
  have hno : ¬ (r.haveSequence ∧ sequence ≠ r.expectedSequence) := fun hgap =>
    hgap.2 (h hgap.1).symm
  rw [noteSequence, if_neg hno]

def RtpH264Reassembler.SameSequence (r r' : RtpH264Reassembler) : Prop :=
  r'.haveSequence = r.haveSequence ∧ r'.expectedSequence = r.expectedSequence

theorem RtpH264Reassembler.SameSequence.trans {r r₁ r₂ : RtpH264Reassembler}
    (h : r.SameSequence r₁) (h' : r₁.SameSequence r₂) : r.SameSequence r₂ :=
  ⟨h'.1.trans h.1, h'.2.trans h.2⟩

theorem append_sequence (r : RtpH264Reassembler) (data : List UInt8) :
    r.SameSequence (append r data).2 := by
  unfold append
  split <;> exact ⟨rfl, rfl⟩

theorem startFragment_sequence (r : RtpH264Reassembler) (payload : List UInt8) (timestamp : UInt32) :
    r.SameSequence (startFragment r payload timestamp).2 := by
  unfold startFragment
  split
  · exact append_sequence { r with
      assembling := true, timestamp, buffer := r.buffer.clear, nalHeader := _ } _
  · exact ⟨rfl, rfl⟩

theorem append_fits (r : RtpH264Reassembler) (data : List UInt8)
    (h : r.buffer.contents.length + data.length ≤ rtpH264MaxNal) :
    ∃ buffer, append r data = (true, { r with buffer }) ∧
      buffer.contents = r.buffer.contents ++ data := by
  obtain ⟨buffer, hsome, hcontents⟩ := r.buffer.append?_fits
    (fun needed _ => reassemblerCapacity r.buffer.capacity needed) h
  exact ⟨buffer, by rw [append, hsome], hcontents⟩

theorem append_contents {r r' : RtpH264Reassembler} (h : append r data = (true, r')) :
    r'.buffer.contents = r.buffer.contents ++ data := by
  by_cases hfit : r.buffer.contents.length + data.length ≤ rtpH264MaxNal
  · obtain ⟨buffer, happend, hcontents⟩ := append_fits r data hfit
    rw [h] at happend
    cases happend
    exact hcontents
  · have hlength := r.buffer.length_le_limit
    rw [append, r.buffer.append?_eq_none _ (by omega)] at h
    cases h

-- ---------------------------------------------------------------------------
-- Fragments
-- ---------------------------------------------------------------------------

/-- What `fuHeader` encodes is what `rtp_h264_reassembler_push` decodes. -/
theorem fuHeader_bits (header : UInt8) (first last : Bool) (chunk : List UInt8) :
    let payload := fuHeader header first last ++ chunk
    payload.getD 0 0 &&& 0x1f = 28 ∧
    (payload.getD 0 0 &&& 0xe0) ||| (payload.getD 1 0 &&& 0x1f) = header ∧
    (payload.getD 1 0 &&& 0x80 ≠ 0 ↔ first = true) ∧
    (payload.getD 1 0 &&& 0x40 ≠ 0 ↔ last = true) := by
  simp only [fuHeader, List.cons_append, List.nil_append, List.getD_cons_zero, List.getD_cons_succ]
  obtain ⟨header⟩ := header
  cases first <;> cases last <;> revert header <;> decide +kernel

theorem pushPayload_of_fragment (h : payload.getD 0 0 &&& 0x1f = 28) (hlen : 3 ≤ payload.length)
    (r : RtpH264Reassembler) (timestamp : UInt32) (marker : Bool) (callback : NalCallback σ)
    (context : σ) :
    pushPayload r payload timestamp marker callback context =
      pushFragment r payload timestamp marker callback context := by
  rw [pushPayload, h, if_neg (by decide), if_neg (by decide),
    if_neg (not_or.mpr ⟨not_not.mpr rfl, Nat.not_lt.mpr hlen⟩)]

theorem pushPayload_fragment (r : RtpH264Reassembler) (header : UInt8) (first last : Bool)
    (hne : chunk ≠ []) (timestamp : UInt32) (marker : Bool) (callback : NalCallback σ) (context : σ) :
    pushPayload r (fuHeader header first last ++ chunk) timestamp marker callback context =
      pushFragment r (fuHeader header first last ++ chunk) timestamp marker callback context := by
  have htype := (fuHeader_bits header first last chunk).1
  have hpos := List.length_pos_of_ne_nil hne
  have hlen : 3 ≤ (fuHeader header first last ++ chunk).length := by
    simp only [fuHeader, List.length_append, List.length_cons, List.length_nil]
    omega
  exact pushPayload_of_fragment htype hlen r timestamp marker callback context

structure RtpH264Reassembler.Collected (r : RtpH264Reassembler) (timestamp : UInt32)
    (nal : List UInt8) : Prop where
  assembling : r.assembling = true
  timestamp_eq : r.timestamp = timestamp
  contents_eq : r.buffer.contents = nal

def rebuiltHeader (payload : List UInt8) : UInt8 :=
  (payload.getD 0 0 &&& 0xe0) ||| (payload.getD 1 0 &&& 0x1f)

theorem startFragment_start (r : RtpH264Reassembler) (timestamp : UInt32)
    (h : payload.getD 1 0 &&& 0x80 ≠ 0) :
    ∃ r', startFragment r payload timestamp = (true, r') ∧
      r'.Collected timestamp [rebuiltHeader payload] ∧ r.SameSequence r' := by
  obtain ⟨buffer, happend, hcontents⟩ := append_fits { r with
    assembling := true, timestamp, buffer := r.buffer.clear, nalHeader := rebuiltHeader payload }
    [rebuiltHeader payload] (show 0 + 1 ≤ rtpH264MaxNal by decide)
  rw [startFragment, if_pos h]
  exact ⟨_, happend, ⟨rfl, rfl, hcontents⟩, rfl, rfl⟩

/-- A fragment that fits extends what is collected; the last one delivers it. -/
theorem pushFragment_taken (hstart : startFragment r payload timestamp = (true, r₁))
    (hcollected : r₁.Collected timestamp nal)
    (hfit : (nal ++ payload.drop 2).length ≤ rtpH264MaxNal) (marker : Bool)
    (callback : NalCallback σ) (context : σ) :
    ∃ r', r'.Collected timestamp (nal ++ payload.drop 2) ∧ r₁.SameSequence r' ∧
      pushFragment r payload timestamp marker callback context =
        if payload.getD 1 0 &&& 0x40 ≠ 0 then deliver r' callback context marker
        else (true, r', context) := by
  obtain ⟨buffer, happend, hcontents⟩ := append_fits r₁ (payload.drop 2)
    (by rw [hcollected.contents_eq, ← List.length_append]; exact hfit)
  refine ⟨{ r₁ with buffer }, ⟨hcollected.assembling, hcollected.timestamp_eq, ?_⟩, ⟨rfl, rfl⟩, ?_⟩
  · rw [hcontents, hcollected.contents_eq]
  · simp only [pushFragment, hstart, happend, hcollected.assembling, hcollected.timestamp_eq,
      Bool.not_true, bne_self_eq_false, Bool.or_false, Bool.false_eq_true, if_false]

theorem pushFragment_collected (header : UInt8) (first last : Bool) (marker : Bool)
    (callback : NalCallback σ) (context : σ) (h : first = true ∨ r.Collected timestamp nal)
    (hfit : ((if first then [header] else nal) ++ chunk).length ≤ rtpH264MaxNal) :
    ∃ r', r'.Collected timestamp ((if first then [header] else nal) ++ chunk) ∧ r.SameSequence r' ∧
      pushFragment r (fuHeader header first last ++ chunk) timestamp marker callback context =
        if last then deliver r' callback context marker else (true, r', context) := by
  obtain ⟨-, hheader, hfirst, hlast⟩ := fuHeader_bits header first last chunk
  have hstart : ∃ r₁, startFragment r (fuHeader header first last ++ chunk) timestamp = (true, r₁) ∧
      r₁.Collected timestamp (if first then [header] else nal) ∧ r.SameSequence r₁ := by
    cases first with
    | true =>
      have hstarted := startFragment_start r timestamp (hfirst.mpr rfl)
      rwa [rebuiltHeader, hheader] at hstarted
    | false =>
      refine ⟨r, ?_, h.resolve_left Bool.false_ne_true, rfl, rfl⟩
      rw [startFragment, if_neg fun hstart => Bool.false_ne_true (hfirst.mp hstart)]
  obtain ⟨r₁, hstart, hcollected, hsame⟩ := hstart
  obtain ⟨r', hcollected', hsame', hpush⟩ :=
    pushFragment_taken hstart hcollected hfit marker callback context
  refine ⟨r', hcollected', hsame.trans hsame', ?_⟩
  simp only [hpush, hlast]

-- ---------------------------------------------------------------------------
-- What a payload cannot change
-- ---------------------------------------------------------------------------

section

variable {P : σ → Prop} {callback : NalCallback σ}
  (hcallback : ∀ context nal timestamp marker, P context →
    P (callback context nal timestamp marker).2)

include hcallback

theorem pushAggregate_invariant (h : P context) :
    P (pushAggregate timestamp marker callback fuel delivered rest context).2 := by
  induction fuel generalizing delivered rest context with
  | zero => exact h
  | succ fuel ih =>
    rw [pushAggregate]
    split
    · exact h
    · simp only
      split
      · exact h
      · split
        · rename_i heq
          have hnext := congrArg (fun result => P result.2) heq
          exact hnext.mp (hcallback _ _ _ _ h)
        · rename_i heq
          have hnext := congrArg (fun result => P result.2) heq
          exact ih (hnext.mp (hcallback _ _ _ _ h))

theorem pushFragment_invariant (r : RtpH264Reassembler) (h : P context) :
    r.SameSequence (pushFragment r payload timestamp marker callback context).2.1 ∧
      P (pushFragment r payload timestamp marker callback context).2.2 := by
  have hstart := startFragment_sequence r payload timestamp
  unfold pushFragment
  cases hs : startFragment r payload timestamp with
  | mk started r₁ =>
    rw [hs] at hstart
    cases started with
    | false => exact ⟨hstart, h⟩
    | true =>
      simp only
      split
      · exact ⟨hstart, h⟩
      · have happend := append_sequence r₁ (payload.drop 2)
        split <;> rename_i heq <;> rw [heq] at happend <;> have hsame := hstart.trans happend
        · exact ⟨hsame, h⟩
        · split
          · exact ⟨hsame, hcallback _ _ _ _ h⟩
          · exact ⟨hsame, h⟩

theorem pushPayload_invariant (r : RtpH264Reassembler) (payload : List UInt8) (timestamp : UInt32)
    (marker : Bool) (h : P context) :
    r.SameSequence (pushPayload r payload timestamp marker callback context).2.1 ∧
      P (pushPayload r payload timestamp marker callback context).2.2 := by
  unfold pushPayload
  simp only
  split
  · exact ⟨⟨rfl, rfl⟩, hcallback _ _ _ _ h⟩
  · split
    · exact ⟨⟨rfl, rfl⟩, pushAggregate_invariant hcallback h⟩
    · split
      · exact ⟨⟨rfl, rfl⟩, h⟩
      · exact pushFragment_invariant hcallback r h

end

end NanokvmRdp.Rtp
