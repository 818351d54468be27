import NanokvmRdp.Lib.Machine
import NanokvmRdp.Rtp.Buffers

/-!
# The receiver in memory is the receiver

Whatever the datagrams hold, no access is outside of the datagram or a buffer,
every loop ends, and the state in memory stands for the state of the model
without memory: its bounds are those of the bounded buffers. A NAL unit is
passed on only from where data is.
-/

namespace NanokvmRdp.Rtp.Raw

open Checked (Simulates)

-- ---------------------------------------------------------------------------
-- Reads
-- ---------------------------------------------------------------------------

theorem getElem?_packet {packet : List UInt8} (h : i < packet.length) :
    packet[i]? = some (packet.getD i 0) := by
  rw [List.getD_eq_getElem?_getD, List.getElem?_eq_getElem h, Option.getD_some]

theorem getD_payload (packet : List UInt8) (offset i : Nat) :
    (packet.drop offset).getD i 0 = packet.getD (offset + i) 0 := by
  simp [List.getD_eq_getElem?_getD]

theorem inside_packet {packet : List UInt8} (hpos : 0 < count)
    (h : offset + count ≤ packet.length) :
    Pointer.Inside ⟨packet, packet.length, offset⟩ count := ⟨hpos, h, Nat.le_refl _⟩

theorem readU16_eq {memory : List UInt8} (h : offset + 2 ≤ memory.length) :
    readU16 memory offset = some (readU16At memory offset) := by
  rw [readU16, Memory.load_eq_some h, Option.map_some]
  simp [readU16At, List.getD_eq_getElem?_getD]

theorem readU32_eq {memory : List UInt8} (h : offset + 4 ≤ memory.length) :
    readU32 memory offset = some (readU32At memory offset) := by
  rw [readU32, Memory.load_eq_some h, Option.map_some]
  simp [readU32At, List.getD_eq_getElem?_getD]

-- ---------------------------------------------------------------------------
-- The reassembler
-- ---------------------------------------------------------------------------

structure Reassembler.Holds (r : Reassembler) (m : RtpH264Reassembler) : Prop where
  expectedSequence : r.expectedSequence = m.expectedSequence
  haveSequence : r.haveSequence = m.haveSequence
  assembling : r.assembling = m.assembling
  buffer : r.buffer.Holds m.buffer
  nalHeader : r.nalHeader = m.nalHeader
  timestamp : r.timestamp = m.timestamp

theorem Reassembler.Holds.started {r : Reassembler} {m : RtpH264Reassembler} (h : r.Holds m)
    (timestamp : UInt32) (nalHeader : UInt8) :
    Reassembler.Holds
      { r with assembling := true, timestamp, buffer := r.buffer.clear, nalHeader }
      { m with assembling := true, timestamp, buffer := m.buffer.clear, nalHeader } :=
  ⟨h.expectedSequence, h.haveSequence, rfl, h.buffer.clear, rfl, rfl⟩

theorem Reassembler.Holds.dropped {r : Reassembler} {m : RtpH264Reassembler} (h : r.Holds m) :
    Reassembler.Holds { r with assembling := false, buffer := r.buffer.clear }
      { m with assembling := false, buffer := m.buffer.clear } :=
  ⟨h.expectedSequence, h.haveSequence, rfl, h.buffer.clear, h.nalHeader, h.timestamp⟩

theorem reassemblerCapacity_eq (capacity needed : Nat) (h : needed ≤ rtpH264MaxNal) :
    reassemblerCapacity capacity needed = some (Rtp.reassemblerCapacity capacity needed).1 := by
  have hmax : rtpH264MaxNal < 2 ^ 63 := by decide
  refine growWhile_eq (fun c => decide_eq_true_iff) (fun c hc => ?_) (fun c hc _ => ?_) ?_ ?_
  · exact Nat.mod_eq_of_lt (by omega)
  · omega
  · split <;> omega
  · omega

theorem append_holds {r : Reassembler} {m : RtpH264Reassembler} (h : r.Holds m)
    {data : Pointer UInt8} {count : Nat} (hdata : data.Inside count) (fill : Nat → UInt8) :
    Simulates Reassembler.Holds (append fill r data count) (Rtp.append m (data.cells count)) := by
  have hgrow : ∀ needed (hle : needed ≤ rtpH264MaxNal), reassemblerCapacity r.buffer.capacity needed =
      some (Rtp.reassemblerCapacity m.buffer.capacity needed).1 := by
    intro needed hle
    rw [h.buffer.capacity_eq]
    exact reassemblerCapacity_eq _ _ hle
  unfold append Rtp.append
  rcases h.buffer.append (by decide) hgrow hdata fill with
    ⟨hnone, happend⟩ | ⟨buffer, buffer', hsome, happend, hholds⟩
  · rw [hnone, happend]
    exact ⟨r, rfl, h⟩
  · rw [hsome, happend]
    exact ⟨_, rfl, h.expectedSequence, h.haveSequence, h.assembling, hholds, h.nalHeader, h.timestamp⟩

/-- A NAL unit is a part of the datagram, or all that is assembled. -/
def Source (packet : List UInt8) (nal : Pointer UInt8) (count : Nat) : Prop :=
  (nal.memory = packet ∧ nal.used = packet.length) ∨ (nal.offset = 0 ∧ nal.used = count)

def CallbackHolds (packet : List UInt8) (R : σ → τ → Prop) (raw : NalCallback σ)
    (model : Rtp.NalCallback τ) : Prop :=
  ∀ c m nal count timestamp marker, R c m → nal.Inside count → Source packet nal count →
    ∃ c', raw c nal count timestamp marker =
        some ((model m (nal.cells count) timestamp marker).1, c') ∧
      R c' (model m (nal.cells count) timestamp marker).2

def Both (R : σ → τ → Prop) (context : Reassembler × σ) (model : RtpH264Reassembler × τ) : Prop :=
  context.1.Holds model.1 ∧ R context.2 model.2

section

variable {R : σ → τ → Prop} {raw : NalCallback σ} {model : Rtp.NalCallback τ}
  {packet : List UInt8} (hcallback : CallbackHolds packet R raw model) {payloadLength : Nat}
  (hpacket : packet.length = rtpHeaderSize + payloadLength) (hsize : packet.length < 2 ^ 64)
  (timestamp : UInt32) (marker : Bool)

theorem CallbackHolds.simulates (hcallback : CallbackHolds packet R raw model) {c : σ} {m : τ}
    (h : R c m) {nal : Pointer UInt8} {count : Nat} (hinside : nal.Inside count)
    (hsource : Source packet nal count) :
    Simulates R (raw c nal count timestamp marker) (model m (nal.cells count) timestamp marker) :=
  hcallback c m nal count timestamp marker h hinside hsource

include hpacket

section

variable {offset : Nat} (hmore : offset + 2 ≤ payloadLength) (fuel : Nat) (delivered : Bool)

include hmore

theorem pushAggregate_turn (raw : NalCallback σ) (hsize : packet.length < 2 ^ 64) (c : σ) :
    pushAggregate packet payloadLength timestamp marker raw (fuel + 1) offset delivered c =
      let nalLength := (readU16At packet (rtpHeaderSize + offset)).toNat
      if nalLength = 0 ∨ nalLength > payloadLength - (offset + 2) then some (false, c)
      else
        (raw c ⟨packet, packet.length, rtpHeaderSize + (offset + 2)⟩ nalLength timestamp
          (marker && offset + 2 + nalLength == payloadLength)).bind fun
          | (false, c) => some (false, c)
          | (true, c) =>
            pushAggregate packet payloadLength timestamp marker raw fuel (offset + 2 + nalLength)
              true c := by
  have hread := readU16_eq (show rtpHeaderSize + offset + 2 ≤ packet.length by omega)
  have hroom := Memory.sizeSub_of_le hmore (show payloadLength < 2 ^ 64 by omega)
  rw [pushAggregate, if_pos hmore, hread, Option.bind_some]
  exact hroom ▸ rfl

theorem model_pushAggregate_turn (model : Rtp.NalCallback τ) (m : τ) :
    Rtp.pushAggregate timestamp marker model (fuel + 1) delivered
        (packet.drop (rtpHeaderSize + offset)) m =
      let nalLength := (readU16At packet (rtpHeaderSize + offset)).toNat
      if nalLength = 0 ∨ nalLength > payloadLength - (offset + 2) then (false, m)
      else
        match model m ((packet.drop (rtpHeaderSize + (offset + 2))).take nalLength) timestamp
            (marker && nalLength == payloadLength - (offset + 2)) with
        | (false, m) => (false, m)
        | (true, m) =>
          Rtp.pushAggregate timestamp marker model fuel true
            (packet.drop (rtpHeaderSize + (offset + 2 + nalLength))) m := by
  have hlong : ¬ (packet.drop (rtpHeaderSize + offset)).length < 2 := by
    rw [List.length_drop]
    omega
  have hleft : (packet.drop (rtpHeaderSize + (offset + 2))).length =
      payloadLength - (offset + 2) := by
    rw [List.length_drop]
    omega
  rw [Rtp.pushAggregate, if_neg hlong]
  simp only [getD_payload, List.drop_drop, Nat.add_zero, Nat.add_assoc] at hleft ⊢
  rw [hleft]
  rfl

end

include hcallback hsize

theorem pushAggregate_holds {c : σ} {m : τ} {offset fuel fuel' : Nat} (delivered : Bool)
    (hoffset : offset ≤ payloadLength) (hfuel : payloadLength - offset < fuel)
    (hfuel' : payloadLength - offset ≤ fuel') (h : R c m) :
    Simulates R (pushAggregate packet payloadLength timestamp marker raw fuel offset delivered c)
      (Rtp.pushAggregate timestamp marker model fuel' delivered
        (packet.drop (rtpHeaderSize + offset)) m) := by
  induction fuel generalizing c m offset delivered fuel' with
  | zero => omega
  | succ fuel ih =>
    by_cases hmore : offset + 2 ≤ payloadLength
    · obtain ⟨fuel', rfl⟩ : ∃ n, fuel' = n + 1 := ⟨fuel' - 1, by omega⟩
      rw [pushAggregate_turn hpacket timestamp marker hmore fuel delivered raw hsize,
        model_pushAggregate_turn hpacket timestamp marker hmore]
      generalize (readU16At packet (rtpHeaderSize + offset)).toNat = nalLength
      by_cases hbad : nalLength = 0 ∨ nalLength > payloadLength - (offset + 2)
      · simp only [if_pos hbad]
        exact ⟨c, rfl, h⟩
      · have hlast : (offset + 2 + nalLength == payloadLength) =
            (nalLength == payloadLength - (offset + 2)) := by
          rw [Bool.eq_iff_iff, beq_iff_eq, beq_iff_eq]
          omega
        simp only [if_neg hbad, hlast]
        refine (hcallback.simulates timestamp _ h (inside_packet (by omega) (by omega))
          (.inl ⟨rfl, rfl⟩)).bind fun c' hc' => ?_
        simp only [Pointer.cells] at hc' ⊢
        generalize model m ((packet.drop (rtpHeaderSize + (offset + 2))).take nalLength) timestamp
          (marker && nalLength == payloadLength - (offset + 2)) = called at hc' ⊢
        obtain ⟨ok, m'⟩ := called
        cases ok with
        | false => exact ⟨c', rfl, hc'⟩
        | true => exact ih true (by omega) (by omega) (by omega) hc'
    · have hend : (offset == payloadLength) = (packet.drop (rtpHeaderSize + offset)).isEmpty := by
        rw [Bool.eq_iff_iff, beq_iff_eq, List.isEmpty_iff_length_eq_zero, List.length_drop]
        omega
      have hshort : (packet.drop (rtpHeaderSize + offset)).length < 2 := by
        rw [List.length_drop]
        omega
      rw [pushAggregate, if_neg hmore, hend]
      cases fuel' with
      | zero => exact ⟨c, rfl, h⟩
      | succ fuel' =>
        rw [Rtp.pushAggregate, if_pos hshort]
        exact ⟨c, rfl, h⟩

omit hcallback hsize in
theorem startFragment_holds {r : Reassembler} {m : RtpH264Reassembler} (h : r.Holds m)
    (hlong : 3 ≤ payloadLength) (fill : Nat → UInt8) :
    Simulates Reassembler.Holds (startFragment fill r packet timestamp)
      (Rtp.startFragment m (packet.drop rtpHeaderSize) timestamp) := by
  have hfirst := getElem?_packet (show rtpHeaderSize < packet.length by omega)
  have hsecond := getElem?_packet (show rtpHeaderSize + 1 < packet.length by omega)
  rw [startFragment, Rtp.startFragment, hsecond, hfirst]
  simp only [Option.bind_some, getD_payload, Nat.add_zero]
  split
  · exact append_holds (h.started timestamp _)
      (Pointer.inside_all (List.cons_ne_nil (packet.getD rtpHeaderSize 0 &&& 0xe0 |||
        packet.getD (rtpHeaderSize + 1) 0 &&& 0x1f) [])).1 fill
  · exact ⟨r, rfl, h⟩

omit hpacket hsize in
theorem deliver_holds {r : Reassembler} {m : RtpH264Reassembler} (hr : r.Holds m)
    (hne : m.buffer.contents ≠ []) {c : σ} {d : τ} (hc : R c d) (marker : Bool) :
    Simulates (Both R) (deliver r raw c marker) (Rtp.deliver m model d marker) := by
  obtain ⟨hinside, hcells⟩ := hr.buffer.inside hne
  obtain ⟨c', hraw, hc'⟩ := hcallback.simulates r.timestamp marker hc hinside (.inr ⟨rfl, rfl⟩)
  rw [hcells, hr.timestamp] at hraw hc'
  refine ⟨({ r with assembling := false, buffer := r.buffer.clear }, c'), ?_, hr.dropped, hc'⟩
  rw [deliver, hr.timestamp, hraw]
  rfl

theorem pushFragment_holds {r : Reassembler} {m : RtpH264Reassembler} (hr : r.Holds m) {c : σ} {d : τ}
    (hc : R c d) (hlong : 3 ≤ payloadLength) (fill : Nat → UInt8) :
    Simulates (Both R) (pushFragment fill r packet payloadLength timestamp marker raw c)
      (Rtp.pushFragment m (packet.drop rtpHeaderSize) timestamp marker model d) := by
  rw [pushFragment, Rtp.pushFragment]
  refine (startFragment_holds hpacket timestamp hr hlong fill).bind fun r₁ hr₁ => ?_
  generalize Rtp.startFragment m (packet.drop rtpHeaderSize) timestamp = started at hr₁ ⊢
  obtain ⟨ok, m₁⟩ := started
  cases ok with
  | false => exact ⟨(r₁, c), rfl, hr₁, hc⟩
  | true =>
    simp only [hr₁.assembling, hr₁.timestamp]
    split
    · exact ⟨(r₁, c), rfl, hr₁, hc⟩
    · have hcount : Memory.sizeSub payloadLength 2 = payloadLength - 2 :=
        Memory.sizeSub_of_le (by omega) (by omega)
      have hcells : Pointer.cells ⟨packet, packet.length, rtpHeaderSize + 2⟩ (payloadLength - 2) =
          (packet.drop rtpHeaderSize).drop 2 := by
        have hall : (packet.drop (rtpHeaderSize + 2)).length ≤ payloadLength - 2 := by
          rw [List.length_drop]
          omega
        rw [Pointer.cells, List.drop_drop]
        exact List.take_of_length_le hall
      have hinside : Pointer.Inside ⟨packet, packet.length, rtpHeaderSize + 2⟩
          (payloadLength - 2) := inside_packet (by omega) (by omega)
      have happend := append_holds hr₁ hinside fill
      rw [hcells] at happend
      rw [hcount]
      refine happend.bind fun r₂ hr₂ => ?_
      have hsecond := getElem?_packet (show rtpHeaderSize + 1 < packet.length by omega)
      cases hmodel : Rtp.append m₁ ((packet.drop rtpHeaderSize).drop 2) with
      | mk ok m₂ =>
        rw [hmodel] at hr₂
        cases ok with
        | false => exact ⟨(r₂, c), rfl, hr₂, hc⟩
        | true =>
          simp only [hsecond, Option.bind_some, getD_payload]
          split
          · refine deliver_holds hcallback hr₂ ?_ hc marker
            rw [append_contents hmodel, List.drop_drop]
            refine List.append_ne_nil_of_right_ne_nil _ (List.ne_nil_of_length_pos ?_)
            rw [List.length_drop]
            omega
          · exact ⟨(r₂, c), rfl, hr₂, hc⟩

theorem pushPayload_holds {r : Reassembler} {m : RtpH264Reassembler} (hr : r.Holds m) {c : σ} {d : τ}
    (hc : R c d) (hpos : 0 < payloadLength) (fill : Nat → UInt8) :
    Simulates (Both R) (pushPayload fill r packet timestamp marker raw c)
      (Rtp.pushPayload m (packet.drop rtpHeaderSize) timestamp marker model d) := by
  have hfirst := getElem?_packet (show rtpHeaderSize < packet.length by omega)
  have hlength : Memory.sizeSub packet.length rtpHeaderSize = payloadLength := by
    rw [Memory.sizeSub_of_le (by omega) hsize]
    omega
  have hdropped : (packet.drop rtpHeaderSize).length = payloadLength := by
    rw [List.length_drop]
    omega
  rw [pushPayload, Rtp.pushPayload]
  simp only [hlength, hfirst, Option.bind_some, getD_payload, Nat.add_zero, hdropped]
  split
  · -- a single NAL unit
    have hcells : Pointer.cells ⟨packet, packet.length, rtpHeaderSize⟩ payloadLength =
        packet.drop rtpHeaderSize := List.take_of_length_le (Nat.le_of_eq hdropped)
    obtain ⟨c', hraw, hc'⟩ := hcallback.simulates timestamp marker hc
      (inside_packet hpos (Nat.le_of_eq hpacket.symm)) (.inl ⟨rfl, rfl⟩)
    rw [hcells] at hraw hc'
    exact ⟨(r, c'), by rw [hraw]; rfl, hr, hc'⟩
  · split
    · obtain ⟨c', hraw, hc'⟩ := pushAggregate_holds hcallback hpacket hsize timestamp marker false
        (show 1 ≤ payloadLength by omega) (show payloadLength - 1 < payloadLength + 1 by omega)
        (show payloadLength - 1 ≤ payloadLength by omega) hc
      rw [← List.drop_drop] at hraw hc'
      exact ⟨(r, c'), by rw [hraw]; rfl, hr, hc'⟩
    · split
      · exact ⟨(r, c), rfl, hr, hc⟩
      · exact pushFragment_holds hcallback hpacket hsize timestamp marker hr hc (by omega) fill

end

theorem noteSequence_holds {R : σ → τ → Prop} {loss : σ → σ} {loss' : τ → τ}
    (hloss : ∀ c d, R c d → R (loss c) (loss' d)) {r : Reassembler} {m : RtpH264Reassembler}
    (hr : r.Holds m) {c : σ} {d : τ} (hc : R c d) (sequence : UInt16) :
    Both R (noteSequence r sequence loss c) (Rtp.noteSequence m sequence loss' d) := by
  unfold noteSequence Rtp.noteSequence
  rw [hr.haveSequence, hr.expectedSequence]
  by_cases hgap : m.haveSequence = true ∧ sequence ≠ m.expectedSequence
  · rw [if_pos hgap, if_pos hgap]
    exact ⟨⟨rfl, rfl, rfl, hr.buffer.clear, hr.nalHeader, hr.timestamp⟩, hloss c d hc⟩
  · rw [if_neg hgap, if_neg hgap]
    exact ⟨⟨rfl, rfl, hr.assembling, hr.buffer, hr.nalHeader, hr.timestamp⟩, hc⟩

/-- A push in memory is a push of the model, for any datagram. -/
theorem push_holds {R : σ → τ → Prop} {raw : NalCallback σ} {model : Rtp.NalCallback τ}
    {packet : List UInt8} (hcallback : CallbackHolds packet R raw model) {loss : σ → σ}
    {loss' : τ → τ} (hloss : ∀ c d, R c d → R (loss c) (loss' d)) {r : Reassembler}
    {m : RtpH264Reassembler} (hr : r.Holds m) {c : σ} {d : τ} (hc : R c d)
    (hsize : packet.length < 2 ^ 64) (fill : Nat → UInt8) :
    Simulates (Both R) (rtpH264ReassemblerPush fill r packet raw loss c)
      (Rtp.rtpH264ReassemblerPush m packet model loss' d) := by
  unfold rtpH264ReassemblerPush Rtp.rtpH264ReassemblerPush
  by_cases hshort : packet.length ≤ rtpHeaderSize
  · rw [if_pos hshort, if_pos (.inl hshort)]
    exact ⟨(r, c), rfl, hr, hc⟩
  · have hheader : rtpHeaderSize = 12 := rfl
    rw [if_neg hshort, getElem?_packet (show 0 < packet.length by omega), Option.bind_some]
    by_cases hversion : packet.getD 0 0 >>> 6 ≠ 2
    · rw [if_pos hversion, if_pos (.inr hversion)]
      exact ⟨(r, c), rfl, hr, hc⟩
    · rw [if_neg hversion, if_neg (not_or.mpr ⟨hshort, hversion⟩),
        readU16_eq (show 2 + 2 ≤ packet.length by omega), Option.bind_some]
      obtain ⟨hr', hc'⟩ := noteSequence_holds hloss hr hc (readU16At packet 2)
      simp only
      rw [readU32_eq (show 4 + 4 ≤ packet.length by omega), Option.bind_some,
        getElem?_packet (show 1 < packet.length by omega), Option.bind_some]
      exact pushPayload_holds hcallback
        (show packet.length = rtpHeaderSize + (packet.length - rtpHeaderSize) by omega) hsize _ _ hr'
        hc' (by omega) fill

-- ---------------------------------------------------------------------------
-- The client
-- ---------------------------------------------------------------------------

structure Client.Holds (c : Client) (m : RtpClient) : Prop where
  reassembler : c.reassembler.Holds m.reassembler
  accessUnit : c.accessUnit.Holds m.accessUnit
  accessUnitCapacityHint : c.accessUnitCapacityHint = m.accessUnitCapacityHint
  accessUnitTimestamp : c.accessUnitTimestamp = m.accessUnitTimestamp
  accessUnitSsrc : c.accessUnitSsrc = m.accessUnitSsrc
  haveAccessUnit : c.haveAccessUnit = m.haveAccessUnit
  losses : c.losses = m.losses

theorem accessUnitCapacity_eq (hint capacity needed : Nat) (h : needed ≤ rtpH264MaxNal) :
    accessUnitCapacity hint capacity needed =
      some (Rtp.accessUnitCapacity capacity hint needed h).1 := by
  have hfirst : ∀ first, 0 < if first < 4096 ∨ first > rtpH264MaxNal then 4096 else first := by
    intro first
    split <;> omega
  exact growWhile_eq (fun c => decide_eq_true_iff) (fun c _ => rfl)
    (fun c hc hlt => lt_nextCapacity h hc hlt) (hfirst _) (by omega)

theorem capacityHint_eq (length : Nat) : capacityHint length = some (Rtp.capacityHint length) := by
  refine growWhile_eq (fun c => ?_) (fun c _ => rfl)
    (fun c hc hlt => lt_nextCapacity (Nat.min_le_right _ _) hc hlt) (by decide) (by omega)
  rw [Bool.and_eq_true, decide_eq_true_iff, decide_eq_true_iff]
  omega

theorem appendAccessUnit_holds {c : Client} {m : RtpClient} (h : c.Holds m) {data : Pointer UInt8}
    {count : Nat} (hdata : data.Inside count) (fill : Nat → UInt8) :
    Simulates Client.Holds (appendAccessUnit fill c data count)
      (Rtp.appendAccessUnit m (data.cells count)) := by
  have hgrow : ∀ needed (hle : needed ≤ rtpH264MaxNal),
      accessUnitCapacity c.accessUnitCapacityHint c.accessUnit.capacity needed =
        some (Rtp.accessUnitCapacity m.accessUnit.capacity m.accessUnitCapacityHint needed hle).1 := by
    intro needed hle
    rw [h.accessUnit.capacity_eq, h.accessUnitCapacityHint]
    exact accessUnitCapacity_eq _ _ _ hle
  unfold appendAccessUnit Rtp.appendAccessUnit
  rcases h.accessUnit.append (by decide) hgrow hdata fill with
    ⟨hnone, happend⟩ | ⟨buffer, buffer', hsome, happend, hholds⟩
  · rw [hnone, happend]
    exact ⟨c, rfl, h⟩
  · rw [hsome, happend]
    exact ⟨_, rfl, h.reassembler, hholds, h.accessUnitCapacityHint, h.accessUnitTimestamp,
      h.accessUnitSsrc, h.haveAccessUnit, h.losses⟩

theorem startUnit_holds {c : Client} {m : RtpClient} (h : c.Holds m) (timestamp : UInt32) :
    (startUnit c timestamp).Holds (Rtp.startUnit m timestamp) := by
  unfold startUnit Rtp.startUnit
  rw [h.haveAccessUnit, h.accessUnitTimestamp]
  split
  · exact ⟨h.reassembler, h.accessUnit.clear, h.accessUnitCapacityHint, rfl, h.accessUnitSsrc, rfl,
      h.losses⟩
  · exact h

theorem saveNal_holds (packet : List UInt8) (fill : Nat → UInt8) :
    CallbackHolds packet Client.Holds (saveNal fill) Rtp.saveNal := by
  intro c m nal count timestamp marker h hinside _
  obtain ⟨hcodeinside, hcells⟩ :=
    Pointer.inside_all (show ([0, 0, 0, 1] : List UInt8) ≠ [] by decide)
  have hcode := appendAccessUnit_holds (startUnit_holds h timestamp) hcodeinside fill
  rw [hcells] at hcode
  rw [saveNal, Rtp.saveNal]
  refine hcode.bind fun c₁ h₁ => ?_
  generalize Rtp.appendAccessUnit (Rtp.startUnit m timestamp) [0, 0, 0, 1] = coded at h₁ ⊢
  obtain ⟨ok, m₁⟩ := coded
  cases ok with
  | false => exact ⟨c₁, rfl, h₁⟩
  | true => exact appendAccessUnit_holds h₁ hinside fill

theorem countLoss_holds {c : Client} {m : RtpClient} (h : c.Holds m) :
    (countLoss c).Holds (Rtp.countLoss m) :=
  ⟨h.reassembler, h.accessUnit.clear, h.accessUnitCapacityHint, h.accessUnitTimestamp,
    h.accessUnitSsrc, rfl, congrArg (· + 1) h.losses⟩

/-- A successful push guarantees the full RTP header. -/
theorem takeUnit_holds {c : Client} {m : RtpClient} (h : c.Holds m) {packet : List UInt8}
    {pushed : Bool} (hpushed : pushed = true → rtpHeaderSize < packet.length) :
    ∃ taken c', takeUnit c pushed packet = some (taken, c') ∧
      taken.map (fun unit => unit.cells unit.used) = (Rtp.takeUnit m pushed packet).1 ∧
      c'.Holds (Rtp.takeUnit m pushed packet).2 := by
  unfold takeUnit Rtp.takeUnit
  cases pushed with
  | false => exact ⟨none, c, rfl, rfl, h⟩
  | true =>
    have hheader : rtpHeaderSize = 12 := rfl
    have hlong := hpushed rfl
    have hstays : packet.getD 1 0 &&& 0x80 = 0 ∨ c.accessUnit.length = 0 ↔
        (!hasMarker packet || m.accessUnit.contents.isEmpty) = true := by
      rw [h.accessUnit.length_eq, Bool.or_eq_true, List.isEmpty_iff_length_eq_zero, hasMarker]
      simp
    rw [getElem?_packet (show 1 < packet.length by omega), Option.bind_some]
    simp only [Bool.not_true, Bool.false_eq_true, if_false]
    by_cases hstay : packet.getD 1 0 &&& 0x80 = 0 ∨ c.accessUnit.length = 0
    · rw [if_pos hstay, if_pos (hstays.mp hstay)]
      exact ⟨none, c, rfl, rfl, h⟩
    · rw [if_neg hstay, if_neg (fun hquiet => hstay (hstays.mpr hquiet)),
        readU32_eq (show 8 + 4 ≤ packet.length by omega), Option.bind_some, capacityHint_eq]
      have hne : m.accessUnit.contents ≠ [] := by
        intro hnil
        rw [h.accessUnit.length_eq, hnil] at hstay
        exact hstay (.inr rfl)
      refine ⟨_, _, rfl, congrArg some (h.accessUnit.inside hne).2, ?_⟩
      exact ⟨h.reassembler, Allocation.holds_empty,
        congrArg Rtp.capacityHint h.accessUnit.length_eq, h.accessUnitTimestamp, rfl, rfl, h.losses⟩

-- ---------------------------------------------------------------------------
-- Records
-- ---------------------------------------------------------------------------

/-- The state of a push: the client, and what was passed on from the datagram. -/
structure Recorded (packet : List UInt8) (context : Client × List Passed) (m : RtpClient) : Prop where
  client : context.1.Holds m
  passed : ∀ p ∈ context.2, p.nal.Inside p.count ∧ Source packet p.nal p.count

theorem recorded_holds {packet : List UInt8} {callback : NalCallback Client}
    {model : Rtp.NalCallback RtpClient}
    (h : CallbackHolds packet Client.Holds callback model) :
    CallbackHolds packet (Recorded packet) (recorded callback) model := by
  intro context m nal count timestamp marker hcontext hinside hsource
  obtain ⟨c', hraw, hc'⟩ := h context.1 m nal count timestamp marker hcontext.client hinside hsource
  refine ⟨(c', context.2 ++ [⟨nal, count⟩]), by rw [recorded, hraw]; rfl, hc', fun p hp => ?_⟩
  rcases List.mem_append.mp hp with hp | hp
  · exact hcontext.passed p hp
  · rw [List.mem_singleton] at hp
    subst hp
    exact ⟨hinside, hsource⟩

/-- From `offset` on the datagram consists of lengths, each with its NAL unit behind it. -/
def Tiles (packet : List UInt8) : Nat → List Passed → Prop
  | offset, [] => offset = packet.length
  | offset, p :: rest =>
    p.nal.memory = packet ∧ p.nal.offset = offset + 2 ∧
      (readU16At packet offset).toNat = p.count ∧ Tiles packet (offset + 2 + p.count) rest

theorem pushAggregate_tiles {callback : NalCallback σ} {packet : List UInt8} {payloadLength : Nat}
    (hpacket : packet.length = rtpHeaderSize + payloadLength) (hsize : packet.length < 2 ^ 64)
    {offset fuel : Nat} {delivered : Bool} {context context' : σ × List Passed}
    (h : pushAggregate packet payloadLength timestamp marker (recorded callback) fuel offset delivered
      context = some (true, context')) :
    ∃ passed, context'.2 = context.2 ++ passed ∧ Tiles packet (rtpHeaderSize + offset) passed ∧
      (delivered = true ∨ passed ≠ []) := by
  induction fuel generalizing offset delivered context with
  | zero => cases h
  | succ fuel ih =>
    by_cases hmore : offset + 2 ≤ payloadLength
    · rw [pushAggregate_turn hpacket timestamp marker hmore fuel delivered _ hsize] at h
      simp only at h
      split at h
      · cases h
      · rw [Option.bind_eq_some_iff] at h
        obtain ⟨⟨ok, called⟩, hcalled, h⟩ := h
        rw [recorded, Option.map_eq_some_iff] at hcalled
        obtain ⟨⟨result, client⟩, -, hresult⟩ := hcalled
        cases hresult
        cases result with
        | false => cases h
        | true =>
          obtain ⟨passed, hpassed, htiles, -⟩ := ih h
          refine ⟨⟨⟨packet, packet.length, rtpHeaderSize + (offset + 2)⟩,
            (readU16At packet (rtpHeaderSize + offset)).toNat⟩ :: passed, ?_,
            ⟨rfl, rfl, rfl, ?_⟩, .inr (List.cons_ne_nil _ _)⟩
          · rw [hpassed, List.append_assoc]
            rfl
          · simpa only [Nat.add_assoc] using htiles
    · rw [pushAggregate, if_neg hmore, Option.some.injEq, Prod.mk.injEq, Bool.and_eq_true,
        beq_iff_eq] at h
      obtain ⟨⟨hdelivered, hend⟩, rfl⟩ := h
      refine ⟨[], (List.append_nil _).symm, ?_, .inl hdelivered⟩
      rw [Tiles]
      omega

theorem noteSequence_passed (r : Reassembler) (sequence : UInt16) (loss : σ → σ)
    (context : σ × List Passed) :
    (noteSequence r sequence (fun context => (loss context.1, context.2)) context).2.2 =
      context.2 := by
  unfold noteSequence
  split
  rename_i heq
  split at heq <;> cases heq <;> rfl

def payloadType (packet : List UInt8) : UInt8 := packet.getD rtpHeaderSize 0 &&& 0x1f

/-- An aggregate that is pushed successfully consists of NAL units, all of which are passed on. -/
theorem push_tiles {callback : NalCallback σ} {loss : σ → σ} {packet : List UInt8} {c c' : σ}
    {passed : List Passed} (hsize : packet.length < 2 ^ 64) (htype : payloadType packet = 24)
    (h : rtpH264ReassemblerPush fill r packet (recorded callback)
      (fun context => (loss context.1, context.2)) (c, []) = some (true, r', c', passed)) :
    passed ≠ [] ∧ Tiles packet (rtpHeaderSize + 1) passed := by
  unfold rtpH264ReassemblerPush at h
  split at h
  · cases h
  · rename_i hshort
    have hheader : rtpHeaderSize = 12 := rfl
    rw [getElem?_packet (show 0 < packet.length by omega), Option.bind_some] at h
    split at h
    · cases h
    · rw [readU16_eq (show 2 + 2 ≤ packet.length by omega), Option.bind_some] at h
      have hnone := noteSequence_passed r (readU16At packet 2) loss (c, [])
      generalize noteSequence r (readU16At packet 2)
        (fun context => (loss context.1, context.2)) (c, []) = noted at h hnone
      simp only at h
      rw [readU32_eq (show 4 + 4 ≤ packet.length by omega), Option.bind_some,
        getElem?_packet (show 1 < packet.length by omega), Option.bind_some, pushPayload] at h
      have hlength : Memory.sizeSub packet.length rtpHeaderSize = packet.length - rtpHeaderSize :=
        Memory.sizeSub_of_le (by omega) hsize
      rw [payloadType] at htype
      simp only [getElem?_packet (show rtpHeaderSize < packet.length by omega), Option.bind_some,
        htype, hlength] at h
      rw [if_neg (by decide), if_pos trivial, Option.map_eq_some_iff] at h
      obtain ⟨⟨ok, context⟩, haggregate, hresult⟩ := h
      cases hresult
      obtain ⟨passed', hpassed, htiles, hdelivered⟩ := pushAggregate_tiles (by omega) hsize haggregate
      rw [hnone, List.nil_append] at hpassed
      rw [show passed = passed' from hpassed]
      exact ⟨hdelivered.resolve_left Bool.false_ne_true, htiles⟩

-- ---------------------------------------------------------------------------
-- Runs
-- ---------------------------------------------------------------------------

structure Record.Safe (record : Record) : Prop where
  passed : ∀ p ∈ record.passed, p.nal.Inside p.count ∧ Source record.packet p.nal p.count
  tiled : payloadType record.packet = 24 → record.result = true →
    record.passed ≠ [] ∧ Tiles record.packet (rtpHeaderSize + 1) record.passed

structure State.Safe (s : State) : Prop where
  fragments : s.client.reassembler.buffer.Bounded rtpH264MaxNal
  unit : s.client.accessUnit.Bounded rtpH264MaxNal
  records : ∀ record ∈ s.records, record.Safe

def received (m : RtpClient) (arrival : Arrival) : RtpClient :=
  if arrival.reads then (Rtp.receivePacket m arrival.packet).2
  else
    let (_, r, c) :=
      Rtp.rtpH264ReassemblerPush m.reassembler arrival.packet Rtp.saveNal Rtp.countLoss m
    { c with reassembler := r }

structure State.Holds (s : State) (m : RtpClient) : Prop where
  client : s.client.Holds m
  records : ∀ record ∈ s.records, record.Safe

theorem holds_start : ({} : State).Holds {} where
  client := ⟨⟨rfl, rfl, rfl, Allocation.holds_empty, rfl, rfl⟩, Allocation.holds_empty, rfl, rfl, rfl,
    rfl, rfl⟩
  records record hrecord := by cases hrecord

theorem State.Holds.safe {s : State} {m : RtpClient} (h : s.Holds m) : s.Safe :=
  ⟨h.client.reassembler.buffer.bounded, h.client.accessUnit.bounded, h.records⟩

theorem length_of_pushed {m : RtpH264Reassembler} {model : Rtp.NalCallback τ} {loss : τ → τ} {d : τ}
    {packet : List UInt8} (h : (Rtp.rtpH264ReassemblerPush m packet model loss d).1 = true) :
    rtpHeaderSize < packet.length := by
  by_contra hshort
  rw [Rtp.rtpH264ReassemblerPush, if_pos (.inl (Nat.not_lt.mp hshort))] at h
  cases h

theorem step_holds {s : State} {m : RtpClient} (h : s.Holds m) {arrival : Arrival}
    (hsize : arrival.packet.length ≤ 1500) :
    ∃ s', step s arrival = some s' ∧ s'.Holds (received m arrival) := by
  have hsize' : arrival.packet.length < 2 ^ 64 := by omega
  have hcontext : Recorded arrival.packet (s.client, []) m :=
    ⟨h.client, fun p hp => absurd hp List.not_mem_nil⟩
  have hloss : ∀ c d, Recorded arrival.packet c d →
      Recorded arrival.packet (countLoss c.1, c.2) (Rtp.countLoss d) := fun c d hc =>
    ⟨countLoss_holds hc.client, hc.passed⟩
  obtain ⟨⟨r, c, passed⟩, hpush, hr, hc⟩ := push_holds
    (recorded_holds (saveNal_holds arrival.packet arrival.fill)) hloss h.client.reassembler hcontext
    hsize' arrival.fill
  have hlong : (Rtp.rtpH264ReassemblerPush m.reassembler arrival.packet Rtp.saveNal Rtp.countLoss
      m).1 = true → rtpHeaderSize < arrival.packet.length := length_of_pushed
  rw [received, Rtp.receivePacket]
  generalize Rtp.rtpH264ReassemblerPush m.reassembler arrival.packet Rtp.saveNal Rtp.countLoss m =
    pushed at hpush hr hc hlong
  have hclient : Client.Holds { c with reassembler := r }
      { pushed.2.2 with reassembler := pushed.2.1 } :=
    ⟨hr, hc.client.accessUnit, hc.client.accessUnitCapacityHint, hc.client.accessUnitTimestamp,
      hc.client.accessUnitSsrc, hc.client.haveAccessUnit, hc.client.losses⟩
  have hrecords : ∀ record ∈ s.records ++ [⟨arrival.packet, passed, pushed.1⟩], record.Safe := by
    intro record hrecord
    rcases List.mem_append.mp hrecord with hrecord | hrecord
    · exact h.records record hrecord
    · rw [List.mem_singleton] at hrecord
      subst hrecord
      refine ⟨hc.passed, fun htype hresult => ?_⟩
      have hpush' := hpush.trans (congrArg (fun ok => some (ok, r, c, passed)) hresult)
      exact push_tiles hsize' htype hpush'
  rw [step, hpush, Option.bind_some]
  simp only
  cases arrival.reads with
  | false => exact ⟨_, rfl, hclient, hrecords⟩
  | true =>
    obtain ⟨taken, c', htake, -, hc'⟩ := takeUnit_holds hclient hlong
    rw [if_pos rfl, if_pos rfl, htake]
    exact ⟨_, rfl, hc', hrecords⟩

/-- A run in memory never fails, and stands for the run of the model. -/
theorem run_holds {s : State} {m : RtpClient} (h : s.Holds m) {arrivals : List Arrival}
    (hsize : ∀ arrival ∈ arrivals, arrival.packet.length ≤ 1500) :
    ∃ s', Machine.run step s arrivals = some s' ∧ s'.Holds (arrivals.foldl received m) := by
  induction arrivals generalizing s m with
  | nil => exact ⟨s, rfl, h⟩
  | cons arrival arrivals ih =>
    obtain ⟨hfirst, hrest⟩ := List.forall_mem_cons.mp hsize
    obtain ⟨s₁, hstep, h₁⟩ := step_holds h hfirst
    obtain ⟨s', hrun, h'⟩ := ih h₁ hrest
    exact ⟨s', by rw [Machine.run, hstep, Option.bind_some, hrun], h'⟩

/-- Any datagrams of at most 1500 bytes are handled without an access outside of the datagram or a
buffer and without a loop that does not end; lengths stay within the limit and the capacity, a
NAL unit that is passed on is not empty and lies where data is, and a successful aggregate is tiled
by its NAL units. The client is that of the model. -/
theorem datagrams_handled_safely (arrivals : List Arrival)
    (h : ∀ arrival ∈ arrivals, arrival.packet.length ≤ 1500) :
    ∃ s, Machine.run step {} arrivals = some s ∧ s.Safe ∧
      s.client.Holds (arrivals.foldl received {}) := by
  obtain ⟨s, hrun, hs⟩ := run_holds holds_start h
  exact ⟨s, hrun, hs.safe, hs.client⟩

theorem datagrams_handled_safely_aggregate : ∃ s, Machine.run step {}
    [⟨[0x80, 0xe0, 0, 1, 0, 0, 0, 7, 0, 0, 0, 9, 24, 0, 1, 0x67, 0, 2, 0x68, 1], fun _ => 0, true⟩] =
      some s ∧ s.Safe := by
  obtain ⟨s, hrun, hsafe, -⟩ := datagrams_handled_safely
    [⟨[0x80, 0xe0, 0, 1, 0, 0, 0, 7, 0, 0, 0, 9, 24, 0, 1, 0x67, 0, 2, 0x68, 1], fun _ => 0, true⟩]
    (by decide)
  exact ⟨s, hrun, hsafe⟩

end NanokvmRdp.Rtp.Raw
