import NanokvmRdp.Lib.Allocation
import NanokvmRdp.Rtp.Client

/-!
# The receiver in memory

The reassembler and the client again, with their buffers as the source has
them: allocations with a length and a capacity, growth loops, offsets into the
datagram and subtractions of `size_t`. Every access is checked, and a loop that
does not end has no result. The NAL units that a datagram passes on are recorded.
-/

namespace NanokvmRdp.Rtp.Raw

structure Reassembler where
  expectedSequence : UInt16 := 0
  haveSequence : Bool := false
  assembling : Bool := false
  buffer : Allocation UInt8 := {}
  nalHeader : UInt8 := 0
  timestamp : UInt32 := 0

def readU16 (memory : List UInt8) (offset : Nat) : Checked UInt16 :=
  (Memory.load memory offset 2).map (readU16At · 0)

def readU32 (memory : List UInt8) (offset : Nat) : Checked UInt32 :=
  (Memory.load memory offset 4).map (readU32At · 0)

def reassemblerCapacity (capacity needed : Nat) : Checked Nat :=
  growWhile (· < needed) (· * 2 % 2 ^ 64) needed (if capacity = 0 then 2048 else capacity)

def append (fill : Nat → UInt8) (r : Reassembler) (data : Pointer UInt8) (count : Nat) :
    Checked (Bool × Reassembler) :=
  (r.buffer.append rtpH264MaxNal reassemblerCapacity fill data count).map fun result =>
    (result.1, { r with buffer := result.2 })

/-- The NAL callback gets a place in memory and a length. -/
abbrev NalCallback (σ : Type) := σ → Pointer UInt8 → Nat → UInt32 → Bool → Checked (Bool × σ)

def deliver (r : Reassembler) (callback : NalCallback σ) (context : σ) (marker : Bool) :
    Checked (Bool × Reassembler × σ) :=
  (callback context ⟨r.buffer.memory, r.buffer.length, 0⟩ r.buffer.length r.timestamp marker).map
    fun result => (result.1, { r with assembling := false, buffer := r.buffer.clear }, result.2)

def pushAggregate (packet : List UInt8) (payloadLength : Nat) (timestamp : UInt32) (marker : Bool)
    (callback : NalCallback σ) : Nat → Nat → Bool → σ → Checked (Bool × σ)
  | 0, _, _, _ => none
  | fuel + 1, offset, delivered, context =>
    if offset + 2 ≤ payloadLength then
      (readU16 packet (rtpHeaderSize + offset)).bind fun length =>
        let nalLength := length.toNat
        let offset := offset + 2
        if nalLength = 0 ∨ nalLength > Memory.sizeSub payloadLength offset then
          some (false, context)
        else
          (callback context ⟨packet, packet.length, rtpHeaderSize + offset⟩ nalLength timestamp
            (marker && offset + nalLength == payloadLength)).bind fun
            | (false, context) => some (false, context)
            | (true, context) =>
              pushAggregate packet payloadLength timestamp marker callback fuel
                (offset + nalLength) true context
    else some (delivered && offset == payloadLength, context)

def startFragment (fill : Nat → UInt8) (r : Reassembler) (packet : List UInt8)
    (timestamp : UInt32) : Checked (Bool × Reassembler) :=
  packet[rtpHeaderSize + 1]?.bind fun second =>
    if second &&& 0x80 ≠ 0 then
      packet[rtpHeaderSize]?.bind fun first =>
        let nalHeader := (first &&& 0xe0) ||| (second &&& 0x1f)
        append fill { r with assembling := true, timestamp, buffer := r.buffer.clear, nalHeader }
          ⟨[nalHeader], 1, 0⟩ 1
    else some (true, r)

def pushFragment (fill : Nat → UInt8) (r : Reassembler) (packet : List UInt8) (payloadLength : Nat)
    (timestamp : UInt32) (marker : Bool) (callback : NalCallback σ) (context : σ) :
    Checked (Bool × Reassembler × σ) :=
  (startFragment fill r packet timestamp).bind fun
    | (false, r) => some (false, r, context)
    | (true, r) =>
      if !r.assembling || timestamp != r.timestamp then some (false, r, context)
      else
        (append fill r ⟨packet, packet.length, rtpHeaderSize + 2⟩
          (Memory.sizeSub payloadLength 2)).bind fun
          | (false, r) => some (false, r, context)
          | (true, r) =>
            packet[rtpHeaderSize + 1]?.bind fun second =>
              if second &&& 0x40 ≠ 0 then deliver r callback context marker
              else some (true, r, context)

def pushPayload (fill : Nat → UInt8) (r : Reassembler) (packet : List UInt8) (timestamp : UInt32)
    (marker : Bool) (callback : NalCallback σ) (context : σ) : Checked (Bool × Reassembler × σ) :=
  let payloadLength := Memory.sizeSub packet.length rtpHeaderSize
  packet[rtpHeaderSize]?.bind fun first =>
    let type := first &&& 0x1f
    if 1 ≤ type ∧ type ≤ 23 then
      (callback context ⟨packet, packet.length, rtpHeaderSize⟩ payloadLength timestamp marker).map
        fun result => (result.1, r, result.2)
    else if type = 24 then
      (pushAggregate packet payloadLength timestamp marker callback (payloadLength + 1) 1 false
        context).map fun result => (result.1, r, result.2)
    else if type ≠ 28 ∨ payloadLength < 3 then some (true, r, context)
    else pushFragment fill r packet payloadLength timestamp marker callback context

/-- A packet that is not the expected one drops the fragments gathered so far. -/
def noteSequence (r : Reassembler) (sequence : UInt16) (lossCallback : σ → σ) (context : σ) :
    Reassembler × σ :=
  let (r, context) :=
    if r.haveSequence ∧ sequence ≠ r.expectedSequence then
      ({ r with assembling := false, buffer := r.buffer.clear }, lossCallback context)
    else (r, context)
  ({ r with haveSequence := true, expectedSequence := sequence + 1 }, context)

def rtpH264ReassemblerPush (fill : Nat → UInt8) (r : Reassembler) (packet : List UInt8)
    (nalCallback : NalCallback σ) (lossCallback : σ → σ) (context : σ) :
    Checked (Bool × Reassembler × σ) :=
  if packet.length ≤ rtpHeaderSize then some (false, r, context)
  else packet[0]?.bind fun (version : UInt8) =>
    if version >>> 6 ≠ 2 then some (false, r, context)
    else (readU16 packet 2).bind fun sequence =>
      let (r, context) := noteSequence r sequence lossCallback context
      (readU32 packet 4).bind fun timestamp =>
        packet[1]?.bind fun second =>
          pushPayload fill r packet timestamp (second &&& 0x80 != 0) nalCallback context

-- ---------------------------------------------------------------------------
-- The client
-- ---------------------------------------------------------------------------

structure Client where
  reassembler : Reassembler := {}
  accessUnit : Allocation UInt8 := {}
  accessUnitCapacityHint : Nat := 0
  accessUnitTimestamp : UInt32 := 0
  accessUnitSsrc : UInt32 := 0
  haveAccessUnit : Bool := false
  losses : UInt32 := 0

def accessUnitCapacity (hint capacity needed : Nat) : Checked Nat :=
  let first := if capacity = 0 then hint else capacity
  growWhile (· < needed) nextCapacity needed
    (if first < 4096 ∨ first > rtpH264MaxNal then 4096 else first)

def appendAccessUnit (fill : Nat → UInt8) (c : Client) (data : Pointer UInt8) (count : Nat) :
    Checked (Bool × Client) :=
  (c.accessUnit.append rtpH264MaxNal (accessUnitCapacity c.accessUnitCapacityHint) fill data
    count).map fun result => (result.1, { c with accessUnit := result.2 })

def capacityHint (length : Nat) : Checked Nat :=
  growWhile (fun capacity => capacity < length && capacity < rtpH264MaxNal) nextCapacity length 4096

/-- `save_nal`, up to where the start code goes in. -/
def startUnit (c : Client) (timestamp : UInt32) : Client :=
  if !c.haveAccessUnit || c.accessUnitTimestamp != timestamp then
    { c with
      accessUnit := c.accessUnit.clear
      accessUnitTimestamp := timestamp
      haveAccessUnit := true }
  else c

def saveNal (fill : Nat → UInt8) : NalCallback Client := fun c nal count timestamp _ =>
  (appendAccessUnit fill (startUnit c timestamp) ⟨[0, 0, 0, 1], 4, 0⟩ 4).bind fun
    | (false, c) => some (false, c)
    | (true, c) => appendAccessUnit fill c nal count

def countLoss (c : Client) : Client :=
  { c with losses := c.losses + 1, accessUnit := c.accessUnit.clear, haveAccessUnit := false }

/-- The end of the loop in `rtp_client_read_h264`: a unit goes to the caller with its memory. -/
def takeUnit (c : Client) (pushed : Bool) (packet : List UInt8) :
    Checked (Option (Pointer UInt8) × Client) :=
  if !pushed then some (none, c)
  else packet[1]?.bind fun second =>
    if second &&& 0x80 = 0 ∨ c.accessUnit.length = 0 then some (none, c)
    else (readU32 packet 8).bind fun ssrc =>
      (capacityHint c.accessUnit.length).map fun hint =>
        (some ⟨c.accessUnit.memory, c.accessUnit.length, 0⟩,
          { c with
            accessUnitSsrc := ssrc
            accessUnitCapacityHint := hint
            accessUnit := {}
            haveAccessUnit := false })

-- ---------------------------------------------------------------------------
-- Records
-- ---------------------------------------------------------------------------

structure Passed where
  nal : Pointer UInt8
  count : Nat

def recorded (callback : NalCallback σ) : NalCallback (σ × List Passed) :=
  fun context nal count timestamp marker =>
    (callback context.1 nal count timestamp marker).map fun result =>
      (result.1, result.2, context.2 ++ [⟨nal, count⟩])

structure Record where
  packet : List UInt8
  passed : List Passed
  result : Bool

/-- A datagram, the contents of fresh memory, and whether the caller is `rtp_client_read_h264`,
which takes a unit at a marker. -/
structure Arrival where
  packet : List UInt8
  fill : Nat → UInt8
  reads : Bool

structure State where
  client : Client := {}
  records : List Record := []

def step (s : State) (arrival : Arrival) : Checked State :=
  (rtpH264ReassemblerPush arrival.fill s.client.reassembler arrival.packet
    (recorded (saveNal arrival.fill)) (fun context => (countLoss context.1, context.2))
    (s.client, [])).bind fun (result, reassembler, client, passed) =>
      let client := { client with reassembler }
      let records := s.records ++ [⟨arrival.packet, passed, result⟩]
      if arrival.reads then
        (takeUnit client result arrival.packet).map fun taken => ⟨taken.2, records⟩
      else some ⟨client, records⟩

end NanokvmRdp.Rtp.Raw
