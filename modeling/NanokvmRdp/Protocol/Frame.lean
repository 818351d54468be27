import NanokvmRdp.Lib.BigEndian

/-!
# Control frames

A control frame is a version byte, a type byte, the payload length as a
big-endian word and the payload. This module has the message type, the
accessors of `protocol.c`, `protocol_send`, and the reading of a byte string
as a sequence of frames (`parse`, `parseAll`). Both receivers are compared
with that reading and neither is defined by it.
-/

namespace NanokvmRdp.Protocol

def controlMaxPayload : Nat := 1024

def protocolVersion : UInt8 := 1

inductive ControlType where
  | hello | startStream | stopStream | idrRequest | key | pointerAbs | pointerRel | wheel
  | releaseAll | ping | pong | stats | error | textUtf8 | keyAck | synchronize
  deriving DecidableEq, Repr

def ControlType.code : ControlType → UInt8
  | .hello => 1
  | .startStream => 2
  | .stopStream => 3
  | .idrRequest => 4
  | .key => 5
  | .pointerAbs => 6
  | .pointerRel => 7
  | .wheel => 8
  | .releaseAll => 9
  | .ping => 10
  | .pong => 11
  | .stats => 12
  | .error => 13
  | .textUtf8 => 14
  | .keyAck => 15
  | .synchronize => 16

/-- The type a received byte names; every other byte falls into a `default`. -/
def ControlType.ofCode? : UInt8 → Option ControlType
  | 1 => some .hello
  | 2 => some .startStream
  | 3 => some .stopStream
  | 4 => some .idrRequest
  | 5 => some .key
  | 6 => some .pointerAbs
  | 7 => some .pointerRel
  | 8 => some .wheel
  | 9 => some .releaseAll
  | 10 => some .ping
  | 11 => some .pong
  | 12 => some .stats
  | 13 => some .error
  | 14 => some .textUtf8
  | 15 => some .keyAck
  | 16 => some .synchronize
  | _ => none

theorem ControlType.ofCode?_code (t : ControlType) : ControlType.ofCode? t.code = some t := by
  cases t <;> rfl

/-- A received message. `payload` is the first `length` bytes of the C array,
which is why it cannot be longer than the array. -/
structure ControlMessage where
  type : UInt8
  payload : List UInt8
  fits : payload.length ≤ controlMaxPayload
  deriving DecidableEq, Repr

def protocolReadU16 (data : List UInt8) : UInt16 :=
  BigEndian.readU16 (data.getD 0 0) (data.getD 1 0)

def protocolReadU32 (data : List UInt8) : UInt32 :=
  BigEndian.readU32 (data.getD 0 0) (data.getD 1 0) (data.getD 2 0) (data.getD 3 0)

def protocolWriteU16 (value : UInt16) : List UInt8 := BigEndian.writeU16 value

def protocolWriteU32 (value : UInt32) : List UInt8 := BigEndian.writeU32 value

@[simp] theorem length_protocolWriteU16 (v : UInt16) : (protocolWriteU16 v).length = 2 := rfl
@[simp] theorem length_protocolWriteU32 (v : UInt32) : (protocolWriteU32 v).length = 4 := rfl

theorem protocolReadU16_write (v : UInt16) (rest : List UInt8) :
    protocolReadU16 (protocolWriteU16 v ++ rest) = v :=
  BigEndian.readU16_writeU16 v

-- ---------------------------------------------------------------------------
-- Sending
-- ---------------------------------------------------------------------------

inductive WriteAnswer where
  | wrote (more : Nat)
  | interrupted
  | failed
  deriving DecidableEq, Repr

/-- A descriptor being written: the answers still to come, the bytes that
went out, and whether it was shut down. Without further answers it fails. -/
structure Sink where
  answers : List WriteAnswer
  written : List UInt8 := []
  shut : Bool := false
  deriving Repr

def writeAllLoop : List WriteAnswer → List UInt8 → List UInt8 → Bool × List WriteAnswer × List UInt8
  | answers, [], written => (true, answers, written)
  | [], _ :: _, written => (false, [], written)
  | .wrote more :: answers, b :: data, written =>
    writeAllLoop answers ((b :: data).drop (more + 1)) (written ++ (b :: data).take (more + 1))
  | .interrupted :: answers, b :: data, written => writeAllLoop answers (b :: data) written
  | .failed :: answers, _ :: _, written => (false, answers, written)

def writeAll (sink : Sink) (data : List UInt8) : Bool × Sink :=
  let (ok, answers, written) := writeAllLoop sink.answers data sink.written
  (ok, { sink with answers := answers, written := written })

def frame (type : UInt8) (payload : List UInt8) : List UInt8 :=
  [protocolVersion, type] ++ protocolWriteU16 payload.length.toUInt16 ++ payload

def protocolSend (sink : Sink) (type : UInt8) (payload : List UInt8) : Bool × Sink :=
  if payload.length > controlMaxPayload then (false, sink)
  else match writeAll sink (frame type payload) with
    | (true, sink) => (true, sink)
    -- A partially written frame cannot be followed by another one.
    | (false, sink) => (false, { sink with shut := true })

theorem writeAllLoop_ok (h : (writeAllLoop answers data written).1 = true) :
    (writeAllLoop answers data written).2.2 = written ++ data := by
  induction answers, data, written using writeAllLoop.induct with
  | case1 => simp [writeAllLoop]
  | case2 => simp [writeAllLoop] at h
  | case3 more answers b data written ih =>
    rw [writeAllLoop] at h ⊢
    rw [ih h, List.append_assoc, List.take_append_drop]
  | case4 answers b data written ih =>
    rw [writeAllLoop] at h ⊢
    exact ih h
  | case5 => simp [writeAllLoop] at h

theorem protocolSend_ok (h : (protocolSend sink type payload).1 = true) :
    payload.length ≤ controlMaxPayload ∧
      (protocolSend sink type payload).2.written = sink.written ++ frame type payload := by
  unfold protocolSend at h ⊢
  split at h
  · cases h
  · rename_i hlen
    refine ⟨Nat.not_lt.mp hlen, ?_⟩
    rw [if_neg hlen]
    cases hw : writeAll sink (frame type payload) with
    | mk ok after =>
      cases ok with
      | false => simp [hw] at h
      | true =>
        have hloop : (writeAllLoop sink.answers (frame type payload) sink.written).1 = true :=
          congrArg Prod.fst hw
        have hafter := congrArg (fun r => r.2.written) hw
        simp only [writeAll] at hafter
        simp only
        rw [← hafter, writeAllLoop_ok hloop]

-- ---------------------------------------------------------------------------
-- A byte string as frames
-- ---------------------------------------------------------------------------

def headerLength (data : List UInt8) : Nat := (protocolReadU16 (data.drop 2)).toNat

def HeaderValid (data : List UInt8) : Prop :=
  data.getD 0 0 = protocolVersion ∧ headerLength data ≤ controlMaxPayload

instance (data : List UInt8) : Decidable (HeaderValid data) := by
  unfold HeaderValid
  infer_instance

def messageAt (data : List UInt8) (h : HeaderValid data) : ControlMessage where
  type := data.getD 1 0
  payload := (data.drop 4).take (headerLength data)
  fits := by
    rw [List.length_take]
    exact (Nat.min_le_left _ _).trans h.2

/-- How a byte string starts: with a whole frame, with too few bytes to tell,
or with a header no receiver accepts. -/
inductive Parsed where
  | message (m : ControlMessage) (rest : List UInt8)
  | short
  | invalid

def parse (data : List UInt8) : Parsed :=
  if data.length < 4 then .short
  else if h : HeaderValid data then
    if data.length < 4 + headerLength data then .short
    else .message (messageAt data h) (data.drop (4 + headerLength data))
  else .invalid

inductive Ending where
  | short
  | invalid
  deriving DecidableEq, Repr

theorem parse_length (h : parse data = .message m rest) : rest.length < data.length := by
  unfold parse at h
  split at h
  · cases h
  · split at h
    · split at h
      · cases h
      · cases h
        rw [List.length_drop]
        omega
    · cases h

def parseAll (data : List UInt8) : List ControlMessage × Ending :=
  match _hp : parse data with
  | .message m rest =>
    let (ms, e) := parseAll rest
    (m :: ms, e)
  | .short => ([], .short)
  | .invalid => ([], .invalid)
termination_by data.length
decreasing_by exact parse_length _hp

theorem parseAll_message (h : parse data = .message m rest) :
    parseAll data = (m :: (parseAll rest).1, (parseAll rest).2) := by
  rw [parseAll]
  split
  · rename_i heq
    rw [h] at heq
    cases heq
    rfl
  · rename_i heq
    rw [h] at heq
    cases heq
  · rename_i heq
    rw [h] at heq
    cases heq

theorem parseAll_short (h : parse data = .short) : parseAll data = ([], .short) := by
  rw [parseAll]
  split <;> rename_i heq <;> rw [h] at heq <;> cases heq

theorem parseAll_invalid (h : parse data = .invalid) : parseAll data = ([], .invalid) := by
  rw [parseAll]
  split <;> rename_i heq <;> rw [h] at heq <;> cases heq

end NanokvmRdp.Protocol
