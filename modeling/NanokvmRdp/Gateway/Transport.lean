import NanokvmRdp.Protocol.Frame

/-!
# The agent transport

The state of `agent_transport.c` and its functions, cut at the transport lock:
each definition is one locked section. A descriptor is a number, and `none`
stands for `-1`. Clock readings taken under the lock are arguments.
-/

namespace NanokvmRdp.Gateway

open Protocol

def heartbeatIntervalMs : UInt64 := 1000
def heartbeatTimeoutMs : UInt64 := 5000

structure AgentTransportStats where
  sentPackets : UInt32 := 0
  droppedPackets : UInt32 := 0
  captureFrames : UInt32 := 0
  droppedFrames : UInt32 := 0
  deriving DecidableEq, Repr

structure AgentTransport where
  fd : Option Nat := none
  pendingFd : Option Nat := none
  epoch : UInt64 := 0
  lastActivityAt : UInt64 := 0
  lastPingAt : UInt64 := 0
  streamRequested : Bool := false
  supportsKeyAck : Bool := false
  heartbeatTimedOut : Bool := false
  stopping : Bool := false
  waitingKeySequence : UInt32 := 0
  keyAckReceived : Bool := false
  keyAckSuccess : Bool := false
  stats : AgentTransportStats := {}
  deriving DecidableEq, Repr

def plainHello : ControlMessage := ⟨ControlType.hello.code, List.replicate 8 0, by decide⟩

namespace AgentTransport

def isCurrent (t : AgentTransport) (fd : Nat) (epoch : UInt64) : Bool :=
  !t.stopping && t.fd == some fd && t.epoch == epoch

def target (t : AgentTransport) : Option (Nat × UInt64) :=
  if t.stopping then none else t.fd.map fun fd => (fd, t.epoch)

def cancelKeyAck (t : AgentTransport) : AgentTransport :=
  { t with waitingKeySequence := 0, keyAckReceived := false, keyAckSuccess := false }

-- ---------------------------------------------------------------------------
-- Accepting
-- ---------------------------------------------------------------------------

/-- The first section of `agent_transport_accept`: one handshake at a time. -/
def acceptBegin (t : AgentTransport) (fd : Nat) : Bool × AgentTransport :=
  if !t.stopping && t.pendingFd.isNone then (true, { t with pendingFd := some fd }) else (false, t)

def validHello (hello : ControlMessage) : Bool :=
  hello.type == ControlType.hello.code && (hello.payload.length == 8 || hello.payload.length == 9)

def helloSupportsKeyAck (hello : ControlMessage) : Bool :=
  hello.payload.length == 9 && hello.payload.getD 8 0 &&& 0x01 != 0

structure Accepted where
  epoch : UInt64
  replacedFd : Option Nat
  sendStart : Bool
  deriving DecidableEq, Repr

def endHandshake (t : AgentTransport) (fd : Nat) : AgentTransport :=
  if t.pendingFd = some fd then { t with pendingFd := none } else t

def connect (t : AgentTransport) (fd : Nat) (hello : ControlMessage) (now : UInt64) :
    AgentTransport :=
  cancelKeyAck { t with
    fd := some fd
    epoch := t.epoch + 1
    supportsKeyAck := helloSupportsKeyAck hello
    lastActivityAt := now
    lastPingAt := now
    heartbeatTimedOut := false }

/-- The second section of `agent_transport_accept`, after `protocol_receive`. -/
def acceptEnd (t : AgentTransport) (fd : Nat) (hello : Option ControlMessage) (now : UInt64) :
    Option Accepted × AgentTransport :=
  let t := t.endHandshake fd
  match hello with
  | none => (none, t)
  | some hello =>
    if validHello hello && !t.stopping then
      (some ⟨t.epoch + 1, t.fd, t.streamRequested⟩, t.connect fd hello now)
    else (none, t)

-- ---------------------------------------------------------------------------
-- Running
-- ---------------------------------------------------------------------------

def receiveKeyAck (t : AgentTransport) (payload : List UInt8) : AgentTransport :=
  if payload.length = 5 ∧ t.waitingKeySequence = protocolReadU32 payload then
    { t with keyAckReceived := true, keyAckSuccess := payload.getD 4 0 != 0 }
  else t

def receiveStats (t : AgentTransport) (payload : List UInt8) : AgentTransport :=
  if payload.length = 16 then
    { t with stats :=
      { sentPackets := protocolReadU32 payload
        droppedPackets := protocolReadU32 (payload.drop 4)
        captureFrames := protocolReadU32 (payload.drop 8)
        droppedFrames := protocolReadU32 (payload.drop 12) } }
  else t

/-- `handle_message`; the result is true when a `PONG` is to be sent. -/
def handleMessage (t : AgentTransport) (fd : Nat) (epoch : UInt64) (message : ControlMessage)
    (now : UInt64) : Bool × AgentTransport :=
  if t.isCurrent fd epoch then
    let t := { t with lastActivityAt := now }
    match ControlType.ofCode? message.type with
    | some .keyAck => (false, t.receiveKeyAck message.payload)
    | some .stats => (false, t.receiveStats message.payload)
    | some .ping => (true, t)
    | _ => (false, t)
  else (false, t)

/-- The end of `agent_transport_run`; the result is true when `DISCONNECTED` is
published. -/
def runEnd (t : AgentTransport) (fd : Nat) (epoch : UInt64) : Bool × AgentTransport :=
  if t.fd = some fd ∧ t.epoch = epoch then
    (!t.stopping, cancelKeyAck { t with fd := none, supportsKeyAck := false })
  else (false, t)

def shutdown (t : AgentTransport) : AgentTransport := { t with stopping := true }

/-- `agent_transport_set_stream_requested`, with the connection to tell. -/
def setStreamRequested (t : AgentTransport) (requested : Bool) :
    Option (Nat × UInt64) × AgentTransport :=
  (t.target, { t with streamRequested := requested })

def isCurrentEpoch (t : AgentTransport) (epoch : UInt64) : Bool :=
  !t.stopping && t.fd.isSome && t.epoch == epoch

-- ---------------------------------------------------------------------------
-- Key acknowledgements
-- ---------------------------------------------------------------------------

def beginKeyAck (t : AgentTransport) (sequence : UInt32) : Bool × AgentTransport :=
  if sequence ≠ 0 ∧ !t.stopping ∧ t.fd.isSome ∧ t.supportsKeyAck then
    (true, { t with waitingKeySequence := sequence, keyAckReceived := false, keyAckSuccess := false })
  else (false, t)

/-- `received` and `success`, or `none` where the function returns false. -/
def getKeyAck (t : AgentTransport) (sequence : UInt32) : Option (Bool × Bool) :=
  if sequence ≠ 0 ∧ t.waitingKeySequence = sequence then some (t.keyAckReceived, t.keyAckSuccess)
  else none

-- ---------------------------------------------------------------------------
-- Heartbeat
-- ---------------------------------------------------------------------------

/-- What a heartbeat does after the lock: nothing, send a `PING`, or publish
`HEARTBEAT_TIMEOUT`. -/
inductive Beat where
  | none
  | ping (fd : Nat) (epoch : UInt64)
  | timeout (epoch : UInt64)
  deriving DecidableEq, Repr

/-- The subtraction is unsigned. -/
def overdue (t : AgentTransport) (now : UInt64) : Bool :=
  !t.heartbeatTimedOut && now - t.lastActivityAt > heartbeatTimeoutMs

def heartbeat (t : AgentTransport) (now : UInt64) : Beat × AgentTransport :=
  match t.target with
  | none => (.none, t)
  | some (fd, epoch) =>
    if t.overdue now then
      (.timeout epoch, { t with heartbeatTimedOut := true, streamRequested := false })
    else if !t.heartbeatTimedOut && now - t.lastPingAt ≥ heartbeatIntervalMs then
      (.ping fd epoch, { t with lastPingAt := now })
    else (.none, t)

end AgentTransport

end NanokvmRdp.Gateway
