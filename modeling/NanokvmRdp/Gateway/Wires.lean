import NanokvmRdp.Gateway.TransportLaws
import NanokvmRdp.Lib.Machine
import NanokvmRdp.Lib.Pieces

/-!
# What the senders put on the wires

`agent_transport_send` and its siblings capture the current connection under
the lock; `send_for_epoch` comes later, one writer at a time. It looks again
whether the connection is current, duplicates the descriptor, leaves the lock
and writes. Meanwhile the connection may be replaced, shut down, cleaned up
and its descriptor reused. A wire refuses bytes once it is shut down.
-/

namespace NanokvmRdp.Gateway

open Protocol

-- ---------------------------------------------------------------------------
-- Wires, calls and senders
-- ---------------------------------------------------------------------------

structure Endpoint where
  fd : Nat
  epoch : UInt64
  isOpen : Bool := true
  deriving DecidableEq, Repr

structure Wire extends Endpoint where
  shut : Bool := false
  bytes : List UInt8 := []
  deriving DecidableEq, Repr

/-- A call before `send_for_epoch`: what it captured, `none` for `fd = -1`, and
the frame. `connection` is the place of the captured connection among all that
were accepted. -/
structure SendCall where
  target : Option (Nat × UInt64)
  connection : Nat
  type : UInt8
  payload : List UInt8 := []
  deriving DecidableEq, Repr

def SendCall.frame (call : SendCall) : List UInt8 := Protocol.frame call.type call.payload

theorem SendCall.frame_ne_nil (call : SendCall) : call.frame ≠ [] := by
  simp [SendCall.frame, Protocol.frame]

structure Attempt where
  call : SendCall
  wire : Option Nat
  written : List UInt8
  deriving DecidableEq, Repr

structure Writer where
  call : SendCall
  wire : Nat
  written : List UInt8 := []
  rest : List UInt8
  failed : Bool := false
  deriving DecidableEq, Repr

namespace Writer

def attempt (writer : Writer) : Attempt := ⟨writer.call, some writer.wire, writer.written⟩

def taken (writer : Writer) : WriteAnswer → List UInt8
  | .wrote more => writer.rest.take (more + 1)
  | .interrupted | .failed => []

/-- One turn of the loop in `write_all`. -/
def write (writer : Writer) (answer : WriteAnswer) : Option Writer :=
  if writer.failed ∨ writer.rest = [] then none
  else
    match answer with
    | .wrote more =>
      some { writer with
        written := writer.written ++ writer.rest.take (more + 1)
        rest := writer.rest.drop (more + 1) }
    | .interrupted => some writer
    | .failed => some { writer with failed := true }

end Writer

/-- `calls` have not taken `send_lock`; `returned` are over, with their results. -/
structure Wires where
  transport : AgentTransport := {}
  wires : List Wire := []
  calls : List SendCall := []
  writer : Option Writer := none
  returned : List (Attempt × Bool) := []
  deriving DecidableEq

/-- Connections are named by their place among all that were accepted. `cut`
shuts one down: its peer, or the `shutdown` of a connection that was replaced.
`sendForEpoch` tells whether `dup` succeeds. -/
inductive WireEvent where
  | acceptBegin (fd : Nat)
  | acceptEnd (fd : Nat) (hello : Option ControlMessage) (now : UInt64)
  | message (connection : Nat) (message : ControlMessage) (now : UInt64)
  | runEnd (connection : Nat)
  | shutdown
  | cut (connection : Nat)
  | send (type : UInt8) (payload : List UInt8)
  | setStreamRequested (requested : Bool)
  | heartbeat (now : UInt64)
  | sendForEpoch (call : Nat) (duplicated : Bool)
  | write (answer : WriteAnswer)
  | finish
  deriving DecidableEq, Repr

namespace Wires

-- ---------------------------------------------------------------------------
-- The steps
-- ---------------------------------------------------------------------------

def endpoints (s : Wires) : List Endpoint := s.wires.map Wire.toEndpoint

def last (s : Wires) : Nat := s.wires.length - 1

def descriptors (s : Wires) : List Nat :=
  s.transport.pendingFd.toList ++ (s.wires.filter (·.isOpen)).map (·.fd)

/-- The connection behind a descriptor number. -/
def lookup (s : Wires) (fd : Nat) : Option Nat :=
  s.endpoints.findIdx? fun endpoint => endpoint.isOpen && endpoint.fd == fd

def cut (s : Wires) (connection : Nat) : Wires :=
  { s with wires := s.wires.modify connection fun wire => { wire with shut := true } }

def shutdownFd (s : Wires) (fd : Option Nat) : Wires :=
  match fd.bind s.lookup with
  | none => s
  | some connection => s.cut connection

/-- A descriptor that is refused is closed. -/
def acceptBegin (s : Wires) (fd : Nat) : Option Wires :=
  if fd ∈ s.descriptors then none
  else some { s with transport := (s.transport.acceptBegin fd).2 }

def acceptEnd (s : Wires) (fd : Nat) (hello : Option ControlMessage) (now : UInt64) : Option Wires :=
  if s.transport.pendingFd ≠ some fd then none
  else
    match s.transport.acceptEnd fd hello now with
    | (none, transport) => some { s with transport }
    | (some accepted, transport) =>
      some { s with
        transport
        wires := s.wires ++ [{ fd, epoch := accepted.epoch }]
        calls :=
          if accepted.sendStart then
            s.calls ++ [{
              target := some (fd, accepted.epoch)
              connection := s.wires.length
              type := ControlType.startStream.code }]
          else s.calls }

def message (s : Wires) (connection : Nat) (message : ControlMessage) (now : UInt64) (wire : Wire) :
    Option Wires :=
  if wire.isOpen then
    match s.transport.handleMessage wire.fd wire.epoch message now with
    | (pong, transport) =>
      some { s with
        transport
        calls :=
          if pong then
            s.calls ++ [{ target := some (wire.fd, wire.epoch), connection, type := ControlType.pong.code }]
          else s.calls }
  else none

def runEnd (s : Wires) (connection : Nat) (wire : Wire) : Option Wires :=
  if wire.isOpen then
    some { s with
      transport := (s.transport.runEnd wire.fd wire.epoch).2
      wires := s.wires.modify connection fun wire => { wire with isOpen := false } }
  else none

def shutdown (s : Wires) : Wires :=
  { s with transport := s.transport.shutdown }.shutdownFd s.transport.fd

def send (s : Wires) (type : UInt8) (payload : List UInt8) : Wires :=
  { s with
    calls := s.calls ++ [{ target := s.transport.target, connection := s.last, type, payload }] }

def setStreamRequested (s : Wires) (requested : Bool) : Wires :=
  match s.transport.setStreamRequested requested with
  | (target, transport) =>
    { s with
      transport
      calls := s.calls ++ [{
        target
        connection := s.last
        type := if requested then ControlType.startStream.code else ControlType.stopStream.code }] }

def heartbeat (s : Wires) (now : UInt64) : Wires :=
  match s.transport.heartbeat now with
  | (.none, transport) => { s with transport }
  | (.ping fd epoch, transport) =>
    { s with
      transport
      calls := s.calls ++ [{
        target := some (fd, epoch), connection := s.last, type := ControlType.ping.code }] }
  | (.timeout _, transport) => { s with transport }.shutdownFd s.transport.fd

def refuse (s : Wires) (i : Nat) (call : SendCall) : Wires :=
  { s with
    calls := s.calls.eraseIdx i
    returned := s.returned ++ [(⟨call, none, []⟩, false)] }

/-- `send_for_epoch` up to the first `write` of `protocol_send`. -/
def sendForEpoch (s : Wires) (i : Nat) (duplicated : Bool) (call : SendCall) : Option Wires :=
  match call.target with
  | none => some (s.refuse i call)
  | some (fd, epoch) =>
    if s.writer.isSome then none
    else
      match if s.transport.isCurrent fd epoch && duplicated then s.lookup fd else none with
      | none => some (s.refuse i call)
      | some wire =>
        if call.payload.length > controlMaxPayload then some (s.refuse i call)
        else some { s with calls := s.calls.eraseIdx i, writer := some { call, wire, rest := call.frame } }

def put (s : Wires) (data : List UInt8) (writer : Writer) : Wires :=
  { s with
    writer := some writer
    wires := s.wires.modify writer.wire fun wire => { wire with bytes := wire.bytes ++ data } }

/-- A wire that is shut down takes no bytes. -/
def write (s : Wires) (answer : WriteAnswer) (writer : Writer) : Option Wires :=
  match s.wires[writer.wire]?, writer.write answer with
  | some wire, some next =>
    if wire.shut ∧ writer.taken answer ≠ [] then none else some (s.put (writer.taken answer) next)
  | _, _ => none

def finish (s : Wires) (writer : Writer) : Option Wires :=
  if writer.failed then
    some { s.cut writer.wire with
      writer := none, returned := s.returned ++ [(writer.attempt, false)] }
  else if writer.rest = [] then
    some { s with writer := none, returned := s.returned ++ [(writer.attempt, true)] }
  else none

def step (s : Wires) : WireEvent → Option Wires
  | .acceptBegin fd => s.acceptBegin fd
  | .acceptEnd fd hello now => s.acceptEnd fd hello now
  | .message connection message now =>
    s.wires[connection]?.bind (s.message connection message now)
  | .runEnd connection => s.wires[connection]?.bind (s.runEnd connection)
  | .shutdown => some s.shutdown
  | .cut connection => some (s.cut connection)
  | .send type payload => some (s.send type payload)
  | .setStreamRequested requested => some (s.setStreamRequested requested)
  | .heartbeat now => some (s.heartbeat now)
  | .sendForEpoch i duplicated => s.calls[i]?.bind (s.sendForEpoch i duplicated)
  | .write answer => s.writer.bind (s.write answer)
  | .finish => s.writer.bind s.finish

def attempts (s : Wires) (connection : Nat) : List Attempt :=
  (s.returned.map (·.1) ++ s.writer.toList.map Writer.attempt).filter (·.wire = some connection)

end Wires

end NanokvmRdp.Gateway
