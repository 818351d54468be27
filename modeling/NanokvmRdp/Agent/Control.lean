import NanokvmRdp.Hid.Device
import NanokvmRdp.Protocol.Frame

/-!
# The agent's control loop

`handle_control` of `agent.c` and the steps of the main loop that touch the
HID state. A step that fails to deliver input ends in `hid_release_all`.
-/

namespace NanokvmRdp

open Hid Protocol

/-- The fields of `Agent` that control messages read or write. `sent` holds the
messages handed to `protocol_send`, whose result is not looked at. -/
structure Agent where
  hid : HidState
  streaming : Bool := false
  waitForIdr : Bool := true
  connected : Bool := false
  lastPongAt : UInt64 := 0
  inputEvents : UInt64 := 0
  maxInputHandlerMs : UInt64 := 0
  sent : List (ControlType × List UInt8) := []

namespace Agent

def setHid (agent : Agent) (hid : HidState) : Agent := { agent with hid }

@[simp] theorem hid_setHid (agent : Agent) (hid : HidState) : (agent.setHid hid).hid = hid := rfl

def outcome (agent : Agent) (result : Bool × HidState) : Bool × Agent :=
  (result.1, agent.setHid result.2)

@[simp] theorem outcome_fst (agent : Agent) (result : Bool × HidState) :
    (agent.outcome result).1 = result.1 := rfl

@[simp] theorem hid_outcome (agent : Agent) (result : Bool × HidState) :
    (agent.outcome result).2.hid = result.2 := rfl

def protocolSend (agent : Agent) (type : ControlType) (payload : List UInt8) : Agent :=
  { agent with sent := agent.sent ++ [(type, payload)] }

@[simp] theorem hid_protocolSend (agent : Agent) (type : ControlType) (payload : List UInt8) :
    (agent.protocolSend type payload).hid = agent.hid := rfl

/-- The `NANOKVM_CONTROL_KEY` case. The longer message asks for an answer with
its sequence number and the result. -/
def handleKey (agent : Agent) : List UInt8 → Bool × Agent
  | [code, extended, release] =>
    agent.outcome (agent.hid.hidScancode code (extended != 0) (release != 0))
  | [code, extended, release, s₀, s₁, s₂, s₃] =>
    let handled := agent.outcome (agent.hid.hidScancode code (extended != 0) (release != 0))
    (handled.1, handled.2.protocolSend .keyAck [s₀, s₁, s₂, s₃, if handled.1 then 1 else 0])
  | _ => (true, agent)

def handlePointerAbs (agent : Agent) (payload : List UInt8) : Bool × Agent :=
  if payload.length = 12 then
    agent.outcome (agent.hid.hidAbsolute (protocolReadU16 payload) (protocolReadU16 (payload.drop 2))
      (protocolReadU16 (payload.drop 4)).toUInt32 (protocolReadU16 (payload.drop 6)).toUInt32
      (protocolReadU16 (payload.drop 8)))
  else (true, agent)

def handlePointerRel (agent : Agent) (payload : List UInt8) : Bool × Agent :=
  if payload.length = 5 then
    agent.outcome (agent.hid.hidRelative (protocolReadU16 payload).toInt16
      (protocolReadU16 (payload.drop 2)).toInt16 (payload.getD 4 0))
  else (true, agent)

def handleWheel (agent : Agent) (payload : List UInt8) : Bool × Agent :=
  if payload.length = 2 then agent.outcome (agent.hid.hidWheel (protocolReadU16 payload))
  else (true, agent)

/-- Text that cannot be typed is released here once more, and counts as handled. -/
def handleText (agent : Agent) (payload : List UInt8) : Agent :=
  if payload = [] then agent
  else
    match agent.hid.hidTypeUtf8 payload with
    | (true, hid) => agent.setHid hid
    | (false, hid) => agent.setHid hid.hidReleaseAll

def dispatch (agent : Agent) (message : ControlMessage) : Bool × Agent :=
  match ControlType.ofCode? message.type with
  | some .startStream => (true, { agent with streaming := true, waitForIdr := true })
  | some .stopStream => (true, { agent with streaming := false, hid := agent.hid.hidReleaseAll })
  | some .idrRequest => (true, { agent with waitForIdr := true })
  | some .key => agent.handleKey message.payload
  | some .textUtf8 => (true, agent.handleText message.payload)
  | some .pointerAbs => agent.handlePointerAbs message.payload
  | some .pointerRel => agent.handlePointerRel message.payload
  | some .wheel => agent.handleWheel message.payload
  | some .releaseAll => (true, agent.setHid agent.hid.hidReleaseAll)
  | some .synchronize => agent.outcome agent.hid.hidSynchronize
  | some .ping => (true, agent.protocolSend .pong [])
  | some .pong =>
    (true, { agent with lastPongAt := agent.hid.now.1, hid := agent.hid.now.2 })
  | _ => (true, agent)

def isInput (type : UInt8) : Bool :=
  (5 ≤ type && type ≤ 9) || type == 14 || type == 16

/-- The end of `handle_control`: the time the message took. -/
def countInput (agent : Agent) (type : UInt8) (started : UInt64) : Agent :=
  if isInput type then
    let elapsed := agent.hid.now.1 - started
    { agent with
      hid := agent.hid.now.2
      inputEvents := agent.inputEvents + 1
      maxInputHandlerMs :=
        if elapsed > agent.maxInputHandlerMs then elapsed else agent.maxInputHandlerMs }
  else agent

@[simp] theorem input_countInput (agent : Agent) (type : UInt8) (started : UInt64) :
    (agent.countInput type started).hid.input = agent.hid.input := by
  unfold countInput
  split <;> rfl

def handleControl (agent : Agent) (message : ControlMessage) : Agent :=
  let started := agent.hid.now.1
  let handled := (agent.setHid agent.hid.now.2).dispatch message
  let agent := if handled.1 then handled.2 else handled.2.setHid handled.2.hid.hidReleaseAll
  agent.countInput message.type started

/-- The top of the main loop: pump the queues, keep the host awake, and release
everything if either fails. -/
def pumpHid (agent : Agent) : Agent :=
  match agent.hid.hidFlush with
  | (false, hid) => agent.setHid hid.hidReleaseAll
  | (true, hid) =>
    match hid.now.2.hidKeepalive hid.now.1 with
    | (false, hid) => agent.setHid hid.hidReleaseAll
    | (true, hid) => agent.setHid hid

def disconnectControl (agent : Agent) : Agent :=
  { agent with
    hid := agent.hid.hidReleaseAll
    connected := false
    streaming := false
    waitForIdr := true }

end Agent

inductive AgentEvent where
  | control (message : ControlMessage)
  | pump
  | disconnect

def Agent.step (agent : Agent) : AgentEvent → Agent
  | .control message => agent.handleControl message
  | .pump => agent.pumpHid
  | .disconnect => agent.disconnectControl

def Agent.run (agent : Agent) (events : List AgentEvent) : Agent := events.foldl step agent

/-- As `main` starts: `hid_init`, then `hid_release_all`. -/
def Agent.start (config : HidConfig) (kernel : Nat → Answer) : Agent where
  hid := (hidInit config kernel).hidReleaseAll

end NanokvmRdp
