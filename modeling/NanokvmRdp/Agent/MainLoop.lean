import NanokvmRdp.Agent.Buttons
import NanokvmRdp.Agent.Convergence
import NanokvmRdp.Agent.VideoLoop
import NanokvmRdp.Lib.Machine
import NanokvmRdp.Protocol.Consumed

/-!
# The agent's main loop

A turn of the loop in `main` of `agent.c`: pump the HID queues, connect if there
is no connection and the time has come, take up to 32 messages off the
connection, and keep the heartbeat. Between turns bytes arrive on the connection
and the gateway may close it. The reader is cleared when a connection is made,
not when one is lost.

The run records each connection: the bytes that arrived on it, whether the
gateway closed it, the messages handled, and why it ended.
-/

namespace NanokvmRdp

open Hid Protocol

namespace Agent

def heartbeatIntervalMs : UInt64 := 1000
def heartbeatTimeoutMs : UInt64 := 5000
def reconnectIntervalMs : UInt64 := 1000
def inputLogIntervalMs : UInt64 := 5000

def controlBatch : Nat := 32

end Agent

structure AgentConfig where
  width : UInt16
  height : UInt16
  videoPort : UInt16
  deriving DecidableEq, Repr

def rtpDefaultMtu : UInt16 := 1200

/-- The payload of the first message; the last byte is
`NANOKVM_AGENT_CAPABILITY_KEY_ACK`. -/
def AgentConfig.hello (config : AgentConfig) : List UInt8 :=
  protocolWriteU16 config.width ++ protocolWriteU16 config.height ++ protocolWriteU16 config.videoPort ++
    protocolWriteU16 rtpDefaultMtu ++ [0x01]

structure AgentCounters where
  sentPackets : UInt32 := 0
  droppedPackets : UInt32 := 0
  captureFrames : UInt32 := 0
  droppedFrames : UInt32 := 0
  deriving DecidableEq, Repr

def AgentCounters.stats (counters : AgentCounters) : List UInt8 :=
  protocolWriteU32 counters.sentPackets ++ protocolWriteU32 counters.droppedPackets ++
    protocolWriteU32 counters.captureFrames ++ protocolWriteU32 counters.droppedFrames

/-- What the network and the video thread contribute to a turn: whether
`connect_control` gets as far as the hello, what `protocol_send` answers, and
whether `poll` reports the connection. -/
structure TurnAnswers where
  connects : Bool := true
  helloSent : Bool := true
  readable : Bool := true
  pingSent : Bool := true
  statsSent : Bool := true
  counters : AgentCounters := {}
  deriving DecidableEq, Repr

structure ControlLink where
  arrived : List UInt8 := []
  closed : Bool := false
  handled : List ControlMessage := []

inductive LinkEnd where
  /-- `protocol_receive_available` failed. -/
  | broken
  /-- No PONG for too long. -/
  | silent (now lastPongAt : UInt64)
  | sendFailed
  deriving DecidableEq, Repr

structure AgentLoop where
  agent : Agent
  reader : ControlReader := {}
  socket : Socket := { events := [], eof := true }
  lastPingAt : UInt64 := 0
  lastStatsAt : UInt64 := 0
  reconnectAt : UInt64 := 0
  lastInputLogAt : UInt64 := 0
  link : ControlLink := {}
  ended : List (ControlLink × LinkEnd) := []

inductive LoopEvent where
  | arrive (events : List RecvEvent)
  | close
  | turn (answers : TurnAnswers)

namespace AgentLoop

/-- `monotonic_milliseconds`. -/
def clock (s : AgentLoop) : UInt64 × AgentLoop :=
  (s.agent.hid.now.1, { s with agent := s.agent.setHid s.agent.hid.now.2 })

def disconnect (s : AgentLoop) (reason : LinkEnd) : AgentLoop :=
  { s with agent := s.agent.disconnectControl, ended := s.ended ++ [(s.link, reason)] }

def connectControl (config : AgentConfig) (s : AgentLoop) (answers : TurnAnswers) : AgentLoop :=
  if !answers.connects then s
  else if !answers.helloSent then { s with reader := {} }
  else
    let now := s.clock.1
    let s := s.clock.2
    { s with
      agent := { s.agent.protocolSend .hello config.hello with connected := true, lastPongAt := now }
      reader := {}
      socket := { events := [], eof := false }
      lastPingAt := now
      lastStatsAt := now
      link := {} }

def reconnect (config : AgentConfig) (s : AgentLoop) (answers : TurnAnswers) : AgentLoop :=
  let s := s.connectControl config answers
  { s.clock.2 with reconnectAt := s.clock.1 + Agent.reconnectIntervalMs }

def handle (s : AgentLoop) (reader : ControlReader) (socket : Socket) (message : ControlMessage) : AgentLoop :=
  { s with
    agent := s.agent.handleControl message
    reader := reader
    socket := socket
    link.handled := s.link.handled ++ [message] }

def batch : Nat → AgentLoop → AgentLoop
  | 0, s => s
  | n + 1, s =>
    match protocolReceiveAvailable s.reader s.socket with
    | (.broken, reader, socket) => { s with reader := reader, socket := socket }.disconnect .broken
    | (.pending, reader, socket) => { s with reader := reader, socket := socket }
    | (.message message, reader, socket) => batch n (s.handle reader socket message)

def logInput (s : AgentLoop) (now : UInt64) : AgentLoop :=
  if now - s.lastInputLogAt ≥ Agent.inputLogIntervalMs then
    { s with
      agent := { s.agent with
        maxInputHandlerMs := 0
        hid := { s.agent.hid with stats.maxQueueAgeMs := 0 } }
      lastInputLogAt := now }
  else s

def sendStats (s : AgentLoop) (now : UInt64) (answers : TurnAnswers) : AgentLoop :=
  if now - s.lastStatsAt ≥ Agent.heartbeatIntervalMs then
    if !answers.statsSent then s.disconnect .sendFailed
    else { s with agent := s.agent.protocolSend .stats answers.counters.stats, lastStatsAt := now }
  else s

/-- The end of the turn: the timeout, the PING and the statistics. -/
def heartbeat (s : AgentLoop) (now : UInt64) (answers : TurnAnswers) : AgentLoop :=
  if !s.agent.connected then s
  else if now - s.agent.lastPongAt > Agent.heartbeatTimeoutMs then
    s.disconnect (.silent now s.agent.lastPongAt)
  else if now - s.lastPingAt ≥ Agent.heartbeatIntervalMs then
    if !answers.pingSent then s.disconnect .sendFailed
    else { s with agent := s.agent.protocolSend .ping [], lastPingAt := now }.sendStats now answers
  else s.sendStats now answers

def connectIfDue (config : AgentConfig) (s : AgentLoop) (now : UInt64) (answers : TurnAnswers) : AgentLoop :=
  if !s.agent.connected && s.reconnectAt ≤ now then s.reconnect config answers else s

def receive (s : AgentLoop) (answers : TurnAnswers) : AgentLoop :=
  if answers.readable && s.agent.connected then batch Agent.controlBatch s else s

def turn (config : AgentConfig) (s : AgentLoop) (answers : TurnAnswers) : AgentLoop :=
  let s := { s with agent := s.agent.pumpHid }
  let s := s.clock.2.connectIfDue config s.clock.1 answers
  let s := s.receive answers
  (s.clock.2.logInput s.clock.1).heartbeat s.clock.1 answers

def step (config : AgentConfig) (s : AgentLoop) : LoopEvent → Option AgentLoop
  | .arrive events =>
    if s.agent.connected && !s.socket.eof then
      some { s with
        socket := { s.socket with events := s.socket.events ++ events }
        link.arrived := s.link.arrived ++ events.flatMap RecvEvent.bytes }
    else none
  | .close =>
    if s.agent.connected then some { s with socket := { s.socket with eof := true }, link.closed := true }
    else none
  | .turn answers => some (s.turn config answers)

def start (config : HidConfig) (kernel : Nat → Answer) : AgentLoop where
  agent := Agent.start config kernel

-- ---------------------------------------------------------------------------
-- Connected or not
-- ---------------------------------------------------------------------------

end AgentLoop

namespace Agent

@[simp] theorem connected_setHid (agent : Agent) (hid : HidState) :
    (agent.setHid hid).connected = agent.connected := rfl

@[simp] theorem connected_outcome (agent : Agent) (result : Bool × HidState) :
    (agent.outcome result).2.connected = agent.connected := rfl

@[simp] theorem connected_protocolSend (agent : Agent) (type : ControlType) (payload : List UInt8) :
    (agent.protocolSend type payload).connected = agent.connected := rfl

theorem connected_dispatch (agent : Agent) (message : ControlMessage) :
    (agent.dispatch message).2.connected = agent.connected := by
  unfold dispatch
  split
  · simp
  · simp
  · simp
  · unfold handleKey
    split <;> simp
  · unfold handleText
    split
    · simp
    · split <;> simp
  · unfold handlePointerAbs
    split <;> simp
  · unfold handlePointerRel
    split <;> simp
  · unfold handleWheel
    split <;> simp
  · simp
  · simp
  · simp
  · simp
  · simp

theorem connected_countInput (agent : Agent) (type : UInt8) (started : UInt64) :
    (agent.countInput type started).connected = agent.connected := by
  unfold countInput
  split <;> simp

@[simp] theorem connected_handleControl (agent : Agent) (message : ControlMessage) :
    (agent.handleControl message).connected = agent.connected := by
  have hdispatch := connected_dispatch (agent.setHid agent.hid.now.2) message
  rw [connected_setHid] at hdispatch
  rw [handleControl, connected_countInput]
  split
  · exact hdispatch
  · rw [connected_setHid, hdispatch]

theorem pumpHid_eq (agent : Agent) : agent.pumpHid = agent.setHid agent.pumpHid.hid := by
  unfold pumpHid
  split
  · rfl
  · split <;> rfl

theorem pumpHid_of_not_pumps {agent : Agent} (h : agent.pumps = false) :
    ∃ hid : HidState, agent.pumpHid.hid = hid.hidReleaseAll := by
  unfold pumps at h
  unfold pumpHid
  generalize agent.hid.hidFlush = flushed at h ⊢
  obtain ⟨ok, hid⟩ := flushed
  cases ok with
  | false => exact ⟨hid, rfl⟩
  | true =>
    simp only [Bool.true_and] at h ⊢
    generalize hid.now.2.hidKeepalive hid.now.1 = kept at h ⊢
    obtain ⟨ok, hid⟩ := kept
    cases h
    exact ⟨hid, rfl⟩

theorem held_none_pumpHid {agent : Agent} (h : agent.hid.input.held = Held.none) :
    agent.pumpHid.hid.input.held = Held.none := by
  cases hpumps : agent.pumps with
  | true => rw [held_pumpHid hpumps, h]
  | false =>
    obtain ⟨hid, hrelease⟩ := pumpHid_of_not_pumps hpumps
    rw [hrelease, held_hidReleaseAll]

end Agent

end NanokvmRdp
