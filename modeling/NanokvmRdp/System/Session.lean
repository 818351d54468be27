import NanokvmRdp.Agent.Pulse
import NanokvmRdp.Gateway.Transport
import NanokvmRdp.Lib.Clock
import NanokvmRdp.Lib.Machine

/-!
# A control session between agent and gateway

One connection with both of its ends: the heartbeat of the agent's main loop,
the gateway's transport with its control and heartbeat threads, and the messages
under way in either direction. Each machine reads a clock of its own, and the
two start anywhere.

Time is in milliseconds and passes in ticks. A message carries the time it was sent.
What the environment has to promise (that the loops come round, that messages
arrive) is asked of the ticks of a run, in `Prompt` and `Delivered`.
`NotOvertaken` leaves out the runs in which a message comes between the gateway's
clock reading and its lock.
-/

namespace NanokvmRdp.System

open Protocol Gateway

structure Letter where
  sentAt : Nat
  message : ControlMessage
  deriving DecidableEq, Repr

/-- `epoch` is the connection as `agent_transport_accept` returned it, and
`sampled` the clock reading of a `server_heartbeat` that is not in the lock yet.
The last six fields record the run: when the agent's loop and the gateway's last
came to the heartbeat, the times behind the readings that the two keep, and how
often the gateway found the agent silent. -/
structure Session where
  agentStart : UInt64
  gatewayStart : UInt64
  fd : Nat
  time : Nat := 0
  pulse : Pulse
  transport : AgentTransport
  epoch : Option UInt64 := none
  toGateway : List Letter
  toAgent : List Letter := []
  sampled : Option Nat := none
  agentBeatAt : Nat := 0
  gatewayBeatAt : Nat := 0
  pingAt : Nat := 0
  pongAt : Nat := 0
  activityAt : Nat := 0
  timeouts : Nat := 0
  deriving DecidableEq, Repr

inductive SessionEvent where
  | tick (ms : Nat)
  | agentBeat (counters : AgentCounters)
  | agentReceive
  /-- The answer to a KEY. -/
  | agentAcknowledge (payload : { payload : List UInt8 // payload.length = 5 })
  | gatewayAccept
  | gatewayReceive
  | gatewaySend (message : ControlMessage)
  | sample
  | gatewayBeat
  | loseToAgent
  | loseToGateway
  deriving DecidableEq, Repr

namespace Session

def agentClock (s : Session) : UInt64 := Clock.reading s.agentStart s.time

def gatewayClock (s : Session) : UInt64 := Clock.reading s.gatewayStart s.time

def stamp (s : Session) (messages : List ControlMessage) : List Letter :=
  messages.map fun message => { sentAt := s.time, message := message }

def agentBeat (s : Session) (counters : AgentCounters) : Session :=
  let (pulse, sent) := s.pulse.beat s.agentClock counters
  { s with
    pulse := pulse
    toGateway := s.toGateway ++ s.stamp sent
    agentBeatAt := s.time
    pingAt := if pingMessage ∈ sent then s.time else s.pingAt }

def agentReceive (s : Session) (message : ControlMessage) (rest : List Letter) : Session :=
  let (pulse, sent) := s.pulse.receive s.agentClock message
  { s with
    pulse := pulse
    toAgent := rest
    toGateway := s.toGateway ++ s.stamp sent
    pongAt := if ControlType.ofCode? message.type = some .pong then s.time else s.pongAt }

def keyAckMessage (payload : { payload : List UInt8 // payload.length = 5 }) : ControlMessage :=
  ⟨ControlType.keyAck.code, payload.1, by rw [payload.2]; decide⟩

def startMessage : ControlMessage := ⟨ControlType.startStream.code, [], Nat.zero_le _⟩

/-- `agent_transport_accept` behind the reading of the hello. -/
def gatewayAccept (s : Session) (message : ControlMessage) (rest : List Letter) : Session :=
  match s.transport.acceptEnd s.fd (some message) s.gatewayClock with
  | (none, transport) => { s with transport := transport, toGateway := rest }
  | (some accepted, transport) =>
    { s with
      transport := transport
      epoch := some accepted.epoch
      toGateway := rest
      toAgent := s.toAgent ++ if accepted.sendStart then s.stamp [startMessage] else []
      activityAt := s.time }

def gatewayReceive (s : Session) (epoch : UInt64) (message : ControlMessage) (rest : List Letter) : Session :=
  let (pong, transport) := s.transport.handleMessage s.fd epoch message s.gatewayClock
  { s with
    transport := transport
    toGateway := rest
    toAgent := s.toAgent ++ if pong then s.stamp [pongMessage] else []
    activityAt := if s.transport.isCurrent s.fd epoch then s.time else s.activityAt }

/-- `agent_transport_heartbeat` with a clock reading from before. -/
def gatewayBeat (s : Session) (sampled : Nat) : Session :=
  let s' := { s with sampled := none, gatewayBeatAt := sampled }
  match s.transport.heartbeat (Clock.reading s.gatewayStart sampled) with
  | (.none, transport) => { s' with transport := transport }
  | (.ping _ _, transport) =>
    { s' with transport := transport, toAgent := s.toAgent ++ s.stamp [pingMessage] }
  | (.timeout _, transport) => { s' with transport := transport, timeouts := s.timeouts + 1 }

def step (s : Session) : SessionEvent → Option Session
  | .tick ms => some { s with time := s.time + ms }
  | .agentBeat counters => some (s.agentBeat counters)
  | .agentReceive =>
    match s.toAgent with
    | [] => none
    | letter :: rest => if s.pulse.connected then some (s.agentReceive letter.message rest) else none
  | .agentAcknowledge payload =>
    if s.pulse.connected then some { s with toGateway := s.toGateway ++ s.stamp [keyAckMessage payload] }
    else none
  | .gatewayAccept =>
    match s.epoch, s.toGateway with
    | none, letter :: rest => some (s.gatewayAccept letter.message rest)
    | _, _ => none
  | .gatewayReceive =>
    match s.epoch, s.toGateway with
    | some epoch, letter :: rest => some (s.gatewayReceive epoch letter.message rest)
    | _, _ => none
  | .gatewaySend message =>
    if s.epoch.isSome then some { s with toAgent := s.toAgent ++ s.stamp [message] } else none
  | .sample => if s.sampled.isNone then some { s with sampled := some s.time } else none
  | .gatewayBeat => s.sampled.map s.gatewayBeat
  | .loseToAgent => some { s with toAgent := s.toAgent.tail }
  | .loseToGateway => some { s with toGateway := s.toGateway.tail }

/-- The agent has just connected and sent its hello; the gateway has no other
connection. -/
def start (config : AgentConfig) (agentStart gatewayStart epoch : UInt64) (streamRequested : Bool) (fd : Nat) :
    Session where
  agentStart := agentStart
  gatewayStart := gatewayStart
  fd := fd
  pulse := {
    lastPingAt := Clock.reading agentStart 0
    lastPongAt := Clock.reading agentStart 0
    lastStatsAt := Clock.reading agentStart 0 }
  transport := { pendingFd := some fd, epoch := epoch, streamRequested := streamRequested }
  toGateway := [{ sentAt := 0, message := config.message }]

-- ---------------------------------------------------------------------------
-- What the environment promises
-- ---------------------------------------------------------------------------

/-- How long the agent's loop and the gateway's take to come round, and how long a
message takes to be handled. -/
structure Bounds where
  turnMs : Nat
  beatMs : Nat
  delayMs : Nat
  deriving DecidableEq, Repr

/-- The loops come round in time. -/
def Prompt (bounds : Bounds) (s : Session) : SessionEvent → Prop
  | .tick ms => s.time + ms ≤ s.agentBeatAt + bounds.turnMs ∧ s.time + ms ≤ s.gatewayBeatAt + bounds.beatMs
  | _ => True

/-- No message is lost, and each is handled in time. -/
def Delivered (bounds : Bounds) (s : Session) : SessionEvent → Prop
  | .tick ms => ∀ letter ∈ s.toGateway ++ s.toAgent, s.time + ms ≤ letter.sentAt + bounds.delayMs
  | .loseToAgent => False
  | .loseToGateway => False
  | _ => True

/-- The gateway's heartbeat takes the lock before a message is handled that came
after its clock reading. The difference of the two times would wrap, and an agent
that has just been heard would be timed out. -/
def NotOvertaken (s : Session) : SessionEvent → Prop
  | .gatewayBeat => ∀ sampled ∈ s.sampled, s.epoch.isSome = true → s.activityAt ≤ sampled
  | _ => True

instance (bounds : Bounds) (s : Session) (event : SessionEvent) : Decidable (Prompt bounds s event) :=
  match event with
  | .tick _ => inferInstanceAs (Decidable (_ ∧ _))
  | .agentBeat _ | .agentReceive | .agentAcknowledge _ | .gatewayAccept | .gatewayReceive | .gatewaySend _
  | .sample | .gatewayBeat | .loseToAgent | .loseToGateway => .isTrue trivial

instance (bounds : Bounds) (s : Session) (event : SessionEvent) : Decidable (Delivered bounds s event) :=
  match event with
  | .tick _ => List.decidableBAll _ _
  | .loseToAgent | .loseToGateway => .isFalse id
  | .agentBeat _ | .agentReceive | .agentAcknowledge _ | .gatewayAccept | .gatewayReceive | .gatewaySend _
  | .sample | .gatewayBeat => .isTrue trivial

instance (s : Session) (event : SessionEvent) : Decidable (NotOvertaken s event) :=
  match event with
  | .gatewayBeat => Option.decidableForallMem _
  | .tick _ | .agentBeat _ | .agentReceive | .agentAcknowledge _ | .gatewayAccept | .gatewayReceive
  | .gatewaySend _ | .sample | .loseToAgent | .loseToGateway => .isTrue trivial

end Session

end NanokvmRdp.System
