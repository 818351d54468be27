import NanokvmRdp.Agent.MainLoop

/-!
# The agent's side of the heartbeat

What the main loop's heartbeat depends on: whether there is a connection and
the three times. `Pulse` is that part of the loop's state, and `beat` and
`receive` are what the end of a turn and a handled message do to it.
-/

namespace NanokvmRdp

open Hid Protocol

structure Pulse where
  connected : Bool := true
  lastPingAt : UInt64
  lastPongAt : UInt64
  lastStatsAt : UInt64
  deriving DecidableEq, Repr

def AgentLoop.pulse (s : AgentLoop) : Pulse where
  connected := s.agent.connected
  lastPingAt := s.lastPingAt
  lastPongAt := s.agent.lastPongAt
  lastStatsAt := s.lastStatsAt

namespace Protocol

def pingMessage : ControlMessage := ⟨ControlType.ping.code, [], by decide⟩

def pongMessage : ControlMessage := ⟨ControlType.pong.code, [], by decide⟩

end Protocol

theorem AgentCounters.length_stats (counters : AgentCounters) : counters.stats.length = 16 := rfl

def AgentCounters.message (counters : AgentCounters) : ControlMessage :=
  ⟨ControlType.stats.code, counters.stats, by rw [counters.length_stats]; decide⟩

theorem AgentConfig.length_hello (config : AgentConfig) : config.hello.length = 9 := rfl

def AgentConfig.message (config : AgentConfig) : ControlMessage :=
  ⟨ControlType.hello.code, config.hello, by rw [config.length_hello]; decide⟩

namespace Pulse

/-- The end of a turn whose sends succeed, with what it sends. -/
def beat (p : Pulse) (now : UInt64) (counters : AgentCounters) : Pulse × List ControlMessage :=
  if !p.connected then (p, [])
  else if now - p.lastPongAt > Agent.heartbeatTimeoutMs then ({ p with connected := false }, [])
  else
    let ping := decide (now - p.lastPingAt ≥ Agent.heartbeatIntervalMs)
    let stats := decide (now - p.lastStatsAt ≥ Agent.heartbeatIntervalMs)
    ({ p with
        lastPingAt := if ping then now else p.lastPingAt
        lastStatsAt := if stats then now else p.lastStatsAt },
      (if ping then [pingMessage] else []) ++ if stats then [counters.message] else [])

def receive (p : Pulse) (now : UInt64) (message : ControlMessage) : Pulse × List ControlMessage :=
  match ControlType.ofCode? message.type with
  | some .ping => (p, [pongMessage])
  | some .pong => ({ p with lastPongAt := now }, [])
  | _ => (p, [])

end Pulse

-- ---------------------------------------------------------------------------
-- The loop's heartbeat is this one
-- ---------------------------------------------------------------------------

def sentAs (messages : List ControlMessage) : List (UInt8 × List UInt8) :=
  messages.map fun m => (m.type, m.payload)

def Agent.sentCodes (agent : Agent) : List (UInt8 × List UInt8) :=
  agent.sent.map fun entry => (entry.1.code, entry.2)

namespace AgentLoop

theorem pulse_heartbeat (s : AgentLoop) (now : UInt64) {answers : TurnAnswers}
    (hping : answers.pingSent = true) (hstats : answers.statsSent = true) :
    (s.heartbeat now answers).pulse = (s.pulse.beat now answers.counters).1 ∧
    (s.heartbeat now answers).agent.sentCodes =
      s.agent.sentCodes ++ sentAs (s.pulse.beat now answers.counters).2 := by
  unfold heartbeat Pulse.beat
  by_cases hconnected : s.agent.connected = true
  case neg => simp [pulse, hconnected, sentAs]
  by_cases hlate : now - s.agent.lastPongAt > Agent.heartbeatTimeoutMs
  case pos => simp [pulse, hconnected, hlate, disconnect, Agent.disconnectControl, sentAs, Agent.sentCodes]
  by_cases hdue : now - s.lastPingAt ≥ Agent.heartbeatIntervalMs <;>
    by_cases hstatsDue : now - s.lastStatsAt ≥ Agent.heartbeatIntervalMs <;>
    simp [pulse, hconnected, hlate, hdue, hstatsDue, sendStats, hping, hstats, sentAs, Agent.sentCodes,
      Agent.protocolSend, pingMessage, AgentCounters.message]

end AgentLoop

namespace Agent

@[simp] theorem lastPongAt_setHid (agent : Agent) (hid : HidState) :
    (agent.setHid hid).lastPongAt = agent.lastPongAt := rfl

@[simp] theorem sent_setHid (agent : Agent) (hid : HidState) : (agent.setHid hid).sent = agent.sent := rfl

@[simp] theorem lastPongAt_outcome (agent : Agent) (result : Bool × HidState) :
    (agent.outcome result).2.lastPongAt = agent.lastPongAt := rfl

@[simp] theorem sent_outcome (agent : Agent) (result : Bool × HidState) :
    (agent.outcome result).2.sent = agent.sent := rfl

/-- A message that is neither a PONG, a PING nor a KEY leaves the times alone and
is not answered. -/
theorem dispatch_keeps (agent : Agent) {message : ControlMessage}
    (hpong : ControlType.ofCode? message.type ≠ some .pong)
    (hping : ControlType.ofCode? message.type ≠ some .ping)
    (hkey : ControlType.ofCode? message.type ≠ some .key) :
    (agent.dispatch message).2.lastPongAt = agent.lastPongAt ∧
    (agent.dispatch message).2.sent = agent.sent := by
  unfold dispatch
  split
  · simp
  · simp
  · simp
  case h_4 htype => exact absurd htype hkey
  · unfold handleText
    split
    · simp
    · split <;> simp
  · unfold handlePointerAbs
    split <;> simp
  · unfold handlePointerRel
    split <;> simp
  · unfold handleWheel
    split <;> simp
  · simp
  · simp
  case h_11 htype => exact absurd htype hping
  case h_12 htype => exact absurd htype hpong
  · simp

theorem lastPongAt_handleKey (agent : Agent) (payload : List UInt8) :
    (agent.handleKey payload).2.lastPongAt = agent.lastPongAt := by
  unfold handleKey
  split <;> simp [protocolSend]

theorem lastPongAt_dispatch (agent : Agent) (message : ControlMessage) :
    (agent.dispatch message).2.lastPongAt =
      if ControlType.ofCode? message.type = some .pong then agent.hid.now.1 else agent.lastPongAt := by
  by_cases hpong : ControlType.ofCode? message.type = some .pong
  · simp [dispatch, hpong]
  by_cases hping : ControlType.ofCode? message.type = some .ping
  · simp [dispatch, hping, protocolSend]
  by_cases hkey : ControlType.ofCode? message.type = some .key
  · simp [dispatch, hkey, lastPongAt_handleKey]
  rw [if_neg hpong, (dispatch_keeps agent hpong hping hkey).1]

theorem sent_dispatch (agent : Agent) {message : ControlMessage}
    (hkey : ControlType.ofCode? message.type ≠ some .key) :
    (agent.dispatch message).2.sent =
      agent.sent ++ if ControlType.ofCode? message.type = some .ping then [(.pong, [])] else [] := by
  by_cases hping : ControlType.ofCode? message.type = some .ping
  · simp [dispatch, hping, protocolSend]
  by_cases hpong : ControlType.ofCode? message.type = some .pong
  · simp [dispatch, hpong]
  rw [if_neg hping, List.append_nil, (dispatch_keeps agent hpong hping hkey).2]

theorem countInput_keeps (agent : Agent) (type : UInt8) (started : UInt64) :
    (agent.countInput type started).lastPongAt = agent.lastPongAt ∧
    (agent.countInput type started).sent = agent.sent := by
  unfold countInput
  split <;> simp

theorem ite_setHid_keeps (handled : Bool × Agent) (hid : HidState) :
    (if handled.1 = true then handled.2 else handled.2.setHid hid).lastPongAt = handled.2.lastPongAt ∧
    (if handled.1 = true then handled.2 else handled.2.setHid hid).sent = handled.2.sent := by
  split <;> simp

theorem handleControl_keeps (agent : Agent) (message : ControlMessage) :
    (agent.handleControl message).lastPongAt =
      ((agent.setHid agent.hid.now.2).dispatch message).2.lastPongAt ∧
    (agent.handleControl message).sent = ((agent.setHid agent.hid.now.2).dispatch message).2.sent := by
  rw [handleControl, (countInput_keeps _ _ _).1, (countInput_keeps _ _ _).2]
  exact ite_setHid_keeps _ _

end Agent

namespace AgentLoop

/-- A handled message acts on the times as `Pulse.receive`, at the clock reading
behind the first one; unless it is a KEY it is answered as there. -/
theorem pulse_handle (s : AgentLoop) (reader : ControlReader) (socket : Socket) (message : ControlMessage) :
    (s.handle reader socket message).pulse = (s.pulse.receive s.agent.hid.now.2.now.1 message).1 ∧
    (ControlType.ofCode? message.type ≠ some .key →
      (s.handle reader socket message).agent.sentCodes =
        s.agent.sentCodes ++ sentAs (s.pulse.receive s.agent.hid.now.2.now.1 message).2) := by
  obtain ⟨hpong, hsent⟩ := Agent.handleControl_keeps s.agent message
  rw [Agent.lastPongAt_dispatch] at hpong
  refine ⟨?_, fun hkey => ?_⟩
  · simp only [pulse, handle, Agent.connected_handleControl, hpong]
    unfold Pulse.receive
    cases ControlType.ofCode? message.type with
    | none => rfl
    | some type => cases type <;> rfl
  · rw [Agent.sent_dispatch _ hkey] at hsent
    simp only [Agent.sentCodes, handle, hsent]
    unfold Pulse.receive
    cases ControlType.ofCode? message.type with
    | none => simp [sentAs, Agent.setHid]
    | some type => cases type <;> simp [sentAs, Agent.setHid, pongMessage]

theorem pulse_connectControl (config : AgentConfig) (s : AgentLoop) {answers : TurnAnswers}
    (hconnects : answers.connects = true) (hhello : answers.helloSent = true) :
    (s.connectControl config answers).pulse =
      { lastPingAt := s.clock.1, lastPongAt := s.clock.1, lastStatsAt := s.clock.1 } ∧
    (s.connectControl config answers).agent.sentCodes = s.agent.sentCodes ++ sentAs [config.message] := by
  unfold connectControl
  simp [hconnects, hhello, pulse, Agent.sentCodes, sentAs, AgentConfig.message, clock, Agent.protocolSend,
    Agent.setHid]

end AgentLoop

end NanokvmRdp
