import NanokvmRdp.Gateway.Heartbeat
import NanokvmRdp.System.Session

/-!
# Silence is noticed, and only silence

With loops that come round, each side notices within its timeout and one turn of
its loop that nothing comes from the other (`silence_noticed`). With messages
that also arrive, and heartbeats that none of them overtakes, neither side ever
gives the other up, as long as the interval of the PINGs, a turn of the agent's
loop and two deliveries fit into the timeout (`live_session_kept`).
-/

namespace NanokvmRdp

open Protocol

namespace Pulse

variable {p : Pulse} {now : UInt64} {counters : AgentCounters}

theorem beat_away (h : p.connected = false) : p.beat now counters = (p, []) := by
  simp [beat, h]

theorem beat_late (h : p.connected = true) (hlate : now - p.lastPongAt > Agent.heartbeatTimeoutMs) :
    p.beat now counters = ({ p with connected := false }, []) := by
  simp [beat, h, hlate]

theorem pingMessage_ne_stats (counters : AgentCounters) : pingMessage ≠ counters.message := by
  intro h
  have htype := congrArg ControlMessage.type h
  revert htype
  simp only [pingMessage, AgentCounters.message]
  decide

theorem beat_live (h : p.connected = true) (hlate : ¬ now - p.lastPongAt > Agent.heartbeatTimeoutMs) :
    (p.beat now counters).1.connected = true ∧
    (p.beat now counters).1.lastPongAt = p.lastPongAt ∧
    (p.beat now counters).1.lastPingAt =
      (if now - p.lastPingAt ≥ Agent.heartbeatIntervalMs then now else p.lastPingAt) ∧
    (pingMessage ∈ (p.beat now counters).2 ↔ now - p.lastPingAt ≥ Agent.heartbeatIntervalMs) := by
  simp only [beat, h, Bool.not_true, Bool.false_eq_true, if_false, if_neg hlate, decide_eq_true_eq]
  refine ⟨trivial, trivial, trivial, ?_⟩
  split <;> split <;> simp_all [pingMessage_ne_stats]

theorem receive_fields (p : Pulse) (now : UInt64) (message : ControlMessage) :
    (p.receive now message).1.connected = p.connected ∧
    (p.receive now message).1.lastPingAt = p.lastPingAt ∧
    (p.receive now message).1.lastPongAt =
      if ControlType.ofCode? message.type = some .pong then now else p.lastPongAt := by
  unfold receive
  split
  case h_1 hping => simp [hping]
  case h_2 hpong => simp [hpong]
  case h_3 hother => exact ⟨rfl, rfl, (if_neg hother).symm⟩

end Pulse

namespace System.Session

open Gateway

-- ---------------------------------------------------------------------------
-- The agent's side
-- ---------------------------------------------------------------------------

/-- The readings the agent keeps, and how old they can be. -/
structure AgentSide (turnMs : Nat) (s : Session) : Prop where
  pong : s.pulse.lastPongAt = Clock.reading s.agentStart s.pongAt
  pongAt : s.pongAt ≤ s.time
  ping : s.pulse.lastPingAt = Clock.reading s.agentStart s.pingAt
  pingAt : s.pingAt ≤ s.agentBeatAt
  agentBeatAt : s.agentBeatAt ≤ s.time
  turn : s.time ≤ s.agentBeatAt + turnMs
  spaced : s.pulse.connected = true → s.agentBeatAt < s.pingAt + 1000
  watched : s.pulse.connected = true → s.agentBeatAt ≤ s.pongAt + 5000

section AgentSide

variable {s s' : Session} {turnMs : Nat}

theorem AgentSide.since_pong (h : s.AgentSide turnMs) (hconnected : s.pulse.connected = true) :
    s.time - s.pongAt ≤ 5000 + turnMs := by
  have := h.watched hconnected
  have := h.turn
  omega

theorem AgentSide.since_ping (h : s.AgentSide turnMs) (hconnected : s.pulse.connected = true) :
    s.time ≤ s.pingAt + 999 + turnMs := by
  have := h.spaced hconnected
  have := h.turn
  omega

/-- The agent finds the gateway silent exactly when the PONG is too old. -/
theorem AgentSide.late_iff (h : s.AgentSide turnMs) (hturn : turnMs ≤ 60000)
    (hconnected : s.pulse.connected = true) :
    s.agentClock - s.pulse.lastPongAt > Agent.heartbeatTimeoutMs ↔ 5000 < s.time - s.pongAt := by
  have hsince := h.since_pong hconnected
  rw [agentClock, h.pong, Clock.reading_sub_gt_iff _ _ h.pongAt]
  · rfl
  · exact Nat.lt_of_le_of_lt hsince (Nat.lt_of_le_of_lt (Nat.add_le_add_left hturn _) (by decide))

theorem AgentSide.due_iff (h : s.AgentSide turnMs) (hturn : turnMs ≤ 60000)
    (hconnected : s.pulse.connected = true) :
    s.agentClock - s.pulse.lastPingAt ≥ Agent.heartbeatIntervalMs ↔ 1000 ≤ s.time - s.pingAt := by
  have hsince := h.since_ping hconnected
  have hle : s.pingAt ≤ s.time := Nat.le_trans h.pingAt h.agentBeatAt
  rw [agentClock, h.ping, Clock.reading_sub_ge_iff _ _ hle]
  · rfl
  · have hsize : UInt64.size = 18446744073709551616 := rfl
    omega

theorem AgentSide.agentBeat (h : s.AgentSide turnMs) (hturn : turnMs ≤ 60000) (counters : AgentCounters) :
    (s.agentBeat counters).AgentSide turnMs := by
  have hle : s.pingAt ≤ s.time := Nat.le_trans h.pingAt h.agentBeatAt
  cases hconnected : s.pulse.connected with
  | false =>
    rw [Session.agentBeat, Pulse.beat_away hconnected]
    exact ⟨h.pong, h.pongAt, by simpa using h.ping, by simpa using hle, Nat.le_refl _,
      Nat.le_add_right _ _, by simp [hconnected], by simp [hconnected]⟩
  | true =>
    by_cases hlate : s.agentClock - s.pulse.lastPongAt > Agent.heartbeatTimeoutMs
    · rw [Session.agentBeat, Pulse.beat_late hconnected hlate]
      exact ⟨h.pong, h.pongAt, by simpa using h.ping, by simpa using hle, Nat.le_refl _,
        Nat.le_add_right _ _, by simp, by simp⟩
    · obtain ⟨hstays, hpong, hping, hsent⟩ := @Pulse.beat_live s.pulse s.agentClock counters hconnected hlate
      rw [h.late_iff hturn hconnected] at hlate
      simp only [h.due_iff hturn hconnected] at hping hsent
      refine ⟨hpong.trans h.pong, h.pongAt, ?_, ?_, Nat.le_refl _, Nat.le_add_right _ _, fun _ => ?_,
        fun _ => ?_⟩
      · simp only [Session.agentBeat, hping, hsent]
        split
        · rfl
        · exact h.ping
      · simp only [Session.agentBeat, hsent]
        split
        · exact Nat.le_refl _
        · exact hle
      · simp only [Session.agentBeat, hsent]
        split <;> omega
      · simp only [Session.agentBeat]
        omega

theorem AgentSide.agentReceive (h : s.AgentSide turnMs) (message : ControlMessage) (rest : List Letter) :
    (s.agentReceive message rest).AgentSide turnMs := by
  obtain ⟨hconnected, hping, hpong⟩ := Pulse.receive_fields s.pulse s.agentClock message
  have hle : s.pongAt ≤ s.time := h.pongAt
  refine ⟨?_, ?_, hping.trans h.ping, h.pingAt, h.agentBeatAt, h.turn, ?_, ?_⟩
  · simp only [Session.agentReceive, hpong]
    split
    · rfl
    · exact h.pong
  · simp only [Session.agentReceive]
    split
    · exact Nat.le_refl _
    · exact hle
  · simp only [Session.agentReceive, hconnected]
    exact h.spaced
  · simp only [Session.agentReceive, hconnected]
    intro hyes
    have := h.watched hyes
    split
    · have := h.agentBeatAt
      omega
    · assumption

end AgentSide

-- ---------------------------------------------------------------------------
-- The gateway's side
-- ---------------------------------------------------------------------------

structure Linked (s : Session) (epoch : UInt64) : Prop where
  current : s.transport.isCurrent s.fd epoch = true
  activity : s.transport.lastActivityAt = Clock.reading s.gatewayStart s.activityAt
  activityAt : s.activityAt ≤ s.time
  watched : s.transport.heartbeatTimedOut = false → s.gatewayBeatAt ≤ s.activityAt + 5000

structure GatewaySide (beatMs : Nat) (s : Session) : Prop where
  gatewayBeatAt : s.gatewayBeatAt ≤ s.time
  beat : s.time ≤ s.gatewayBeatAt + beatMs
  sampled : ∀ sampled ∈ s.sampled, s.gatewayBeatAt ≤ sampled ∧ sampled ≤ s.time
  unlinked : s.epoch = none → s.transport.target = none ∧ s.transport.stopping = false
  linked : ∀ epoch, s.epoch = some epoch → s.Linked epoch

section GatewaySide

variable {s s' : Session} {beatMs sampled : Nat} {epoch : UInt64}

theorem GatewaySide.gatewayAccept (h : s.GatewaySide beatMs) (hnone : s.epoch = none)
    (message : ControlMessage) (rest : List Letter) : (s.gatewayAccept message rest).GatewaySide beatMs := by
  obtain ⟨htarget, hstopping⟩ := h.unlinked hnone
  have haccepts := AgentTransport.accepts_acceptEnd s.transport s.fd (some message) s.gatewayClock
  unfold Session.gatewayAccept
  generalize s.transport.acceptEnd s.fd (some message) s.gatewayClock = result at haccepts ⊢
  cases haccepts with
  | refused pending =>
    refine { h with unlinked := fun _ => ⟨htarget, hstopping⟩, linked := ?_ }
    intro epoch hepoch
    rw [hnone] at hepoch
    cases hepoch
  | accepted hello pending _ =>
    refine { h with unlinked := fun hepoch => (by cases hepoch), linked := ?_ }
    rintro epoch ⟨⟩
    refine ⟨?_, rfl, Nat.le_refl _, fun _ => Nat.le_add_right_of_le h.gatewayBeatAt⟩
    simp [AgentTransport.isCurrent, AgentTransport.connect, AgentTransport.cancelKeyAck, hstopping]

theorem GatewaySide.gatewayReceive (h : s.GatewaySide beatMs) (hepoch : s.epoch = some epoch)
    (message : ControlMessage) (rest : List Letter) :
    (s.gatewayReceive epoch message rest).GatewaySide beatMs := by
  have hlinked := h.linked epoch hepoch
  obtain ⟨received, success, stats, hshape, -⟩ :=
    AgentTransport.handleMessage_shape hlinked.current message s.gatewayClock
  refine { h with unlinked := ?_, linked := ?_ }
  · intro hnone
    simp only [Session.gatewayReceive, hepoch] at hnone
    cases hnone
  · intro epoch' hepoch'
    simp only [Session.gatewayReceive, hepoch] at hepoch'
    cases hepoch'
    simp only [Session.gatewayReceive, hshape, hlinked.current, if_true]
    exact ⟨hlinked.current, rfl, Nat.le_refl _, fun _ => Nat.le_add_right_of_le h.gatewayBeatAt⟩

/-- A heartbeat that is not overtaken finds the agent silent exactly when its last
message is too old. -/
theorem GatewaySide.overdue_iff (h : s.GatewaySide beatMs) (hbeat : beatMs ≤ 60000)
    (hepoch : s.epoch = some epoch) (hsampled : sampled ∈ s.sampled) (hnot : s.activityAt ≤ sampled) :
    s.transport.overdue (Clock.reading s.gatewayStart sampled) = true ↔
      s.transport.heartbeatTimedOut = false ∧ 5000 < sampled - s.activityAt := by
  have hlinked := h.linked epoch hepoch
  rw [AgentTransport.overdue, Bool.and_eq_true, Bool.not_eq_true', decide_eq_true_eq, hlinked.activity]
  refine and_congr_right fun hwatching => ?_
  rw [Clock.reading_sub_gt_iff _ _ hnot]
  · rfl
  · have hsize : UInt64.size = 18446744073709551616 := rfl
    have := hlinked.watched hwatching
    have := h.sampled sampled hsampled
    have := h.beat
    omega

theorem overdue_of_heartbeat {t : AgentTransport} {now : UInt64} {target : Nat × UInt64}
    (htarget : t.target = some target) (hout : (t.heartbeat now).2.heartbeatTimedOut = false) :
    t.overdue now = false ∧ t.heartbeatTimedOut = false := by
  rw [AgentTransport.heartbeat, htarget] at hout
  dsimp only at hout
  cases hoverdue : t.overdue now with
  | true => simp [hoverdue] at hout
  | false =>
    refine ⟨rfl, ?_⟩
    rw [hoverdue] at hout
    simp only [Bool.false_eq_true, if_false] at hout
    split at hout <;> exact hout

theorem gatewayBeat_fields (s : Session) (sampled : Nat) :
    (s.gatewayBeat sampled).transport = (s.transport.heartbeat (Clock.reading s.gatewayStart sampled)).2 ∧
    (s.gatewayBeat sampled).gatewayBeatAt = sampled ∧ (s.gatewayBeat sampled).sampled = none ∧
    (s.gatewayBeat sampled).time = s.time ∧ (s.gatewayBeat sampled).epoch = s.epoch ∧
    (s.gatewayBeat sampled).fd = s.fd ∧ (s.gatewayBeat sampled).gatewayStart = s.gatewayStart ∧
    (s.gatewayBeat sampled).activityAt = s.activityAt := by
  unfold Session.gatewayBeat
  dsimp only
  split <;> rename_i hbeat <;> rw [hbeat] <;> exact ⟨rfl, rfl, rfl, rfl, rfl, rfl, rfl, rfl⟩

theorem GatewaySide.gatewayBeat (h : s.GatewaySide beatMs) (hbeat : beatMs ≤ 60000)
    (hsampled : s.sampled = some sampled) : (s.gatewayBeat sampled).GatewaySide beatMs := by
  obtain ⟨hbefore, hafter⟩ := h.sampled sampled hsampled
  obtain ⟨htransport, hat, hnone, htime, hepoch, hfd, hstart, hactivity⟩ := s.gatewayBeat_fields sampled
  have hround := h.beat
  refine ⟨by rw [hat, htime]; exact hafter, by rw [hat, htime]; omega, by rw [hnone]; simp, ?_, ?_⟩
  · intro hunlinked
    rw [hepoch] at hunlinked
    obtain ⟨htarget, hstopping⟩ := h.unlinked hunlinked
    rw [htransport, AgentTransport.heartbeat, htarget]
    exact ⟨htarget, hstopping⟩
  · intro epoch hlink
    rw [hepoch] at hlink
    have hlinked := h.linked epoch hlink
    have htarget := AgentTransport.isCurrent_iff_target.mp hlinked.current
    obtain ⟨pingAt, timedOut, requested, hshape⟩ :=
      s.transport.heartbeat_shape (Clock.reading s.gatewayStart sampled)
    refine ⟨?_, ?_, ?_, ?_⟩
    · rw [htransport, hfd, hshape]
      exact hlinked.current
    · rw [htransport, hshape, hactivity, hstart]
      exact hlinked.activity
    · rw [hactivity, htime]
      exact hlinked.activityAt
    · rw [htransport, hat, hactivity]
      intro hout
      obtain ⟨hin, hwatching⟩ := overdue_of_heartbeat htarget hout
      rcases Nat.le_total sampled s.activityAt with hovertaken | hnot
      · exact Nat.le_add_right_of_le hovertaken
      · have hfresh : ¬ 5000 < sampled - s.activityAt := fun hold => by
          rw [(h.overdue_iff hbeat hlink hsampled hnot).mpr ⟨hwatching, hold⟩] at hin
          cases hin
        omega

end GatewaySide

-- ---------------------------------------------------------------------------
-- Silence is noticed
-- ---------------------------------------------------------------------------

structure Kept (bounds : Bounds) (s : Session) : Prop where
  agent : s.AgentSide bounds.turnMs
  gateway : s.GatewaySide bounds.beatMs

/-- The bounds leave the counters far from a whole turn. -/
structure Bounds.Small (bounds : Bounds) : Prop where
  turnMs : bounds.turnMs ≤ 60000
  beatMs : bounds.beatMs ≤ 60000

section Steps

variable {s s' : Session} {bounds : Bounds}

theorem kept_start (config : AgentConfig) (agentStart gatewayStart epoch : UInt64) (streamRequested : Bool)
    (fd : Nat) : (start config agentStart gatewayStart epoch streamRequested fd).Kept bounds where
  agent := ⟨rfl, Nat.le_refl _, rfl, Nat.le_refl _, Nat.le_refl _, Nat.zero_le _, fun _ => by simp [start],
    fun _ => Nat.zero_le _⟩
  gateway := ⟨Nat.le_refl _, Nat.zero_le _, by simp [start], fun _ => ⟨rfl, rfl⟩, by simp [start]⟩

theorem Kept.letters (h : s.Kept bounds) (toAgent toGateway : List Letter) :
    Kept bounds { s with toAgent, toGateway } where
  agent := { h.agent with }
  gateway := { h.gateway with linked := fun epoch hepoch => { h.gateway.linked epoch hepoch with } }

theorem kept_step (hsmall : bounds.Small) (h : s.Kept bounds) (hprompt : s.Prompt bounds e)
    (hstep : s.step e = some s') : s'.Kept bounds := by
  cases e with
  | tick ms =>
    cases hstep
    obtain ⟨hturn, hbeat⟩ := hprompt
    refine ⟨{ h.agent with turn := hturn, pongAt := ?_, agentBeatAt := ?_ },
      { h.gateway with beat := hbeat, gatewayBeatAt := ?_, sampled := ?_, linked := ?_ }⟩
    · exact Nat.le_add_right_of_le h.agent.pongAt
    · exact Nat.le_add_right_of_le h.agent.agentBeatAt
    · exact Nat.le_add_right_of_le h.gateway.gatewayBeatAt
    · intro sampled hsampled
      obtain ⟨hbefore, hafter⟩ := h.gateway.sampled sampled hsampled
      exact ⟨hbefore, Nat.le_add_right_of_le hafter⟩
    · intro epoch hepoch
      have hlinked := h.gateway.linked epoch hepoch
      exact { hlinked with activityAt := Nat.le_add_right_of_le hlinked.activityAt }
  | agentBeat counters =>
    cases hstep
    exact ⟨h.agent.agentBeat hsmall.turnMs counters, { h.gateway with
      linked := fun epoch hepoch => { h.gateway.linked epoch hepoch with } }⟩
  | agentReceive =>
    rw [step] at hstep
    split at hstep
    · cases hstep
    · obtain ⟨-, ⟨⟩⟩ := Option.ite_none_right_eq_some.mp hstep
      exact ⟨h.agent.agentReceive _ _, { h.gateway with
        linked := fun epoch hepoch => { h.gateway.linked epoch hepoch with } }⟩
  | agentAcknowledge payload =>
    obtain ⟨-, ⟨⟩⟩ := Option.ite_none_right_eq_some.mp hstep
    exact h.letters _ _
  | gatewayAccept =>
    rw [step] at hstep
    split at hstep
    case h_1 letter rest hnone hletters =>
      cases hstep
      refine ⟨?_, h.gateway.gatewayAccept hnone letter.message rest⟩
      unfold Session.gatewayAccept
      split <;> exact { h.agent with }
    · cases hstep
  | gatewayReceive =>
    rw [step] at hstep
    split at hstep
    case h_1 epoch letter rest hepoch hletters =>
      cases hstep
      exact ⟨{ h.agent with }, h.gateway.gatewayReceive hepoch letter.message rest⟩
    · cases hstep
  | gatewaySend message =>
    obtain ⟨-, ⟨⟩⟩ := Option.ite_none_right_eq_some.mp hstep
    exact h.letters _ _
  | sample =>
    obtain ⟨-, ⟨⟩⟩ := Option.ite_none_right_eq_some.mp hstep
    refine ⟨{ h.agent with }, { h.gateway with
      linked := fun epoch hepoch => { h.gateway.linked epoch hepoch with }, sampled := ?_ }⟩
    rintro sampled ⟨⟩
    exact ⟨h.gateway.gatewayBeatAt, Nat.le_refl _⟩
  | gatewayBeat =>
    obtain ⟨sampled, hsampled, rfl⟩ := Option.map_eq_some_iff.mp hstep
    refine ⟨?_, h.gateway.gatewayBeat hsmall.beatMs hsampled⟩
    unfold Session.gatewayBeat
    dsimp only
    split <;> exact { h.agent with }
  | loseToAgent =>
    cases hstep
    exact h.letters _ _
  | loseToGateway =>
    cases hstep
    exact h.letters _ _

end Steps

-- ---------------------------------------------------------------------------
-- Only silence is
-- ---------------------------------------------------------------------------

/-- A PING that the PONG kept by the agent does not answer is under way, or its
PONG is, and it was sent soon after that PONG came. -/
def Answering (bounds : Bounds) (s : Session) (sentAt : Nat) : Prop :=
  sentAt ≤ s.pongAt + (1000 + bounds.turnMs) ∧
  ({ sentAt := sentAt, message := pingMessage } ∈ s.toGateway ∨
    ∃ letter ∈ s.toAgent, letter.message = pongMessage ∧ letter.sentAt ≤ sentAt + bounds.delayMs)

structure Alive (bounds : Bounds) (s : Session) : Prop where
  connected : s.pulse.connected = true
  timeouts : s.timeouts = 0
  watching : s.transport.heartbeatTimedOut = false
  gatewayLetters : ∀ letter ∈ s.toGateway, letter.sentAt ≤ s.time ∧ s.time ≤ letter.sentAt + bounds.delayMs
  agentLetters : ∀ letter ∈ s.toAgent, letter.sentAt ≤ s.time ∧ s.time ≤ letter.sentAt + bounds.delayMs
  hello : s.epoch = none → ∃ letter rest, s.toGateway = letter :: rest ∧
    AgentTransport.validHello letter.message = true ∧
    AgentTransport.helloSupportsKeyAck letter.message = true
  keyAck : s.epoch.isSome = true → s.transport.supportsKeyAck = true
  answered : s.pingAt ≤ s.pongAt ∨ ∃ sentAt, Answering bounds s sentAt
  heard : s.epoch.isSome = true →
    s.pingAt ≤ s.activityAt ∨ ∃ letter ∈ s.toGateway, letter.sentAt ≤ s.activityAt + (1000 + bounds.turnMs)

section Alive

variable {s s' : Session} {bounds : Bounds} {sentAt sampled : Nat} {epoch : UInt64} {letter : Letter}
  {rest : List Letter}

theorem mem_stamp {message : ControlMessage} {messages : List ControlMessage} (h : message ∈ messages) :
    { sentAt := s.time, message := message } ∈ s.stamp messages :=
  List.mem_map.mpr ⟨message, h, rfl⟩

section Letters

variable {letters : List Letter} {messages : List ControlMessage} {delay : Nat}
  (h : ∀ letter ∈ letters, letter.sentAt ≤ s.time ∧ s.time ≤ letter.sentAt + delay)

include h

theorem letters_append :
    ∀ letter ∈ letters ++ s.stamp messages, letter.sentAt ≤ s.time ∧ s.time ≤ letter.sentAt + delay := by
  refine List.forall_mem_append.mpr ⟨h, fun letter hnew => ?_⟩
  obtain ⟨message, -, rfl⟩ := List.mem_map.mp hnew
  exact ⟨Nat.le_refl _, Nat.le_add_right _ _⟩

theorem letters_append_ite (sends : Bool) :
    ∀ letter ∈ letters ++ (if sends then s.stamp messages else []),
      letter.sentAt ≤ s.time ∧ s.time ≤ letter.sentAt + delay := by
  cases sends with
  | true => exact letters_append h
  | false => exact List.forall_mem_append.mpr ⟨h, nofun⟩

end Letters

theorem alive_start (config : AgentConfig) (agentStart gatewayStart epoch : UInt64) (streamRequested : Bool)
    (fd : Nat) : (start config agentStart gatewayStart epoch streamRequested fd).Alive bounds where
  connected := rfl
  timeouts := rfl
  watching := rfl
  gatewayLetters := by simp [start]
  agentLetters := by simp [start]
  hello _ := ⟨_, _, rfl, rfl, by
    simp [AgentTransport.helloSupportsKeyAck, AgentConfig.message, AgentConfig.hello, protocolWriteU16,
      BigEndian.writeU16]⟩
  keyAck hsome := by cases hsome
  answered := .inl (Nat.le_refl _)
  heard hsome := by cases hsome

/-- The agent's PONG is never older than an interval, a turn and two deliveries. -/
theorem Alive.pong_fresh (h : s.Alive bounds) (hkept : s.Kept bounds) :
    s.time ≤ s.pongAt + (1000 + bounds.turnMs) + 2 * bounds.delayMs := by
  have hping := hkept.agent.since_ping h.connected
  rcases h.answered with hclear | ⟨sentAt, hsoon, hunder | ⟨letter, hletter, -, hreply⟩⟩
  · omega
  · have := (h.gatewayLetters _ hunder).2
    dsimp only at this
    omega
  · have := (h.agentLetters letter hletter).2
    omega

/-- The gateway has heard from the agent within an interval, a turn and a delivery. -/
theorem Alive.activity_fresh (h : s.Alive bounds) (hkept : s.Kept bounds) (hepoch : s.epoch.isSome = true) :
    s.time ≤ s.activityAt + (1000 + bounds.turnMs) + bounds.delayMs := by
  have hping := hkept.agent.since_ping h.connected
  rcases h.heard hepoch with hclear | ⟨letter, hletter, hsoon⟩
  · omega
  · have := (h.gatewayLetters letter hletter).2
    omega

theorem Answering.mono (h : Answering bounds s sentAt) (hpong : s.pongAt ≤ s'.pongAt)
    (hgateway : ∀ letter ∈ s.toGateway, letter ∈ s'.toGateway)
    (hagent : ∀ letter ∈ s.toAgent, letter ∈ s'.toAgent) : Answering bounds s' sentAt := by
  obtain ⟨hsoon, hunder⟩ := h
  refine ⟨by omega, hunder.imp (hgateway _) ?_⟩
  rintro ⟨letter, hletter, hreply⟩
  exact ⟨letter, hagent letter hletter, hreply⟩

theorem alive_sendToGateway (h : s.Alive bounds) (messages : List ControlMessage) :
    Alive bounds { s with toGateway := s.toGateway ++ s.stamp messages } := by
  refine { h with gatewayLetters := letters_append h.gatewayLetters, hello := ?_, answered := ?_, heard := ?_ }
  · intro hnone
    obtain ⟨first, others, hgateway, hvalid⟩ := h.hello hnone
    exact ⟨first, _, congrArg (· ++ s.stamp messages) hgateway, hvalid⟩
  · refine h.answered.imp_right ?_
    rintro ⟨sentAt, hanswering⟩
    exact ⟨sentAt, hanswering.mono (Nat.le_refl _) (fun _ => List.mem_append_left _) fun _ hl => hl⟩
  · intro hepoch
    refine (h.heard hepoch).imp_right ?_
    rintro ⟨l, hl, hsoon⟩
    exact ⟨l, List.mem_append_left _ hl, hsoon⟩

theorem alive_sendToAgent (h : s.Alive bounds) (messages : List ControlMessage) :
    Alive bounds { s with toAgent := s.toAgent ++ s.stamp messages } := by
  refine { h with agentLetters := letters_append h.agentLetters, answered := ?_ }
  refine h.answered.imp_right ?_
  rintro ⟨sentAt, hanswering⟩
  exact ⟨sentAt, hanswering.mono (Nat.le_refl _) (fun _ hl => hl) fun _ => List.mem_append_left _⟩

theorem alive_agentBeat (h : s.Alive bounds) (hkept : s.Kept bounds) (hsmall : bounds.Small)
    (hfit : 1000 + bounds.turnMs + 2 * bounds.delayMs ≤ 5000) (counters : AgentCounters) :
    (s.agentBeat counters).Alive bounds := by
  have hlate : ¬ s.agentClock - s.pulse.lastPongAt > Agent.heartbeatTimeoutMs := by
    rw [hkept.agent.late_iff hsmall.turnMs h.connected]
    have := h.pong_fresh hkept
    omega
  obtain ⟨hstays, -, -, -⟩ := @Pulse.beat_live s.pulse s.agentClock counters h.connected hlate
  have hping := hkept.agent.since_ping h.connected
  have hletters := alive_sendToGateway h (s.pulse.beat s.agentClock counters).2
  by_cases hsent : pingMessage ∈ (s.pulse.beat s.agentClock counters).2
  · refine { hletters with connected := hstays, answered := ?_, heard := ?_ }
    · refine .inr (h.answered.elim (fun hclear => ?_) fun ⟨sentAt, hanswering⟩ => ?_)
      · refine ⟨s.time, by simp only [Session.agentBeat]; omega, .inl ?_⟩
        exact List.mem_append_right _ (mem_stamp hsent)
      · exact ⟨sentAt, hanswering.mono (Nat.le_refl _) (fun _ => List.mem_append_left _) fun _ hl => hl⟩
    · refine fun hepoch => .inr ((h.heard hepoch).elim (fun hclear => ?_) fun ⟨letter, hletter, hsoon⟩ => ?_)
      · refine ⟨_, List.mem_append_right _ (mem_stamp hsent), ?_⟩
        simp only [Session.agentBeat]
        omega
      · exact ⟨letter, List.mem_append_left _ hletter, hsoon⟩
  · have hpingAt : (s.agentBeat counters).pingAt = s.pingAt := if_neg hsent
    exact { hletters with
      connected := hstays
      answered := hpingAt ▸ hletters.answered
      heard := hpingAt ▸ hletters.heard }

theorem alive_agentReceive (h : s.Alive bounds) (hkept : s.Kept bounds)
    (hletters : s.toAgent = letter :: rest) : (s.agentReceive letter.message rest).Alive bounds := by
  have hfields := Pulse.receive_fields s.pulse s.agentClock letter.message
  have hsent := alive_sendToGateway h (s.pulse.receive s.agentClock letter.message).2
  refine { hsent with
    connected := hfields.1.trans h.connected
    agentLetters := fun l hl => h.agentLetters l (by rw [hletters]; exact List.mem_cons_of_mem _ hl)
    answered := ?_ }
  by_cases hpong : ControlType.ofCode? letter.message.type = some .pong
  · -- Any PONG answers every PING sent so far.
    refine .inl ?_
    simp only [Session.agentReceive, if_pos hpong]
    exact Nat.le_trans hkept.agent.pingAt hkept.agent.agentBeatAt
  · simp only [Session.agentReceive, if_neg hpong]
    refine h.answered.imp_right ?_
    rintro ⟨sentAt, hsoon, hunder⟩
    refine ⟨sentAt, hsoon, hunder.imp (List.mem_append_left _) ?_⟩
    rintro ⟨l, hl, hmessage, hreply⟩
    refine ⟨l, ?_, hmessage, hreply⟩
    rw [hletters] at hl
    rcases List.mem_cons.mp hl with rfl | hrest
    · rw [hmessage] at hpong
      exact absurd rfl hpong
    · exact hrest

theorem acceptEnd_valid {t : AgentTransport} {hello : ControlMessage} (fd : Nat) (now : UInt64)
    (hvalid : AgentTransport.validHello hello = true) (hstopping : t.stopping = false) :
    ∃ accepted transport, t.acceptEnd fd (some hello) now = (some accepted, transport) ∧
      transport.heartbeatTimedOut = false ∧
      transport.supportsKeyAck = AgentTransport.helloSupportsKeyAck hello := by
  obtain ⟨pending, hpending⟩ := t.endHandshake_shape fd
  refine ⟨⟨t.epoch + 1, t.fd, t.streamRequested⟩,
    AgentTransport.connect { t with pendingFd := pending } fd hello now, ?_, rfl, rfl⟩
  simp only [AgentTransport.acceptEnd, hpending, hvalid, hstopping, Bool.not_false, Bool.and_self, if_true]

theorem alive_gatewayAccept (h : s.Alive bounds) (hkept : s.Kept bounds) (hnone : s.epoch = none)
    (hletters : s.toGateway = letter :: rest) : (s.gatewayAccept letter.message rest).Alive bounds := by
  obtain ⟨first, others, hgateway, hvalid, hkeyAck⟩ := h.hello hnone
  rw [hletters] at hgateway
  cases hgateway
  obtain ⟨accepted, transport, haccept, hwatching, hsupports⟩ :=
    acceptEnd_valid s.fd s.gatewayClock hvalid (hkept.gateway.unlinked hnone).2
  have hping : s.pingAt ≤ s.time := Nat.le_trans hkept.agent.pingAt hkept.agent.agentBeatAt
  rw [Session.gatewayAccept, haccept]
  refine { h with
    watching := hwatching
    gatewayLetters := fun l hl => h.gatewayLetters l (by rw [hletters]; exact List.mem_cons_of_mem _ hl)
    agentLetters := letters_append_ite h.agentLetters _
    hello := fun hnone => by cases hnone
    keyAck := fun _ => hsupports.trans hkeyAck
    answered := h.answered.imp_right ?_
    heard := fun _ => .inl hping }
  rintro ⟨sentAt, hsoon, hunder⟩
  refine ⟨sentAt, hsoon, hunder.imp ?_ ?_⟩
  · intro hl
    rw [hletters] at hl
    rcases List.mem_cons.mp hl with rfl | hrest
    · cases hvalid
    · exact hrest
  · rintro ⟨l, hl, hreply⟩
    exact ⟨l, List.mem_append_left _ hl, hreply⟩

theorem alive_gatewayReceive (h : s.Alive bounds) (hkept : s.Kept bounds) (hepoch : s.epoch = some epoch)
    (hletters : s.toGateway = letter :: rest) :
    (s.gatewayReceive epoch letter.message rest).Alive bounds := by
  have hcurrent := (hkept.gateway.linked epoch hepoch).current
  have hping : s.pingAt ≤ s.time := Nat.le_trans hkept.agent.pingAt hkept.agent.agentBeatAt
  obtain ⟨received, success, stats, hshape, -⟩ :=
    AgentTransport.handleMessage_shape hcurrent letter.message s.gatewayClock
  refine { h with
    watching := by simp only [Session.gatewayReceive, hshape]; exact h.watching
    gatewayLetters := fun l hl => h.gatewayLetters l (by rw [hletters]; exact List.mem_cons_of_mem _ hl)
    agentLetters := letters_append_ite h.agentLetters _
    hello := fun hnone => ?_
    keyAck := fun hsome => by simp only [Session.gatewayReceive, hshape]; exact h.keyAck hsome
    answered := h.answered.imp_right ?_
    heard := fun _ => .inl (by simp only [Session.gatewayReceive, hcurrent, if_true]; exact hping) }
  · simp only [Session.gatewayReceive, hepoch] at hnone
    cases hnone
  rintro ⟨sentAt, hsoon, hunder | ⟨l, hl, hreply⟩⟩
  · rw [hletters] at hunder
    rcases List.mem_cons.mp hunder with rfl | hrest
    · -- The PING is handled now, so its PONG is under way.
      have hpong : (s.transport.handleMessage s.fd epoch pingMessage s.gatewayClock).1 = true := by
        rw [AgentTransport.handleMessage, if_pos hcurrent]
        rfl
      refine ⟨sentAt, hsoon, .inr ⟨{ sentAt := s.time, message := pongMessage }, ?_, rfl, ?_⟩⟩
      · simp only [Session.gatewayReceive, hpong, if_true]
        exact List.mem_append_right _ (mem_stamp List.mem_cons_self)
      · exact (h.gatewayLetters _ (by rw [hletters]; exact List.mem_cons_self)).2
    · exact ⟨sentAt, hsoon, .inl hrest⟩
  · exact ⟨sentAt, hsoon, .inr ⟨l, List.mem_append_left _ hl, hreply⟩⟩

theorem heartbeat_of_not_overdue {t : AgentTransport} {now : UInt64} (h : t.overdue now = false) :
    t.heartbeat now = (.none, t) ∨
      ∃ fd epoch, t.heartbeat now = (.ping fd epoch, { t with lastPingAt := now }) := by
  unfold AgentTransport.heartbeat
  split
  · exact .inl rfl
  · rw [h]
    simp only [Bool.false_eq_true, if_false]
    split
    · exact .inr ⟨_, _, rfl⟩
    · exact .inl rfl

theorem alive_gatewayBeat (h : s.Alive bounds) (hkept : s.Kept bounds) (hsmall : bounds.Small)
    (hfit : 1000 + bounds.turnMs + 2 * bounds.delayMs ≤ 5000) (hsampled : s.sampled = some sampled)
    (hnot : s.epoch.isSome = true → s.activityAt ≤ sampled) : (s.gatewayBeat sampled).Alive bounds := by
  have hquiet : s.transport.heartbeat (Clock.reading s.gatewayStart sampled) = (.none, s.transport) ∨
      ∃ fd epoch, s.transport.heartbeat (Clock.reading s.gatewayStart sampled) =
        (.ping fd epoch, { s.transport with lastPingAt := Clock.reading s.gatewayStart sampled }) := by
    cases hepoch : s.epoch with
    | none =>
      rw [AgentTransport.heartbeat, (hkept.gateway.unlinked hepoch).1]
      exact .inl rfl
    | some epoch =>
      have hsome : s.epoch.isSome = true := by rw [hepoch]; rfl
      have hfresh := h.activity_fresh hkept hsome
      have hafter := (hkept.gateway.sampled sampled hsampled).2
      refine heartbeat_of_not_overdue (Bool.eq_false_iff.mpr fun hoverdue => ?_)
      have := ((hkept.gateway.overdue_iff hsmall.beatMs hepoch hsampled (hnot hsome)).mp hoverdue).2
      omega
  unfold Session.gatewayBeat
  rcases hquiet with hbeat | ⟨fd, epoch, hbeat⟩
  · rw [hbeat]
    exact { h with answered := h.answered }
  · rw [hbeat]
    have hsent := alive_sendToAgent h [pingMessage]
    exact { hsent with answered := hsent.answered }

theorem alive_step (hsmall : bounds.Small) (hfit : 1000 + bounds.turnMs + 2 * bounds.delayMs ≤ 5000)
    (h : s.Alive bounds) (hkept : s.Kept bounds) (hdelivered : s.Delivered bounds e)
    (hnot : s.NotOvertaken e) (hstep : s.step e = some s') : s'.Alive bounds := by
  cases e with
  | tick ms =>
    cases hstep
    refine { h with gatewayLetters := fun l hl => ?_, agentLetters := fun l hl => ?_, answered := h.answered }
    · exact ⟨Nat.le_add_right_of_le (h.gatewayLetters l hl).1, hdelivered l (List.mem_append_left _ hl)⟩
    · exact ⟨Nat.le_add_right_of_le (h.agentLetters l hl).1, hdelivered l (List.mem_append_right _ hl)⟩
  | agentBeat counters =>
    cases hstep
    exact alive_agentBeat h hkept hsmall hfit counters
  | agentReceive =>
    rw [step] at hstep
    split at hstep
    · cases hstep
    case h_2 letter rest hletters =>
      obtain ⟨-, ⟨⟩⟩ := Option.ite_none_right_eq_some.mp hstep
      exact alive_agentReceive h hkept hletters
  | agentAcknowledge payload =>
    obtain ⟨-, ⟨⟩⟩ := Option.ite_none_right_eq_some.mp hstep
    exact alive_sendToGateway h [keyAckMessage payload]
  | gatewayAccept =>
    rw [step] at hstep
    split at hstep
    case h_1 letter rest hnone hletters =>
      cases hstep
      exact alive_gatewayAccept h hkept hnone hletters
    · cases hstep
  | gatewayReceive =>
    rw [step] at hstep
    split at hstep
    case h_1 epoch letter rest hepoch hletters =>
      cases hstep
      exact alive_gatewayReceive h hkept hepoch hletters
    · cases hstep
  | gatewaySend message =>
    obtain ⟨-, ⟨⟩⟩ := Option.ite_none_right_eq_some.mp hstep
    exact alive_sendToAgent h [message]
  | sample =>
    obtain ⟨-, ⟨⟩⟩ := Option.ite_none_right_eq_some.mp hstep
    exact { h with answered := h.answered }
  | gatewayBeat =>
    obtain ⟨sampled, hsampled, rfl⟩ := Option.map_eq_some_iff.mp hstep
    exact alive_gatewayBeat h hkept hsmall hfit hsampled (hnot sampled hsampled)
  | loseToAgent => exact absurd hdelivered id
  | loseToGateway => exact absurd hdelivered id

end Alive

-- ---------------------------------------------------------------------------
-- Every run
-- ---------------------------------------------------------------------------

/-- In every session whose loops come round, whatever is lost on the way: while the
agent keeps the connection its last PONG is at most the timeout and a turn old,
and while the gateway keeps it the agent's last message is at most the timeout and
a round old. -/
theorem silence_noticed (bounds : Bounds) (hsmall : bounds.Small) (config : AgentConfig)
    (agentStart gatewayStart epoch : UInt64) (streamRequested : Bool) (fd : Nat) (events : List SessionEvent)
    (s : Session)
    (hprompt : Machine.Along step (Prompt bounds)
      (start config agentStart gatewayStart epoch streamRequested fd) events)
    (hrun : Machine.run step (start config agentStart gatewayStart epoch streamRequested fd) events = some s) :
    (s.pulse.connected = true → s.time ≤ s.pongAt + 5000 + bounds.turnMs) ∧
    (s.epoch.isSome = true → s.transport.heartbeatTimedOut = false →
      s.time ≤ s.activityAt + 5000 + bounds.beatMs) := by
  have hkept : s.Kept bounds := Machine.run_invariant
    (fun _ _ _ h hprompt hstep => kept_step hsmall h hprompt hstep)
    (kept_start config agentStart gatewayStart epoch streamRequested fd) hprompt hrun
  refine ⟨fun hconnected => ?_, fun hepoch hwatching => ?_⟩
  · have := hkept.agent.watched hconnected
    have := hkept.agent.turn
    omega
  · obtain ⟨current, hcurrent⟩ := Option.isSome_iff_exists.mp hepoch
    have := (hkept.gateway.linked current hcurrent).watched hwatching
    have := hkept.gateway.beat
    omega

def slowBounds : Bounds := { turnMs := 1500, beatMs := 1500, delayMs := 500 }

theorem slowBounds_small : slowBounds.Small := ⟨by decide, by decide⟩

/-- Both clocks are about to wrap. -/
def wrappingStart : Session :=
  start { width := 1920, height := 1080, videoPort := 5004 } 0xfffffffffffffff0 0xffffffffffffffff 6 true 9

/-- The agent's PINGs arrive, and every message from the gateway is lost. -/
def deafEvents : List SessionEvent :=
  .gatewayAccept :: .loseToAgent ::
    (List.replicate 5 [.tick 1000, .agentBeat {}, .gatewayReceive, .loseToAgent, .sample, .gatewayBeat]).flatten
      ++ [.tick 1400]

theorem deaf_isSome : (Machine.run step wrappingStart deafEvents).isSome = true := by decide +kernel

theorem deaf_noticed :
    ∃ s, Machine.run step wrappingStart deafEvents = some s ∧ s.time = 6400 ∧ s.pongAt = 0 ∧
      s.activityAt = 5000 ∧ s.time ≤ s.pongAt + 6500 ∧ s.time ≤ s.activityAt + 6500 := by
  refine ⟨_, (Option.some_get deaf_isSome).symm, by decide +kernel, by decide +kernel, by decide +kernel, ?_⟩
  obtain ⟨hagent, hgateway⟩ := silence_noticed slowBounds slowBounds_small _ _ _ _ _ _ deafEvents _
    (by decide +kernel) (Option.some_get deaf_isSome).symm
  exact ⟨hagent (by decide +kernel), hgateway (by decide +kernel) (by decide +kernel)⟩

/-- In every session whose loops come round, whose messages arrive and whose
heartbeats are not overtaken, with bounds that fit into the timeout: neither side
ever gives the other up, and the gateway knows that the agent acknowledges keys. -/
theorem live_session_kept (bounds : Bounds) (hsmall : bounds.Small)
    (hfit : 1000 + bounds.turnMs + 2 * bounds.delayMs ≤ 5000) (config : AgentConfig)
    (agentStart gatewayStart epoch : UInt64) (streamRequested : Bool) (fd : Nat) (events : List SessionEvent)
    (s : Session)
    (hgood : Machine.Along step (fun s e => Prompt bounds s e ∧ Delivered bounds s e ∧ NotOvertaken s e)
      (start config agentStart gatewayStart epoch streamRequested fd) events)
    (hrun : Machine.run step (start config agentStart gatewayStart epoch streamRequested fd) events = some s) :
    s.pulse.connected = true ∧ s.timeouts = 0 ∧ s.transport.heartbeatTimedOut = false ∧
    (∀ current, s.epoch = some current →
      s.transport.isCurrent s.fd current = true ∧ s.transport.supportsKeyAck = true) := by
  have hstep : ∀ (s : Session) e s', s.Kept bounds ∧ s.Alive bounds →
      Prompt bounds s e ∧ Delivered bounds s e ∧ NotOvertaken s e → s.step e = some s' →
      s'.Kept bounds ∧ s'.Alive bounds := fun s e s' h hgood hstep =>
    ⟨kept_step hsmall h.1 hgood.1 hstep, alive_step hsmall hfit h.2 h.1 hgood.2.1 hgood.2.2 hstep⟩
  obtain ⟨hkept, halive⟩ := Machine.run_invariant hstep
    ⟨kept_start config agentStart gatewayStart epoch streamRequested fd,
      alive_start config agentStart gatewayStart epoch streamRequested fd⟩ hgood hrun
  refine ⟨halive.connected, halive.timeouts, halive.watching, fun current hcurrent => ?_⟩
  exact ⟨(hkept.gateway.linked current hcurrent).current, halive.keyAck (by rw [hcurrent]; rfl)⟩

def pingedEvents : List SessionEvent :=
  [.tick 100, .gatewayAccept, .agentReceive, .sample, .gatewayBeat, .tick 1000, .agentBeat {}, .tick 400,
    .gatewayReceive, .gatewayReceive, .sample, .gatewayBeat, .tick 400, .agentReceive, .agentReceive,
    .agentBeat {}]

theorem pinged_isSome : (Machine.run step wrappingStart pingedEvents).isSome = true := by decide +kernel

theorem pinged_kept :
    ∃ s, Machine.run step wrappingStart pingedEvents = some s ∧ s.pongAt = 1900 ∧ s.epoch = some 7 ∧
      s.pulse.connected = true ∧ s.timeouts = 0 ∧ s.transport.supportsKeyAck = true := by
  refine ⟨_, (Option.some_get pinged_isSome).symm, by decide +kernel, by decide +kernel, ?_⟩
  have hgood : Machine.Along step
      (fun s e => Prompt slowBounds s e ∧ Delivered slowBounds s e ∧ NotOvertaken s e)
      wrappingStart pingedEvents := by decide +kernel
  obtain ⟨hconnected, htimeouts, -, hlinked⟩ := live_session_kept slowBounds slowBounds_small (by decide)
    _ _ _ _ _ _ pingedEvents _ hgood (Option.some_get pinged_isSome).symm
  exact ⟨hconnected, htimeouts, (hlinked 7 (by decide +kernel)).2⟩

end System.Session

end NanokvmRdp
