import NanokvmRdp.Gateway.Transport

/-!
# What the locked sections of the transport do

One lemma for each section of `agent_transport.c` says which fields it can
change; every other field is the one of the transport before.
-/

namespace NanokvmRdp.Gateway

open Protocol

namespace AgentTransport

theorem fields_of_target {t : AgentTransport} {fd : Nat} {epoch : UInt64}
    (h : t.target = some (fd, epoch)) : t.stopping = false ∧ t.fd = some fd ∧ t.epoch = epoch := by
  unfold target at h
  split at h
  · cases h
  · rename_i hrunning
    obtain ⟨_, hfd, hpair⟩ := Option.map_eq_some_iff.mp h
    cases hpair
    exact ⟨Bool.eq_false_of_not_eq_true hrunning, hfd, rfl⟩

theorem isCurrent_iff_target {t : AgentTransport} {fd : Nat} {epoch : UInt64} :
    t.isCurrent fd epoch = true ↔ t.target = some (fd, epoch) := by
  unfold isCurrent target
  cases t.stopping <;> simp

-- ---------------------------------------------------------------------------
-- Accepting
-- ---------------------------------------------------------------------------

theorem acceptBegin_shape (t : AgentTransport) (fd : Nat) :
    ∃ pending, (t.acceptBegin fd).2 = { t with pendingFd := pending } := by
  unfold acceptBegin
  split
  · exact ⟨some fd, rfl⟩
  · exact ⟨t.pendingFd, rfl⟩

theorem endHandshake_shape (t : AgentTransport) (fd : Nat) :
    ∃ pending, t.endHandshake fd = { t with pendingFd := pending } := by
  unfold endHandshake
  split
  · exact ⟨none, rfl⟩
  · exact ⟨t.pendingFd, rfl⟩

/-- A handshake that failed is forgotten; one that succeeded is the next epoch. -/
inductive Accepts (t : AgentTransport) (fd : Nat) (now : UInt64) :
    Option Accepted × AgentTransport → Prop
  | refused (pending : Option Nat) : Accepts t fd now (none, { t with pendingFd := pending })
  | accepted (hello : ControlMessage) (pending : Option Nat) : t.stopping = false →
    Accepts t fd now (some ⟨t.epoch + 1, t.fd, t.streamRequested⟩,
      connect { t with pendingFd := pending } fd hello now)

theorem accepts_acceptEnd (t : AgentTransport) (fd : Nat) (hello : Option ControlMessage)
    (now : UInt64) : Accepts t fd now (t.acceptEnd fd hello now) := by
  obtain ⟨pending, hpending⟩ := t.endHandshake_shape fd
  unfold acceptEnd
  rw [hpending]
  cases hello with
  | none => exact .refused pending
  | some hello =>
    simp only
    split
    · rename_i hvalid
      refine .accepted hello pending ?_
      simp only [Bool.and_eq_true, Bool.not_eq_true'] at hvalid
      exact hvalid.2
    · exact .refused pending

theorem pendingFd_acceptEnd {t : AgentTransport} {fd : Nat} (h : t.pendingFd = some fd)
    (hello : Option ControlMessage) (now : UInt64) :
    (t.acceptEnd fd hello now).2.pendingFd = none := by
  unfold acceptEnd endHandshake
  rw [if_pos h]
  cases hello with
  | none => rfl
  | some hello =>
    simp only
    split <;> rfl

-- ---------------------------------------------------------------------------
-- Running
-- ---------------------------------------------------------------------------

def keyAckSequence? (message : ControlMessage) : Option UInt32 :=
  match ControlType.ofCode? message.type with
  | some .keyAck =>
    if message.payload.length = 5 then some (protocolReadU32 message.payload) else none
  | _ => none

theorem handleMessage_stale {t : AgentTransport} {fd : Nat} {epoch : UInt64}
    (hstale : ¬ t.isCurrent fd epoch = true) (message : ControlMessage) (now : UInt64) :
    t.handleMessage fd epoch message now = (false, t) := by
  rw [handleMessage, if_neg hstale]

/-- A message is activity. Only a `KEY_ACK` with the sequence that is waited for
acknowledges it. -/
theorem handleMessage_shape {t : AgentTransport} {fd : Nat} {epoch : UInt64}
    (hcurrent : t.isCurrent fd epoch = true) (message : ControlMessage) (now : UInt64) :
    ∃ received success stats, (t.handleMessage fd epoch message now).2 =
        { t with
          lastActivityAt := now, keyAckReceived := received, keyAckSuccess := success, stats } ∧
      (received = true → t.keyAckReceived = true ∨
        keyAckSequence? message = some t.waitingKeySequence) := by
  rw [handleMessage, if_pos hcurrent]
  simp only
  split
  · rename_i htype
    unfold receiveKeyAck
    simp only
    split
    · rename_i hack
      refine ⟨true, _, _, rfl, fun _ => .inr ?_⟩
      simp only [keyAckSequence?, htype, if_pos hack.1, hack.2]
    · exact ⟨_, _, _, rfl, .inl⟩
  · unfold receiveStats
    split <;> exact ⟨_, _, _, rfl, .inl⟩
  · exact ⟨_, _, _, rfl, .inl⟩
  · exact ⟨_, _, _, rfl, .inl⟩

theorem descriptors_handleMessage (t : AgentTransport) (fd : Nat) (epoch : UInt64)
    (message : ControlMessage) (now : UInt64) :
    (t.handleMessage fd epoch message now).2.fd = t.fd ∧
      (t.handleMessage fd epoch message now).2.epoch = t.epoch ∧
      (t.handleMessage fd epoch message now).2.pendingFd = t.pendingFd := by
  by_cases hcurrent : t.isCurrent fd epoch = true
  · obtain ⟨_, _, _, hshape, _⟩ := handleMessage_shape hcurrent message now
    rw [hshape]
    exact ⟨rfl, rfl, rfl⟩
  · rw [handleMessage_stale hcurrent]
    exact ⟨rfl, rfl, rfl⟩

theorem runEnd_stale {t : AgentTransport} {fd : Nat} {epoch : UInt64}
    (hstale : ¬ (t.fd = some fd ∧ t.epoch = epoch)) : t.runEnd fd epoch = (false, t) := by
  rw [runEnd, if_neg hstale]

theorem runEnd_current {t : AgentTransport} {fd : Nat} {epoch : UInt64}
    (hcurrent : t.fd = some fd ∧ t.epoch = epoch) :
    t.runEnd fd epoch = (!t.stopping, cancelKeyAck { t with fd := none, supportsKeyAck := false }) := by
  rw [runEnd, if_pos hcurrent]

-- ---------------------------------------------------------------------------
-- Heartbeat
-- ---------------------------------------------------------------------------

inductive Beats (t : AgentTransport) : Beat × AgentTransport → Prop
  | none : Beats t (.none, t)
  | ping (fd : Nat) (epoch now : UInt64) : t.target = some (fd, epoch) →
    Beats t (.ping fd epoch, { t with lastPingAt := now })
  | timeout (epoch : UInt64) :
    Beats t (.timeout epoch, { t with heartbeatTimedOut := true, streamRequested := false })

theorem beats_heartbeat (t : AgentTransport) (now : UInt64) : Beats t (t.heartbeat now) := by
  unfold heartbeat
  split
  · exact .none
  · rename_i htarget
    split
    · exact .timeout _
    · split
      · exact .ping _ _ now htarget
      · exact .none

theorem heartbeat_shape (t : AgentTransport) (now : UInt64) :
    ∃ pingAt timedOut requested, (t.heartbeat now).2 =
      { t with lastPingAt := pingAt, heartbeatTimedOut := timedOut, streamRequested := requested } := by
  have hbeats := t.beats_heartbeat now
  generalize t.heartbeat now = result at hbeats ⊢
  cases hbeats <;> exact ⟨_, _, _, rfl⟩

end AgentTransport

end NanokvmRdp.Gateway
