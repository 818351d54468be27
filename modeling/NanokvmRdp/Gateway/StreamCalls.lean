import NanokvmRdp.Gateway.Stream

/-!
# The last stream command on a connection

`agent_transport_set_stream_requested` stores the request under the lock and
sends the command that tells it afterwards; so does `agent_transport_accept`
with the `START_STREAM` of a new connection. The order of the sends need not
be the order of the stores (`later_command_overtakes`). Where it is, the agent
was told what is requested whenever no call is on its way.
-/

namespace NanokvmRdp.Gateway

open Protocol

structure StreamCall where
  fd : Nat
  epoch : UInt64
  start : Bool
  deriving DecidableEq, Repr

/-- `calls` are in the order of their locked sections; `commands` were written
on the connection accepted last. -/
structure StreamCalls where
  transport : AgentTransport := {}
  calls : List StreamCall := []
  commands : List Bool := []
  deriving DecidableEq

inductive StreamCallEvent where
  | setStreamRequested (requested : Bool)
  | acceptBegin (fd : Nat)
  | acceptEnd (fd : Nat) (hello : Option ControlMessage) (now : UInt64)
  | send (call : Nat)
  | message (fd : Nat) (epoch : UInt64) (message : ControlMessage) (now : UInt64)
  | runEnd (fd : Nat) (epoch : UInt64)
  | beginKeyAck (sequence : UInt32)
  | heartbeat (now : UInt64)
  | shutdown
  deriving DecidableEq, Repr

namespace StreamCalls

-- ---------------------------------------------------------------------------
-- The steps
-- ---------------------------------------------------------------------------

def setTransport (s : StreamCalls) (transport : AgentTransport) : StreamCalls := { s with transport }

def setStreamRequested (s : StreamCalls) (requested : Bool) : StreamCalls :=
  match s.transport.setStreamRequested requested with
  | (none, transport) => s.setTransport transport
  | (some (fd, epoch), transport) =>
    { s with transport, calls := s.calls ++ [⟨fd, epoch, requested⟩] }

def acceptEnd (s : StreamCalls) (fd : Nat) (hello : Option ControlMessage) (now : UInt64) :
    StreamCalls :=
  match s.transport.acceptEnd fd hello now with
  | (none, transport) => s.setTransport transport
  | (some accepted, transport) =>
    { transport
      calls := if accepted.sendStart then s.calls ++ [⟨fd, accepted.epoch, true⟩] else s.calls
      commands := [] }

/-- `send_for_epoch`, which succeeds on the current connection. -/
def send (s : StreamCalls) (i : Nat) (call : StreamCall) : StreamCalls :=
  { s with
    calls := s.calls.eraseIdx i
    commands :=
      if s.transport.isCurrent call.fd call.epoch then s.commands ++ [call.start] else s.commands }

def step (s : StreamCalls) : StreamCallEvent → Option StreamCalls
  | .setStreamRequested requested => some (s.setStreamRequested requested)
  | .acceptBegin fd => some (s.setTransport (s.transport.acceptBegin fd).2)
  | .acceptEnd fd hello now => some (s.acceptEnd fd hello now)
  | .send i => s.calls[i]?.map (s.send i)
  | .message fd epoch message now =>
    some (s.setTransport (s.transport.handleMessage fd epoch message now).2)
  | .runEnd fd epoch => some (s.setTransport (s.transport.runEnd fd epoch).2)
  | .beginKeyAck sequence => some (s.setTransport (s.transport.beginKeyAck sequence).2)
  | .heartbeat now => some (s.setTransport (s.transport.heartbeat now).2)
  | .shutdown => some (s.setTransport s.transport.shutdown)

-- ---------------------------------------------------------------------------
-- One step
-- ---------------------------------------------------------------------------

def live (s : StreamCalls) (call : StreamCall) : Bool := s.transport.isCurrent call.fd call.epoch

/-- No heartbeat times out. A call that writes is the oldest one on its
connection, and none has captured a connection before it is accepted, for
which the epochs would have to wrap around. -/
def InOrder (s : StreamCalls) : StreamCallEvent → Prop
  | .send i =>
    ∀ call ∈ s.calls[i]?, s.live call = true → ∀ earlier ∈ s.calls.take i, s.live earlier = false
  | .acceptEnd fd _ _ => ∀ call ∈ s.calls, ¬ (call.fd = fd ∧ call.epoch = s.transport.epoch + 1)
  | .heartbeat now => ¬ s.transport.Expired now
  | _ => True

instance (s : StreamCalls) (event : StreamCallEvent) : Decidable (s.InOrder event) :=
  match event with
  | .send i =>
    inferInstanceAs (Decidable (∀ call ∈ s.calls[i]?, s.live call = true →
      ∀ earlier ∈ s.calls.take i, s.live earlier = false))
  | .acceptEnd fd _ _ =>
    inferInstanceAs (Decidable (∀ call ∈ s.calls, ¬ (call.fd = fd ∧ call.epoch = s.transport.epoch + 1)))
  | .heartbeat now => inferInstanceAs (Decidable (¬ s.transport.Expired now))
  | .setStreamRequested _ | .acceptBegin _ | .message .. | .runEnd .. | .beginKeyAck _ | .shutdown =>
    .isTrue trivial

def Told (requested : Bool) (commands : List Bool) : Prop :=
  if requested then commands.getLast? = some true else commands.getLast? ≠ some true

instance (requested : Bool) (commands : List Bool) : Decidable (Told requested commands) :=
  match requested with
  | true => inferInstanceAs (Decidable (commands.getLast? = some true))
  | false => inferInstanceAs (Decidable (commands.getLast? ≠ some true))

def Agrees (s : StreamCalls) : Prop :=
  s.transport.target.isSome = true →
    match (s.calls.filter s.live).getLast? with
    | some call => call.start = s.transport.streamRequested
    | none => Told s.transport.streamRequested s.commands

theorem live_iff {s : StreamCalls} {call : StreamCall} :
    s.live call = true ↔ s.transport.target = some (call.fd, call.epoch) :=
  AgentTransport.isCurrent_iff_target

theorem Agrees.keep {s : StreamCalls} (h : s.Agrees) {transport : AgentTransport}
    (htarget : transport.target = s.transport.target)
    (hrequested : transport.streamRequested = s.transport.streamRequested) :
    (s.setTransport transport).Agrees := by
  have hlive : (s.setTransport transport).live = s.live := by
    funext call
    rw [Bool.eq_iff_iff, live_iff, live_iff]
    exact iff_of_eq (congrArg (· = _) htarget)
  unfold Agrees
  rw [hlive]
  simp only [setTransport, htarget, hrequested]
  exact h

theorem agrees_of_no_target {s : StreamCalls} (h : s.transport.target = none) : s.Agrees := by
  intro hsome
  simp [h] at hsome

theorem agrees_of_last {s : StreamCalls} {calls : List StreamCall} {call : StreamCall}
    (hcalls : s.calls = calls ++ [call])
    (hlive : s.transport.target = some (call.fd, call.epoch))
    (hstart : call.start = s.transport.streamRequested) : s.Agrees := by
  intro _
  have hlast : (s.calls.filter s.live).getLast? = some call := by
    simp [hcalls, List.filter_append, live_iff.mpr hlive]
  rw [hlast]
  exact hstart

theorem agrees_of_quiet {s : StreamCalls} (hquiet : s.calls.filter s.live = [])
    (htold : Told s.transport.streamRequested s.commands) : s.Agrees := by
  intro _
  rw [hquiet]
  exact htold

theorem setStreamRequested_agrees (s : StreamCalls) (requested : Bool) :
    (s.setStreamRequested requested).Agrees := by
  unfold setStreamRequested AgentTransport.setStreamRequested
  cases htarget : s.transport.target with
  | none => exact agrees_of_no_target htarget
  | some target => exact agrees_of_last rfl htarget rfl

theorem Agrees.acceptEnd {s : StreamCalls} (h : s.Agrees) (fd : Nat) (hello : Option ControlMessage)
    (now : UInt64) (hfresh : s.InOrder (.acceptEnd fd hello now)) :
    (s.acceptEnd fd hello now).Agrees := by
  have haccepts := s.transport.accepts_acceptEnd fd hello now
  unfold StreamCalls.acceptEnd
  generalize s.transport.acceptEnd fd hello now = result at haccepts ⊢
  cases haccepts with
  | refused pending => exact h.keep rfl rfl
  | accepted hello pending hrunning =>
    have htarget (t : AgentTransport) (hstopping : t.stopping = false) :
        (t.connect fd hello now).target = some (fd, t.epoch + 1) := by
      simp [AgentTransport.target, AgentTransport.connect, AgentTransport.cancelKeyAck, hstopping]
    cases hrequested : s.transport.streamRequested with
    | true => exact agrees_of_last rfl (htarget _ hrunning) rfl
    | false =>
      refine agrees_of_quiet ?_ (by simp [Told, AgentTransport.connect, AgentTransport.cancelKeyAck])
      -- a call that was on its way has lost its connection
      rw [List.filter_eq_nil_iff]
      intro call hcall hlive
      have hsame := (live_iff.mp hlive).symm.trans (htarget _ hrunning)
      simp only [Option.some.injEq, Prod.mk.injEq] at hsame
      exact hfresh call hcall hsame

theorem told_concat (commands : List Bool) (requested : Bool) :
    Told requested (commands ++ [requested]) := by
  cases requested <;> simp [Told]

/-- Of the calls that will write, one that is done is the first. -/
theorem filter_eraseIdx {s : StreamCalls} {i : Nat} {call : StreamCall}
    (hcall : s.calls[i]? = some call) (horder : s.InOrder (.send i)) :
    s.calls.filter s.live =
      (if s.live call then [call] else []) ++ (s.calls.eraseIdx i).filter s.live := by
  obtain ⟨hi, hget⟩ := List.getElem?_eq_some_iff.mp hcall
  have hsplit : s.calls.filter s.live =
      (s.calls.take i ++ call :: s.calls.drop (i + 1)).filter s.live := by
    rw [← hget, List.getElem_cons_drop, List.take_append_drop]
  rw [hsplit, List.eraseIdx_eq_take_drop_succ, List.filter_append, List.filter_append, List.filter_cons]
  cases hlive : s.live call with
  | false => simp
  | true =>
    have hfirst : (s.calls.take i).filter s.live = [] := by
      rw [List.filter_eq_nil_iff]
      intro earlier hearlier hwrites
      exact Bool.false_ne_true ((horder call hcall hlive earlier hearlier).symm.trans hwrites)
    simp [hfirst]

theorem Agrees.send {s : StreamCalls} (h : s.Agrees) {i : Nat} {call : StreamCall}
    (hcall : s.calls[i]? = some call) (horder : s.InOrder (.send i)) : (s.send i call).Agrees := by
  have hlives : (s.send i call).live = s.live := rfl
  intro htarget
  have hbefore := h htarget
  rw [filter_eraseIdx hcall horder] at hbefore
  rw [hlives]
  unfold StreamCalls.send
  change match ((s.calls.eraseIdx i).filter s.live).getLast? with
    | some last => last.start = s.transport.streamRequested
    | none => Told s.transport.streamRequested
        (if s.live call then s.commands ++ [call.start] else s.commands)
  cases hlive : s.live call with
  | false => simpa [hlive] using hbefore
  | true =>
    cases hrest : (s.calls.eraseIdx i).filter s.live with
    | nil =>
      -- it was the last call as well
      have hstart : call.start = s.transport.streamRequested := by simpa [hlive, hrest] using hbefore
      simpa [hstart] using told_concat s.commands s.transport.streamRequested
    | cons next rest => simpa [hlive, hrest, List.getLast?_cons] using hbefore

theorem step_agrees (s : StreamCalls) (event : StreamCallEvent) (s' : StreamCalls) (h : s.Agrees)
    (horder : s.InOrder event) (hstep : s.step event = some s') : s'.Agrees := by
  unfold step at hstep
  cases event with
  | setStreamRequested requested =>
    cases hstep
    exact s.setStreamRequested_agrees requested
  | acceptBegin fd =>
    cases hstep
    obtain ⟨pending, hshape⟩ := s.transport.acceptBegin_shape fd
    rw [hshape]
    exact h.keep rfl rfl
  | acceptEnd fd hello now =>
    cases hstep
    exact h.acceptEnd fd hello now horder
  | send i =>
    obtain ⟨call, hcall, rfl⟩ := Option.map_eq_some_iff.mp hstep
    exact h.send hcall horder
  | message fd epoch message now =>
    cases hstep
    by_cases hcurrent : s.transport.isCurrent fd epoch = true
    · obtain ⟨_, _, _, hshape, _⟩ := AgentTransport.handleMessage_shape hcurrent message now
      rw [hshape]
      exact h.keep rfl rfl
    · rw [AgentTransport.handleMessage_stale hcurrent]
      exact h
  | runEnd fd epoch =>
    cases hstep
    by_cases hcurrent : s.transport.fd = some fd ∧ s.transport.epoch = epoch
    · rw [AgentTransport.runEnd_current hcurrent]
      exact agrees_of_no_target (ite_self none)
    · rw [AgentTransport.runEnd_stale hcurrent]
      exact h
  | beginKeyAck sequence =>
    cases hstep
    unfold AgentTransport.beginKeyAck
    split <;> exact h.keep rfl rfl
  | heartbeat now =>
    cases hstep
    have hrequested := AgentTransport.streamRequested_heartbeat horder
    obtain ⟨_, _, _, hshape⟩ := s.transport.heartbeat_shape now
    rw [hshape] at hrequested ⊢
    exact h.keep rfl hrequested
  | shutdown =>
    cases hstep
    exact agrees_of_no_target rfl

theorem agrees_start : Agrees {} := agrees_of_no_target rfl

/-- In every run in which the commands of a connection are sent in the order of
their locked sections: while an agent is connected and no call is on its way,
the last command the agent was sent tells what is requested. -/
theorem last_command_agrees (events : List StreamCallEvent) (s : StreamCalls)
    (horder : Machine.Along step InOrder {} events)
    (hrun : Machine.run step {} events = some s) (hcalls : s.calls = [])
    (htarget : s.transport.target.isSome = true) : Told s.transport.streamRequested s.commands := by
  have h : s.Agrees := Machine.run_invariant step_agrees agrees_start horder hrun
  have hagrees := h htarget
  rw [hcalls] at hagrees
  exact hagrees

/-- A stream that is requested before the agent connects again, and is ended
while the `START_STREAM` of the connection is on its way. -/
def commandsInOrder : List StreamCallEvent :=
  [.acceptBegin 5, .acceptEnd 5 (some plainHello) 0, .setStreamRequested true, .acceptBegin 6,
    .acceptEnd 6 (some plainHello) 10, .setStreamRequested false, .send 0, .send 0, .send 0,
    .heartbeat 1010]

theorem commandsInOrder_agree :
    ∃ s, Machine.run step {} commandsInOrder = some s ∧ s.commands = [true, false] ∧
      Told s.transport.streamRequested s.commands :=
  ⟨_, rfl, rfl, last_command_agrees commandsInOrder _ (by decide) rfl rfl rfl⟩

/-- The later store is sent first: by two callers, and by a caller and a
connection that was just accepted. No call is on its way, nothing is requested,
and the agent was told to stream. -/
theorem later_command_overtakes :
    (∃ s, Machine.run step {} [.acceptBegin 5, .acceptEnd 5 (some plainHello) 0,
        .setStreamRequested true, .setStreamRequested false, .send 1, .send 0] = some s ∧
      s.calls = [] ∧ s.transport.target = some (5, 1) ∧ s.transport.streamRequested = false ∧
      s.commands = [false, true] ∧ ¬ Told s.transport.streamRequested s.commands) ∧
    ∃ s, Machine.run step {} [.setStreamRequested true, .acceptBegin 5,
        .acceptEnd 5 (some plainHello) 0, .setStreamRequested false, .send 1, .send 0] = some s ∧
      s.calls = [] ∧ s.transport.target = some (5, 1) ∧ s.transport.streamRequested = false ∧
      s.commands = [false, true] ∧ ¬ Told s.transport.streamRequested s.commands :=
  ⟨⟨_, rfl, rfl, rfl, rfl, rfl, by decide⟩, ⟨_, rfl, rfl, rfl, rfl, rfl, by decide⟩⟩

end StreamCalls

end NanokvmRdp.Gateway
