import NanokvmRdp.Gateway.TransportLaws
import NanokvmRdp.Lib.Machine

/-!
# The stream request

Who sets and clears `stream_requested`: the HTTP API at its start, an RDP
client while it is connected, its teardown, and a heartbeat timeout. Teardown
restores the request of the HTTP API. A timeout does not: it relies on the
client it shuts down, so without one, or after that client's
`restore_http_stream`, the request stays cleared (`timeout_drops_http_stream`).
-/

namespace NanokvmRdp.Gateway

open Protocol

-- ---------------------------------------------------------------------------
-- The request in the transport
-- ---------------------------------------------------------------------------

namespace AgentTransport

@[simp] theorem streamRequested_acceptBegin (t : AgentTransport) (fd : Nat) :
    (t.acceptBegin fd).2.streamRequested = t.streamRequested := by
  obtain ⟨pending, hshape⟩ := t.acceptBegin_shape fd
  rw [hshape]

@[simp] theorem streamRequested_acceptEnd (t : AgentTransport) (fd : Nat)
    (hello : Option ControlMessage) (now : UInt64) :
    (t.acceptEnd fd hello now).2.streamRequested = t.streamRequested := by
  have haccepts := t.accepts_acceptEnd fd hello now
  generalize t.acceptEnd fd hello now = result at haccepts ⊢
  cases haccepts <;> rfl

theorem sendStart_acceptEnd {t : AgentTransport} {fd : Nat} {hello : Option ControlMessage}
    {now : UInt64} {accepted : Accepted} (h : (t.acceptEnd fd hello now).1 = some accepted) :
    accepted.sendStart = t.streamRequested := by
  have haccepts := t.accepts_acceptEnd fd hello now
  generalize t.acceptEnd fd hello now = result at haccepts h
  cases haccepts <;> cases h
  rfl

@[simp] theorem streamRequested_handleMessage (t : AgentTransport) (fd : Nat) (epoch : UInt64)
    (message : ControlMessage) (now : UInt64) :
    (t.handleMessage fd epoch message now).2.streamRequested = t.streamRequested := by
  by_cases hcurrent : t.isCurrent fd epoch = true
  · obtain ⟨_, _, _, hshape, _⟩ := handleMessage_shape hcurrent message now
    rw [hshape]
  · rw [handleMessage_stale hcurrent]

@[simp] theorem streamRequested_runEnd (t : AgentTransport) (fd : Nat) (epoch : UInt64) :
    (t.runEnd fd epoch).2.streamRequested = t.streamRequested := by
  unfold runEnd
  split <;> rfl

def Expired (t : AgentTransport) (now : UInt64) : Prop :=
  t.target.isSome = true ∧ t.overdue now = true

instance (t : AgentTransport) (now : UInt64) : Decidable (t.Expired now) :=
  inferInstanceAs (Decidable (_ ∧ _))

theorem streamRequested_heartbeat {t : AgentTransport} {now : UInt64} (h : ¬ t.Expired now) :
    (t.heartbeat now).2.streamRequested = t.streamRequested := by
  unfold heartbeat
  split
  · rfl
  · rename_i htarget
    split
    · rename_i hoverdue
      exact absurd ⟨by simp [htarget], hoverdue⟩ h
    · split <;> rfl

end AgentTransport

-- ---------------------------------------------------------------------------
-- The server
-- ---------------------------------------------------------------------------

/-- The RDP client that owns the server: `active` until `client_context_free`,
which clears the request, restores it for the HTTP API, gives up `active` and
ends `active_closing`. -/
inductive Peer where
  | none
  | active
  | cleared
  | restored
  | closing
  deriving DecidableEq, Repr

/-- `timeouts` has the epochs of published timeouts that `on_transport_event`
has not handled. -/
structure Server where
  transport : AgentTransport := {}
  httpApi : Bool := false
  peer : Peer := .none
  shutdownEvent : Bool := false
  timeouts : List UInt64 := []
  deriving DecidableEq

inductive ServerEvent where
  | httpStart
  | claimActive
  | requestStream
  | clearStream
  | restoreHttpStream
  | detach
  | finish
  | acceptBegin (fd : Nat)
  | acceptEnd (fd : Nat) (hello : Option ControlMessage) (now : UInt64)
  | message (fd : Nat) (epoch : UInt64) (message : ControlMessage) (now : UInt64)
  | runEnd (fd : Nat) (epoch : UInt64)
  | heartbeat (now : UInt64)
  | onTransportEvent
  deriving DecidableEq, Repr

namespace Server

def setTransport (s : Server) (transport : AgentTransport) : Server := { s with transport }

def setStreamRequested (s : Server) (requested : Bool) : Server :=
  s.setTransport (s.transport.setStreamRequested requested).2

def restoreHttpStream (s : Server) : Server :=
  if s.httpApi then s.setStreamRequested true else s

def heartbeat (s : Server) (now : UInt64) : Server :=
  match s.transport.heartbeat now with
  | (.timeout epoch, transport) => { s with transport, timeouts := s.timeouts ++ [epoch] }
  | (_, transport) => s.setTransport transport

def hasActive (s : Server) : Bool :=
  match s.peer with
  | .active | .cleared | .restored => true
  | .none | .closing => false

def onTransportEvent (s : Server) (epoch : UInt64) : Server :=
  if s.transport.isCurrentEpoch epoch && s.hasActive then { s with shutdownEvent := true } else s

def step (s : Server) (event : ServerEvent) : Option Server :=
  match event, s.peer with
  | .httpStart, _ =>
    if s.httpApi then none else some ({ s with httpApi := true }.setStreamRequested true)
  | .claimActive, .none => some { s with peer := .active, shutdownEvent := false }
  | .requestStream, .active => some (s.setStreamRequested true)
  | .clearStream, .active => some { s.setStreamRequested false with peer := .cleared }
  | .restoreHttpStream, .cleared => some { s.restoreHttpStream with peer := .restored }
  | .detach, .restored => some { s with peer := .closing, shutdownEvent := false }
  | .finish, .closing => some { s with peer := .none }
  | .acceptBegin fd, _ => some (s.setTransport (s.transport.acceptBegin fd).2)
  | .acceptEnd fd hello now, _ => some (s.setTransport (s.transport.acceptEnd fd hello now).2)
  | .message fd epoch message now, _ =>
    some (s.setTransport (s.transport.handleMessage fd epoch message now).2)
  | .runEnd fd epoch, _ => some (s.setTransport (s.transport.runEnd fd epoch).2)
  | .heartbeat now, _ => some (s.heartbeat now)
  | .onTransportEvent, _ =>
    match s.timeouts with
    | [] => none
    | epoch :: timeouts => some ({ s with timeouts }.onTransportEvent epoch)
  | _, _ => none

/-- A client is active and has not run `restore_http_stream`. -/
def unsettled (s : Server) : Bool :=
  match s.peer with
  | .active | .cleared => true
  | .none | .restored | .closing => false

/-- Once the HTTP API has started, a connection expires only under a client that
will still restore the request. -/
def Attended (s : Server) : ServerEvent → Prop
  | .heartbeat now => s.httpApi = true → s.transport.Expired now → s.unsettled = true
  | _ => True

instance (s : Server) (event : ServerEvent) : Decidable (s.Attended event) :=
  match event with
  | .heartbeat now =>
    inferInstanceAs (Decidable (s.httpApi = true → s.transport.Expired now → s.unsettled = true))
  | .httpStart | .claimActive | .requestStream | .clearStream | .restoreHttpStream | .detach
  | .finish | .acceptBegin _ | .acceptEnd .. | .message .. | .runEnd .. | .onTransportEvent =>
    .isTrue trivial

def HttpStreams (s : Server) : Prop :=
  s.httpApi = true → s.unsettled = false → s.transport.streamRequested = true

variable {s : Server}

theorem HttpStreams.setTransport (h : s.HttpStreams) {transport : AgentTransport}
    (hsame : transport.streamRequested = s.transport.streamRequested) :
    (s.setTransport transport).HttpStreams :=
  fun hhttp hsettled => hsame.trans (h hhttp hsettled)

theorem heartbeat_httpStreams (h : s.HttpStreams) (now : UInt64)
    (hattended : s.Attended (.heartbeat now)) : (s.heartbeat now).HttpStreams := by
  have hstreams : (s.setTransport (s.transport.heartbeat now).2).HttpStreams := by
    by_cases hexpired : s.transport.Expired now
    · intro hhttp hsettled
      -- the client at hand will restore the request
      cases (hattended hhttp hexpired).symm.trans hsettled
    · exact h.setTransport (AgentTransport.streamRequested_heartbeat hexpired)
  unfold heartbeat
  split
  · rename_i hbeat
    rw [hbeat] at hstreams
    exact hstreams
  · rename_i hbeat
    rw [hbeat] at hstreams
    exact hstreams

theorem step_httpStreams (s : Server) (event : ServerEvent) (s' : Server) (h : s.HttpStreams)
    (hattended : s.Attended event) (hstep : s.step event = some s') : s'.HttpStreams := by
  unfold step at hstep
  cases event with
  | httpStart =>
    simp only at hstep
    split at hstep <;> cases hstep
    exact fun _ _ => rfl
  -- the client
  | claimActive =>
    cases hpeer : s.peer <;> simp only [hpeer] at hstep <;> cases hstep
    exact fun _ hsettled => by cases hsettled
  | requestStream =>
    cases hpeer : s.peer <;> simp only [hpeer] at hstep <;> cases hstep
    exact fun _ _ => rfl
  | clearStream =>
    cases hpeer : s.peer <;> simp only [hpeer] at hstep <;> cases hstep
    exact fun _ hsettled => by cases hsettled
  | restoreHttpStream =>
    cases hpeer : s.peer <;> simp only [hpeer] at hstep <;> cases hstep
    unfold restoreHttpStream
    split
    · exact fun _ _ => rfl
    · rename_i hno
      exact fun hhttp => absurd hhttp hno
  | detach =>
    cases hpeer : s.peer <;> simp only [hpeer] at hstep <;> cases hstep
    intro hhttp _
    exact h hhttp (by simp [unsettled, hpeer])
  | finish =>
    cases hpeer : s.peer <;> simp only [hpeer] at hstep <;> cases hstep
    intro hhttp _
    exact h hhttp (by simp [unsettled, hpeer])
  -- the agent
  | acceptBegin fd =>
    cases hstep
    exact h.setTransport (s.transport.streamRequested_acceptBegin fd)
  | acceptEnd fd hello now =>
    cases hstep
    exact h.setTransport (s.transport.streamRequested_acceptEnd fd hello now)
  | message fd epoch message now =>
    cases hstep
    exact h.setTransport (s.transport.streamRequested_handleMessage fd epoch message now)
  | runEnd fd epoch =>
    cases hstep
    exact h.setTransport (s.transport.streamRequested_runEnd fd epoch)
  | heartbeat now =>
    cases hstep
    exact heartbeat_httpStreams h now hattended
  | onTransportEvent =>
    simp only at hstep
    split at hstep <;> cases hstep
    unfold onTransportEvent
    split <;> exact h

theorem httpStreams_start : HttpStreams {} := fun hhttp => by cases hhttp

/-- In every run in which connections expire only under a client that will
still restore the request, the HTTP API has its stream whenever there is no
client, and a new connection is told so. -/
theorem http_stream_requested (events : List ServerEvent) (s : Server)
    (hattended : Machine.Along step Attended {} events)
    (hrun : Machine.run step {} events = some s) (hhttp : s.httpApi = true)
    (hpeer : s.peer = .none) :
    s.transport.streamRequested = true ∧
      ∀ fd hello now accepted, (s.transport.acceptEnd fd hello now).1 = some accepted →
        accepted.sendStart = true := by
  have h : s.HttpStreams := Machine.run_invariant step_httpStreams httpStreams_start hattended hrun
  have hrequested := h hhttp (by simp [unsettled, hpeer])
  refine ⟨hrequested, ?_⟩
  intro fd hello now accepted haccepted
  exact (AgentTransport.sendStart_acceptEnd haccepted).trans hrequested

/-- The agent goes silent under a client, whose teardown restores the request. -/
def attendedTimeout : List ServerEvent :=
  [.httpStart, .acceptBegin 5, .acceptEnd 5 (some plainHello) 0, .claimActive, .requestStream,
    .heartbeat 6000, .onTransportEvent, .clearStream, .restoreHttpStream, .detach, .finish,
    .runEnd 5 1]

theorem attendedTimeout_requested :
    ∃ s, Machine.run step {} attendedTimeout = some s ∧ s.transport.streamRequested = true ∧
      ∀ fd hello now accepted, (s.transport.acceptEnd fd hello now).1 = some accepted →
        accepted.sendStart = true := by
  exact ⟨_, rfl, http_stream_requested attendedTimeout _ (by decide) rfl rfl rfl⟩

/-- The agent goes silent with no client connected: the request is lost, and the
next connection is not told to stream. -/
theorem timeout_drops_http_stream :
    ∃ s, Machine.run step {} [.httpStart, .acceptBegin 5, .acceptEnd 5 (some plainHello) 0,
        .heartbeat 6000, .onTransportEvent, .runEnd 5 1, .acceptBegin 6] = some s ∧
      s.httpApi = true ∧ s.peer = .none ∧ s.transport.streamRequested = false ∧
      (s.transport.acceptEnd 6 (some plainHello) 7000).1 = some ⟨2, none, false⟩ := by
  exact ⟨_, rfl, rfl, rfl, rfl, rfl⟩

end Server

end NanokvmRdp.Gateway
