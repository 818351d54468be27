import Mathlib.Logic.Function.Basic

/-!
# Peer threads and the active client

The listener starts a `peer_thread` for a connection; the thread builds a
`Client`, claims the place of the active client and frees everything on its
way out. Other threads reach the client through `server->active`, always under
the server lock: the main thread for keepalive and statistics, the transport
events and the shutdown to set its event. An event here is one locked section or
one action of a thread outside of the lock, and any order of them is a run.

The video and output threads of a client call `client_stop` without the server
lock, so their test of the event and the setting of it are two events.
-/

namespace NanokvmRdp.Gateway

-- ---------------------------------------------------------------------------
-- Clients and their threads
-- ---------------------------------------------------------------------------

/-- How far a `peer_thread` has come: in `configure_peer`, in its loop, behind
the loop, and then through `client_context_free`. -/
inductive PeerPhase where
  | configuring
  | running
  | leaving
  /-- Input released and the stream given back. -/
  | released
  /-- No longer the active client; the event is in a local variable. -/
  | detached
  /-- The event is closed. -/
  | closed
  /-- The video and output threads were waited for. -/
  | joined
  /-- `active_closing` is cleared. -/
  | unmarked
  | freed
  | exited
  deriving DecidableEq, Repr

inductive ChildThread where
  | video
  | output
  deriving DecidableEq, Repr

/-- A peer thread and its `Client`. `live` stands for the memory and the lock of
the client, `eventOpen` for the handle that `shutdown_event` was created with.
`holding` are the child threads that have read that field in `client_stop` and
have not set the event yet. -/
structure PeerSession where
  phase : PeerPhase := .exited
  live : Bool := false
  ownsActiveClient : Bool := false
  shutdownEvent : Bool := false
  eventOpen : Bool := false
  eventSet : Bool := false
  stopping : Bool := false
  children : List ChildThread := []
  holding : List ChildThread := []
  deriving DecidableEq, Repr

inductive Accessor where
  | server
  | peer
  | child
  deriving DecidableEq, Repr

/-- `joining` is the handle that `server_join_peer_thread` waits for, and
`joinReturned` says that it returned true. -/
structure PeerServer where
  active : Option Nat := none
  activeClosing : Bool := false
  peerThread : Option Nat := none
  stopRequested : Bool := false
  joining : Option Nat := none
  joinReturned : Bool := false
  accepted : Nat := 0
  peers : Nat → PeerSession := fun _ => {}
  faults : List Accessor := []

/-- How `configure_peer` ends: with a client, without one, or with one that is
freed at once. -/
inductive Configured where
  | ready
  | noContext
  | failed
  deriving DecidableEq, Repr

inductive PeerEvent where
  | reap
  | peerAccepted (created : Bool)
  | requestStop
  | joinBegin
  | joinEnd
  | joinTimeout
  | signal
  | inspect
  | configure (i : Nat) (outcome : Configured)
  | claim (i : Nat)
  | leave (i : Nat)
  | release (i : Nat)
  | detach (i : Nat)
  | closeEvent (i : Nat)
  | joinChildren (i : Nat)
  | unmark (i : Nat)
  | free (i : Nat)
  | exit (i : Nat)
  | startChild (i : Nat) (thread : ChildThread)
  | childReads (i : Nat) (thread : ChildThread)
  | childSets (i : Nat) (thread : ChildThread)
  | childEnds (i : Nat) (thread : ChildThread)
  deriving DecidableEq, Repr

namespace PeerServer

def setPeer (s : PeerServer) (i : Nat) (peer : PeerSession) : PeerServer :=
  { s with peers := Function.update s.peers i peer }

def blame (s : PeerServer) (bad : Bool) (accessor : Accessor) : PeerServer :=
  if bad then { s with faults := s.faults ++ [accessor] } else s

end PeerServer

/-- What goes wrong when `shutdown_event` of this client is set: the client is
gone, or the field still names an event that was closed. -/
def PeerSession.unsettable (peer : PeerSession) : Bool := !peer.live || (peer.shutdownEvent && !peer.eventOpen)

def PeerSession.setEvent (peer : PeerSession) : PeerSession :=
  { peer with eventSet := peer.eventSet || peer.shutdownEvent }

namespace PeerServer

-- ---------------------------------------------------------------------------
-- The listener and the other threads of the server
-- ---------------------------------------------------------------------------

/-- The locked section of `server_reap_finished_peer_thread`. -/
def reap (s : PeerServer) : PeerServer :=
  match s.peerThread with
  | some i => if (s.peers i).phase = .exited then { s with peerThread := none } else s
  | none => s

/-- The locked section of `peer_accepted`; `created` is the answer of
`CreateThread`. -/
def peerAccepted (s : PeerServer) (created : Bool) : PeerServer :=
  if s.stopRequested || s.peerThread.isSome || s.active.isSome || s.activeClosing then s
  else if created then
    { s.setPeer s.accepted { phase := .configuring } with
      peerThread := some s.accepted
      accepted := s.accepted + 1 }
  else s

/-- The locked section of `on_transport_event`, and the first one of
`server_join_peer_thread`. -/
def signal (s : PeerServer) : PeerServer :=
  match s.active with
  | some i => (s.blame (s.peers i).unsettable .server).setPeer i (s.peers i).setEvent
  | none => s

/-- `server_keepalive` and `server_heartbeat` take the lock of the active client. -/
def inspect (s : PeerServer) : PeerServer :=
  match s.active with
  | some i => s.blame (!(s.peers i).live) .server
  | none => s

def joinBegin (s : PeerServer) : PeerServer :=
  match s.peerThread with
  | some i => { s.signal with joining := some i }
  | none => { s.signal with joinReturned := true }

/-- `WaitForSingleObject` has found thread `i` finished. -/
def joinEnd (s : PeerServer) (i : Nat) : PeerServer :=
  { s with
    peerThread := if s.peerThread = some i then none else s.peerThread
    joining := none
    joinReturned := true }

-- ---------------------------------------------------------------------------
-- The peer thread
-- ---------------------------------------------------------------------------

def configure (s : PeerServer) (i : Nat) : Configured → PeerServer
  | .ready => s.setPeer i { phase := .running, live := true, shutdownEvent := true, eventOpen := true }
  | .noContext => s.setPeer i { phase := .freed }
  | .failed => s.setPeer i { phase := .leaving, live := true, shutdownEvent := true, eventOpen := true }

def clientClaimActive (s : PeerServer) (i : Nat) : PeerServer :=
  if s.active.isSome || s.activeClosing then s
  else { s.setPeer i { s.peers i with ownsActiveClient := true } with active := some i }

/-- `client_stop` by the peer thread itself, on its way to the next phase. -/
def clientStop (s : PeerServer) (i : Nat) (next : PeerPhase) : PeerServer :=
  (s.blame (s.peers i).unsettable .peer).setPeer i
    { (s.peers i).setEvent with phase := next, stopping := true }

/-- The section of `client_context_free` that gives up `active` and takes the
event out of the client. -/
def detach (s : PeerServer) (i : Nat) : PeerServer :=
  let peer := { s.peers i with phase := .detached, shutdownEvent := false }
  if (s.peers i).ownsActiveClient && s.active == some i then
    { s.setPeer i peer with active := none, activeClosing := true }
  else s.setPeer i peer

def closeEvent (s : PeerServer) (i : Nat) : PeerServer :=
  s.setPeer i { s.peers i with phase := .closed, eventOpen := false }

/-- Both waits end after 3000 ms, whether or not the threads have. -/
def joinChildren (s : PeerServer) (i : Nat) : PeerServer :=
  s.setPeer i { s.peers i with phase := .joined }

def unmark (s : PeerServer) (i : Nat) : PeerServer :=
  { s.setPeer i { s.peers i with phase := .unmarked } with
    activeClosing := if (s.peers i).ownsActiveClient then false else s.activeClosing }

def free (s : PeerServer) (i : Nat) : PeerServer :=
  s.setPeer i { s.peers i with phase := .freed, live := false }

def exit (s : PeerServer) (i : Nat) : PeerServer :=
  s.setPeer i { s.peers i with phase := .exited }

-- ---------------------------------------------------------------------------
-- The video and output threads
-- ---------------------------------------------------------------------------

/-- The test of `client->shutdown_event` in `client_stop`. -/
def childReads (s : PeerServer) (i : Nat) (thread : ChildThread) : PeerServer :=
  let peer := s.peers i
  (s.blame (!peer.live) .child).setPeer i
    { peer with holding := if peer.shutdownEvent then thread :: peer.holding else peer.holding }

def childSets (s : PeerServer) (i : Nat) (thread : ChildThread) : PeerServer :=
  let peer := s.peers i
  (s.blame (!peer.eventOpen) .child).setPeer i
    { peer with holding := peer.holding.erase thread, eventSet := peer.eventSet || peer.eventOpen }

def whenIn (s : PeerServer) (i : Nat) (phase : PeerPhase) (next : PeerServer) : Option PeerServer :=
  if (s.peers i).phase = phase then some next else none

def step (s : PeerServer) : PeerEvent → Option PeerServer
  -- The listener callback and the join are on the main thread.
  | .reap => if s.joining = none then some s.reap else none
  | .peerAccepted created => if s.joining = none then some (s.peerAccepted created) else none
  | .requestStop => some { s with stopRequested := true }
  | .joinBegin => if s.stopRequested ∧ s.joining = none then some s.joinBegin else none
  | .joinEnd =>
    s.joining.bind fun i => if (s.peers i).phase = .exited then some (s.joinEnd i) else none
  | .joinTimeout => s.joining.map fun _ => { s with joining := none }
  | .signal => some s.signal
  | .inspect => some s.inspect
  | .configure i outcome => s.whenIn i .configuring (s.configure i outcome)
  | .claim i => s.whenIn i .running (s.clientClaimActive i)
  | .leave i => s.whenIn i .running (s.clientStop i .leaving)
  | .release i => s.whenIn i .leaving (s.clientStop i .released)
  | .detach i => s.whenIn i .released (s.detach i)
  | .closeEvent i => s.whenIn i .detached (s.closeEvent i)
  | .joinChildren i => s.whenIn i .closed (s.joinChildren i)
  | .unmark i => s.whenIn i .joined (s.unmark i)
  | .free i => s.whenIn i .unmarked (s.free i)
  | .exit i => s.whenIn i .freed (s.exit i)
  | .startChild i thread =>
    if (s.peers i).phase = .running ∧ (s.peers i).ownsActiveClient ∧
        thread ∉ (s.peers i).children then
      some (s.setPeer i { s.peers i with children := thread :: (s.peers i).children })
    else none
  | .childReads i thread =>
    if thread ∈ (s.peers i).children then some (s.childReads i thread) else none
  | .childSets i thread =>
    if thread ∈ (s.peers i).holding then some (s.childSets i thread) else none
  | .childEnds i thread =>
    if thread ∈ (s.peers i).children ∧ thread ∉ (s.peers i).holding then
      some (s.setPeer i { s.peers i with children := (s.peers i).children.erase thread })
    else none

end PeerServer

end NanokvmRdp.Gateway
