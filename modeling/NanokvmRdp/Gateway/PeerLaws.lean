import Mathlib.Data.Option.Basic
import NanokvmRdp.Gateway.PeerThreads
import NanokvmRdp.Lib.Machine

/-!
# What peer threads leave behind `active`

At most one peer thread runs at a time, and `active` and `active_closing` follow
from how far it has come (`Sound`). So what is found behind `active` is alive
(`active_client_reachable`), no claim is refused and no thread outlives the join
at the end (`one_peer_thread`). `stop_behind_close` is a run in which a video
thread sets an event that the peer thread has closed.
-/

namespace NanokvmRdp.Gateway

-- ---------------------------------------------------------------------------
-- What a phase says of the client
-- ---------------------------------------------------------------------------

namespace PeerPhase

def hasClient : PeerPhase → Bool
  | .running | .leaving | .released | .detached | .closed | .joined | .unmarked => true
  | .configuring | .freed | .exited => false

def claims : PeerPhase → Bool
  | .running | .leaving | .released => true
  | _ => false

def closing : PeerPhase → Bool
  | .detached | .closed | .joined => true
  | _ => false

def eventOpen : PeerPhase → Bool
  | .running | .leaving | .released | .detached => true
  | _ => false

end PeerPhase

namespace PeerSession

structure Phased (peer : PeerSession) : Prop where
  live : peer.live = peer.phase.hasClient
  shutdownEvent : peer.shutdownEvent = peer.phase.claims
  eventOpen : peer.eventOpen = peer.phase.eventOpen

def holdsActive (peer : PeerSession) : Bool := peer.ownsActiveClient && peer.phase.claims

def isClosing (peer : PeerSession) : Bool := peer.ownsActiveClient && peer.phase.closing

theorem Phased.at_phase {peer : PeerSession} {phase : PeerPhase} (h : peer.Phased)
    (hphase : peer.phase = phase) :
    peer.live = phase.hasClient ∧ peer.shutdownEvent = phase.claims ∧
      peer.eventOpen = phase.eventOpen :=
  hphase ▸ ⟨h.live, h.shutdownEvent, h.eventOpen⟩

theorem Phased.settable {peer : PeerSession} (h : peer.Phased) (hclaims : peer.phase.claims = true) :
    peer.unsettable = false := by
  obtain ⟨hlive, hevent, hopen⟩ := h
  revert hclaims
  rw [unsettable, hlive, hevent, hopen]
  cases peer.phase <;> simp [PeerPhase.claims, PeerPhase.hasClient, PeerPhase.eventOpen]

end PeerSession

namespace PeerServer

def Alive (s : PeerServer) (i : Nat) : Prop := (s.peers i).phase ≠ .exited

/-- A thread that has not returned is the one the server knows, and what the
server says of the active client follows from how far that thread is. -/
structure Sound (s : PeerServer) : Prop where
  alive : ∀ i, s.Alive i → s.peerThread = some i
  phased : ∀ i, (s.peers i).Phased
  active : s.active = s.peerThread.filter fun i => (s.peers i).holdsActive
  closing : s.activeClosing = s.peerThread.any fun i => (s.peers i).isClosing
  joining : ∀ i ∈ s.joining, s.peerThread = some i ∧ s.stopRequested = true
  joined : s.joinReturned = true → s.peerThread = none ∧ s.stopRequested = true
  faults : ∀ accessor ∈ s.faults, accessor = .child

theorem sound_initial : ({} : PeerServer).Sound where
  alive _ h := absurd rfl h
  phased _ := ⟨rfl, rfl, rfl⟩
  active := rfl
  closing := rfl
  joining _ h := nomatch h
  joined h := nomatch h
  faults _ h := nomatch h

-- ---------------------------------------------------------------------------
-- Steps of one peer
-- ---------------------------------------------------------------------------

@[simp] theorem peers_setPeer_self (s : PeerServer) (i : Nat) (peer : PeerSession) :
    (s.setPeer i peer).peers i = peer := by
  simp [setPeer]

theorem peers_setPeer_of_ne (s : PeerServer) (peer : PeerSession) (h : j ≠ i) :
    (s.setPeer i peer).peers j = s.peers j := by
  simp [setPeer, h]

@[simp] theorem blame_false (s : PeerServer) (accessor : Accessor) : s.blame false accessor = s := rfl

variable {s : PeerServer}

/-- The rule for a step of the thread the server knows: its client has the
fields of its phase, and `active` and `active_closing` say what it does. -/
theorem Sound.of_peer {s s' : PeerServer} (h : s.Sound) (hthread : s.peerThread = some i)
    (hpeers : ∀ j, j ≠ i → s'.peers j = s.peers j) (hsame : s'.peerThread = s.peerThread)
    (hphased : (s'.peers i).Phased)
    (hactive : s'.active = if (s'.peers i).holdsActive then some i else none)
    (hclosing : s'.activeClosing = (s'.peers i).isClosing)
    (hjoining : s'.joining = s.joining) (hreturned : s'.joinReturned = s.joinReturned)
    (hstop : s'.stopRequested = s.stopRequested) (hfaults : s'.faults = s.faults) : s'.Sound where
  alive j hj := by
    by_cases hji : j = i
    · rw [hji, hsame, hthread]
    · rw [Alive, hpeers j hji] at hj
      rw [hsame]
      exact h.alive j hj
  phased j := by
    by_cases hji : j = i
    · exact hji ▸ hphased
    · rw [hpeers j hji]
      exact h.phased j
  active := by simp [hactive, hsame, hthread, Option.filter]
  closing := by simp [hclosing, hsame, hthread]
  joining j hj := by
    rw [hsame, hstop]
    exact h.joining j (hjoining ▸ hj)
  joined hj := by
    rw [hsame, hstop]
    exact h.joined (hreturned ▸ hj)
  faults := hfaults ▸ h.faults

theorem Sound.active_eq (h : s.Sound) (hthread : s.peerThread = some i) :
    s.active = if (s.peers i).holdsActive then some i else none := by
  rw [h.active, hthread]
  rfl

theorem Sound.closing_eq (h : s.Sound) (hthread : s.peerThread = some i) :
    s.activeClosing = (s.peers i).isClosing := by
  rw [h.closing, hthread]
  rfl

theorem Sound.setPeer (h : s.Sound) (hthread : s.peerThread = some i) {peer : PeerSession}
    (hphased : peer.Phased) (hactive : peer.holdsActive = (s.peers i).holdsActive)
    (hclosing : peer.isClosing = (s.peers i).isClosing) : (s.setPeer i peer).Sound := by
  refine h.of_peer hthread (fun j => s.peers_setPeer_of_ne peer) rfl ?_ ?_ ?_ rfl rfl rfl rfl
  · rwa [peers_setPeer_self]
  · rw [peers_setPeer_self, hactive]
    exact h.active_eq hthread
  · rw [peers_setPeer_self, hclosing]
    exact h.closing_eq hthread

theorem Sound.advance (h : s.Sound) (hthread : s.peerThread = some i)
    (hphase : (s.peers i).phase = phase) {peer : PeerSession}
    (howns : peer.ownsActiveClient = (s.peers i).ownsActiveClient) (hphased : peer.Phased)
    (hclaims : peer.phase.claims = phase.claims) (hclosing : peer.phase.closing = phase.closing) :
    (s.setPeer i peer).Sound := by
  refine h.setPeer hthread hphased ?_ ?_
  · rw [PeerSession.holdsActive, PeerSession.holdsActive, howns, hclaims, hphase]
  · rw [PeerSession.isClosing, PeerSession.isClosing, howns, hclosing, hphase]

/-- Whoever is active is the client of the known thread, before it is detached. -/
theorem Sound.of_active (h : s.Sound) (hactive : s.active = some i) :
    s.peerThread = some i ∧ (s.peers i).ownsActiveClient = true ∧
      (s.peers i).phase.claims = true := by
  rw [h.active, Option.filter_eq_some_iff, PeerSession.holdsActive, Bool.and_eq_true] at hactive
  exact hactive

theorem sound_signal (h : s.Sound) : s.signal.Sound := by
  unfold signal
  split
  · rename_i i hactive
    obtain ⟨hthread, -, hclaims⟩ := h.of_active hactive
    rw [(h.phased i).settable hclaims, blame_false]
    obtain ⟨hlive, hevent, hopen⟩ := h.phased i
    exact h.setPeer hthread ⟨hlive, hevent, hopen⟩ rfl rfl
  · exact h

theorem sound_inspect (h : s.Sound) : s.inspect.Sound := by
  unfold inspect
  split
  · rename_i i hactive
    obtain ⟨-, -, hclaims⟩ := h.of_active hactive
    have hlive : (s.peers i).live = true := by
      rw [(h.phased i).live]
      revert hclaims
      cases (s.peers i).phase <;> simp [PeerPhase.claims, PeerPhase.hasClient]
    rw [hlive]
    exact h
  · exact h

-- ---------------------------------------------------------------------------
-- Admission and the join
-- ---------------------------------------------------------------------------

theorem Sound.forget (h : s.Sound) (hexited : ¬ s.Alive i)
    (hthread : s.peerThread = some i) :
    s.active = none ∧ s.activeClosing = false ∧ ∀ j, ¬ s.Alive j := by
  have hphase : (s.peers i).phase = .exited := not_not.mp hexited
  refine ⟨?_, ?_, fun j hj => ?_⟩
  · simp [h.active_eq hthread, PeerSession.holdsActive, PeerPhase.claims, hphase]
  · simp [h.closing_eq hthread, PeerSession.isClosing, PeerPhase.closing, hphase]
  · have hknown := h.alive j hj
    rw [hthread, Option.some_inj] at hknown
    exact hexited (hknown ▸ hj)

theorem Sound.forgotten (h : s.Sound) (hexited : (s.peers i).phase = .exited)
    (hthread : s.peerThread = some i) {joining : Option Nat} (hjoining : joining = none)
    {returned : Bool} (hreturned : returned = true → s.stopRequested = true) :
    Sound { s with peerThread := none, joining := joining, joinReturned := returned } := by
  obtain ⟨hactive, hclosing, hdead⟩ := h.forget (not_not.mpr hexited) hthread
  exact {
    alive := fun j hj => absurd hj (hdead j)
    phased := h.phased
    active := hactive
    closing := hclosing
    joining := by simp [hjoining]
    joined := fun hj => ⟨rfl, hreturned hj⟩
    faults := h.faults }

theorem sound_reap (h : s.Sound) (hjoining : s.joining = none) : s.reap.Sound := by
  unfold reap
  split
  · rename_i i hthread
    split
    · rename_i hphase
      exact h.forgotten hphase hthread hjoining fun hj => (h.joined hj).2
    · exact h
  · exact h

theorem sound_peerAccepted (h : s.Sound) (hjoining : s.joining = none) (created : Bool) :
    (s.peerAccepted created).Sound := by
  unfold peerAccepted
  split
  · exact h
  · rename_i hfree
    simp only [Bool.or_eq_true, not_or, Bool.not_eq_true, Option.isSome_eq_false_iff,
      Option.isNone_iff_eq_none] at hfree
    obtain ⟨⟨⟨hstop, hthread⟩, hactive⟩, hclosing⟩ := hfree
    split
    · have hdead : ∀ j, ¬ s.Alive j := by
        intro j hj
        rw [h.alive j hj] at hthread
        cases hthread
      have hnew : ({ phase := .configuring } : PeerSession).Phased := ⟨rfl, rfl, rfl⟩
      exact {
        alive := by
          intro j hj
          by_cases hjnew : j = s.accepted
          · rw [hjnew]
          · rw [Alive, peers_setPeer_of_ne s _ hjnew] at hj
            exact absurd hj (hdead j)
        phased := by
          intro j
          by_cases hjnew : j = s.accepted
          · rw [hjnew, peers_setPeer_self]
            exact hnew
          · rw [peers_setPeer_of_ne s _ hjnew]
            exact h.phased j
        active := by simp [setPeer, hactive, Option.filter, PeerSession.holdsActive, PeerPhase.claims]
        closing := by simp [setPeer, hclosing, PeerSession.isClosing, PeerPhase.closing]
        joining := by simp [setPeer, hjoining]
        joined := by
          intro hj
          have hstopped := (h.joined hj).2
          rw [hstop] at hstopped
          cases hstopped
        faults := h.faults }
    · exact h

@[simp] theorem peerThread_signal (s : PeerServer) : s.signal.peerThread = s.peerThread := by
  unfold signal
  split
  · unfold blame
    split <;> rfl
  · rfl

@[simp] theorem stopRequested_signal (s : PeerServer) : s.signal.stopRequested = s.stopRequested := by
  unfold signal
  split
  · unfold blame
    split <;> rfl
  · rfl

theorem sound_joinBegin (h : s.Sound) (hstop : s.stopRequested = true) :
    s.joinBegin.Sound := by
  have hsignal := sound_signal h
  unfold joinBegin
  split
  · rename_i i hthread
    refine { hsignal with joining := ?_ }
    intro j hj
    rw [Option.mem_some_iff] at hj
    simp [hthread, hstop, hj]
  · rename_i hthread
    exact { hsignal with joined := fun _ => by simp [hthread, hstop] }

theorem sound_joinEnd (h : s.Sound) (hjoining : s.joining = some i)
    (hexited : (s.peers i).phase = .exited) : (s.joinEnd i).Sound := by
  obtain ⟨hthread, hstop⟩ := h.joining i hjoining
  simp only [joinEnd, hthread, if_true]
  exact h.forgotten hexited hthread rfl fun _ => hstop

-- ---------------------------------------------------------------------------
-- The phases of the peer thread
-- ---------------------------------------------------------------------------

theorem whenIn_eq_some {s s' next : PeerServer} (h : s.whenIn i phase next = some s') :
    (s.peers i).phase = phase ∧ s' = next := by
  unfold whenIn at h
  split at h
  · rename_i hphase
    exact ⟨hphase, (Option.some_inj.mp h).symm⟩
  · cases h

section Phases

variable (h : s.Sound) (hthread : s.peerThread = some i)

include h hthread

theorem sound_configure (hphase : (s.peers i).phase = .configuring) (outcome : Configured) :
    (s.configure i outcome).Sound := by
  -- before it has a client the thread is neither active nor closing
  have hactive : (s.peers i).holdsActive = false := by simp [PeerSession.holdsActive, PeerPhase.claims, hphase]
  have hclosing : (s.peers i).isClosing = false := by simp [PeerSession.isClosing, PeerPhase.closing, hphase]
  cases outcome with
  | ready => exact h.setPeer hthread ⟨rfl, rfl, rfl⟩ hactive.symm hclosing.symm
  | noContext => exact h.setPeer hthread ⟨rfl, rfl, rfl⟩ hactive.symm hclosing.symm
  | failed => exact h.setPeer hthread ⟨rfl, rfl, rfl⟩ hactive.symm hclosing.symm

theorem sound_claim (hphase : (s.peers i).phase = .running) : (s.clientClaimActive i).Sound := by
  unfold clientClaimActive
  split
  · exact h
  · rename_i hfree
    simp only [Bool.or_eq_true, not_or, Bool.not_eq_true] at hfree
    refine h.of_peer hthread (fun j => s.peers_setPeer_of_ne _) rfl ?_ ?_ ?_ rfl rfl rfl rfl
    · simp only [setPeer, Function.update_self]
      exact ⟨(h.phased i).live, (h.phased i).shutdownEvent, (h.phased i).eventOpen⟩
    · simp [setPeer, PeerSession.holdsActive, hphase, PeerPhase.claims]
    · simp [setPeer, PeerSession.isClosing, hphase, PeerPhase.closing, hfree.2]

theorem sound_clientStop {phase next : PeerPhase} (hphase : (s.peers i).phase = phase)
    (hclaims : phase.claims = true) (hsame : next.hasClient = phase.hasClient ∧
      next.claims = phase.claims ∧ next.eventOpen = phase.eventOpen ∧ next.closing = phase.closing) :
    (s.clientStop i next).Sound := by
  obtain ⟨hlive, hevent, hopen⟩ := (h.phased i).at_phase hphase
  obtain ⟨hclient, hnext, hnextOpen, hclosing⟩ := hsame
  rw [clientStop, (h.phased i).settable (by rw [hphase, hclaims]), blame_false]
  exact h.advance hthread hphase rfl
    ⟨hlive.trans hclient.symm, hevent.trans hnext.symm, hopen.trans hnextOpen.symm⟩ hnext hclosing

theorem sound_detach (hphase : (s.peers i).phase = .released) : (s.detach i).Sound := by
  have hactive := h.active_eq hthread
  have hclosing := h.closing_eq hthread
  simp only [PeerSession.holdsActive, PeerSession.isClosing, hphase, PeerPhase.claims, PeerPhase.closing,
    Bool.and_true, Bool.and_false] at hactive hclosing
  obtain ⟨hlive, -, hopen⟩ := (h.phased i).at_phase hphase
  have hphased : ({ s.peers i with phase := .detached, shutdownEvent := false } : PeerSession).Phased :=
    ⟨hlive, rfl, hopen⟩
  -- `active` is this client if and only if it has claimed it
  cases howns : (s.peers i).ownsActiveClient with
  | true =>
    have hdetach : s.detach i = { s.setPeer i
        { s.peers i with phase := .detached, shutdownEvent := false } with
        active := none, activeClosing := true } := by
      simp [detach, howns, hactive]
    rw [hdetach]
    refine h.of_peer hthread (fun j => s.peers_setPeer_of_ne _) rfl ?_ ?_ ?_ rfl rfl rfl rfl
    · simpa [setPeer] using hphased
    · simp [setPeer, PeerSession.holdsActive, PeerPhase.claims]
    · simp [setPeer, PeerSession.isClosing, PeerPhase.closing, howns]
  | false =>
    have hdetach : s.detach i = s.setPeer i
        { s.peers i with phase := .detached, shutdownEvent := false } := by
      simp [detach, howns]
    rw [hdetach]
    refine h.setPeer hthread hphased ?_ ?_
    · simp [PeerSession.holdsActive, howns]
    · simp [PeerSession.isClosing, howns]

theorem sound_closeEvent (hphase : (s.peers i).phase = .detached) : (s.closeEvent i).Sound := by
  obtain ⟨hlive, hevent, -⟩ := (h.phased i).at_phase hphase
  exact h.advance hthread hphase rfl ⟨hlive, hevent, rfl⟩ rfl rfl

theorem sound_joinChildren (hphase : (s.peers i).phase = .closed) : (s.joinChildren i).Sound := by
  obtain ⟨hlive, hevent, hopen⟩ := (h.phased i).at_phase hphase
  exact h.advance hthread hphase rfl ⟨hlive, hevent, hopen⟩ rfl rfl

theorem sound_unmark (hphase : (s.peers i).phase = .joined) : (s.unmark i).Sound := by
  have hactive := h.active_eq hthread
  have hclosing := h.closing_eq hthread
  simp only [PeerSession.holdsActive, PeerSession.isClosing, hphase, PeerPhase.claims, PeerPhase.closing,
    Bool.and_true, Bool.and_false] at hactive hclosing
  refine h.of_peer hthread (fun j => s.peers_setPeer_of_ne _) rfl ?_ ?_ ?_ rfl rfl rfl rfl
  · obtain ⟨hlive, hevent, hopen⟩ := (h.phased i).at_phase hphase
    simp only [unmark, setPeer, Function.update_self]
    exact ⟨hlive, hevent, hopen⟩
  · simpa [unmark, setPeer, PeerSession.holdsActive, PeerPhase.claims] using hactive
  · cases howns : (s.peers i).ownsActiveClient <;>
      simp [unmark, setPeer, PeerSession.isClosing, PeerPhase.closing, howns, hclosing]

theorem sound_free (hphase : (s.peers i).phase = .unmarked) : (s.free i).Sound := by
  obtain ⟨-, hevent, hopen⟩ := (h.phased i).at_phase hphase
  exact h.advance hthread hphase rfl ⟨rfl, hevent, hopen⟩ rfl rfl

theorem sound_exit (hphase : (s.peers i).phase = .freed) : (s.exit i).Sound := by
  obtain ⟨hlive, hevent, hopen⟩ := (h.phased i).at_phase hphase
  exact h.advance hthread hphase rfl ⟨hlive, hevent, hopen⟩ rfl rfl

end Phases

-- ---------------------------------------------------------------------------
-- The child threads
-- ---------------------------------------------------------------------------

structure SameClient (before after : PeerSession) : Prop where
  phase : after.phase = before.phase
  live : after.live = before.live
  owns : after.ownsActiveClient = before.ownsActiveClient
  shutdownEvent : after.shutdownEvent = before.shutdownEvent
  eventOpen : after.eventOpen = before.eventOpen

theorem SameClient.refl (peer : PeerSession) : SameClient peer peer := ⟨rfl, rfl, rfl, rfl, rfl⟩

theorem sound_child (h : s.Sound) {peer : PeerSession} {faults : List Accessor}
    (hsame : SameClient (s.peers i) peer) (hfaults : ∀ accessor ∈ faults, accessor = .child) :
    Sound { s.setPeer i peer with faults } := by
  have hpeers : ∀ j, SameClient (s.peers j) ((s.setPeer i peer).peers j) := by
    intro j
    by_cases hji : j = i
    · rw [hji, peers_setPeer_self]
      exact hsame
    · rw [peers_setPeer_of_ne s peer hji]
      exact .refl _
  have hactive : ∀ j, ((s.setPeer i peer).peers j).holdsActive = (s.peers j).holdsActive := by
    intro j
    rw [PeerSession.holdsActive, (hpeers j).owns, (hpeers j).phase, PeerSession.holdsActive]
  have hclosing : ∀ j, ((s.setPeer i peer).peers j).isClosing = (s.peers j).isClosing := by
    intro j
    rw [PeerSession.isClosing, (hpeers j).owns, (hpeers j).phase, PeerSession.isClosing]
  exact {
    alive := by
      intro j hj
      rw [Alive, (hpeers j).phase] at hj
      exact h.alive j hj
    phased := by
      intro j
      refine ⟨?_, ?_, ?_⟩
      · rw [(hpeers j).live, (hpeers j).phase, (h.phased j).live]
      · rw [(hpeers j).shutdownEvent, (hpeers j).phase, (h.phased j).shutdownEvent]
      · rw [(hpeers j).eventOpen, (hpeers j).phase, (h.phased j).eventOpen]
    active := by
      simp only [hactive]
      exact h.active
    closing := by
      simp only [hclosing]
      exact h.closing
    joining := h.joining
    joined := h.joined
    faults := hfaults }

/-- An access of a child thread, whether or not it is one too late. -/
theorem sound_blame_child (h : s.Sound) (bad : Bool) {peer : PeerSession}
    (hsame : SameClient (s.peers i) peer) : ((s.blame bad .child).setPeer i peer).Sound := by
  unfold blame
  split
  · have hfaults : ∀ accessor ∈ s.faults ++ [.child], accessor = Accessor.child := by
      simpa [or_imp, forall_and] using h.faults
    exact sound_child h hsame hfaults
  · exact sound_child h hsame h.faults

-- ---------------------------------------------------------------------------
-- Runs
-- ---------------------------------------------------------------------------

theorem Sound.known (h : s.Sound) (hphase : (s.peers i).phase = phase)
    (hne : phase ≠ .exited) : s.peerThread = some i :=
  h.alive i (by rwa [Alive, hphase])

theorem sound_step (s : PeerServer) (e : PeerEvent) (s' : PeerServer) (h : s.Sound)
    (hstep : s.step e = some s') : s'.Sound := by
  cases e with
  | reap =>
    obtain ⟨hjoining, ⟨⟩⟩ := Option.ite_none_right_eq_some.mp hstep
    exact sound_reap h hjoining
  | peerAccepted created =>
    obtain ⟨hjoining, ⟨⟩⟩ := Option.ite_none_right_eq_some.mp hstep
    exact sound_peerAccepted h hjoining created
  | requestStop =>
    cases hstep
    exact { h with
      joining := fun i hi => ⟨(h.joining i hi).1, rfl⟩
      joined := fun hj => ⟨(h.joined hj).1, rfl⟩ }
  | joinBegin =>
    obtain ⟨⟨hstop, -⟩, ⟨⟩⟩ := Option.ite_none_right_eq_some.mp hstep
    exact sound_joinBegin h hstop
  | joinEnd =>
    obtain ⟨i, hjoining, hend⟩ := Option.bind_eq_some_iff.mp hstep
    obtain ⟨hexited, ⟨⟩⟩ := Option.ite_none_right_eq_some.mp hend
    exact sound_joinEnd h hjoining hexited
  | joinTimeout =>
    obtain ⟨_, -, rfl⟩ := Option.map_eq_some_iff.mp hstep
    exact { h with joining := fun _ hi => nomatch hi }
  | signal =>
    cases hstep
    exact sound_signal h
  | inspect =>
    cases hstep
    exact sound_inspect h
  | configure i outcome =>
    obtain ⟨hphase, rfl⟩ := whenIn_eq_some hstep
    exact sound_configure h (h.known hphase nofun) hphase outcome
  | claim i =>
    obtain ⟨hphase, rfl⟩ := whenIn_eq_some hstep
    exact sound_claim h (h.known hphase nofun) hphase
  | leave i =>
    obtain ⟨hphase, rfl⟩ := whenIn_eq_some hstep
    exact sound_clientStop h (h.known hphase nofun) hphase rfl ⟨rfl, rfl, rfl, rfl⟩
  | release i =>
    obtain ⟨hphase, rfl⟩ := whenIn_eq_some hstep
    exact sound_clientStop h (h.known hphase nofun) hphase rfl ⟨rfl, rfl, rfl, rfl⟩
  | detach i =>
    obtain ⟨hphase, rfl⟩ := whenIn_eq_some hstep
    exact sound_detach h (h.known hphase nofun) hphase
  | closeEvent i =>
    obtain ⟨hphase, rfl⟩ := whenIn_eq_some hstep
    exact sound_closeEvent h (h.known hphase nofun) hphase
  | joinChildren i =>
    obtain ⟨hphase, rfl⟩ := whenIn_eq_some hstep
    exact sound_joinChildren h (h.known hphase nofun) hphase
  | unmark i =>
    obtain ⟨hphase, rfl⟩ := whenIn_eq_some hstep
    exact sound_unmark h (h.known hphase nofun) hphase
  | free i =>
    obtain ⟨hphase, rfl⟩ := whenIn_eq_some hstep
    exact sound_free h (h.known hphase nofun) hphase
  | exit i =>
    obtain ⟨hphase, rfl⟩ := whenIn_eq_some hstep
    exact sound_exit h (h.known hphase nofun) hphase
  | startChild i thread =>
    obtain ⟨-, ⟨⟩⟩ := Option.ite_none_right_eq_some.mp hstep
    exact sound_child h ⟨rfl, rfl, rfl, rfl, rfl⟩ h.faults
  | childReads i thread =>
    obtain ⟨-, ⟨⟩⟩ := Option.ite_none_right_eq_some.mp hstep
    exact sound_blame_child h _ ⟨rfl, rfl, rfl, rfl, rfl⟩
  | childSets i thread =>
    obtain ⟨-, ⟨⟩⟩ := Option.ite_none_right_eq_some.mp hstep
    exact sound_blame_child h _ ⟨rfl, rfl, rfl, rfl, rfl⟩
  | childEnds i thread =>
    obtain ⟨-, ⟨⟩⟩ := Option.ite_none_right_eq_some.mp hstep
    exact sound_child h ⟨rfl, rfl, rfl, rfl, rfl⟩ h.faults

theorem sound_run (hrun : Machine.run step {} events = some s) : s.Sound :=
  Machine.run_induction sound_step sound_initial hrun

/-- Whoever follows `active` under the server lock finds a client that exists and
an event that can be set, and so does the peer thread itself: of all accesses
only those of the video and output threads can come too late. -/
theorem active_client_reachable (events : List PeerEvent) (s : PeerServer)
    (hrun : Machine.run step {} events = some s) :
    (∀ accessor ∈ s.faults, accessor = .child) ∧
    (∀ i, s.active = some i → (s.peers i).live = true ∧ (s.peers i).ownsActiveClient = true ∧
      (s.peers i).shutdownEvent = true ∧ (s.peers i).eventOpen = true) ∧
    s.signal.faults = s.faults ∧ s.inspect.faults = s.faults := by
  have h := sound_run hrun
  have hactive : ∀ i, s.active = some i → (s.peers i).live = true ∧
      (s.peers i).ownsActiveClient = true ∧ (s.peers i).shutdownEvent = true ∧
      (s.peers i).eventOpen = true := by
    intro i hi
    obtain ⟨-, howns, hclaims⟩ := h.of_active hi
    rw [(h.phased i).live, (h.phased i).shutdownEvent, (h.phased i).eventOpen]
    revert hclaims
    cases (s.peers i).phase <;>
      simp [PeerPhase.claims, PeerPhase.hasClient, PeerPhase.eventOpen, howns]
  refine ⟨h.faults, hactive, ?_, ?_⟩
  · unfold signal
    split
    · rename_i i hi
      obtain ⟨hlive, -, -, hopen⟩ := hactive i hi
      simp [PeerSession.unsettable, hlive, hopen, setPeer]
    · rfl
  · unfold inspect
    split
    · rename_i i hi
      simp [(hactive i hi).1]
    · rfl

/-- Two peer threads never overlap. A thread is admitted only when all before it
have returned, so that a client that has not claimed yet is never refused; and
once the join of the shutdown has returned true no thread is left and none is
admitted. -/
theorem one_peer_thread (events : List PeerEvent) (s : PeerServer)
    (hrun : Machine.run step {} events = some s) :
    (∀ i j, s.Alive i → s.Alive j → i = j) ∧
    (∀ created, (s.peerAccepted created).accepted ≠ s.accepted → ∀ i, ¬ s.Alive i) ∧
    (∀ i, (s.peers i).phase = .running → (s.peers i).ownsActiveClient = false →
      (s.clientClaimActive i).active = some i) ∧
    (s.joinReturned = true → (∀ i, ¬ s.Alive i) ∧ ∀ created, s.peerAccepted created = s) := by
  have h := sound_run hrun
  refine ⟨?_, ?_, ?_, ?_⟩
  · intro i j hi hj
    have hknown := h.alive i hi
    rw [h.alive j hj, Option.some_inj] at hknown
    exact hknown.symm
  · intro created hadmitted i hi
    have hbusy : s.peerAccepted created = s := by simp [peerAccepted, h.alive i hi]
    exact hadmitted (by rw [hbusy])
  · intro i hphase howns
    have hthread := h.known hphase nofun
    have hfree : s.active = none ∧ s.activeClosing = false := by
      rw [h.active_eq hthread, h.closing_eq hthread]
      simp [PeerSession.holdsActive, PeerSession.isClosing, howns]
    simp [clientClaimActive, hfree]
  · intro hjoined
    obtain ⟨hthread, hstop⟩ := h.joined hjoined
    refine ⟨fun i hi => ?_, fun created => by simp [peerAccepted, hstop]⟩
    rw [h.alive i hi] at hthread
    cases hthread

def servedAndJoined : List PeerEvent :=
  [.reap, .peerAccepted true, .configure 0 .ready, .claim 0, .startChild 0 .video, .inspect, .requestStop,
    .joinBegin, .leave 0, .release 0, .detach 0, .closeEvent 0, .childEnds 0 .video, .joinChildren 0,
    .unmark 0, .free 0, .exit 0, .joinEnd]

theorem servedAndJoined_reachable : ∃ s, Machine.run step {} (servedAndJoined.take 7) = some s ∧
    s.active = some 0 ∧ (s.peers 0).eventOpen = true ∧ s.signal.faults = [] := by
  obtain ⟨s, hrun⟩ : ∃ s, Machine.run step {} (servedAndJoined.take 7) = some s := ⟨_, rfl⟩
  obtain ⟨-, hactive, hsignal, -⟩ := active_client_reachable _ s hrun
  have hzero : s.active = some 0 ∧ s.faults = [] := by
    cases hrun
    exact ⟨rfl, rfl⟩
  exact ⟨s, hrun, hzero.1, (hactive 0 hzero.1).2.2.2, hsignal.trans hzero.2⟩

theorem servedAndJoined_alone : ∃ s, Machine.run step {} servedAndJoined = some s ∧
    s.joinReturned = true ∧ ∀ i, ¬ s.Alive i := by
  obtain ⟨s, hrun⟩ : ∃ s, Machine.run step {} servedAndJoined = some s := ⟨_, rfl⟩
  have hjoined : s.joinReturned = true := by
    cases hrun
    rfl
  exact ⟨s, hrun, hjoined, ((one_peer_thread _ s hrun).2.2.2 hjoined).1⟩

/-- The video thread reads `shutdown_event` in `client_stop`, the peer thread
takes the event out of the client and closes it, and the video thread sets it. -/
theorem stop_behind_close : ∃ s, Machine.run step {}
    [.peerAccepted true, .configure 0 .ready, .claim 0, .startChild 0 .video, .leave 0, .release 0,
      .childReads 0 .video, .detach 0, .closeEvent 0, .childSets 0 .video] = some s ∧
    s.faults = [.child] :=
  ⟨_, rfl, rfl⟩

end PeerServer

end NanokvmRdp.Gateway
