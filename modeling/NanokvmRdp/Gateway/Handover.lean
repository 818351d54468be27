import NanokvmRdp.Gateway.DeviceSession

/-!
# Handing the RTP socket over

The HTTP thread reads the device session whenever nobody else does. The video
thread of an RDP client signals `http_yield_event`, tries to acquire the session
a number of times and resets the event. The HTTP thread looks at the event before
it acquires and between two reads; an event here is one such look, one call of
the device session, or one step of the other thread, in any order. The join at
the end of a client keeps its video thread from the next one, so there is at most
one at a time.
-/

namespace NanokvmRdp.Gateway

/-- Where `http_video_thread` stands: at the top of its loop, behind the look at
the event, and with a lease: starting the decoder, at the top of the inner loop,
in a read, behind a read that timed out, and on its way out. -/
inductive HttpPhase where
  | checking
  | acquiring
  | starting (lease : DeviceSessionLease)
  | polling (lease : DeviceSessionLease)
  | reading (lease : DeviceSessionLease)
  | idling (lease : DeviceSessionLease)
  | releasing (lease : DeviceSessionLease)
  deriving DecidableEq, Repr

/-- Where the video thread of the RDP client stands, with the attempts it has
left. `bitmap_video_thread` starts a decoder behind the acquire. -/
inductive RdpPhase where
  | absent
  | attempting (consumer : DeviceSessionConsumer) (left : Nat)
  | starting (lease : DeviceSessionLease) (left : Nat)
  | resetting (lease : Option DeviceSessionLease)
  | reading (lease : DeviceSessionLease)
  deriving DecidableEq, Repr

/-- The counters are those of the HTTP thread since the event was last set. -/
structure Handover where
  session : DeviceSession
  yieldEvent : Bool := false
  http : HttpPhase := .checking
  rdp : RdpPhase := .absent
  httpSteps : Nat := 0
  httpAcquires : Nat := 0
  httpReads : Nat := 0
  deriving DecidableEq, Repr

inductive HandoverEvent where
  | httpCheck
  | httpAcquire (rtpOpened : Bool)
  | httpStart (started : Bool)
  | httpPoll
  | httpRead (reads : List RtpRead) (goesOn : Bool)
  | httpIdle
  | httpRelease
  | rdpSignal (direct : Bool)
  | rdpAttempt (rtpOpened : Bool)
  | rdpStart (started : Bool)
  | rdpLeave
  | rdpReset
  | rdpRead (reads : List RtpRead)
  | rdpEnd
  deriving DecidableEq, Repr

namespace Handover

def httpTo (s : Handover) (phase : HttpPhase) : Handover :=
  { s with http := phase, httpSteps := s.httpSteps + 1 }

def httpCheck (s : Handover) : Handover :=
  if s.yieldEvent then s.httpTo .checking else s.httpTo .acquiring

def httpAcquire (s : Handover) (rtpOpened : Bool) : Handover :=
  match s.session.deviceSessionAcquire (some .http) {} rtpOpened with
  | (true, lease, session) =>
    { s.httpTo (.starting lease) with session, httpAcquires := s.httpAcquires + 1 }
  | (false, _, session) =>
    { s.httpTo .checking with session, httpAcquires := s.httpAcquires + 1 }

def httpPoll (s : Handover) (lease : DeviceSessionLease) : Handover :=
  if s.yieldEvent then s.httpTo (.releasing lease) else s.httpTo (.reading lease)

def httpIdle (s : Handover) (lease : DeviceSessionLease) : Handover :=
  if s.yieldEvent then s.httpTo (.releasing lease) else s.httpTo (.polling lease)

/-- `device_session_read` and what follows. The thread goes on behind a unit it
can push and behind a timeout; a read that still waits is no step. -/
def httpRead (s : Handover) (lease : DeviceSessionLease) (reads : List RtpRead) (goesOn : Bool) :
    Handover :=
  if s.session.leaseIsActive lease then
    let (result, source, _) := s.session.source.videoSourceRead reads
    let s := { s with session := { s.session with source } }
    match result with
    | .waiting => s
    | .unit _ =>
      { s.httpTo (if goesOn then .polling lease else .releasing lease) with
        httpReads := s.httpReads + 1 }
    | .failed =>
      { s.httpTo (if goesOn then .idling lease else .releasing lease) with
        httpReads := s.httpReads + 1 }
  else
    { s.httpTo (if goesOn then .idling lease else .releasing lease) with
      httpReads := s.httpReads + 1 }

def httpRelease (s : Handover) (lease : DeviceSessionLease) : Handover :=
  { s.httpTo .checking with session := (s.session.deviceSessionRelease lease).2 }

/-- `SetEvent`, with the attempts of `video_thread` or `bitmap_video_thread`. -/
def rdpSignal (s : Handover) (direct : Bool) : Handover :=
  { s with
    yieldEvent := true
    rdp := if direct then .attempting .directGfx 20 else .attempting .bitmap 10
    httpSteps := 0
    httpAcquires := 0
    httpReads := 0 }

def rdpAttempt (s : Handover) (consumer : DeviceSessionConsumer) (left : Nat) (rtpOpened : Bool) :
    Handover :=
  match s.session.deviceSessionAcquire (some consumer) {} rtpOpened with
  | (true, lease, session) =>
    { s with
      session
      rdp := if consumer = .bitmap then .starting lease left else .resetting (some lease) }
  | (false, _, session) => { s with session, rdp := .attempting consumer left }

def rdpStart (s : Handover) (lease : DeviceSessionLease) (left : Nat) (started : Bool) : Handover :=
  if started then { s with rdp := .resetting (some lease) }
  else
    { s with
      session := (s.session.deviceSessionRelease lease).2
      rdp := .attempting .bitmap left }

def rdpReset (s : Handover) (lease : Option DeviceSessionLease) : Handover :=
  { s with
    yieldEvent := false
    rdp := match lease with
      | some lease => .reading lease
      | none => .absent }

def rdpRead (s : Handover) (lease : DeviceSessionLease) (reads : List RtpRead) : Handover :=
  if s.session.leaseIsActive lease then
    { s with session := { s.session with source := (s.session.source.videoSourceRead reads).2.1 } }
  else s

def rdpEnd (s : Handover) (lease : DeviceSessionLease) : Handover :=
  { s with session := (s.session.deviceSessionRelease lease).2, rdp := .absent }

def step (s : Handover) : HandoverEvent → Option Handover
  | .httpCheck => if s.http = .checking then some s.httpCheck else none
  | .httpAcquire rtpOpened => if s.http = .acquiring then some (s.httpAcquire rtpOpened) else none
  | .httpStart started =>
    match s.http with
    | .starting lease => some (s.httpTo (if started then .polling lease else .releasing lease))
    | _ => none
  | .httpPoll =>
    match s.http with
    | .polling lease => some (s.httpPoll lease)
    | _ => none
  | .httpRead reads goesOn =>
    match s.http with
    | .reading lease => some (s.httpRead lease reads goesOn)
    | _ => none
  | .httpIdle =>
    match s.http with
    | .idling lease => some (s.httpIdle lease)
    | _ => none
  | .httpRelease =>
    match s.http with
    | .releasing lease => some (s.httpRelease lease)
    | _ => none
  | .rdpSignal direct => if s.rdp = .absent then some (s.rdpSignal direct) else none
  | .rdpAttempt rtpOpened =>
    match s.rdp with
    | .attempting consumer (left + 1) => some (s.rdpAttempt consumer left rtpOpened)
    | _ => none
  | .rdpStart started =>
    match s.rdp with
    | .starting lease left => some (s.rdpStart lease left started)
    | _ => none
  -- The attempts are used up, or the client stops.
  | .rdpLeave =>
    match s.rdp with
    | .attempting _ _ => some { s with rdp := .resetting none }
    | _ => none
  | .rdpReset =>
    match s.rdp with
    | .resetting lease => some (s.rdpReset lease)
    | _ => none
  | .rdpRead reads =>
    match s.rdp with
    | .reading lease => some (s.rdpRead lease reads)
    | _ => none
  | .rdpEnd =>
    match s.rdp with
    | .reading lease => some (s.rdpEnd lease)
    | _ => none

def initial (requestsIdr : Bool) : Handover := { session := { source := { requestsIdr } } }

end Handover

-- ---------------------------------------------------------------------------
-- Who holds the lease
-- ---------------------------------------------------------------------------

namespace HttpPhase

def lease : HttpPhase → Option DeviceSessionLease
  | .checking | .acquiring => none
  | .starting lease | .polling lease | .reading lease | .idling lease | .releasing lease => some lease

/-- The steps until the thread has let go, once the event is set. -/
def distance : HttpPhase → Nat
  | .checking => 0
  | .acquiring => 4
  | .starting _ | .reading _ => 3
  | .polling _ | .idling _ => 2
  | .releasing _ => 1

def acquires : HttpPhase → Nat
  | .acquiring => 1
  | _ => 0

def reads : HttpPhase → Nat
  | .reading _ => 1
  | _ => 0

end HttpPhase

namespace RdpPhase

def lease : RdpPhase → Option DeviceSessionLease
  | .absent | .attempting _ _ => none
  | .starting lease _ | .reading lease => some lease
  | .resetting lease => lease

def signals : RdpPhase → Bool
  | .attempting _ _ | .starting _ _ | .resetting _ => true
  | .absent | .reading _ => false

end RdpPhase

structure Owned (session : DeviceSession) (first second : Option DeviceSessionLease) : Prop where
  opened : session.source.opened = session.leased
  held : ∀ lease, first = some lease ∨ second = some lease → session.leaseIsActive lease = true
  apart : first = none ∨ second = none
  free : first = none → second = none → session.leased = false

namespace Owned

variable {session session' : DeviceSession} {first second : Option DeviceSessionLease}
  {lease : DeviceSessionLease}

theorem symm (h : Owned session first second) : Owned session second first where
  opened := h.opened
  held lease hlease := h.held lease hlease.symm
  apart := h.apart.symm
  free hfirst hsecond := h.free hsecond hfirst

theorem leased_of_held (h : Owned session first (some lease)) : session.leased = true :=
  ((session.leaseIsActive_iff lease).mp (h.held lease (.inr rfl))).2.2.1

theorem source {source : VideoSource} (h : Owned session first second)
    (hopened : source.opened = session.source.opened) : Owned { session with source } first second where
  opened := hopened.trans h.opened
  held := h.held
  apart := h.apart
  free := h.free

theorem read (h : Owned session first second) (reads : List RtpRead) :
    Owned { session with source := (session.source.videoSourceRead reads).2.1 } first second :=
  h.source (session.source.videoSourceRead_keeps reads).1

end Owned

theorem nextCount_ne_zero (count : UInt64) : nextCount count ≠ 0 := by
  unfold nextCount
  split
  · decide
  · assumption

namespace Owned

variable {session : DeviceSession} {first second : Option DeviceSessionLease}

/-- What an acquire by a thread without a lease leads to: it is refused, or
nobody had a lease and it has one now. -/
theorem acquire (h : Owned session none second) (consumer : DeviceSessionConsumer)
    (rtpOpened : Bool) :
    (∃ lease, session.deviceSessionAcquire (some consumer) {} rtpOpened = (false, lease, session)) ∨
    ∃ lease session', session.deviceSessionAcquire (some consumer) {} rtpOpened =
      (true, lease, session') ∧ Owned session' (some lease) second := by
  have hacquires := session.acquires_deviceSessionAcquire (some consumer) {} rtpOpened
  generalize session.deviceSessionAcquire (some consumer) {} rtpOpened = result at hacquires ⊢
  cases hacquires with
  | refused lease => exact .inl ⟨lease, rfl⟩
  | granted source consumer hfree hsource =>
    refine .inr ⟨_, _, rfl, hsource.opened, ?_, ?_, nofun⟩
    · rintro lease (hfirst | rfl)
      · cases hfirst
        simp [DeviceSession.leaseIsActive, nextCount_ne_zero]
      · rw [h.leased_of_held] at hfree
        cases hfree
    · cases second with
      | none => exact .inr rfl
      | some lease =>
        rw [h.leased_of_held] at hfree
        cases hfree

theorem release {lease : DeviceSessionLease} (h : Owned session (some lease) second) :
    Owned (session.deviceSessionRelease lease).2 none second := by
  have hsecond : second = none := h.apart.resolve_left nofun
  obtain ⟨hset, -, hleased, hgeneration⟩ :=
    (session.leaseIsActive_iff lease).mp (h.held lease (.inl rfl))
  have hreleased : (session.deviceSessionRelease lease).2 =
      { session with leased := false, source := session.source.videoSourceClose } := by
    simp [DeviceSession.deviceSessionRelease, hset, hleased, hgeneration]
  rw [hreleased, hsecond]
  exact ⟨session.source.opened_videoSourceClose, by simp, .inl rfl, fun _ _ => rfl⟩

end Owned

structure Nearing (phase : HttpPhase) (steps acquires reads : Nat) : Prop where
  steps : steps + phase.distance ≤ 4 ∨ phase.distance = 0
  acquires : acquires + phase.acquires ≤ 1
  reads : reads + phase.reads ≤ 1

theorem nearing_zero (phase : HttpPhase) : Nearing phase 0 0 0 := by
  cases phase <;> exact ⟨by simp [HttpPhase.distance], by simp [HttpPhase.acquires],
    by simp [HttpPhase.reads]⟩

theorem Nearing.next {phase phase' : HttpPhase} {steps acquires reads acquires' reads' : Nat}
    (h : Nearing phase steps acquires reads)
    (hnearer : phase'.distance + 1 ≤ phase.distance ∨ phase'.distance = 0)
    (hacquires : acquires' + phase'.acquires ≤ acquires + phase.acquires)
    (hreads : reads' + phase'.reads ≤ reads + phase.reads) :
    Nearing phase' (steps + 1) acquires' reads' where
  steps := by
    have hsteps := h.steps
    omega
  acquires := hacquires.trans h.acquires
  reads := hreads.trans h.reads

namespace Handover

/-- Exactly the thread with a lease holds the session. While the event is set
the HTTP thread only comes nearer to letting go. -/
structure Sound (s : Handover) : Prop where
  owned : Owned s.session s.http.lease s.rdp.lease
  event : s.yieldEvent = s.rdp.signals
  nearing : s.yieldEvent = true → Nearing s.http s.httpSteps s.httpAcquires s.httpReads

theorem sound_initial (requestsIdr : Bool) : (initial requestsIdr).Sound where
  owned := ⟨rfl, by simp [initial, HttpPhase.lease, RdpPhase.lease], .inl rfl, fun _ _ => rfl⟩
  event := rfl
  nearing h := nomatch h

variable {s : Handover}

section HttpTo

variable {phase next : HttpPhase} (h : s.Sound) (hphase : s.http = phase)
  (hlease : next.lease = phase.lease)

include h hphase hlease

/-- The HTTP thread goes on without a call of the session, and nearer to letting go. -/
theorem Sound.httpNearer (hnearer : next.distance + 1 ≤ phase.distance ∨ next.distance = 0)
    (hacquires : next.acquires ≤ phase.acquires) (hreads : next.reads ≤ phase.reads) :
    (s.httpTo next).Sound := by
  subst hphase
  refine ⟨?_, h.event, fun hevent => (h.nearing hevent).next hnearer
    (Nat.add_le_add_left hacquires _) (Nat.add_le_add_left hreads _)⟩
  rw [Handover.httpTo, hlease]
  exact h.owned

theorem Sound.httpFree (hreset : ¬ s.yieldEvent = true) : (s.httpTo next).Sound := by
  subst hphase
  refine ⟨?_, h.event, fun hevent => absurd hevent hreset⟩
  rw [Handover.httpTo, hlease]
  exact h.owned

end HttpTo

theorem sound_httpCheck (h : s.Sound) (hphase : s.http = .checking) : s.httpCheck.Sound := by
  unfold httpCheck
  split
  · exact h.httpNearer hphase rfl (.inr rfl) le_rfl le_rfl
  · exact h.httpFree hphase rfl ‹_›

theorem sound_httpAcquire (h : s.Sound) (hphase : s.http = .acquiring)
    (rtpOpened : Bool) : (s.httpAcquire rtpOpened).Sound := by
  have howned := h.owned
  have hnearing := h.nearing
  rw [hphase] at howned hnearing
  unfold httpAcquire
  obtain ⟨lease, hrefused⟩ | ⟨lease, session, hgranted, hsession⟩ := howned.acquire .http rtpOpened
  · rw [hrefused]
    exact ⟨howned, h.event, fun hevent => (hnearing hevent).next (.inr rfl) le_rfl le_rfl⟩
  · rw [hgranted]
    exact ⟨hsession, h.event, fun hevent => (hnearing hevent).next (.inl le_rfl) le_rfl le_rfl⟩

theorem sound_httpStart (h : s.Sound) (hphase : s.http = .starting lease)
    (started : Bool) : (s.httpTo (if started then .polling lease else .releasing lease)).Sound := by
  cases started with
  | true => exact h.httpNearer hphase rfl (.inl le_rfl) le_rfl le_rfl
  | false => exact h.httpNearer hphase rfl (.inl (Nat.le_succ 2)) le_rfl le_rfl

theorem sound_httpPoll (h : s.Sound) (hphase : s.http = .polling lease) :
    (s.httpPoll lease).Sound := by
  unfold httpPoll
  split
  · exact h.httpNearer hphase rfl (.inl le_rfl) le_rfl le_rfl
  · exact h.httpFree hphase rfl ‹_›

theorem sound_httpIdle (h : s.Sound) (hphase : s.http = .idling lease) :
    (s.httpIdle lease).Sound := by
  unfold httpIdle
  split
  · exact h.httpNearer hphase rfl (.inl le_rfl) le_rfl le_rfl
  · exact h.httpFree hphase rfl ‹_›

theorem Sound.httpRead (h : s.Sound) (hphase : s.http = .reading lease)
    {phase : HttpPhase} (hnext : phase = .polling lease ∨ phase = .idling lease ∨
      phase = .releasing lease) :
    Sound { s.httpTo phase with httpReads := s.httpReads + 1 } := by
  have howned := h.owned
  have hnearing := h.nearing
  rw [hphase] at howned hnearing
  obtain rfl | rfl | rfl := hnext
  · exact ⟨howned, h.event, fun hevent => (hnearing hevent).next (.inl le_rfl) le_rfl le_rfl⟩
  · exact ⟨howned, h.event, fun hevent => (hnearing hevent).next (.inl le_rfl) le_rfl le_rfl⟩
  · exact ⟨howned, h.event, fun hevent => (hnearing hevent).next (.inl (Nat.le_succ 2)) le_rfl le_rfl⟩

theorem sound_httpRead (h : s.Sound) (hphase : s.http = .reading lease)
    (reads : List RtpRead) (goesOn : Bool) : (s.httpRead lease reads goesOn).Sound := by
  have hread : Sound { s with
      session := { s.session with source := (s.session.source.videoSourceRead reads).2.1 } } :=
    ⟨h.owned.read reads, h.event, h.nearing⟩
  unfold Handover.httpRead
  split
  · generalize hresult : s.session.source.videoSourceRead reads = result at hread ⊢
    obtain ⟨result, source, rest⟩ := result
    cases result with
    | waiting => exact hread
    | unit unit => exact hread.httpRead hphase (by cases goesOn <;> simp)
    | failed => exact hread.httpRead hphase (by cases goesOn <;> simp)
  · exact h.httpRead hphase (by cases goesOn <;> simp)

theorem sound_httpRelease (h : s.Sound) (hphase : s.http = .releasing lease) :
    (s.httpRelease lease).Sound := by
  have howned := h.owned
  have hnearing := h.nearing
  rw [hphase] at howned hnearing
  exact ⟨howned.release, h.event, fun hevent => (hnearing hevent).next (.inr rfl) le_rfl le_rfl⟩

theorem sound_rdpSignal (h : s.Sound) (hphase : s.rdp = .absent) (direct : Bool) :
    (s.rdpSignal direct).Sound := by
  have howned := h.owned
  rw [hphase] at howned
  refine ⟨?_, ?_, fun _ => nearing_zero s.http⟩
  · cases direct <;> exact howned
  · cases direct <;> rfl

theorem sound_rdpAttempt (h : s.Sound)
    (hphase : s.rdp = .attempting consumer (left + 1)) (rtpOpened : Bool) :
    (s.rdpAttempt consumer left rtpOpened).Sound := by
  have howned := h.owned
  have hevent := h.event
  rw [hphase] at howned hevent
  unfold rdpAttempt
  obtain ⟨lease, hrefused⟩ | ⟨lease, session, hgranted, hsession⟩ :=
    howned.symm.acquire consumer rtpOpened
  · rw [hrefused]
    exact ⟨howned, hevent, h.nearing⟩
  · rw [hgranted]
    refine ⟨?_, ?_, h.nearing⟩
    · simp only
      split <;> exact hsession.symm
    · simp only
      split <;> exact hevent

theorem sound_rdpStart (h : s.Sound) (hphase : s.rdp = .starting lease left)
    (started : Bool) : (s.rdpStart lease left started).Sound := by
  have howned := h.owned
  have hevent := h.event
  rw [hphase] at howned hevent
  unfold rdpStart
  split
  · exact ⟨howned, hevent, h.nearing⟩
  · exact ⟨howned.symm.release.symm, hevent, h.nearing⟩

theorem sound_rdpReset (h : s.Sound) {lease : Option DeviceSessionLease}
    (hphase : s.rdp = .resetting lease) : (s.rdpReset lease).Sound := by
  have howned := h.owned
  rw [hphase] at howned
  cases lease with
  | some lease => exact ⟨howned, rfl, fun hevent => nomatch hevent⟩
  | none => exact ⟨howned, rfl, fun hevent => nomatch hevent⟩

theorem sound_rdpRead (h : s.Sound) (lease : DeviceSessionLease)
    (reads : List RtpRead) : (s.rdpRead lease reads).Sound := by
  unfold rdpRead
  split
  · exact ⟨h.owned.read reads, h.event, h.nearing⟩
  · exact h

theorem sound_rdpEnd (h : s.Sound) (hphase : s.rdp = .reading lease) :
    (s.rdpEnd lease).Sound := by
  have howned := h.owned
  have hevent := h.event
  rw [hphase] at howned hevent
  exact ⟨howned.symm.release.symm, hevent, h.nearing⟩

theorem sound_step (s : Handover) (e : HandoverEvent) (s' : Handover) (h : s.Sound)
    (hstep : s.step e = some s') : s'.Sound := by
  cases e with
  | httpCheck =>
    obtain ⟨hphase, ⟨⟩⟩ := Option.ite_none_right_eq_some.mp hstep
    exact sound_httpCheck h hphase
  | httpAcquire rtpOpened =>
    obtain ⟨hphase, ⟨⟩⟩ := Option.ite_none_right_eq_some.mp hstep
    exact sound_httpAcquire h hphase rtpOpened
  | httpStart started =>
    rw [step] at hstep
    split at hstep <;> cases hstep
    exact sound_httpStart h ‹_› started
  | httpPoll =>
    rw [step] at hstep
    split at hstep <;> cases hstep
    exact sound_httpPoll h ‹_›
  | httpRead reads goesOn =>
    rw [step] at hstep
    split at hstep <;> cases hstep
    exact sound_httpRead h ‹_› reads goesOn
  | httpIdle =>
    rw [step] at hstep
    split at hstep <;> cases hstep
    exact sound_httpIdle h ‹_›
  | httpRelease =>
    rw [step] at hstep
    split at hstep <;> cases hstep
    exact sound_httpRelease h ‹_›
  | rdpSignal direct =>
    obtain ⟨hphase, ⟨⟩⟩ := Option.ite_none_right_eq_some.mp hstep
    exact sound_rdpSignal h hphase direct
  | rdpAttempt rtpOpened =>
    rw [step] at hstep
    split at hstep <;> cases hstep
    exact sound_rdpAttempt h ‹_› rtpOpened
  | rdpStart started =>
    rw [step] at hstep
    split at hstep <;> cases hstep
    exact sound_rdpStart h ‹_› started
  | rdpLeave =>
    rw [step] at hstep
    split at hstep <;> cases hstep
    rename_i hphase
    have howned := h.owned
    have hevent := h.event
    rw [hphase] at howned hevent
    exact ⟨howned, hevent, h.nearing⟩
  | rdpReset =>
    rw [step] at hstep
    split at hstep <;> cases hstep
    exact sound_rdpReset h ‹_›
  | rdpRead reads =>
    rw [step] at hstep
    split at hstep <;> cases hstep
    exact sound_rdpRead h _ reads
  | rdpEnd =>
    rw [step] at hstep
    split at hstep <;> cases hstep
    exact sound_rdpEnd h ‹_›

theorem sound_run (hrun : Machine.run step (initial requestsIdr) events = some s) : s.Sound :=
  Machine.run_induction sound_step (sound_initial requestsIdr) hrun

end Handover

end NanokvmRdp.Gateway
