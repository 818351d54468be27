import NanokvmRdp.Gateway.VideoSource
import NanokvmRdp.Lib.Machine

/-!
# Leases of the device session

`device_session.c` gives the video source to one consumer at a time. A lease is
a plain value that is copied at will: any value may be read or released at any
time. `acquire` and `release` run under the session lock. A read checks its
lease under the lock and reads the source after it, so it is two events here,
and the rule of `device_session.h` is what keeps a release out from between.
-/

namespace NanokvmRdp.Gateway

inductive DeviceSessionConsumer where
  | directGfx
  | bitmap
  | http
  deriving DecidableEq, Repr

structure DeviceSessionLease where
  session : Bool := false
  generation : UInt64 := 0
  consumer : Option DeviceSessionConsumer := none
  deriving DecidableEq, Repr

structure DeviceSession where
  source : VideoSource
  generation : UInt64 := 0
  leased : Bool := false
  deriving DecidableEq, Repr

namespace DeviceSession

def leaseIsActive (session : DeviceSession) (lease : DeviceSessionLease) : Bool :=
  lease.session && lease.generation != 0 && session.leased &&
    session.generation == lease.generation

/-- `device_session_acquire`, with the lease as the caller has it afterwards.
`none` is a number that is no consumer. -/
def deviceSessionAcquire (session : DeviceSession) (consumer : Option DeviceSessionConsumer)
    (lease : DeviceSessionLease) (rtpOpened : Bool) :
    Bool × DeviceSessionLease × DeviceSession :=
  match consumer with
  | none => (false, lease, session)
  | some consumer =>
    if session.leased then (false, {}, session)
    else
      match session.source.videoSourceOpen rtpOpened with
      | (false, source) => (false, {}, { session with source })
      | (true, source) =>
        let generation := if session.generation + 1 = 0 then 1 else session.generation + 1
        (true, { session := true, generation, consumer := some consumer },
          { source, generation, leased := true })

def deviceSessionRelease (session : DeviceSession) (lease : DeviceSessionLease) :
    DeviceSessionLease × DeviceSession :=
  if lease.session then
    ({}, if session.leased && session.generation == lease.generation then
        { session with leased := false, source := session.source.videoSourceClose }
      else session)
  else (lease, session)

end DeviceSession

-- ---------------------------------------------------------------------------
-- Runs
-- ---------------------------------------------------------------------------

structure Grant where
  generation : UInt64
  epoch : UInt64
  deriving DecidableEq, Repr

/-- The session with the generations of the reads that are past their check, all
grants so far and the generations whose lease was given back. -/
structure SessionRun where
  session : DeviceSession
  readers : List UInt64 := []
  grants : List Grant := []
  ended : List UInt64 := []
  deriving DecidableEq, Repr

inductive SessionEvent where
  | acquire (consumer : Option DeviceSessionConsumer) (lease : DeviceSessionLease)
    (rtpOpened : Bool)
  | readStart (lease : DeviceSessionLease)
  | readSource (generation : UInt64) (reads : List RtpRead)
  | release (lease : DeviceSessionLease)
  deriving DecidableEq, Repr

namespace SessionRun

def initial (requestsIdr : Bool) : SessionRun := { session := { source := { requestsIdr } } }

def acquire (s : SessionRun) (consumer : Option DeviceSessionConsumer) (lease : DeviceSessionLease)
    (rtpOpened : Bool) : SessionRun :=
  match s.session.deviceSessionAcquire consumer lease rtpOpened with
  | (false, _, session) => { s with session }
  | (true, granted, session) =>
    { s with session, grants := s.grants ++ [⟨granted.generation, session.source.epoch⟩] }

/-- The check of `device_session_read`. -/
def readStart (s : SessionRun) (lease : DeviceSessionLease) : SessionRun :=
  if s.session.leaseIsActive lease then { s with readers := lease.generation :: s.readers } else s

def readSource (s : SessionRun) (generation : UInt64) (reads : List RtpRead) : SessionRun :=
  let (result, source, _) := s.session.source.videoSourceRead reads
  { s with
    session := { s.session with source }
    readers := if result = .waiting then s.readers else s.readers.erase generation }

def release (s : SessionRun) (lease : DeviceSessionLease) : SessionRun :=
  let session := (s.session.deviceSessionRelease lease).2
  { s with
    session
    ended := if s.session.leased && !session.leased then s.session.generation :: s.ended
      else s.ended }

def step (s : SessionRun) : SessionEvent → Option SessionRun
  | .acquire consumer lease rtpOpened => some (s.acquire consumer lease rtpOpened)
  | .readStart lease => some (s.readStart lease)
  | .readSource generation reads =>
    if generation ∈ s.readers then some (s.readSource generation reads) else none
  | .release lease => some (s.release lease)

/-- An owner joins its reads before it releases the lease. -/
def Joined (s : SessionRun) : SessionEvent → Prop
  | .release lease => lease.generation ∉ s.readers
  | _ => True

instance decidableJoined (s : SessionRun) : ∀ e, Decidable (s.Joined e)
  | .release lease => inferInstanceAs (Decidable (lease.generation ∉ s.readers))
  | .acquire .. => .isTrue trivial
  | .readStart _ => .isTrue trivial
  | .readSource .. => .isTrue trivial

end SessionRun

-- ---------------------------------------------------------------------------
-- What the calls do
-- ---------------------------------------------------------------------------

namespace VideoSource

theorem turn_keeps (source : VideoSource) (unit : Rtp.Returned) (requested : Bool) :
    (source.turn unit requested).2.opened = source.opened ∧
      (source.turn unit requested).2.epoch = source.epoch := by
  have hnoted : (source.noted unit requested).opened = source.opened ∧
      (source.noted unit requested).epoch = source.epoch := by
    unfold noted noteNalTypes noteLosses
    simp only
    split <;> exact ⟨rfl, rfl⟩
  obtain ⟨_, hturn, _⟩ | ⟨hturn, _⟩ := source.turn_cases unit requested
  · rw [hturn]
    exact hnoted
  · rw [hturn]
    exact hnoted

theorem readLoop_keeps (source : VideoSource) (reads : List RtpRead) :
    (source.readLoop reads).2.1.opened = source.opened ∧
      (source.readLoop reads).2.1.epoch = source.epoch := by
  fun_induction readLoop source reads with
  | case1 => exact ⟨rfl, rfl⟩
  | case2 => exact ⟨rfl, rfl⟩
  | case3 source unit requested reads returned after hturn =>
    have hkeeps := source.turn_keeps unit requested
    rw [hturn] at hkeeps
    exact hkeeps
  | case4 source unit requested reads after hturn ih =>
    have hkeeps := source.turn_keeps unit requested
    rw [hturn] at hkeeps
    exact ⟨ih.1.trans hkeeps.1, ih.2.trans hkeeps.2⟩

theorem videoSourceRead_keeps (source : VideoSource) (reads : List RtpRead) :
    (source.videoSourceRead reads).2.1.opened = source.opened ∧
      (source.videoSourceRead reads).2.1.epoch = source.epoch := by
  unfold videoSourceRead
  split
  · exact source.readLoop_keeps reads
  · exact ⟨rfl, rfl⟩

theorem opened_videoSourceClose (source : VideoSource) :
    source.videoSourceClose.opened = false := by
  unfold videoSourceClose
  split
  · rfl
  · rename_i hclosed
    exact Bool.eq_false_of_not_eq_true hclosed

theorem epoch_videoSourceClose (source : VideoSource) :
    source.videoSourceClose.epoch = source.epoch := by
  unfold videoSourceClose
  split <;> rfl

end VideoSource

def nextCount (count : UInt64) : UInt64 := if count + 1 = 0 then 1 else count + 1

theorem nextCount_toNat {count : UInt64} (h : count.toNat + 1 < 2 ^ 64) :
    (nextCount count).toNat = count.toNat + 1 := by
  have hadd : (count + 1).toNat = count.toNat + 1 := by
    rw [UInt64.toNat_add]
    exact Nat.mod_eq_of_lt h
  unfold nextCount
  split
  · rename_i hzero
    rw [hzero] at hadd
    exact absurd hadd (Nat.succ_ne_zero _).symm
  · exact hadd

namespace DeviceSession

/-- The source of a new lease: the next epoch, which waits for an IDR and knows
no parameter sets. -/
structure Reopened (before after : VideoSource) : Prop where
  opened : after.opened = true
  epoch : after.epoch = nextCount before.epoch
  awaitingIdr : after.awaitingIdr = true
  haveSps : after.haveSps = false
  havePps : after.havePps = false

inductive Acquires (session : DeviceSession) :
    Bool × DeviceSessionLease × DeviceSession → Prop
  | refused (lease : DeviceSessionLease) : Acquires session (false, lease, session)
  | granted (source : VideoSource) (consumer : DeviceSessionConsumer) : session.leased = false →
    Reopened session.source source →
    Acquires session (true, ⟨true, nextCount session.generation, some consumer⟩,
      ⟨source, nextCount session.generation, true⟩)

theorem acquires_deviceSessionAcquire (session : DeviceSession)
    (consumer : Option DeviceSessionConsumer) (lease : DeviceSessionLease) (rtpOpened : Bool) :
    Acquires session (session.deviceSessionAcquire consumer lease rtpOpened) := by
  cases consumer with
  | none => exact .refused lease
  | some consumer =>
    unfold deviceSessionAcquire VideoSource.videoSourceOpen
    simp only
    split
    · exact .refused {}
    · rename_i hfree
      cases hopen : session.source.opened || !rtpOpened with
      | true => exact .refused {}
      | false =>
        exact .granted _ consumer (Bool.eq_false_of_not_eq_true hfree) ⟨rfl, rfl, rfl, rfl, rfl⟩

/-- A failed acquire of a consumer changes nothing but the caller's lease. -/
theorem deviceSessionAcquire_failed {session : DeviceSession} {consumer : DeviceSessionConsumer}
    {lease : DeviceSessionLease} {rtpOpened : Bool}
    (h : (session.deviceSessionAcquire (some consumer) lease rtpOpened).1 = false) :
    session.deviceSessionAcquire (some consumer) lease rtpOpened = (false, {}, session) := by
  unfold deviceSessionAcquire VideoSource.videoSourceOpen at h ⊢
  simp only at h ⊢
  split
  · rfl
  · rename_i hfree
    rw [if_neg hfree] at h
    cases hopen : session.source.opened || !rtpOpened with
    | true => rfl
    | false =>
      rw [hopen] at h
      cases h

/-- A release closes the source for the current lease only. -/
theorem deviceSessionRelease_cases (session : DeviceSession) (lease : DeviceSessionLease) :
    (session.deviceSessionRelease lease).2 = session ∨
      (session.leased = true ∧ session.generation = lease.generation ∧
        (session.deviceSessionRelease lease).2 =
          { session with leased := false, source := session.source.videoSourceClose }) := by
  unfold deviceSessionRelease
  split
  · cases hcurrent : session.leased && session.generation == lease.generation with
    | false => exact .inl rfl
    | true =>
      rw [Bool.and_eq_true, beq_iff_eq] at hcurrent
      exact .inr ⟨hcurrent.1, hcurrent.2, rfl⟩
  · exact .inl rfl

theorem leaseIsActive_iff (session : DeviceSession) (lease : DeviceSessionLease) :
    session.leaseIsActive lease = true ↔
      lease.session = true ∧ lease.generation ≠ 0 ∧ session.leased = true ∧
        session.generation = lease.generation := by
  simp [leaseIsActive, and_assoc]

end DeviceSession

-- ---------------------------------------------------------------------------
-- The invariant
-- ---------------------------------------------------------------------------

namespace SessionRun

/-- Fewer grants than there are generations. -/
def Countable (s : SessionRun) : Prop := s.grants.length < 2 ^ 64

structure Counted (s : SessionRun) : Prop where
  generation : s.session.generation.toNat = s.grants.length
  grants : ∀ g ∈ s.grants, g.generation.toNat ≤ s.grants.length
  ended : ∀ g ∈ s.ended, g.toNat ≤ s.grants.length
  current : s.session.leased = true → s.session.generation ∉ s.ended

structure Leased (s : SessionRun) : Prop where
  opened : s.session.source.opened = s.session.leased
  epoch : s.session.source.epoch = s.session.generation
  reading : ∀ g ∈ s.readers, s.session.leased = true ∧ s.session.generation = g
  grants : ∀ g ∈ s.grants, g.epoch = g.generation
  settled : ∀ g ∈ s.grants,
    g.generation ∈ s.ended ∨ (s.session.leased = true ∧ s.session.generation = g.generation)
  counted : s.Countable → s.Counted

theorem leased_initial (requestsIdr : Bool) : (initial requestsIdr).Leased where
  opened := rfl
  epoch := rfl
  reading := by simp [initial]
  grants := by simp [initial]
  settled := by simp [initial]
  counted _ := ⟨rfl, by simp [initial], by simp [initial], by simp [initial]⟩

theorem Counted.next {s : SessionRun} (h : s.Counted) (hcountable : s.grants.length + 1 < 2 ^ 64) :
    (nextCount s.session.generation).toNat = s.grants.length + 1 := by
  rw [nextCount_toNat (by rwa [h.generation]), h.generation]

theorem counted_grant {s : SessionRun} (h : s.Leased) (source : VideoSource) (epoch : UInt64)
    (hcountable : s.grants.length + 1 < 2 ^ 64) :
    Counted { s with
      session := ⟨source, nextCount s.session.generation, true⟩
      grants := s.grants ++ [⟨nextCount s.session.generation, epoch⟩] } := by
  have hcounted := h.counted (Nat.lt_of_succ_lt hcountable)
  have hnext := hcounted.next hcountable
  obtain ⟨-, hgrants, hended, -⟩ := hcounted
  refine ⟨by simpa using hnext, ?_, ?_, ?_⟩
  · intro g hg
    rw [List.length_append, List.length_singleton]
    obtain hold | hnew := List.mem_append.mp hg
    · exact Nat.le_succ_of_le (hgrants g hold)
    · rw [List.mem_singleton.mp hnew]
      exact Nat.le_of_eq hnext
  · intro g hg
    rw [List.length_append, List.length_singleton]
    exact Nat.le_succ_of_le (hended g hg)
  · intro _ hmem
    have hle := hended _ hmem
    simp only at hle
    omega

theorem leased_acquire {s : SessionRun} (h : s.Leased) (consumer : Option DeviceSessionConsumer)
    (lease : DeviceSessionLease) (rtpOpened : Bool) :
    (s.acquire consumer lease rtpOpened).Leased := by
  have hacquires := s.session.acquires_deviceSessionAcquire consumer lease rtpOpened
  unfold acquire
  generalize s.session.deviceSessionAcquire consumer lease rtpOpened = result at hacquires ⊢
  cases hacquires with
  | refused lease => exact h
  | granted source consumer hfree hsource =>
    have hepoch : source.epoch = nextCount s.session.generation := by
      rw [hsource.epoch, h.epoch]
    refine ⟨hsource.opened, hepoch, ?_, ?_, ?_, ?_⟩
    · intro g hg
      -- nobody reads while there is no lease
      have hheld := (h.reading g hg).1
      rw [hfree] at hheld
      cases hheld
    · intro g hg
      obtain hold | hnew := List.mem_append.mp hg
      · exact h.grants g hold
      · rw [List.mem_singleton.mp hnew]
        exact hepoch
    · intro g hg
      obtain hold | hnew := List.mem_append.mp hg
      · obtain hended | ⟨hheld, -⟩ := h.settled g hold
        · exact .inl hended
        · rw [hfree] at hheld
          cases hheld
      · rw [List.mem_singleton.mp hnew]
        exact .inr ⟨rfl, rfl⟩
    · intro hcountable
      refine counted_grant h source source.epoch ?_
      simpa [Countable] using hcountable

theorem leased_readStart {s : SessionRun} (h : s.Leased) (lease : DeviceSessionLease) :
    (s.readStart lease).Leased := by
  unfold readStart
  split
  · rename_i hactive
    obtain ⟨-, -, hleased, hgeneration⟩ := (s.session.leaseIsActive_iff lease).mp hactive
    refine ⟨h.opened, h.epoch, ?_, h.grants, h.settled, fun hcountable => ?_⟩
    · exact List.forall_mem_cons.mpr ⟨⟨hleased, hgeneration⟩, h.reading⟩
    · obtain ⟨hcount, hgrants, hended, hcurrent⟩ := h.counted hcountable
      exact ⟨hcount, hgrants, hended, hcurrent⟩
  · exact h

theorem leased_readSource {s : SessionRun} (h : s.Leased) (generation : UInt64)
    (reads : List RtpRead) : (s.readSource generation reads).Leased := by
  obtain ⟨hopened, hepoch⟩ := s.session.source.videoSourceRead_keeps reads
  refine ⟨hopened.trans h.opened, hepoch.trans h.epoch, ?_, h.grants, h.settled,
    fun hcountable => ?_⟩
  · intro g hg
    refine h.reading g ?_
    simp only [readSource] at hg
    split at hg
    · exact hg
    · exact List.mem_of_mem_erase hg
  · obtain ⟨hcount, hgrants, hended, hcurrent⟩ := h.counted hcountable
    exact ⟨hcount, hgrants, hended, hcurrent⟩

theorem leased_release {s : SessionRun} (h : s.Leased) {lease : DeviceSessionLease}
    (hjoined : lease.generation ∉ s.readers) : (s.release lease).Leased := by
  unfold release
  obtain hsame | ⟨hleased, hgeneration, hreleased⟩ := s.session.deviceSessionRelease_cases lease
  · simp only [hsame, Bool.and_not_self, Bool.false_eq_true, if_false]
    exact h
  · simp only [hreleased, hleased, Bool.not_false, Bool.and_self, if_true]
    refine ⟨VideoSource.opened_videoSourceClose _, ?_, ?_, h.grants, ?_, fun hcountable => ?_⟩
    · exact (VideoSource.epoch_videoSourceClose _).trans h.epoch
    · intro g hg
      -- a read that is going has the generation that is released
      rw [← (h.reading g hg).2, hgeneration] at hg
      exact absurd hg hjoined
    · intro g hg
      obtain hended | ⟨-, hcurrent⟩ := h.settled g hg
      · exact .inl (List.mem_cons_of_mem _ hended)
      · rw [← hcurrent]
        exact .inl List.mem_cons_self
    · obtain ⟨hcount, hgrants, hended, -⟩ := h.counted hcountable
      refine ⟨hcount, hgrants, ?_, fun hheld => nomatch hheld⟩
      exact List.forall_mem_cons.mpr ⟨Nat.le_of_eq hcount, hended⟩

theorem leased_step (s : SessionRun) (e : SessionEvent) (s' : SessionRun) (h : s.Leased)
    (hjoined : s.Joined e) (hstep : s.step e = some s') : s'.Leased := by
  cases e with
  | acquire consumer lease rtpOpened =>
    cases hstep
    exact leased_acquire h consumer lease rtpOpened
  | readStart lease =>
    cases hstep
    exact leased_readStart h lease
  | readSource generation reads =>
    rw [step] at hstep
    split at hstep
    · cases hstep
      exact leased_readSource h generation reads
    · cases hstep
  | release lease =>
    cases hstep
    exact leased_release h hjoined

-- ---------------------------------------------------------------------------
-- Exclusive leases
-- ---------------------------------------------------------------------------

theorem ended_not_current {s : SessionRun} (h : s.Leased) (hcountable : s.Countable)
    {lease : DeviceSessionLease} (hended : lease.generation ∈ s.ended) :
    (s.session.deviceSessionRelease lease).2 = s.session ∧
      s.session.leaseIsActive lease = false := by
  have hstale : ¬ (s.session.leased = true ∧ s.session.generation = lease.generation) := by
    rintro ⟨hleased, hgeneration⟩
    refine (h.counted hcountable).current hleased ?_
    rwa [hgeneration]
  constructor
  · obtain hsame | ⟨hleased, hgeneration, -⟩ := s.session.deviceSessionRelease_cases lease
    · exact hsame
    · exact absurd ⟨hleased, hgeneration⟩ hstale
  · refine Bool.eq_false_of_not_eq_true fun hactive => hstale ?_
    exact ((s.session.leaseIsActive_iff lease).mp hactive).2.2

structure Fresh (s : SessionRun) (lease : DeviceSessionLease) (session : DeviceSession) : Prop where
  generation : ∀ g ∈ s.grants, g.generation ≠ lease.generation
  epoch : ∀ g ∈ s.grants, g.epoch ≠ session.source.epoch
  current : session.generation = lease.generation ∧ session.leased = true
  awaitingIdr : session.source.awaitingIdr = true
  parameterSets : session.source.haveSps = false ∧ session.source.havePps = false

theorem fresh_acquire {s : SessionRun} (h : s.Leased) (hcountable : s.grants.length + 1 < 2 ^ 64)
    {consumer : Option DeviceSessionConsumer} {lease lease' : DeviceSessionLease}
    {rtpOpened : Bool} {session : DeviceSession}
    (hacquire : s.session.deviceSessionAcquire consumer lease rtpOpened = (true, lease', session)) :
    s.Fresh lease' session := by
  have hacquires := s.session.acquires_deviceSessionAcquire consumer lease rtpOpened
  rw [hacquire] at hacquires
  cases hacquires with
  | granted source consumer hfree hsource =>
    have hcounted := h.counted (Nat.lt_of_succ_lt hcountable)
    have hnext := hcounted.next hcountable
    have hnew : ∀ g ∈ s.grants, g.generation ≠ nextCount s.session.generation := by
      intro g hg heq
      have hle := hcounted.grants g hg
      rw [heq] at hle
      omega
    refine ⟨hnew, ?_, ⟨rfl, rfl⟩, hsource.awaitingIdr, hsource.haveSps, hsource.havePps⟩
    intro g hg
    rw [h.grants g hg, hsource.epoch, h.epoch]
    exact hnew g hg

/-- The source is open exactly while it is leased, only the current lease reads
it, and a failed acquire changes nothing. Every grant is the current lease or
was given back; what was given back can neither read nor release, and a new
grant has a generation and an epoch of its own. -/
theorem leases_exclusive (requestsIdr : Bool) (events : List SessionEvent) (s : SessionRun)
    (hjoined : Machine.Along step Joined (initial requestsIdr) events)
    (hrun : Machine.run step (initial requestsIdr) events = some s) :
    (s.session.leased = true ↔ s.session.source.opened = true) ∧
    (∀ g ∈ s.readers, s.session.leased = true ∧ s.session.generation = g) ∧
    (∀ consumer lease rtpOpened,
      (s.session.deviceSessionAcquire (some consumer) lease rtpOpened).1 = false →
      s.session.deviceSessionAcquire (some consumer) lease rtpOpened = (false, {}, s.session)) ∧
    (∀ g ∈ s.grants, g.generation ∈ s.ended ∨
      (s.session.leased = true ∧ s.session.generation = g.generation)) ∧
    (s.grants.length < 2 ^ 64 → ∀ lease : DeviceSessionLease, lease.generation ∈ s.ended →
      (s.session.deviceSessionRelease lease).2 = s.session ∧
        s.session.leaseIsActive lease = false) ∧
    (s.grants.length + 1 < 2 ^ 64 → ∀ consumer lease rtpOpened lease' session,
      s.session.deviceSessionAcquire consumer lease rtpOpened = (true, lease', session) →
      s.Fresh lease' session) := by
  have h : s.Leased := Machine.run_invariant leased_step (leased_initial requestsIdr) hjoined hrun
  refine ⟨by rw [h.opened], h.reading, fun _ _ _ => DeviceSession.deviceSessionAcquire_failed,
    h.settled, fun hcountable _ => ended_not_current h hcountable, ?_⟩
  intro hcountable consumer lease rtpOpened lease' session hacquire
  exact fresh_acquire h hcountable hacquire

/-- One consumer reads and releases, a second one acquires, and the first one
releases a copy of its lease again. -/
def reacquired : List SessionEvent :=
  [.acquire (some .directGfx) {} true, .readStart ⟨true, 1, some .directGfx⟩,
    .readSource 1 [⟨none, false⟩], .release ⟨true, 1, some .directGfx⟩,
    .acquire (some .bitmap) {} true, .release ⟨true, 1, some .directGfx⟩]

theorem reacquired_exclusive :
    ∃ s, Machine.run step (initial true) reacquired = some s ∧ s.grants = [⟨1, 1⟩, ⟨2, 2⟩] ∧
      s.session.leased = true ∧ s.session.source.opened = true ∧
      (s.session.deviceSessionRelease ⟨true, 1, some .directGfx⟩).2 = s.session := by
  obtain ⟨s, hrun⟩ : ∃ s, Machine.run step (initial true) reacquired = some s := ⟨_, rfl⟩
  obtain ⟨hopened, -, -, -, hended, -⟩ :=
    leases_exclusive true reacquired s (by decide) hrun
  cases hrun
  exact ⟨_, rfl, by decide, by decide, hopened.mp (by decide),
    (hended (by decide) ⟨true, 1, some .directGfx⟩ (by decide)).1⟩

end SessionRun

end NanokvmRdp.Gateway
