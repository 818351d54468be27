import NanokvmRdp.Gateway.FlowLaws
import NanokvmRdp.Lib.Machine

/-!
# Pacing

The acknowledgements and the send costs of one client, under one monotonic
clock. An acknowledgement reads the clock under the client's lock. The output
thread reads it before, so an acknowledgement can be handled between its
reading and its locked section; the unsigned difference then wraps around and
the interval is raised twice within 100 ms (`raised_twice_at_once`). Readings
that are not overtaken, of a clock that does not read 0, raise it at most once
per 100 ms. The interval itself stays in its bounds in every run
(`pacing_bounded_and_spaced`).
-/

namespace NanokvmRdp.Gateway

namespace FrameFlow

-- ---------------------------------------------------------------------------
-- Calls that raise the interval
-- ---------------------------------------------------------------------------

def slowRaises (flow : FrameFlow) (now : UInt64) : Bool := flow.intervalMs < (flow.slow now).intervalMs

def sendCostRaises (flow : FrameFlow) (costMs now : UInt64) : Bool :=
  costMs ≥ flow.interval.toUInt64 && flow.slowRaises now

/-- An acknowledgement comes to `frame_flow_slow` for the queue of the client and for the time the
frame took. -/
def ackRaises (flow : FrameFlow) (id depth : UInt32) (now : UInt64) : Bool :=
  if depth = suspendDepth then false
  else
    let heard := flow.heard depth now
    (depth > 256 * 1024 && { flow with suspended := false, lastAckAt := now }.slowRaises now) ||
      match heard.frames.find? fun frame => frame.id = id with
      | none => false
      | some frame => now - frame.sentAt > 120 && { heard with haveAck := true }.slowRaises now

end FrameFlow

-- ---------------------------------------------------------------------------
-- The machine
-- ---------------------------------------------------------------------------

/-- `sampled` is the reading of an output thread that has not entered the lock. The last two fields
record the run since the last suspension: whether a frame was acknowledged, and the readings of the
calls that raised the interval, latest first. -/
structure Pacing where
  flow : FrameFlow := {}
  clock : UInt64 := 0
  sampled : Option UInt64 := none
  matched : Bool := false
  raises : List UInt64 := []
  deriving DecidableEq

inductive PacingEvent where
  | tick (later : UInt64)
  | register (id bytes : UInt32) (keyframe : Bool)
  | ack (id depth : UInt32)
  | sample
  | sendCost (costMs : UInt64)
  deriving DecidableEq, Repr

namespace Pacing

def raised (s : Pacing) (raises : Bool) (now : UInt64) : List UInt64 :=
  if raises then now :: s.raises else s.raises

def register (s : Pacing) (id bytes : UInt32) (keyframe : Bool) : Pacing :=
  { s with
    flow :=
      if keyframe then (s.flow.sentKeyframeSized id bytes s.clock).2
      else (s.flow.sentSized id bytes s.clock).2 }

def ack (s : Pacing) (id depth : UInt32) : Pacing :=
  let result := s.flow.ack id depth s.clock
  if depth = FrameFlow.suspendDepth then
    { s with flow := result.2.2, matched := false, raises := [] }
  else
    { s with
      flow := result.2.2
      matched := s.matched || result.1
      raises := s.raised (s.flow.ackRaises id depth s.clock) s.clock }

def sendCost (s : Pacing) (costMs now : UInt64) : Pacing :=
  { s with
    flow := s.flow.sendCost costMs now
    sampled := none
    raises := s.raised (s.flow.sendCostRaises costMs now) now }

def step (s : Pacing) : PacingEvent → Option Pacing
  | .tick later => if s.clock ≤ later then some { s with clock := later } else none
  | .register id bytes keyframe => some (s.register id bytes keyframe)
  | .ack id depth => some (s.ack id depth)
  | .sample => if s.sampled.isNone then some { s with sampled := some s.clock } else none
  | .sendCost costMs => s.sampled.map (s.sendCost costMs)

/-- The interval is between its limits, at least 40 until the client is known, and at least 20
while it does not acknowledge. -/
structure Bounded (s : Pacing) : Prop where
  low : 16 ≤ s.flow.interval.toNat
  high : s.flow.interval.toNat ≤ 100
  unknown : s.flow.suspended = false → s.matched = false → 40 ≤ s.flow.interval.toNat
  suspended : s.flow.suspended = true → 20 ≤ s.flow.interval.toNat

/-- Any two calls that raised the interval are 100 ms apart. -/
def Spaced (s : Pacing) : Prop :=
  s.raises.Pairwise fun later earlier => earlier.toNat + 100 ≤ later.toNat

/-- The clock reads more than 0, and a send that is slow enough to raise the interval has not been
overtaken by the acknowledgement that raised it last. -/
def NotOvertaken (s : Pacing) : PacingEvent → Prop
  | .ack _ _ => s.clock ≠ 0
  | .sendCost costMs =>
    ∀ now ∈ s.sampled, costMs ≥ s.flow.interval.toUInt64 → now ≠ 0 ∧ s.flow.lastSlowAt ≤ now
  | _ => True

instance (s : Pacing) (event : PacingEvent) : Decidable (s.NotOvertaken event) :=
  match event with
  | .ack _ _ => inferInstanceAs (Decidable (s.clock ≠ 0))
  | .sendCost _ => Option.decidableForallMem _
  | .tick _ | .register .. | .sample => .isTrue trivial

instance (s : Pacing) : Decidable s.Spaced := inferInstanceAs (Decidable (List.Pairwise _ _))

end Pacing

-- ---------------------------------------------------------------------------
-- What a call does
-- ---------------------------------------------------------------------------

def Limits (intervalMs : UInt32) : Prop :=
  intervalMs = 0 ∨ 16 ≤ intervalMs.toNat ∧ intervalMs.toNat ≤ 100

namespace FrameFlow

theorem interval_limits {flow : FrameFlow} (h : Limits flow.intervalMs) :
    16 ≤ flow.interval.toNat ∧ flow.interval.toNat ≤ 100 ∧
      (flow.suspended = false → flow.haveAck = false → 40 ≤ flow.interval.toNat) ∧
      (flow.suspended = true → 20 ≤ flow.interval.toNat) := by
  have hdefault : frameFlowDefaultInterval.toNat = 40 := rfl
  have hsuspended : frameFlowSuspendedInterval.toNat = 20 := rfl
  unfold interval
  simp only
  generalize hbase : (if flow.intervalMs ≠ 0 then flow.intervalMs else frameFlowDefaultInterval) = base
  have hlimits : 16 ≤ base.toNat ∧ base.toNat ≤ 100 := by
    rw [← hbase]
    split
    · rename_i hset
      exact h.resolve_left hset
    · decide
  cases flow.suspended with
  | true =>
    simp only [Bool.not_true, Bool.and_false, Bool.false_and, Bool.false_eq_true, if_false,
      Bool.true_and, decide_eq_true_eq, UInt32.lt_iff_toNat_lt]
    split <;> simp <;> omega
  | false =>
    cases flow.haveAck with
    | true =>
      simp
      omega
    | false =>
      simp only [Bool.not_false, Bool.true_and, Bool.false_and, Bool.false_eq_true, if_false,
        decide_eq_true_eq, UInt32.lt_iff_toNat_lt]
      split <;> simp <;> omega

/-- One part of a call: the limits are kept, and either nothing is raised or the last time was
100 ms ago, or never. -/
structure Paces (flow : FrameFlow) (now : UInt64) (raised : Bool) (flow' : FrameFlow) : Prop where
  limits : Limits flow.intervalMs → Limits flow'.intervalMs
  slow : flow'.lastSlowAt = flow.lastSlowAt ∧ raised = false ∨
    (flow.lastSlowAt = 0 ∨ 100 ≤ now - flow.lastSlowAt) ∧ flow'.lastSlowAt = now

theorem Paces.trans (h : Paces a now raised b) (h' : Paces b now raised' c) :
    Paces a now (raised || raised') c := by
  refine ⟨fun hlimits => h'.limits (h.limits hlimits), ?_⟩
  rcases h.slow with ⟨hsame, rfl⟩ | ⟨hlong, hnow⟩
  · rw [← hsame, Bool.false_or]
    exact h'.slow
  · refine .inr ⟨hlong, ?_⟩
    rcases h'.slow with ⟨hsame, -⟩ | ⟨-, hnow'⟩
    · exact hsame.trans hnow
    · exact hnow'

theorem paces_of_eq (now : UInt64) (hinterval : flow'.intervalMs = flow.intervalMs)
    (hslow : flow'.lastSlowAt = flow.lastSlowAt) : Paces flow now false flow' :=
  ⟨fun hlimits => hinterval ▸ hlimits, .inl ⟨hslow, rfl⟩⟩

theorem lowered_limits {interval least : UInt32} (hhigh : interval.toNat ≤ 100)
    (hleast : 16 ≤ least.toNat ∧ least.toNat ≤ 99) :
    Limits (if interval > least + 1 then interval - 2 else least) := by
  have hsum : (least + 1).toNat = least.toNat + 1 := by
    rw [UInt32.toNat_add]
    exact Nat.mod_eq_of_lt (by simp; omega)
  right
  split
  · rename_i hmore
    rw [gt_iff_lt, UInt32.lt_iff_toNat_lt, hsum] at hmore
    have htwo : (2 : UInt32) ≤ interval := UInt32.le_iff_toNat_le.mpr (by simp; omega)
    have hdiff : (interval - 2).toNat = interval.toNat - 2 := UInt32.toNat_sub_of_le _ _ htwo
    omega
  · omega

theorem Paces.congr (h : Paces flow now raised mid) (hinterval : mid'.intervalMs = mid.intervalMs)
    (hslow : mid'.lastSlowAt = mid.lastSlowAt) : Paces flow now raised mid' :=
  ⟨hinterval ▸ h.limits, hslow ▸ h.slow⟩

theorem paces_slow (flow : FrameFlow) (now : UInt64) :
    Paces flow now (flow.slowRaises now) (flow.slow now) := by
  by_cases hrecent : flow.lastSlowAt ≠ 0 ∧ now - flow.lastSlowAt < 100
  · have hslow : flow.slow now = { flow with fastAcks := 0, fastSends := 0 } := if_pos hrecent
    rw [slowRaises, hslow]
    exact ⟨id, .inl ⟨rfl, decide_eq_false (UInt32.lt_irrefl _)⟩⟩
  · have hslow : (flow.slow now).lastSlowAt = now ∧ (flow.slow now).intervalMs =
        if flow.interval + 8 > frameFlowMaxInterval then frameFlowMaxInterval
        else flow.interval + 8 := by
      have hset : flow.slow now = { flow with
        fastAcks := 0
        fastSends := 0
        intervalMs := if flow.interval + 8 > frameFlowMaxInterval then frameFlowMaxInterval
          else flow.interval + 8
        lastSlowAt := now } := if_neg hrecent
      rw [hset]
      exact ⟨rfl, rfl⟩
    refine ⟨fun hlimits => .inr ?_, .inr ⟨?_, hslow.1⟩⟩
    · obtain ⟨hlow, hhigh, -⟩ := interval_limits hlimits
      have hsum : (flow.interval + 8).toNat = flow.interval.toNat + 8 := by
        rw [UInt32.toNat_add]
        exact Nat.mod_eq_of_lt (by simp; omega)
      rw [hslow.2]
      split
      · decide
      · rename_i hsmall
        rw [gt_iff_lt, UInt32.lt_iff_toNat_lt, hsum] at hsmall
        have hmax : frameFlowMaxInterval.toNat = 100 := rfl
        omega
    · by_cases hnever : flow.lastSlowAt = 0
      · exact .inl hnever
      · exact .inr (UInt64.not_lt.mp fun hlt => hrecent ⟨hnever, hlt⟩)

theorem paces_lowered (now : UInt64) {flow flow' : FrameFlow} {least : UInt32}
    (hleast : 16 ≤ least.toNat ∧ least.toNat ≤ 99)
    (hinterval : flow'.intervalMs =
      if flow.interval > least + 1 then flow.interval - 2 else least)
    (hslow : flow'.lastSlowAt = flow.lastSlowAt) : Paces flow now false flow' := by
  refine ⟨fun hlimits => ?_, .inl ⟨hslow, rfl⟩⟩
  rw [hinterval]
  exact lowered_limits (interval_limits hlimits).2.1 hleast

theorem paces_sendCost (flow : FrameFlow) (costMs now : UInt64) :
    Paces flow now (flow.sendCostRaises costMs now) (flow.sendCost costMs now) := by
  by_cases hcost : costMs ≥ flow.interval.toUInt64
  · have hslow := paces_slow flow now
    simpa only [sendCostRaises, sendCost, if_pos hcost, decide_eq_true hcost, Bool.true_and] using hslow
  · simp only [sendCostRaises, sendCost, if_neg hcost, decide_eq_false hcost, Bool.false_and]
    split
    · split
      · exact paces_lowered now (by decide) rfl rfl
      · exact paces_of_eq now rfl rfl
    · exact paces_of_eq now rfl rfl

theorem paces_pace (flow : FrameFlow) (depth : UInt32) (elapsed now : UInt64) :
    Paces flow now (elapsed > 120 && flow.slowRaises now) (flow.pace depth elapsed now) := by
  by_cases hlong : elapsed > 120
  · have hslow := paces_slow flow now
    simpa only [pace, if_pos hlong, decide_eq_true hlong, Bool.true_and] using hslow
  · simp only [pace, if_neg hlong, decide_eq_false hlong, Bool.false_and]
    split
    · split
      · exact paces_lowered now (by decide) rfl rfl
      · exact paces_of_eq now rfl rfl
    · exact paces_of_eq now rfl rfl

theorem paces_heard (flow : FrameFlow) (depth : UInt32) (now : UInt64) :
    Paces flow now
      (depth > 256 * 1024 && { flow with suspended := false, lastAckAt := now }.slowRaises now)
      (flow.heard depth now) := by
  by_cases hqueue : depth > 256 * 1024
  · have hslow := paces_slow { flow with suspended := false, lastAckAt := now } now
    simp only [heard, if_pos hqueue, decide_eq_true hqueue, Bool.true_and]
    exact ⟨hslow.limits, hslow.slow⟩
  · simp only [heard, if_neg hqueue, decide_eq_false hqueue, Bool.false_and]
    exact paces_of_eq now rfl rfl

theorem paces_ack (flow : FrameFlow) (id : UInt32) {depth : UInt32} (now : UInt64)
    (hdepth : depth ≠ suspendDepth) :
    Paces flow now (flow.ackRaises id depth now) (flow.ack id depth now).2.2 := by
  have hheard := paces_heard flow depth now
  rw [ackRaises, ack, if_neg hdepth, if_neg hdepth]
  simp only
  generalize flow.heard depth now = heard at hheard ⊢
  cases heard.frames.find? fun frame => frame.id = id with
  | none =>
    simp only [Bool.or_false]
    exact hheard
  | some frame =>
    have hpace := paces_pace { heard with haveAck := true } depth (now - frame.sentAt) now
    have hmid : Paces flow now _ { heard with haveAck := true } := hheard.congr rfl rfl
    exact (hmid.trans hpace).congr rfl rfl

theorem Enters.unpaced {flow : FrameFlow} (h : Enters flow frame result) :
    result.2.intervalMs = flow.intervalMs ∧ result.2.lastSlowAt = flow.lastSlowAt ∧
      result.2.haveAck = flow.haveAck := by
  cases h <;> exact ⟨rfl, rfl, rfl⟩

theorem haveAck_slow (flow : FrameFlow) (now : UInt64) : (flow.slow now).haveAck = flow.haveAck := by
  unfold slow
  simp only
  split <;> rfl

theorem haveAck_sendCost (flow : FrameFlow) (costMs now : UInt64) :
    (flow.sendCost costMs now).haveAck = flow.haveAck := by
  unfold sendCost
  simp only
  split
  · exact haveAck_slow flow now
  · split
    · split <;> rfl
    · rfl

theorem haveAck_pace (flow : FrameFlow) (depth : UInt32) (elapsed now : UInt64) :
    (flow.pace depth elapsed now).haveAck = flow.haveAck := by
  unfold pace
  split
  · exact haveAck_slow flow now
  · split
    · split <;> rfl
    · rfl

theorem haveAck_heard (flow : FrameFlow) (depth : UInt32) (now : UInt64) :
    (flow.heard depth now).haveAck = flow.haveAck := by
  unfold heard
  simp only
  split
  · exact haveAck_slow _ now
  · rfl

theorem haveAck_ack (flow : FrameFlow) (id : UInt32) {depth : UInt32} (now : UInt64)
    (hdepth : depth ≠ suspendDepth) :
    (flow.ack id depth now).2.2.haveAck = (flow.haveAck || (flow.ack id depth now).1) := by
  have hheard := flow.haveAck_heard depth now
  rw [ack, if_neg hdepth]
  simp only
  generalize flow.heard depth now = heard at hheard ⊢
  cases heard.frames.find? fun frame => frame.id = id with
  | none => exact hheard.trans (Bool.or_false _).symm
  | some frame =>
    have hpace := haveAck_pace { heard with haveAck := true } depth (now - frame.sentAt) now
    exact hpace.trans (Bool.or_true _).symm

theorem sendCost_fast (flow : FrameFlow) {costMs : UInt64} (now : UInt64)
    (h : ¬ costMs ≥ flow.interval.toUInt64) :
    (flow.sendCost costMs now).lastSlowAt = flow.lastSlowAt ∧
      flow.sendCostRaises costMs now = false := by
  simp only [sendCostRaises, sendCost, if_neg h, decide_eq_false h, Bool.false_and, and_true]
  split
  · split <;> rfl
  · rfl

end FrameFlow

-- ---------------------------------------------------------------------------
-- Runs
-- ---------------------------------------------------------------------------

namespace Pacing

structure Sane (s : Pacing) : Prop where
  limits : Limits s.flow.intervalMs
  matched : s.matched = s.flow.haveAck

theorem Sane.bounded {s : Pacing} (h : s.Sane) : s.Bounded := by
  obtain ⟨hlow, hhigh, hunknown, hsuspended⟩ := FrameFlow.interval_limits h.limits
  exact ⟨hlow, hhigh, fun hactive hnone => hunknown hactive (h.matched ▸ hnone), hsuspended⟩

theorem register_unpaced (s : Pacing) (id bytes : UInt32) (keyframe : Bool) :
    (s.register id bytes keyframe).flow.intervalMs = s.flow.intervalMs ∧
      (s.register id bytes keyframe).flow.lastSlowAt = s.flow.lastSlowAt ∧
      (s.register id bytes keyframe).flow.haveAck = s.flow.haveAck := by
  unfold register
  cases keyframe with
  | true => exact (s.flow.enters_sentKeyframeSized id bytes s.clock).unpaced
  | false => exact (s.flow.enters_sentSized id bytes s.clock).unpaced

theorem Sane.step {s : Pacing} (h : s.Sane) (hstep : s.step event = some s') : s'.Sane := by
  cases event with
  | tick later =>
    simp only [Pacing.step, Option.ite_none_right_eq_some, Option.some.injEq] at hstep
    obtain ⟨-, rfl⟩ := hstep
    exact ⟨h.limits, h.matched⟩
  | register id bytes keyframe =>
    cases hstep
    obtain ⟨hinterval, -, hhave⟩ := s.register_unpaced id bytes keyframe
    exact ⟨hinterval ▸ h.limits, h.matched.trans hhave.symm⟩
  | ack id depth =>
    cases hstep
    unfold Pacing.ack
    simp only
    split
    · rename_i hsuspend
      have hlimits : Limits frameFlowSuspendedInterval := .inr (by decide)
      rw [FrameFlow.ack, if_pos hsuspend]
      exact ⟨hlimits, rfl⟩
    · rename_i hdepth
      refine ⟨(s.flow.paces_ack id s.clock hdepth).limits h.limits, ?_⟩
      rw [FrameFlow.haveAck_ack s.flow id s.clock hdepth, h.matched]
  | sample =>
    simp only [Pacing.step, Option.ite_none_right_eq_some, Option.some.injEq] at hstep
    obtain ⟨-, rfl⟩ := hstep
    exact ⟨h.limits, h.matched⟩
  | sendCost costMs =>
    obtain ⟨now, -, rfl⟩ := Option.map_eq_some_iff.mp hstep
    exact ⟨(s.flow.paces_sendCost costMs now).limits h.limits,
      h.matched.trans (s.flow.haveAck_sendCost costMs now).symm⟩

structure History (clock lastSlowAt : UInt64) (raises : List UInt64) : Prop where
  past : lastSlowAt ≤ clock
  never : lastSlowAt = 0 → raises = []
  before : ∀ time ∈ raises, time.toNat ≤ lastSlowAt.toNat
  spaced : raises.Pairwise fun later earlier => earlier.toNat + 100 ≤ later.toNat

/-- A reading that is not before the last one is 100 ms after it where the interval is raised. -/
theorem History.paces {clock now : UInt64} {raises : List UInt64} {raised : Bool}
    {flow flow' : FrameFlow} (h : History clock flow.lastSlowAt raises)
    (hpaces : flow.Paces now raised flow') (hclock : now ≤ clock) (hpos : now ≠ 0)
    (hlate : flow.lastSlowAt ≤ now) :
    History clock flow'.lastSlowAt (if raised then now :: raises else raises) := by
  rcases hpaces.slow with ⟨hsame, rfl⟩ | ⟨hlong, hnow⟩
  · rw [hsame, if_neg Bool.false_ne_true]
    exact h
  · have hlater : ∀ time ∈ raises, time.toNat + 100 ≤ now.toNat := by
      intro time htime
      have hlast := h.before time htime
      rcases hlong with hzero | hlong
      · rw [h.never hzero] at htime
        cases htime
      · rw [UInt64.le_iff_toNat_le, UInt64.toNat_sub_of_le _ _ hlate] at hlong
        have hhundred : (100 : UInt64).toNat = 100 := rfl
        omega
    rw [hnow]
    cases raised with
    | true =>
      refine ⟨hclock, fun hzero => absurd hzero hpos, ?_, ?_⟩
      · rw [if_pos rfl, List.forall_mem_cons]
        exact ⟨Nat.le_refl _, fun time htime => by have := hlater time htime; omega⟩
      · rw [if_pos rfl, List.pairwise_cons]
        exact ⟨hlater, h.spaced⟩
    | false =>
      refine ⟨hclock, fun hzero => absurd hzero hpos, ?_, h.spaced⟩
      exact fun time htime => by have := hlater time htime; omega

structure Tracked (s : Pacing) : Prop where
  history : History s.clock s.flow.lastSlowAt s.raises
  sampled : ∀ now ∈ s.sampled, now ≤ s.clock

theorem Tracked.step {s : Pacing} (h : s.Tracked) (hgood : s.NotOvertaken event)
    (hstep : s.step event = some s') : s'.Tracked := by
  obtain ⟨hhistory, hsampled⟩ := h
  cases event with
  | tick later =>
    simp only [Pacing.step, Option.ite_none_right_eq_some, Option.some.injEq] at hstep
    obtain ⟨hlater, rfl⟩ := hstep
    exact ⟨⟨UInt64.le_trans hhistory.past hlater, hhistory.never, hhistory.before, hhistory.spaced⟩,
      fun now hnow => UInt64.le_trans (hsampled now hnow) hlater⟩
  | register id bytes keyframe =>
    cases hstep
    obtain ⟨-, hslow, -⟩ := s.register_unpaced id bytes keyframe
    exact ⟨hslow ▸ hhistory, hsampled⟩
  | ack id depth =>
    cases hstep
    unfold Pacing.ack
    simp only
    split
    · rename_i hsuspend
      rw [FrameFlow.ack, if_pos hsuspend]
      exact ⟨⟨UInt64.le_iff_toNat_le.mpr (Nat.zero_le _), fun _ => rfl,
        fun time htime => (List.not_mem_nil htime).elim, List.Pairwise.nil⟩, hsampled⟩
    · rename_i hdepth
      refine ⟨?_, hsampled⟩
      exact hhistory.paces (s.flow.paces_ack id s.clock hdepth) (UInt64.le_refl _) hgood hhistory.past
  | sample =>
    simp only [Pacing.step, Option.ite_none_right_eq_some, Option.some.injEq] at hstep
    obtain ⟨-, rfl⟩ := hstep
    refine ⟨hhistory, ?_⟩
    rintro now ⟨⟩
    exact UInt64.le_refl _
  | sendCost costMs =>
    obtain ⟨now, hnow, rfl⟩ := Option.map_eq_some_iff.mp hstep
    refine ⟨?_, fun _ hnone => by cases hnone⟩
    by_cases hcost : costMs ≥ s.flow.interval.toUInt64
    · obtain ⟨hpos, hlate⟩ := hgood now hnow hcost
      exact hhistory.paces (s.flow.paces_sendCost costMs now) (hsampled now hnow) hpos hlate
    · obtain ⟨hslow, hraises⟩ := s.flow.sendCost_fast now hcost
      simp only [sendCost, raised, hslow, hraises, Bool.false_eq_true, if_false]
      exact hhistory

/-- In every run the interval is in its bounds, and where no reading is overtaken the calls that
raise it, with no suspension in between, are 100 ms apart. -/
theorem pacing_bounded_and_spaced (events : List PacingEvent) (s : Pacing)
    (hrun : Machine.run step {} events = some s) :
    s.Bounded ∧ (Machine.Along step NotOvertaken {} events → s.Spaced) := by
  constructor
  · have hsane : s.Sane := Machine.run_induction (fun _ _ _ h hstep => h.step hstep)
      ⟨.inl rfl, rfl⟩ hrun
    exact hsane.bounded
  · intro hgood
    have htracked : s.Tracked := Machine.run_invariant (fun _ _ _ h hgood hstep => h.step hgood hstep)
      ⟨⟨UInt64.le_refl _, fun _ => rfl, fun time htime => (List.not_mem_nil htime).elim,
        List.Pairwise.nil⟩, fun _ hnone => by cases hnone⟩ hgood hrun
    exact htracked.history.spaced

def slowClient : List PacingEvent := [.tick 1000, .ack 7 300000, .tick 1100, .sample, .sendCost 60]

theorem pacing_of_slowClient : ∃ s, Machine.run step {} slowClient = some s ∧ s.Bounded ∧ s.Spaced := by
  have hends : (Machine.run step {} slowClient).isSome = true := by decide +kernel
  obtain ⟨s, hrun⟩ := Option.isSome_iff_exists.mp hends
  obtain ⟨hbounded, hspaced⟩ := pacing_bounded_and_spaced slowClient s hrun
  exact ⟨s, hrun, hbounded, hspaced (by decide +kernel)⟩

/-- The output thread reads the clock at 999, and an acknowledgement at 1000 raises the interval
before the thread gets the lock. -/
def overtaken : List PacingEvent := [.tick 999, .sample, .tick 1000, .ack 7 300000, .sendCost 60]

/-- The interval is raised twice within one millisecond. A clock that reads 0 leaves no trace, so
there it is raised again after 50. -/
theorem raised_twice_at_once :
    (Machine.run step {} overtaken).map (fun s => (s.raises, decide s.Spaced)) =
        some ([999, 1000], false) ∧
      (Machine.run step {} [.ack 7 300000, .tick 50, .ack 7 300000]).map
          (fun s => (s.raises, decide s.Spaced)) = some ([50, 0], false) := by
  decide +kernel

end Pacing

end NanokvmRdp.Gateway
