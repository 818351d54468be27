import NanokvmRdp.Gateway.FlowArrays
import NanokvmRdp.Lib.Ledger

/-!
# Which frames are in flight

A ledger records every frame whose registration returned true while the client
acknowledged frames; an acknowledgement settles the oldest frame with its id,
and a suspension discards what is outstanding. After any calls from the zero
state the arrays hold the outstanding frames of the ledger, and
`inflight_bytes` is their sum.
-/

namespace NanokvmRdp.Gateway

open Ledger

namespace FrameFlow

structure Balanced (flow : FrameFlow) : Prop where
  accounted : flow.Accounted
  suspended : flow.suspended = true → flow.frames = []

theorem Paced.balanced (h : Paced before after) (hbefore : before.Balanced) : after.Balanced := by
  refine ⟨h.accounted hbefore.accounted, ?_⟩
  rw [h.frames, h.suspended]
  exact hbefore.suspended

theorem Enters.balanced {flow : FrameFlow} (h : Enters flow frame result) (hflow : flow.Balanced) :
    result.2.Balanced := by
  refine ⟨h.accounted hflow.accounted, ?_⟩
  cases h with
  | suspended | refused => exact hflow.suspended
  | tracked hactive room =>
    intro hsuspended
    rw [show (flow.track frame room).suspended = flow.suspended from rfl, hactive] at hsuspended
    cases hsuspended

theorem Balanced.ack {flow : FrameFlow} (h : flow.Balanced) (id depth : UInt32) (now : UInt64) :
    (flow.ack id depth now).2.2.Balanced := by
  by_cases hdepth : depth = suspendDepth
  · rw [FrameFlow.ack, if_pos hdepth]
    exact ⟨rfl, fun _ => rfl⟩
  · obtain ⟨hactive, _, haccounted⟩ := flow.ack_fields id now hdepth h.accounted
    refine ⟨haccounted, fun hsuspended => ?_⟩
    rw [hactive] at hsuspended
    cases hsuspended

theorem toNat_sum (bytes : List UInt32) :
    bytes.sum.toNat = (bytes.map UInt32.toNat).sum % 2 ^ 32 := by
  induction bytes with
  | nil => rfl
  | cons first bytes ih =>
    rw [List.sum_cons, List.map_cons, List.sum_cons, UInt32.toNat_add, ih]
    omega

end FrameFlow

-- ---------------------------------------------------------------------------
-- Every sequence of calls
-- ---------------------------------------------------------------------------

inductive FlowCall where
  | sentSized (id bytes : UInt32) (now : UInt64)
  | sentKeyframeSized (id bytes : UInt32) (now : UInt64)
  | sent (id : UInt32) (now : UInt64)
  | ack (id depth : UInt32) (now : UInt64)
  | sendCost (costMs now : UInt64)
  deriving DecidableEq, Repr

/-- The arrays, and the ledger of what the calls were told. -/
structure FlowRun where
  flow : FlowArrays := {}
  ledger : List (Entry FlowFrame) := []

namespace FlowRun

def registered (s : FlowRun) (frame : FlowFrame) (result : Bool × FlowArrays) : FlowRun where
  flow := result.2
  ledger := if result.1 && !s.flow.scalars.suspended then record s.ledger frame else s.ledger

def step (s : FlowRun) : FlowCall → FlowRun
  | .sentSized id bytes now => s.registered ⟨id, bytes, now⟩ (s.flow.sentSized id bytes now)
  | .sentKeyframeSized id bytes now =>
    s.registered ⟨id, bytes, now⟩ (s.flow.sentKeyframeSized id bytes now)
  | .sent id now => s.registered ⟨id, 0, now⟩ (s.flow.sent id now)
  | .ack id depth now =>
    { flow := (s.flow.ack id depth now).2.2
      ledger :=
        if depth = FrameFlow.suspendDepth then discard s.ledger
        else settle (fun frame => frame.id = id) s.ledger }
  | .sendCost costMs now => { s with flow := s.flow.sendCost costMs now }

def run (calls : List FlowCall) : FlowRun := calls.foldl step {}

structure Sound (s : FlowRun) : Prop where
  frames : s.flow.frames = outstanding s.ledger
  balanced : s.flow.abs.Balanced

theorem Sound.registered {s : FlowRun} (h : s.Sound) {ok : Bool} {flow : FlowArrays}
    (hresult : FrameFlow.Enters s.flow.abs frame (ok, flow.abs)) :
    (s.registered frame (ok, flow)).Sound := by
  refine ⟨?_, hresult.balanced h.balanced⟩
  have hframes : flow.abs.frames = flow.frames := rfl
  simp only [FlowRun.registered, ← hframes]
  generalize flow.abs = after at hresult
  cases hresult with
  | suspended hsuspended =>
    rw [FlowArrays.suspended_abs] at hsuspended
    simp [hsuspended, h.frames]
  | refused => simp [h.frames]
  | tracked hactive room =>
    rw [FlowArrays.suspended_abs] at hactive
    simp [hactive, FrameFlow.track, h.frames]

theorem Sound.ack {s : FlowRun} (h : s.Sound) (id depth : UInt32) (now : UInt64) :
    (s.step (.ack id depth now)).Sound := by
  have hack := congrArg (fun result => result.2.2) (s.flow.abs_ack id depth now)
  simp only at hack
  refine ⟨?_, ?_⟩
  · by_cases hdepth : depth = FrameFlow.suspendDepth
    · simp [step, FlowArrays.ack, hdepth, FlowArrays.frames]
    · have hframes := (s.flow.abs.ack_fields id now hdepth h.balanced.accounted).2.1
      rw [hack, FlowArrays.frames_abs, FlowArrays.frames_abs, h.frames] at hframes
      simp [step, hdepth, hframes]
  · simp only [step, ← hack]
    exact h.balanced.ack id depth now

theorem Sound.step {s : FlowRun} (h : s.Sound) (call : FlowCall) : (s.step call).Sound := by
  cases call with
  | sentSized id bytes now =>
    exact h.registered (s.flow.abs_sentSized id bytes now ▸ s.flow.abs.enters_sentSized id bytes now)
  | sentKeyframeSized id bytes now =>
    exact h.registered (s.flow.abs_sentKeyframeSized id bytes now ▸
      s.flow.abs.enters_sentKeyframeSized id bytes now)
  | sent id now =>
    exact h.registered (s.flow.abs_sentSized id 0 now ▸ s.flow.abs.enters_sentSized id 0 now)
  | ack id depth now => exact h.ack id depth now
  | sendCost costMs now =>
    have hpaced := s.flow.abs.paced_sendCost costMs now
    rw [← FlowArrays.abs_sendCost] at hpaced
    exact ⟨hpaced.frames.trans h.frames, hpaced.balanced h.balanced⟩

theorem sound_run (calls : List FlowCall) : (run calls).Sound := by
  have hfoldl : ∀ s : FlowRun, s.Sound → (calls.foldl FlowRun.step s).Sound := by
    induction calls with
    | nil => exact fun s hs => hs
    | cons call calls ih => exact fun s hs => ih (s.step call) (hs.step call)
  exact hfoldl {} ⟨rfl, rfl, nofun⟩

/-- The arrays hold the outstanding frames, in the order they were sent. -/
theorem flow_tracks_outstanding (calls : List FlowCall) :
    let s := run calls
    s.flow.frames = outstanding s.ledger ∧ s.flow.count ≤ frameFlowLimit ∧
      s.flow.scalars.inflightBytes.toNat =
        (s.flow.frames.map fun frame => frame.bytes.toNat).sum % 2 ^ 32 ∧
      (s.flow.scalars.suspended = true → s.flow.count = 0 ∧ s.flow.scalars.inflightBytes = 0) ∧
      ∀ id depth now, depth ≠ FrameFlow.suspendDepth → (∀ frame ∈ s.flow.frames, frame.id ≠ id) →
        let after := (s.flow.ack id depth now).2.2
        after.frames = s.flow.frames ∧ after.count = s.flow.count ∧
          after.scalars.inflightBytes = s.flow.scalars.inflightBytes := by
  intro s
  have hsound := sound_run calls
  have hbytes : s.flow.scalars.inflightBytes = (s.flow.frames.map FlowFrame.bytes).sum :=
    hsound.balanced.accounted
  refine ⟨hsound.frames, s.flow.count_le, ?_, fun hsuspended => ?_, fun id depth now hdepth hunknown => ?_⟩
  · rw [hbytes, FrameFlow.toNat_sum, List.map_map]
    rfl
  · have hempty : s.flow.frames = [] := hsound.balanced.suspended hsuspended
    rw [← FlowArrays.length_frames, hbytes, hempty]
    exact ⟨rfl, rfl⟩
  · have hsearch : (s.flow.hear depth now).findId id 0 (s.flow.hear depth now).count = none := by
      rw [FlowArrays.findId_frames, List.findIdx?_eq_none_iff]
      exact fun frame hmem => decide_eq_false (hunknown frame hmem)
    have hack : (s.flow.ack id depth now).2.2 = s.flow.hear depth now := by
      simp only [FlowArrays.ack, if_neg hdepth, hsearch]
    intro after
    rw [show after = s.flow.hear depth now from hack]
    exact ⟨rfl, rfl, (s.flow.scalars.paced_heard depth now).inflightBytes⟩

end FlowRun

end NanokvmRdp.Gateway
