import Mathlib.Data.UInt
import NanokvmRdp.Gateway.FrameFlow

/-!
# What the calls do to the frames in flight

Pacing leaves the frames alone. A registration adds a frame at the end or
changes nothing, an acknowledgement takes the oldest frame with its id out,
and `inflight_bytes` stays the sum over the frames.
-/

namespace NanokvmRdp.Gateway

namespace FrameFlow

def Accounted (flow : FrameFlow) : Prop :=
  flow.inflightBytes = (flow.frames.map FlowFrame.bytes).sum

-- ---------------------------------------------------------------------------
-- Pacing
-- ---------------------------------------------------------------------------

structure Paced (before after : FrameFlow) : Prop where
  frames : after.frames = before.frames
  inflightBytes : after.inflightBytes = before.inflightBytes
  suspended : after.suspended = before.suspended

theorem Paced.accounted (h : Paced before after) (hbefore : before.Accounted) : after.Accounted := by
  rw [Accounted, h.inflightBytes, h.frames]
  exact hbefore

theorem paced_slow (flow : FrameFlow) (now : UInt64) : Paced flow (flow.slow now) := by
  unfold slow
  simp only
  split <;> exact ⟨rfl, rfl, rfl⟩

theorem paced_sendCost (flow : FrameFlow) (costMs now : UInt64) :
    Paced flow (flow.sendCost costMs now) := by
  unfold sendCost
  simp only
  split
  · exact flow.paced_slow now
  · split
    · split <;> exact ⟨rfl, rfl, rfl⟩
    · exact ⟨rfl, rfl, rfl⟩

theorem paced_pace (flow : FrameFlow) (depth : UInt32) (elapsed now : UInt64) :
    Paced flow (flow.pace depth elapsed now) := by
  unfold pace
  split
  · exact flow.paced_slow now
  · split
    · split <;> exact ⟨rfl, rfl, rfl⟩
    · exact ⟨rfl, rfl, rfl⟩

theorem paced_heard (flow : FrameFlow) (depth : UInt32) (now : UInt64) :
    Paced { flow with suspended := false } (flow.heard depth now) := by
  unfold heard
  simp only
  split
  · obtain ⟨hframes, hbytes, hsuspended⟩ :=
      paced_slow { flow with suspended := false, lastAckAt := now } now
    exact ⟨hframes, hbytes, hsuspended⟩
  · exact ⟨rfl, rfl, rfl⟩

-- ---------------------------------------------------------------------------
-- Registrations
-- ---------------------------------------------------------------------------

/-- A registration while suspended is let through, and one that is refused
changes nothing. -/
inductive Enters (flow : FrameFlow) (frame : FlowFrame) : Bool × FrameFlow → Prop
  | suspended : flow.suspended = true → Enters flow frame (true, flow)
  | refused : flow.suspended = false → Enters flow frame (false, flow)
  | tracked : flow.suspended = false → (room : flow.count < frameFlowLimit) →
    Enters flow frame (true, flow.track frame room)

theorem enters_sentSized (flow : FrameFlow) (id bytes : UInt32) (now : UInt64) :
    Enters flow ⟨id, bytes, now⟩ (flow.sentSized id bytes now) := by
  unfold sentSized
  split
  · exact .suspended ‹_›
  · rename_i hactive
    have hactive : flow.suspended = false := by simpa using hactive
    split
    · exact .refused hactive
    · split
      · exact .refused hactive
      · exact .tracked hactive _

theorem enters_sentKeyframeSized (flow : FrameFlow) (id bytes : UInt32) (now : UInt64) :
    Enters flow ⟨id, bytes, now⟩ (flow.sentKeyframeSized id bytes now) := by
  unfold sentKeyframeSized
  split
  · exact .suspended ‹_›
  · rename_i hactive
    have hactive : flow.suspended = false := by simpa using hactive
    split
    · exact .refused hactive
    · exact .tracked hactive _

theorem Enters.accounted {flow : FrameFlow} (h : Enters flow frame result) (hflow : flow.Accounted) :
    result.2.Accounted := by
  cases h with
  | suspended | refused => exact hflow
  | tracked =>
    rw [Accounted] at hflow
    simp [Accounted, track, hflow]

-- ---------------------------------------------------------------------------
-- Acknowledgements
-- ---------------------------------------------------------------------------

theorem sum_bytes_eraseP {frames : List FlowFrame} {id : UInt32}
    (h : frames.find? (fun frame => frame.id = id) = some frame) :
    ((frames.eraseP fun frame => frame.id = id).map FlowFrame.bytes).sum =
      (frames.map FlowFrame.bytes).sum - frame.bytes := by
  induction frames with
  | nil => cases h
  | cons first frames ih =>
    by_cases hid : first.id = id
    · obtain rfl : first = frame := by simpa [hid] using h
      simp [hid]
    · have hrest : frames.find? (fun frame => frame.id = id) = some frame := by
        simpa [hid] using h
      simp [hid, ih hrest, add_sub_assoc]

/-- An acknowledgement that does not suspend takes one frame with its id out, if
there is one. -/
theorem ack_fields (flow : FrameFlow) (id : UInt32) {depth : UInt32} (now : UInt64)
    (hdepth : depth ≠ suspendDepth) (h : flow.Accounted) :
    (flow.ack id depth now).2.2.suspended = false ∧
      (flow.ack id depth now).2.2.frames = (flow.frames.eraseP fun frame => frame.id = id) ∧
      (flow.ack id depth now).2.2.Accounted := by
  have hpaced := flow.paced_heard depth now
  have hframes : (flow.heard depth now).frames = flow.frames := hpaced.frames
  have hactive : (flow.heard depth now).suspended = false := hpaced.suspended
  have haccounted : (flow.heard depth now).Accounted := hpaced.accounted h
  rw [ack, if_neg hdepth]
  generalize flow.heard depth now = heard at hframes hactive haccounted ⊢
  simp only
  split
  · rename_i hnone
    refine ⟨hactive, ?_, haccounted⟩
    rw [hframes] at hnone ⊢
    exact (List.eraseP_of_forall_not (by simpa using hnone)).symm
  · rename_i frame hfound
    have hpace := paced_pace { heard with haveAck := true } depth (now - frame.sentAt) now
    generalize pace _ depth (now - frame.sentAt) now = paced at hpace ⊢
    have hpframes : paced.frames = heard.frames := hpace.frames
    refine ⟨hpace.suspended.trans hactive, ?_, ?_⟩
    · rw [← hframes, ← hpframes]
      rfl
    · have hbytes : paced.inflightBytes = (heard.frames.map FlowFrame.bytes).sum :=
        hpace.inflightBytes.trans haccounted
      simp only [Accounted, release, hpframes, hbytes]
      rw [sum_bytes_eraseP hfound]

end FrameFlow

end NanokvmRdp.Gateway
