import Mathlib.Data.List.Basic
import Mathlib.Tactic.Common

/-!
# Frame flow control

`frame_flow.h`: the frames a client has been sent and not acknowledged, the
pacing derived from its acknowledgements, and the admission of AVC420 frames.
The three parallel arrays of the source are one list of frames, whose length
is `count`.
-/

namespace NanokvmRdp.Gateway

def frameFlowLimit : Nat := 3
def frameFlowDefaultInterval : UInt32 := 40
def frameFlowMinInterval : UInt32 := 16
def frameFlowSuspendedInterval : UInt32 := 20
def frameFlowMaxInterval : UInt32 := 100
def frameFlowSlowAckMs : UInt64 := 250
def frameFlowMaxInflightBytes : UInt32 := 192 * 1024
def frameFlowAvcWaitMs : UInt64 := 150

structure FlowFrame where
  id : UInt32
  bytes : UInt32
  sentAt : UInt64
  deriving DecidableEq, Repr

structure FrameFlow where
  suspended : Bool := false
  haveAck : Bool := false
  intervalMs : UInt32 := 0
  fastAcks : UInt32 := 0
  fastSends : UInt32 := 0
  lastSlowAt : UInt64 := 0
  frames : List FlowFrame := []
  inflightBytes : UInt32 := 0
  lastAckAt : UInt64 := 0
  frames_le : frames.length ≤ frameFlowLimit := by exact Nat.zero_le _
  deriving DecidableEq

inductive FrameFlowAvcAdmission where
  | send
  | wait
  | resync
  deriving DecidableEq, Repr

namespace FrameFlow

-- ---------------------------------------------------------------------------
-- Pacing
-- ---------------------------------------------------------------------------

def interval (flow : FrameFlow) : UInt32 :=
  let interval := if flow.intervalMs ≠ 0 then flow.intervalMs else frameFlowDefaultInterval
  let interval :=
    if !flow.haveAck && !flow.suspended && interval < frameFlowDefaultInterval then
      frameFlowDefaultInterval
    else interval
  if flow.suspended && interval < frameFlowSuspendedInterval then frameFlowSuspendedInterval
  else interval

def slow (flow : FrameFlow) (now : UInt64) : FrameFlow :=
  let flow := { flow with fastAcks := 0, fastSends := 0 }
  if flow.lastSlowAt ≠ 0 ∧ now - flow.lastSlowAt < 100 then flow
  else
    let interval := flow.interval + 8
    { flow with
      intervalMs := if interval > frameFlowMaxInterval then frameFlowMaxInterval else interval
      lastSlowAt := now }

def sendCost (flow : FrameFlow) (costMs now : UInt64) : FrameFlow :=
  let interval := flow.interval
  if costMs ≥ interval.toUInt64 then flow.slow now
  else if flow.suspended && costMs ≤ (interval / 2).toUInt64 then
    if flow.fastSends + 1 ≥ 8 then
      { flow with
        intervalMs :=
          if interval > frameFlowSuspendedInterval + 1 then interval - 2
          else frameFlowSuspendedInterval
        fastSends := 0 }
    else { flow with fastSends := flow.fastSends + 1 }
  else { flow with fastSends := 0 }

-- ---------------------------------------------------------------------------
-- Frames in flight
-- ---------------------------------------------------------------------------

def count (flow : FrameFlow) : Nat := flow.frames.length

def blocked (flow : FrameFlow) : Bool := !flow.suspended && flow.count == frameFlowLimit

def track (flow : FrameFlow) (frame : FlowFrame) (room : flow.count < frameFlowLimit) : FrameFlow :=
  { flow with
    frames := flow.frames ++ [frame]
    inflightBytes := flow.inflightBytes + frame.bytes
    frames_le := by
      rw [List.length_append]
      exact room }

theorem count_lt_of_not_blocked {flow : FrameFlow} (hactive : ¬ flow.suspended = true)
    (h : ¬ flow.blocked = true) : flow.count < frameFlowLimit := by
  have hle := flow.frames_le
  simp only [blocked, Bool.not_eq_true] at h hactive
  simp only [hactive, Bool.not_false, Bool.true_and, beq_eq_false_iff_ne, count] at h
  exact Nat.lt_of_le_of_ne hle h

def sentSized (flow : FrameFlow) (id bytes : UInt32) (now : UInt64) : Bool × FrameFlow :=
  if hactive : flow.suspended then (true, flow)
  else if h : flow.blocked then (false, flow)
  else if flow.count ≠ 0 ∧ flow.inflightBytes + bytes > frameFlowMaxInflightBytes then (false, flow)
  else (true, flow.track ⟨id, bytes, now⟩ (count_lt_of_not_blocked hactive h))

/-- Recovery IDRs are admitted beyond the byte cap. -/
def sentKeyframeSized (flow : FrameFlow) (id bytes : UInt32) (now : UInt64) : Bool × FrameFlow :=
  if hactive : flow.suspended then (true, flow)
  else if h : flow.blocked then (false, flow)
  else (true, flow.track ⟨id, bytes, now⟩ (count_lt_of_not_blocked hactive h))

def sent (flow : FrameFlow) (id : UInt32) (now : UInt64) : Bool × FrameFlow :=
  flow.sentSized id 0 now

def staleAck (flow : FrameFlow) (now : UInt64) : Bool :=
  flow.lastAckAt ≠ 0 && now - flow.lastAckAt ≥ frameFlowSlowAckMs

def ready (flow : FrameFlow) (bytes : UInt32) (now : UInt64) : Bool :=
  if flow.suspended || flow.count == 0 then true
  else if flow.blocked then false
  else if flow.inflightBytes + bytes > frameFlowMaxInflightBytes then false
  else !flow.staleAck now

def readyKeyframe (flow : FrameFlow) (now : UInt64) : Bool :=
  if flow.suspended || flow.count == 0 then true
  else if flow.blocked then false
  else !flow.staleAck now

def avcAdmit (flow : FrameFlow) (bytes : UInt32) (idr : Bool) (now waitStartedAt : UInt64) :
    FrameFlowAvcAdmission :=
  if waitStartedAt ≠ 0 ∧ now - waitStartedAt ≥ frameFlowAvcWaitMs then .resync
  else if (if idr then flow.readyKeyframe now else flow.ready bytes now) then .send
  else .wait

-- ---------------------------------------------------------------------------
-- Acknowledgements
-- ---------------------------------------------------------------------------

/-- An acknowledgement with this depth suspends acknowledging; everything known
about the client is discarded. -/
def suspendDepth : UInt32 := 0xffffffff

def suspendedFlow : FrameFlow where
  suspended := true
  intervalMs := frameFlowSuspendedInterval

/-- The pacing after the acknowledgement of a frame sent `elapsed` ms ago. -/
def pace (flow : FrameFlow) (depth : UInt32) (elapsed now : UInt64) : FrameFlow :=
  if elapsed > 120 then flow.slow now
  else if depth = 0 ∧ elapsed ≤ 60 then
    if flow.fastAcks + 1 ≥ 8 then
      { flow with
        intervalMs :=
          if flow.interval > frameFlowMinInterval + 1 then flow.interval - 2
          else frameFlowMinInterval
        fastAcks := 0 }
    else { flow with fastAcks := flow.fastAcks + 1 }
  else { flow with fastAcks := 0 }

def release (flow : FrameFlow) (id bytes : UInt32) : FrameFlow :=
  { flow with
    frames := flow.frames.eraseP fun frame => frame.id = id
    inflightBytes := flow.inflightBytes - bytes
    frames_le := Nat.le_trans List.eraseP_sublist.length_le flow.frames_le }

/-- What any acknowledgement tells, whatever frame it names: the client is there,
and how many bytes it has queued. -/
def heard (flow : FrameFlow) (depth : UInt32) (now : UInt64) : FrameFlow :=
  let flow := { flow with suspended := false, lastAckAt := now }
  if depth > 256 * 1024 then flow.slow now else flow

/-- Each acknowledgement names one frame. The result tells whether it was in
flight, and for how long. -/
def ack (flow : FrameFlow) (id depth : UInt32) (now : UInt64) : Bool × UInt64 × FrameFlow :=
  if depth = suspendDepth then (false, 0, suspendedFlow)
  else
    let flow := flow.heard depth now
    match flow.frames.find? fun frame => frame.id = id with
    | none => (false, 0, flow)
    | some frame =>
      let elapsed := now - frame.sentAt
      let flow := { flow with haveAck := true }
      (true, elapsed, (flow.pace depth elapsed now).release id frame.bytes)

end FrameFlow

-- ---------------------------------------------------------------------------
-- The reference chain flag
-- ---------------------------------------------------------------------------

/-- Once a reference is lost, admit no P-frame until an IDR is submitted. -/
def frameFlowAvcShouldSend (needIdr idr pFrame : Bool) : Bool := idr || (!needIdr && pFrame)

/-- The result is true only on the transition that asks for an IDR. -/
def frameFlowAvcFlowRejected (needIdr : Bool) : Bool × Bool :=
  if needIdr then (false, needIdr) else (true, true)

def frameFlowAvcSent (needIdr idr : Bool) : Bool := if idr then false else needIdr

end NanokvmRdp.Gateway
