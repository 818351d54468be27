import NanokvmRdp.Gateway.FlowLaws

/-!
# The frames in flight as arrays

`FrameFlow` holds the frames in flight in three parallel arrays with a count.
Here they are arrays, with the loops of `frame_flow.h` that search and shift
them; `abs` reads them as the list of the model, and every operation on the
arrays is the operation on the list (`abs_ack` and the lemmas before it). A
ledger of all frames that were registered then says which frames these are.
-/

namespace NanokvmRdp.Gateway

/-- `scalars` are the fields that are no arrays; it holds no frames. -/
structure FlowArrays where
  scalars : FrameFlow := {}
  ids : Vector UInt32 frameFlowLimit := .replicate _ 0
  sentAt : Vector UInt64 frameFlowLimit := .replicate _ 0
  bytes : Vector UInt32 frameFlowLimit := .replicate _ 0
  count : Nat := 0
  count_le : count ≤ frameFlowLimit := by exact Nat.zero_le _

namespace FlowArrays

-- ---------------------------------------------------------------------------
-- The operations
-- ---------------------------------------------------------------------------

def frameAt (flow : FlowArrays) (i : Nat) : FlowFrame where
  id := flow.ids[i]?.getD 0
  bytes := flow.bytes[i]?.getD 0
  sentAt := flow.sentAt[i]?.getD 0

def blocked (flow : FlowArrays) : Bool :=
  !flow.scalars.suspended && flow.count == frameFlowLimit

theorem count_lt_of_not_blocked {flow : FlowArrays} (hactive : ¬ flow.scalars.suspended = true)
    (h : ¬ flow.blocked = true) : flow.count < frameFlowLimit := by
  simp only [blocked, hactive, Bool.not_false, Bool.true_and, beq_iff_eq] at h
  exact Nat.lt_of_le_of_ne flow.count_le h

def put (flow : FlowArrays) (i : Nat) (frame : FlowFrame) : FlowArrays :=
  { flow with
    ids := flow.ids.setIfInBounds i frame.id
    bytes := flow.bytes.setIfInBounds i frame.bytes
    sentAt := flow.sentAt.setIfInBounds i frame.sentAt }

def track (flow : FlowArrays) (frame : FlowFrame) (room : flow.count < frameFlowLimit) : FlowArrays :=
  { flow.put flow.count frame with
    count := flow.count + 1
    scalars := { flow.scalars with inflightBytes := flow.scalars.inflightBytes + frame.bytes }
    count_le := room }

def sentSized (flow : FlowArrays) (id bytes : UInt32) (now : UInt64) : Bool × FlowArrays :=
  if hactive : flow.scalars.suspended then (true, flow)
  else if h : flow.blocked then (false, flow)
  else if flow.count ≠ 0 ∧ flow.scalars.inflightBytes + bytes > frameFlowMaxInflightBytes then
    (false, flow)
  else (true, flow.track ⟨id, bytes, now⟩ (count_lt_of_not_blocked hactive h))

def sentKeyframeSized (flow : FlowArrays) (id bytes : UInt32) (now : UInt64) : Bool × FlowArrays :=
  if hactive : flow.scalars.suspended then (true, flow)
  else if h : flow.blocked then (false, flow)
  else (true, flow.track ⟨id, bytes, now⟩ (count_lt_of_not_blocked hactive h))

def sent (flow : FlowArrays) (id : UInt32) (now : UInt64) : Bool × FlowArrays :=
  flow.sentSized id 0 now

def sendCost (flow : FlowArrays) (costMs now : UInt64) : FlowArrays :=
  { flow with scalars := flow.scalars.sendCost costMs now }

/-- The loop over `ids` from `i` on, with the turns that are left. -/
def findId (flow : FlowArrays) (id : UInt32) (i : Nat) : Nat → Option Nat
  | 0 => none
  | n + 1 => if (flow.frameAt i).id = id then some i else flow.findId id (i + 1) n

def shift (flow : FlowArrays) (j : Nat) : Nat → FlowArrays
  | 0 => flow
  | n + 1 => (flow.put j (flow.frameAt (j + 1))).shift (j + 1) n

def release (flow : FlowArrays) (i : Nat) (depth : UInt32) (elapsed now : UInt64) : FlowArrays :=
  let scalars :=
    { flow.scalars with
      haveAck := true
      inflightBytes := flow.scalars.inflightBytes - (flow.frameAt i).bytes }
  shift { flow with
    scalars := scalars.pace depth elapsed now
    count := flow.count - 1
    count_le := Nat.le_trans (Nat.sub_le _ 1) flow.count_le } i (flow.count - 1 - i)

def hear (flow : FlowArrays) (depth : UInt32) (now : UInt64) : FlowArrays :=
  { flow with scalars := flow.scalars.heard depth now }

def ack (flow : FlowArrays) (id depth : UInt32) (now : UInt64) : Bool × UInt64 × FlowArrays :=
  if depth = FrameFlow.suspendDepth then
    (false, 0, { flow with scalars := FrameFlow.suspendedFlow, count := 0, count_le := Nat.zero_le _ })
  else
    let flow := flow.hear depth now
    match flow.findId id 0 flow.count with
    | none => (false, 0, flow)
    | some i =>
      let elapsed := now - (flow.frameAt i).sentAt
      (true, elapsed, flow.release i depth elapsed now)

-- ---------------------------------------------------------------------------
-- The arrays as a list
-- ---------------------------------------------------------------------------

def frames (flow : FlowArrays) : List FlowFrame := (List.range flow.count).map flow.frameAt

theorem length_frames (flow : FlowArrays) : flow.frames.length = flow.count := by simp [frames]

theorem frameAt_put (flow : FlowArrays) (i k : Nat) (frame : FlowFrame) (hi : i < frameFlowLimit) :
    (flow.put i frame).frameAt k = if k = i then frame else flow.frameAt k := by
  by_cases hk : k = i
  · subst hk
    simp [frameAt, put, hi]
  · simp [frameAt, put, hk, Ne.symm hk]

theorem frames_track (flow : FlowArrays) (frame : FlowFrame) (room : flow.count < frameFlowLimit) :
    (flow.track frame room).frames = flow.frames ++ [frame] := by
  have hframeAt (k : Nat) :
      (flow.track frame room).frameAt k = if k = flow.count then frame else flow.frameAt k :=
    flow.frameAt_put flow.count k frame room
  have hcount : (flow.track frame room).count = flow.count + 1 := rfl
  simp only [frames, hcount, List.range_succ, List.map_append, List.map_singleton, hframeAt, if_true]
  congr 1
  refine List.map_congr_left fun k hk => ?_
  rw [hframeAt, if_neg (Nat.ne_of_lt (List.mem_range.mp hk))]

theorem frameAt_shift (flow : FlowArrays) (hn : j + n < frameFlowLimit) (k : Nat) :
    (flow.shift j n).frameAt k =
      if j ≤ k ∧ k < j + n then flow.frameAt (k + 1) else flow.frameAt k := by
  induction n generalizing flow j with
  | zero => rw [shift, if_neg (by omega)]
  | succ n ih =>
    rw [shift, ih _ (by omega)]
    simp only [frameAt_put flow j _ _ (Nat.lt_of_le_of_lt (Nat.le_add_right j _) hn)]
    by_cases hk : k = j
    · subst hk
      rw [if_neg (by omega), if_pos rfl, if_pos (by omega)]
    · by_cases hlow : j ≤ k ∧ k < j + (n + 1)
      · rw [if_pos (by omega), if_pos hlow, if_neg (by omega)]
      · rw [if_neg (by omega), if_neg hlow, if_neg hk]

@[simp] theorem count_shift (flow : FlowArrays) (j n : Nat) : (flow.shift j n).count = flow.count := by
  induction n generalizing flow j with
  | zero => rfl
  | succ n ih => exact ih _ _

@[simp] theorem scalars_shift (flow : FlowArrays) (j n : Nat) :
    (flow.shift j n).scalars = flow.scalars := by
  induction n generalizing flow j with
  | zero => rfl
  | succ n ih => exact ih _ _

theorem findId_eq (flow : FlowArrays) (id : UInt32) (i n : Nat) :
    flow.findId id i n =
      (((List.range' i n).map flow.frameAt).findIdx? fun frame => frame.id = id).map (i + ·) := by
  induction n generalizing i with
  | zero => rfl
  | succ n ih =>
    rw [findId, List.range'_succ, List.map_cons, List.findIdx?_cons]
    by_cases hid : (flow.frameAt i).id = id
    · simp [hid]
    · simp only [hid, if_false, decide_false, Bool.false_eq_true, ih, Option.map_map]
      congr 1
      funext k
      simp only [Function.comp_apply]
      omega

theorem frames_release (flow : FlowArrays) (hi : i < flow.count) :
    (flow.release i depth elapsed now).frames = flow.frames.eraseIdx i := by
  have hcount := flow.count_le
  simp only [frames, release, count_shift]
  refine List.ext_getElem ?_ fun k hk _ => ?_
  · simp only [List.length_map, List.length_range, List.length_eraseIdx, hi, if_true]
  · rw [List.length_map, List.length_range] at hk
    rw [List.getElem_map, List.getElem_range, frameAt_shift _ (by omega), List.getElem_eraseIdx]
    by_cases hlow : k < i
    · rw [if_neg (by omega), dif_pos hlow]
      simp [frameAt]
    · rw [if_pos (by omega), dif_neg hlow]
      simp [frameAt]

end FlowArrays

namespace FrameFlow

-- ---------------------------------------------------------------------------
-- Pacing does not look at the frames
-- ---------------------------------------------------------------------------

def carry (flow : FrameFlow) (frames : List FlowFrame) (inflightBytes : UInt32)
    (frames_le : frames.length ≤ frameFlowLimit) : FrameFlow :=
  { flow with frames, inflightBytes, frames_le }

variable {frames : List FlowFrame} {frames_le : frames.length ≤ frameFlowLimit}

theorem carry_ite (condition : Prop) [Decidable condition] (yes no : FrameFlow)
    (inflightBytes : UInt32) :
    (if condition then yes else no).carry frames inflightBytes frames_le =
      if condition then yes.carry frames inflightBytes frames_le
      else no.carry frames inflightBytes frames_le :=
  apply_ite (fun flow : FrameFlow => flow.carry frames inflightBytes frames_le) condition yes no

theorem slow_carry (flow : FrameFlow) (inflightBytes : UInt32) (now : UInt64) :
    (flow.carry frames inflightBytes frames_le).slow now =
      (flow.slow now).carry frames inflightBytes frames_le := by
  simp only [slow, carry_ite]
  rfl

theorem sendCost_carry (flow : FrameFlow) (inflightBytes : UInt32) (costMs now : UInt64) :
    (flow.carry frames inflightBytes frames_le).sendCost costMs now =
      (flow.sendCost costMs now).carry frames inflightBytes frames_le := by
  simp only [sendCost, slow_carry, carry_ite]
  rfl

theorem heard_carry (flow : FrameFlow) (inflightBytes depth : UInt32) (now : UInt64) :
    (flow.carry frames inflightBytes frames_le).heard depth now =
      (flow.heard depth now).carry frames inflightBytes frames_le := by
  simp only [heard, ← slow_carry, carry_ite]
  rfl

theorem pace_carry (flow : FrameFlow) (inflightBytes depth : UInt32) (elapsed now : UInt64) :
    (flow.carry frames inflightBytes frames_le).pace depth elapsed now =
      (flow.pace depth elapsed now).carry frames inflightBytes frames_le := by
  simp only [pace, slow_carry, carry_ite]
  rfl

end FrameFlow

namespace FlowArrays

-- ---------------------------------------------------------------------------
-- Refinement
-- ---------------------------------------------------------------------------

def abs (flow : FlowArrays) : FrameFlow :=
  flow.scalars.carry flow.frames flow.scalars.inflightBytes (by
    rw [length_frames]
    exact flow.count_le)

@[simp] theorem suspended_abs (flow : FlowArrays) : flow.abs.suspended = flow.scalars.suspended := rfl

@[simp] theorem inflightBytes_abs (flow : FlowArrays) :
    flow.abs.inflightBytes = flow.scalars.inflightBytes := rfl

@[simp] theorem frames_abs (flow : FlowArrays) : flow.abs.frames = flow.frames := rfl

@[simp] theorem count_abs (flow : FlowArrays) : flow.abs.count = flow.count := flow.length_frames

@[simp] theorem blocked_abs (flow : FlowArrays) : flow.abs.blocked = flow.blocked := by
  simp only [FrameFlow.blocked, blocked, suspended_abs, count_abs]

theorem abs_track (flow : FlowArrays) (frame : FlowFrame) (room : flow.count < frameFlowLimit) :
    (flow.track frame room).abs = flow.abs.track frame (flow.count_abs ▸ room) := by
  simp only [abs, FrameFlow.track, FrameFlow.carry, frames_track]
  rfl

theorem abs_sentSized (flow : FlowArrays) (id bytes : UInt32) (now : UInt64) :
    flow.abs.sentSized id bytes now =
      ((flow.sentSized id bytes now).1, (flow.sentSized id bytes now).2.abs) := by
  unfold FrameFlow.sentSized sentSized
  simp only [suspended_abs, blocked_abs, count_abs, inflightBytes_abs]
  split
  · rfl
  · split
    · rfl
    · split
      · rfl
      · rw [abs_track]

theorem abs_sentKeyframeSized (flow : FlowArrays) (id bytes : UInt32) (now : UInt64) :
    flow.abs.sentKeyframeSized id bytes now =
      ((flow.sentKeyframeSized id bytes now).1, (flow.sentKeyframeSized id bytes now).2.abs) := by
  unfold FrameFlow.sentKeyframeSized sentKeyframeSized
  simp only [suspended_abs, blocked_abs]
  split
  · rfl
  · split
    · rfl
    · rw [abs_track]

theorem abs_sendCost (flow : FlowArrays) (costMs now : UInt64) :
    (flow.sendCost costMs now).abs = flow.abs.sendCost costMs now := by
  rw [abs, abs, FrameFlow.sendCost_carry]
  simp only [sendCost, (flow.scalars.paced_sendCost costMs now).inflightBytes]
  rfl

theorem abs_hear (flow : FlowArrays) (depth : UInt32) (now : UInt64) :
    (flow.hear depth now).abs = flow.abs.heard depth now := by
  rw [abs, abs, FrameFlow.heard_carry]
  simp only [hear, (flow.scalars.paced_heard depth now).inflightBytes]
  rfl

theorem findId_frames (flow : FlowArrays) (id : UInt32) :
    flow.findId id 0 flow.count = flow.frames.findIdx? fun frame => frame.id = id := by
  rw [findId_eq, ← List.range_eq_range', frames]
  simp

theorem abs_release (flow : FlowArrays) (id : UInt32)
    (hfound : flow.frames.findIdx? (fun frame => frame.id = id) = some i) :
    (flow.release i depth elapsed now).abs =
      (FrameFlow.pace { flow.abs with haveAck := true } depth elapsed now).release id
        (flow.frameAt i).bytes := by
  have hi : i < flow.count := by
    have hlt := (List.findIdx?_eq_some_iff_getElem.mp hfound).1
    rwa [length_frames] at hlt
  have herase : flow.frames.eraseIdx i = flow.frames.eraseP fun frame => frame.id = id := by
    rw [List.eraseP_eq_eraseIdx, hfound]
  -- Both sides are the paced scalars with the shorter list and the smaller sum.
  have hleft := @FrameFlow.pace_carry flow.scalars.frames flow.scalars.frames_le
    { flow.scalars with haveAck := true }
    (flow.scalars.inflightBytes - (flow.frameAt i).bytes) depth elapsed now
  have hright := @FrameFlow.pace_carry flow.frames flow.abs.frames_le
    { flow.scalars with haveAck := true } flow.scalars.inflightBytes depth elapsed now
  have hscalars : (flow.release i depth elapsed now).scalars = _ := (scalars_shift _ _ _).trans hleft
  have habs : FrameFlow.pace { flow.abs with haveAck := true } depth elapsed now = _ := hright
  rw [habs]
  simp only [abs, hscalars, frames_release flow hi, FrameFlow.release, FrameFlow.carry, herase]

theorem abs_ack (flow : FlowArrays) (id depth : UInt32) (now : UInt64) :
    flow.abs.ack id depth now =
      ((flow.ack id depth now).1, (flow.ack id depth now).2.1, (flow.ack id depth now).2.2.abs) := by
  unfold FrameFlow.ack ack
  split
  · rfl
  · rw [← abs_hear]
    generalize flow.hear depth now = heard
    have hfind : heard.abs.frames.find? (fun frame => frame.id = id) =
        (heard.findId id 0 heard.count).bind fun i => heard.frames[i]? := by
      rw [findId_frames, frames_abs, List.find?_eq_bind_findIdx?_getElem?]
    simp only [hfind]
    cases hfound : heard.findId id 0 heard.count with
    | none => rfl
    | some i =>
      rw [findId_frames] at hfound
      have hlt := (List.findIdx?_eq_some_iff_getElem.mp hfound).1
      have hframe : heard.frames[i]? = some (heard.frameAt i) := by
        rw [length_frames] at hlt
        simp [frames, hlt]
      simp only [Option.bind_some, hframe, abs_release heard id hfound]

end FlowArrays

end NanokvmRdp.Gateway
