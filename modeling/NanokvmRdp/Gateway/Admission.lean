import Mathlib.Algebra.Order.BigOperators.Group.List
import Mathlib.Algebra.Order.Ring.Nat
import NanokvmRdp.Gateway.FlowLedger

/-!
# Admission and registration

`client_accept_avc_frame` asks `frame_flow_avc_admit` whether a frame may be
sent, and registers it after it was submitted; only acknowledgements come in
between. Acknowledgements take frames out of the flow and add none, so a frame
that was admitted still has its place, as long as the sizes in flight do not
wrap the 32-bit sum.
-/

namespace NanokvmRdp.Gateway

structure FlowAck where
  id : UInt32
  depth : UInt32
  now : UInt64
  deriving DecidableEq, Repr

-- ---------------------------------------------------------------------------
-- Admission on the arrays
-- ---------------------------------------------------------------------------

namespace FlowArrays

def ready (flow : FlowArrays) (bytes : UInt32) (now : UInt64) : Bool :=
  if flow.scalars.suspended || flow.count == 0 then true
  else if flow.blocked then false
  else if flow.scalars.inflightBytes + bytes > frameFlowMaxInflightBytes then false
  else !flow.scalars.staleAck now

def readyKeyframe (flow : FlowArrays) (now : UInt64) : Bool :=
  if flow.scalars.suspended || flow.count == 0 then true
  else if flow.blocked then false
  else !flow.scalars.staleAck now

def avcAdmit (flow : FlowArrays) (bytes : UInt32) (idr : Bool) (now waitStartedAt : UInt64) :
    FrameFlowAvcAdmission :=
  if waitStartedAt ≠ 0 ∧ now - waitStartedAt ≥ frameFlowAvcWaitMs then .resync
  else if (if idr then flow.readyKeyframe now else flow.ready bytes now) then .send
  else .wait

def register (flow : FlowArrays) (idr : Bool) (id bytes : UInt32) (now : UInt64) :
    Bool × FlowArrays :=
  if idr then flow.sentKeyframeSized id bytes now else flow.sentSized id bytes now

def acks (flow : FlowArrays) (calls : List FlowAck) : FlowArrays :=
  calls.foldl (fun flow call => (flow.ack call.id call.depth call.now).2.2) flow

def load (flow : FlowArrays) : Nat := (flow.frames.map fun frame => frame.bytes.toNat).sum

end FlowArrays

namespace FrameFlow

def register (flow : FrameFlow) (idr : Bool) (id bytes : UInt32) (now : UInt64) : Bool × FrameFlow :=
  if idr then flow.sentKeyframeSized id bytes now else flow.sentSized id bytes now

def load (flow : FrameFlow) : Nat := (flow.frames.map fun frame => frame.bytes.toNat).sum

end FrameFlow

namespace FlowArrays

theorem abs_avcAdmit (flow : FlowArrays) (bytes : UInt32) (idr : Bool) (now waitStartedAt : UInt64) :
    flow.abs.avcAdmit bytes idr now waitStartedAt = flow.avcAdmit bytes idr now waitStartedAt := by
  simp only [FrameFlow.avcAdmit, FrameFlow.ready, FrameFlow.readyKeyframe, count_abs, blocked_abs]
  rfl

theorem abs_register (flow : FlowArrays) (idr : Bool) (id bytes : UInt32) (now : UInt64) :
    flow.abs.register idr id bytes now =
      ((flow.register idr id bytes now).1, (flow.register idr id bytes now).2.abs) := by
  cases idr with
  | false => exact flow.abs_sentSized id bytes now
  | true => exact flow.abs_sentKeyframeSized id bytes now

end FlowArrays

-- ---------------------------------------------------------------------------
-- Acknowledgements leave room
-- ---------------------------------------------------------------------------

namespace FrameFlow

theorem Balanced.toNat_inflightBytes {flow : FrameFlow} (h : flow.Balanced) (hload : flow.load < 2 ^ 32) :
    flow.inflightBytes.toNat = flow.load := by
  have hsum := toNat_sum (flow.frames.map FlowFrame.bytes)
  rw [List.map_map] at hsum
  rw [h.accounted, hsum]
  exact Nat.mod_eq_of_lt hload

theorem load_le_of_sublist {before after : FrameFlow} (h : after.frames.Sublist before.frames) :
    after.load ≤ before.load :=
  (h.map fun frame : FlowFrame => frame.bytes.toNat).sum_le_sum fun _ _ => Nat.zero_le _

theorem frames_ack_sublist {flow : FrameFlow} (h : flow.Balanced) (id depth : UInt32) (now : UInt64) :
    (flow.ack id depth now).2.2.frames.Sublist flow.frames := by
  by_cases hdepth : depth = suspendDepth
  · rw [ack, if_pos hdepth]
    exact List.nil_sublist _
  · rw [(flow.ack_fields id now hdepth h.accounted).2.1]
    exact List.eraseP_sublist

/-- What an admission answers for: the flow is empty, or has a place and, for
other frames than IDRs, the bytes. -/
theorem room_of_send {flow : FrameFlow} (h : flow.Balanced)
    (hsend : flow.avcAdmit bytes idr now waitStartedAt = .send) :
    flow.frames = [] ∨ flow.count < frameFlowLimit ∧
      (idr = false → flow.inflightBytes + bytes ≤ frameFlowMaxInflightBytes) := by
  by_cases hidle : flow.suspended = true ∨ flow.count = 0
  · refine .inl (hidle.elim h.suspended fun hcount => ?_)
    exact List.eq_nil_of_length_eq_zero hcount
  · have hready : (if idr then flow.readyKeyframe now else flow.ready bytes now) = true := by
      unfold avcAdmit at hsend
      generalize (if idr then flow.readyKeyframe now else flow.ready bytes now) = ready at hsend ⊢
      cases ready with
      | true => rfl
      | false => split at hsend <;> cases hsend
    have hactive : ¬ flow.suspended = true := fun hsuspended => hidle (.inl hsuspended)
    have hguard : ¬ ((flow.suspended || flow.count == 0) = true) := by simpa using hidle
    refine .inr ⟨?_, fun hidr => ?_⟩
    · refine count_lt_of_not_blocked hactive fun hblocked => ?_
      simp [readyKeyframe, ready, hguard, hblocked] at hready
    · subst hidr
      by_contra hfull
      have hblocked : flow.inflightBytes + bytes > frameFlowMaxInflightBytes := UInt32.not_le.mp hfull
      simp [ready, hguard, hblocked] at hready

theorem enters_register (flow : FrameFlow) (idr : Bool) (id bytes : UInt32) (now : UInt64) :
    Enters flow ⟨id, bytes, now⟩ (flow.register idr id bytes now) := by
  cases idr with
  | false => exact flow.enters_sentSized id bytes now
  | true => exact flow.enters_sentKeyframeSized id bytes now

theorem register_of_room {flow : FrameFlow} (hplace : flow.count < frameFlowLimit)
    (hbytes : idr = false → flow.count ≠ 0 → flow.inflightBytes + bytes ≤ frameFlowMaxInflightBytes)
    (id : UInt32) (now : UInt64) : (flow.register idr id bytes now).1 = true := by
  have hblocked : ¬ flow.blocked = true := by simp [blocked, Nat.ne_of_lt hplace]
  cases idr with
  | true =>
    simp only [register, if_true, sentKeyframeSized, hblocked]
    split <;> rfl
  | false =>
    have hfits : ¬ (flow.count ≠ 0 ∧ flow.inflightBytes + bytes > frameFlowMaxInflightBytes) :=
      fun hover => UInt32.not_le.mpr hover.2 (hbytes rfl hover.1)
    simp only [register, Bool.false_eq_true, if_false, sentSized, hblocked, hfits]
    split <;> rfl

theorem fits_of_sublist {before after : FrameFlow} (hbefore : before.Balanced) (hafter : after.Balanced)
    (hsublist : after.frames.Sublist before.frames) (hload : before.load + bytes.toNat < 2 ^ 32)
    (hfits : before.inflightBytes + bytes ≤ frameFlowMaxInflightBytes) :
    after.inflightBytes + bytes ≤ frameFlowMaxInflightBytes := by
  have hle := load_le_of_sublist hsublist
  have hb := hbefore.toNat_inflightBytes (by omega)
  have ha := hafter.toNat_inflightBytes (by omega)
  rw [UInt32.le_iff_toNat_le, UInt32.toNat_add] at hfits ⊢
  rw [ha, Nat.mod_eq_of_lt (by omega)]
  rw [hb, Nat.mod_eq_of_lt hload] at hfits
  omega

theorem registers_of_send {before after : FrameFlow} (hbefore : before.Balanced)
    (hafter : after.Balanced) (hsublist : after.frames.Sublist before.frames)
    (hload : before.load + bytes.toNat < 2 ^ 32)
    (hsend : before.avcAdmit bytes idr now waitStartedAt = .send) (id : UInt32) (sentAt : UInt64) :
    (after.register idr id bytes sentAt).1 = true := by
  have hcount : after.count ≤ before.count := hsublist.length_le
  rcases room_of_send hbefore hsend with hempty | ⟨hplace, hbytes⟩
  · have hzero : before.count = 0 := by rw [count, hempty, List.length_nil]
    refine register_of_room (by rw [frameFlowLimit]; omega) (fun _ hne => ?_) id sentAt
    omega
  · refine register_of_room (by omega) (fun hidr _ => ?_) id sentAt
    exact fits_of_sublist hbefore hafter hsublist hload (hbytes hidr)

theorem inflightBytes_sentSized {flow : FrameFlow} (id bytes : UInt32) (now : UInt64)
    (hactive : flow.suspended = false)
    (hcount : flow.count ≠ 0) (h : (flow.sentSized id bytes now).1 = true) :
    (flow.sentSized id bytes now).2.inflightBytes ≤ frameFlowMaxInflightBytes := by
  unfold sentSized at h ⊢
  rw [dif_neg (by simp [hactive])] at h ⊢
  split at h
  · cases h
  · split at h
    · cases h
    · rename_i hblocked hfits
      rw [dif_neg hblocked, if_neg hfits]
      exact UInt32.not_lt.mp fun hfull => hfits ⟨hcount, hfull⟩

end FrameFlow

-- ---------------------------------------------------------------------------
-- The states reached
-- ---------------------------------------------------------------------------

namespace FlowArrays

theorem acks_shrinks (calls : List FlowAck) {flow : FlowArrays} (h : flow.abs.Balanced) :
    (flow.acks calls).abs.Balanced ∧ (flow.acks calls).abs.frames.Sublist flow.abs.frames := by
  induction calls generalizing flow with
  | nil => exact ⟨h, .refl _⟩
  | cons call calls ih =>
    have hack : (flow.ack call.id call.depth call.now).2.2.abs =
        (flow.abs.ack call.id call.depth call.now).2.2 :=
      (congrArg (fun result => result.2.2) (flow.abs_ack call.id call.depth call.now)).symm
    have hbalanced := h.ack call.id call.depth call.now
    have hsublist := FrameFlow.frames_ack_sublist h call.id call.depth call.now
    rw [← hack] at hbalanced hsublist
    obtain ⟨hafter, hshrunk⟩ := ih hbalanced
    exact ⟨hafter, hshrunk.trans hsublist⟩

end FlowArrays

namespace FlowRun

open FlowArrays

/-- A frame that was admitted is registered, whatever acknowledgements come
first, while the sizes in flight and its own stay below `2 ^ 32`. -/
theorem admitted_frame_registers (calls : List FlowCall) (bytes : UInt32) (idr : Bool)
    (now waitStartedAt : UInt64) (answers : List FlowAck) (id : UInt32) (sentAt : UInt64)
    (hload : (run calls).flow.load + bytes.toNat < 2 ^ 32)
    (hsend : (run calls).flow.avcAdmit bytes idr now waitStartedAt = .send) :
    let before := (run calls).flow.acks answers
    let result := before.register idr id bytes sentAt
    result.1 = true ∧
      (before.scalars.suspended = false →
        result.2.frames = before.frames ++ [⟨id, bytes, sentAt⟩] ∧ result.2.count ≤ frameFlowLimit) ∧
      (idr = false → before.count ≠ 0 →
        result.2.scalars.inflightBytes ≤ frameFlowMaxInflightBytes) := by
  intro before result
  have hbalanced := (sound_run calls).balanced
  obtain ⟨hafter, hsublist⟩ := acks_shrinks answers hbalanced
  rw [← abs_avcAdmit] at hsend
  have hresult := before.abs_register idr id bytes sentAt
  have htrue : result.1 = true := by
    have h := FrameFlow.registers_of_send hbalanced hafter hsublist hload hsend id sentAt
    rwa [hresult] at h
  refine ⟨htrue, fun hactive => ⟨?_, result.2.count_le⟩, fun hidr hcount => ?_⟩
  · have henters := before.abs.enters_register idr id bytes sentAt
    rw [hresult] at henters
    change FrameFlow.Enters before.abs _ (result.1, result.2.abs) at henters
    rw [htrue] at henters
    rw [← frames_abs, ← frames_abs]
    generalize result.2.abs = after at henters
    cases henters with
    | suspended hsuspended =>
      rw [suspended_abs, hactive] at hsuspended
      cases hsuspended
    | tracked => rfl
  · subst hidr
    have hactive : before.abs.suspended = false := by
      refine Bool.eq_false_of_not_eq_true fun hsuspended => hcount ?_
      rw [← count_abs, FrameFlow.count, hafter.suspended hsuspended, List.length_nil]
    have hbound := FrameFlow.inflightBytes_sentSized id bytes sentAt hactive (by rwa [count_abs])
    change (before.abs.register false id bytes sentAt).1 = true →
      (before.abs.register false id bytes sentAt).2.inflightBytes ≤ _ at hbound
    rw [hresult] at hbound
    exact hbound htrue

theorem frame_registers_behind_idr :
    let flow := (run [.sent 1 1, .sentKeyframeSized 2 300 2]).flow
    flow.load + 100 < 2 ^ 32 ∧ flow.avcAdmit 100 false 3 0 = .send ∧
      ((flow.acks [⟨1, 0, 4⟩]).register false 3 100 5).1 = true :=
  ⟨by decide, by decide,
    (admitted_frame_registers [.sent 1 1, .sentKeyframeSized 2 300 2] 100 false 3 0 [⟨1, 0, 4⟩] 3 5
      (by decide) (by decide)).1⟩

/-- Two IDRs of `2 ^ 31` bytes sum to zero in 32 bits. A P-frame is admitted
behind them, and refused after the acknowledgement of the first. -/
theorem wrapped_load_refuses :
    let flow := (run [.sentKeyframeSized 1 0x80000000 1, .sentKeyframeSized 2 0x80000000 2]).flow
    flow.scalars.inflightBytes.toNat + 100 < 2 ^ 32 ∧ flow.avcAdmit 100 false 3 0 = .send ∧
      ((flow.acks [⟨1, 0, 4⟩]).register false 3 100 5).1 = false := by
  decide

end FlowRun

end NanokvmRdp.Gateway
