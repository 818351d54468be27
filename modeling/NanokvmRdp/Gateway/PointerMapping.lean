import NanokvmRdp.Agent.Control
import NanokvmRdp.Gateway.HttpPointer
import NanokvmRdp.Hid.Held
import NanokvmRdp.Hid.RelativeMotion

/-!
# From a pixel to the host

A coordinate of the frame is mapped to the desktop by `map_pointer`, clamped to
it by the router, carried in a message, and scaled to the range of the
descriptor by `hid_scale_absolute`. Each of these keeps the order and the two
edges, and none of them computes a number that its type cannot hold.
-/

namespace NanokvmRdp.Gateway

open Hid Protocol

-- ---------------------------------------------------------------------------
-- The exact numbers
-- ---------------------------------------------------------------------------

/-- `map_pointer` on one axis, in numbers without bound. -/
def mapExact (frame desktop x : Nat) : Nat := min x (frame - 1) * (desktop - 1) / (frame - 1)

def scaleExact (value dimension : Nat) : Nat := max 1 (value * 0x7fff / (dimension - 1))

theorem mapExact_le (frame desktop x : Nat) : mapExact frame desktop x ≤ desktop - 1 := by
  unfold mapExact
  calc min x (frame - 1) * (desktop - 1) / (frame - 1)
    _ ≤ (frame - 1) * (desktop - 1) / (frame - 1) :=
      Nat.div_le_div_right (Nat.mul_le_mul_right _ (Nat.min_le_right _ _))
    _ ≤ desktop - 1 := Nat.div_le_of_le_mul (Nat.le_refl _)

theorem mapExact_mono (frame desktop : Nat) (h : x ≤ x') :
    mapExact frame desktop x ≤ mapExact frame desktop x' := by
  refine Nat.div_le_div_right (Nat.mul_le_mul_right _ ?_)
  omega

theorem mapExact_zero (frame desktop : Nat) : mapExact frame desktop 0 = 0 := by
  rw [mapExact, Nat.zero_min, Nat.zero_mul, Nat.zero_div]

theorem mapExact_edge {frame x : Nat} (h : 2 ≤ frame) (desktop : Nat) (hx : frame - 1 ≤ x) :
    mapExact frame desktop x = desktop - 1 := by
  rw [mapExact, Nat.min_eq_right hx]
  exact Nat.mul_div_cancel_left _ (by omega)

theorem scaleExact_mono (dimension : Nat) (h : value ≤ value') :
    scaleExact value dimension ≤ scaleExact value' dimension := by
  have hdiv : value * 0x7fff / (dimension - 1) ≤ value' * 0x7fff / (dimension - 1) :=
    Nat.div_le_div_right (Nat.mul_le_mul_right _ h)
  unfold scaleExact
  omega

theorem scaleExact_range (hvalue : value ≤ dimension - 1) :
    1 ≤ scaleExact value dimension ∧ scaleExact value dimension ≤ 0x7fff := by
  have hdiv : value * 0x7fff / (dimension - 1) ≤ 0x7fff :=
    Nat.div_le_of_le_mul (Nat.mul_le_mul_right _ hvalue)
  unfold scaleExact
  omega

theorem scaleExact_zero (dimension : Nat) : scaleExact 0 dimension = 1 := by
  rw [scaleExact, Nat.zero_mul, Nat.zero_div]
  rfl

theorem scaleExact_edge (h : 2 ≤ dimension) : scaleExact (dimension - 1) dimension = 0x7fff := by
  rw [scaleExact, Nat.mul_div_cancel_left _ (by omega)]
  rfl

-- ---------------------------------------------------------------------------
-- The numbers of the source
-- ---------------------------------------------------------------------------

theorem toInt_long (size : UInt16) : (long size).toInt = size.toNat :=
  Int64.toInt_ofNat_of_lt (Nat.lt_trans size.toNat_lt (by decide))

theorem toInt_long_sub_one {size : UInt16} (h : 2 ≤ size.toNat) :
    (long size - 1).toInt = (size.toNat - 1 : Nat) := by
  have hsize := size.toNat_lt
  rw [Int64.toInt_sub, toInt_long, Int64.toInt_one]
  exact (Int.bmod_eq_of_le (by omega) (by omega)).trans (by omega)

theorem toInt_clampSource {source : UInt16} (h : 2 ≤ source.toNat) {x : Int64} {n : Nat}
    (hx : x.toInt = n) : (clampSource source x).toInt = (min n (source.toNat - 1) : Nat) := by
  have hsource : source > 1 := UInt16.lt_iff_toNat_lt.mpr h
  have hnonneg : ¬ x < 0 := by
    rw [Int64.lt_iff_toInt_lt, hx]
    exact Int.not_lt.mpr (Int.natCast_nonneg n)
  have hge : x ≥ long source ↔ source.toNat ≤ n := by
    rw [ge_iff_le, Int64.le_iff_toInt_le, toInt_long, hx]
    omega
  simp only [clampSource, if_neg hnonneg, hge, hsource, true_and]
  split
  · rename_i hout
    rw [toInt_long_sub_one h]
    omega
  · rw [hx]
    omega

theorem toNat_toUInt64_of_toInt {x : Int64} {n : Nat} (h : x.toInt = n) : x.toUInt64.toNat = n := by
  have hnonneg : 0 ≤ x := by
    rw [Int64.le_iff_toInt_le, h]
    exact Int.natCast_nonneg n
  rw [Int64.toNat_toUInt64_of_le hnonneg, ← Int64.toNat_toInt, h, Int.toNat_natCast]

structure MapExact (frame desktop : UInt16) (x : Int64) (n : Nat) : Prop where
  clamped : (clampSource frame x).toInt = (min n (frame.toNat - 1) : Nat)
  product : (clampSource frame x * (long desktop - 1)).toInt =
    (clampSource frame x).toInt * (long desktop - 1).toInt
  quotient : (clampSource frame x * (long desktop - 1) / (long frame - 1)).toInt =
    (mapExact frame.toNat desktop.toNat n : Nat)
  mapped : (mapAxis frame desktop x).toNat = mapExact frame.toNat desktop.toNat n

theorem mapAxis_exact {frame desktop : UInt16} (hframe : 2 ≤ frame.toNat)
    (hdesktop : 2 ≤ desktop.toNat) {x : Int64} {n : Nat} (hx : x.toInt = n) :
    MapExact frame desktop x n := by
  have hclamped := toInt_clampSource hframe hx
  have hd := toInt_long_sub_one hdesktop
  have hf := toInt_long_sub_one hframe
  have hbound : min n (frame.toNat - 1) * (desktop.toNat - 1) ≤ 65534 * 65534 :=
    Nat.mul_le_mul (by have := frame.toNat_lt; omega) (by have := desktop.toNat_lt; omega)
  have hproduct : (clampSource frame x * (long desktop - 1)).toInt =
      (min n (frame.toNat - 1) * (desktop.toNat - 1) : Nat) := by
    rw [Int64.toInt_mul, hclamped, hd, ← Int.natCast_mul]
    exact Int.bmod_eq_of_le (by omega) (by omega)
  have hquotient : (clampSource frame x * (long desktop - 1) / (long frame - 1)).toInt =
      (mapExact frame.toNat desktop.toNat n : Nat) := by
    rw [Int64.toInt_div_of_ne_right, hproduct, hf]
    · rfl
    · intro hminus
      rw [hminus] at hf
      have hneg : (-1 : Int64).toInt = -1 := rfl
      omega
  refine ⟨hclamped, ?_, hquotient, ?_⟩
  · rw [hproduct, hclamped, hd, Int.natCast_mul]
  · have hsource : frame ≠ 0 := by
      rintro rfl
      exact absurd hframe (by decide)
    have hwide : ¬ (frame ≤ 1 ∨ desktop ≤ 1) := by
      simp only [UInt16.le_iff_toNat_le, UInt16.reduceToNat]
      omega
    have hle := mapExact_le frame.toNat desktop.toNat n
    have hlt := desktop.toNat_lt
    simp only [mapAxis, if_pos hsource, if_neg hwide]
    rw [UInt64.toNat_toUInt16, toNat_toUInt64_of_toInt hquotient]
    exact Nat.mod_eq_of_lt (by omega)

structure ScaleExact (value : UInt16) (dimension : UInt32) : Prop where
  product : (value.toUInt32 * 0x7fff).toNat = value.toNat * 0x7fff
  scaled : (hidScaleAbsolute value dimension).toNat = scaleExact value.toNat dimension.toNat

theorem hidScaleAbsolute_exact {value : UInt16} {dimension : UInt32} (h : 2 ≤ dimension.toNat)
    (hvalue : value.toNat ≤ dimension.toNat - 1) : ScaleExact value dimension := by
  have hlt := value.toNat_lt
  have hproduct : (value.toUInt32 * 0x7fff).toNat = value.toNat * 0x7fff := by
    simp only [UInt32.toNat_mul, UInt16.toNat_toUInt32, UInt32.reduceToNat]
    exact Nat.mod_eq_of_lt (by omega)
  have hquotient : (value.toUInt32 * 0x7fff / (dimension - 1)).toNat =
      value.toNat * 0x7fff / (dimension.toNat - 1) := by
    have hone : 1 ≤ dimension := UInt32.le_iff_toNat_le.mpr (Nat.le_of_succ_le h)
    rw [UInt32.toNat_div, hproduct, UInt32.toNat_sub_of_le _ _ hone]
    rfl
  have hrange := scaleExact_range hvalue
  have hwide : ¬ dimension ≤ 1 := fun hle => by
    simp only [UInt32.le_iff_toNat_le, UInt32.reduceToNat] at hle
    omega
  refine ⟨hproduct, ?_⟩
  unfold scaleExact at hrange ⊢
  simp only [hidScaleAbsolute, if_neg hwide]
  generalize value.toUInt32 * 0x7fff / (dimension - 1) = scaled at hquotient ⊢
  rw [← hquotient] at hrange ⊢
  -- the quotient is at most 0x7fff, so only the lower limit can apply
  by_cases hzero : scaled < 1
  · rw [if_pos hzero]
    simp only [UInt32.lt_iff_toNat_lt, UInt32.reduceToNat] at hzero
    exact (Nat.max_eq_left (by omega)).symm
  · rw [if_neg hzero]
    simp only [UInt32.lt_iff_toNat_lt, UInt32.reduceToNat] at hzero
    have hsmall : ¬ scaled > 0x7fff := by
      simp only [gt_iff_lt, UInt32.lt_iff_toNat_lt, UInt32.reduceToNat]
      omega
    rw [if_neg hsmall, UInt32.toNat_toUInt16]
    omega

theorem toNat_hidClampAbsolute (value : UInt16) {dimension : UInt16} (h : 2 ≤ dimension.toNat) :
    (hidClampAbsolute value dimension).toNat = min value.toNat (dimension.toNat - 1) := by
  have hnonzero : dimension ≠ 0 := by
    rintro rfl
    exact absurd h (by decide)
  have hone : 1 ≤ dimension := UInt16.le_iff_toNat_le.mpr (Nat.le_of_succ_le h)
  rw [hidClampAbsolute, if_neg hnonzero]
  by_cases hinside : value < dimension
  · rw [if_pos hinside]
    rw [UInt16.lt_iff_toNat_lt] at hinside
    omega
  · have hlast : (dimension - 1).toNat = dimension.toNat - 1 := UInt16.toNat_sub_of_le _ _ hone
    rw [if_neg hinside, hlast]
    rw [UInt16.lt_iff_toNat_lt] at hinside
    omega

-- ---------------------------------------------------------------------------
-- The message
-- ---------------------------------------------------------------------------

def position (hid : HidState) : UInt16 × UInt16 := (hid.input.lastX, hid.input.lastY)

theorem position_of_input {hid hid' : HidState} (h : hid'.input = hid.input) :
    position hid' = position hid := by
  rw [position, h, position]

theorem position_sendAbsolute (hid : HidState) (motion : Bool) :
    position (hid.sendAbsolute motion).2 = position hid := by
  obtain ⟨hinput, -⟩ := hid.writeAbsoluteNow_log hid.input.absoluteReport
  unfold HidState.sendAbsolute
  simp only
  split
  · generalize hid.writeAbsoluteNow hid.input.absoluteReport = wrote at hinput ⊢
    obtain ⟨ok, mid⟩ := wrote
    have hsame : position mid = position hid := position_of_input hinput
    cases ok with
    | true => exact hsame
    | false => exact hsame
  · rfl

theorem position_hidAbsolute (hid : HidState) (x y : UInt16) (width height : UInt32)
    (flags : UInt16) :
    position (hid.hidAbsolute x y width height flags).2 =
      (hidScaleAbsolute x width, hidScaleAbsolute y height) := by
  unfold HidState.hidAbsolute
  refine onSuccess_leaves (P := fun hid' => position hid' = _) (position_sendAbsolute _ _) fun _ => ?_
  split
  · exact position_sendAbsolute _ _
  · exact (position_of_input (HidState.input_sendRelative ..)).trans (position_sendAbsolute _ _)

theorem position_absolutePointer (agent : Agent) (router : InputRouter) (x y flags : UInt16) :
    position (agent.dispatch (router.absolutePointer x y flags false).2).2.hid =
      (hidScaleAbsolute (hidClampAbsolute x router.width) router.width.toUInt32,
        hidScaleAbsolute (hidClampAbsolute y router.height) router.height.toUInt32) := by
  have hhandled : agent.dispatch (router.absolutePointer x y flags false).2 =
      agent.handlePointerAbs (router.absolutePointer x y flags false).2.payload := rfl
  have hpayload : (router.absolutePointer x y flags false).2.payload =
      protocolWriteU16 (hidClampAbsolute x router.width) ++
        protocolWriteU16 (hidClampAbsolute y router.height) ++
        protocolWriteU16 router.width ++ protocolWriteU16 router.height ++
        protocolWriteU16 flags ++ [0, 0] := rfl
  generalize hidClampAbsolute x router.width = cx at hpayload ⊢
  generalize hidClampAbsolute y router.height = cy at hpayload ⊢
  have hx := protocolReadU16_write cx (protocolWriteU16 cy ++ protocolWriteU16 router.width ++
    protocolWriteU16 router.height ++ protocolWriteU16 flags ++ [0, 0])
  have hy := protocolReadU16_write cy (protocolWriteU16 router.width ++
    protocolWriteU16 router.height ++ protocolWriteU16 flags ++ [0, 0])
  have hwidth := protocolReadU16_write router.width (protocolWriteU16 router.height ++
    protocolWriteU16 flags ++ [0, 0])
  have hheight := protocolReadU16_write router.height (protocolWriteU16 flags ++ [0, 0])
  rw [hhandled, hpayload, Agent.handlePointerAbs, if_pos (by simp), Agent.hid_outcome,
    position_hidAbsolute]
  exact congrArg₂ Prod.mk (congrArg₂ hidScaleAbsolute hx (congrArg UInt16.toUInt32 hwidth))
    (congrArg₂ hidScaleAbsolute hy (congrArg UInt16.toUInt32 hheight))

-- ---------------------------------------------------------------------------
-- The whole way
-- ---------------------------------------------------------------------------

/-- How an axis of `size` pixels is mapped to the range of the descriptor. -/
structure AxisMap (size : Nat) (f : Nat → UInt16) : Prop where
  range : ∀ v < 65536, 1 ≤ (f v).toNat ∧ (f v).toNat ≤ 0x7fff
  mono : ∀ v w, v ≤ w → w < 65536 → (f v).toNat ≤ (f w).toNat
  low : f 0 = 1
  high : ∀ v, size - 1 ≤ v → v < 65536 → f v = 0x7fff

theorem AxisMap.congr (h : AxisMap size f) (hsame : ∀ v < 65536, f' v = f v) : AxisMap size f' where
  range v hv := by
    rw [hsame v hv]
    exact h.range v hv
  mono v w hle hw := by
    rw [hsame v (Nat.lt_of_le_of_lt hle hw), hsame w hw]
    exact h.mono v w hle hw
  low := (hsame 0 (by decide)).trans h.low
  high v hv hsmall := (hsame v hsmall).trans (h.high v hv hsmall)

/-- No number on the way of a pixel to the host leaves its type. -/
theorem clamped_exact {desktop : UInt16} (h : 2 ≤ desktop.toNat) (value : UInt16) :
    ScaleExact (hidClampAbsolute value desktop) desktop.toUInt32 := by
  have hsize : desktop.toUInt32.toNat = desktop.toNat := UInt16.toNat_toUInt32 desktop
  refine hidScaleAbsolute_exact (hsize ▸ h) ?_
  rw [toNat_hidClampAbsolute value h, hsize]
  exact Nat.min_le_right _ _

theorem axisMap_of_pixels {desktop : UInt16} (h : 2 ≤ desktop.toNat) {g : Nat → UInt16}
    (hmono : ∀ v w, v ≤ w → w < 65536 → (g v).toNat ≤ (g w).toNat) (hlow : (g 0).toNat = 0)
    (hhigh : ∀ v, size - 1 ≤ v → v < 65536 → desktop.toNat - 1 ≤ (g v).toNat) :
    AxisMap size fun v => hidScaleAbsolute (hidClampAbsolute (g v) desktop) desktop.toUInt32 := by
  have hscaled (v : Nat) : (hidScaleAbsolute (hidClampAbsolute (g v) desktop) desktop.toUInt32).toNat =
      scaleExact (min (g v).toNat (desktop.toNat - 1)) desktop.toNat := by
    rw [(clamped_exact h (g v)).scaled, toNat_hidClampAbsolute (g v) h, UInt16.toNat_toUInt32]
  refine ⟨fun v _ => ?_, fun v w hle hw => ?_, ?_, fun v hv hsmall => ?_⟩
  · rw [hscaled]
    exact scaleExact_range (Nat.min_le_right _ _)
  · rw [hscaled, hscaled]
    have hg := hmono v w hle hw
    exact scaleExact_mono _ (by omega)
  · rw [← UInt16.toNat_inj, hscaled, hlow, Nat.zero_min, scaleExact_zero]
    rfl
  · rw [← UInt16.toNat_inj, hscaled, Nat.min_eq_right (hhigh v hv hsmall), scaleExact_edge h]
    rfl

theorem axisMap_frame {frame desktop : UInt16} (hframe : 2 ≤ frame.toNat)
    (hdesktop : 2 ≤ desktop.toNat) :
    AxisMap frame.toNat fun v => hidScaleAbsolute
      (hidClampAbsolute (mapAxis frame desktop (Int64.ofNat v)) desktop) desktop.toUInt32 := by
  have hmapped (v : Nat) (hv : v < 65536) : (mapAxis frame desktop (Int64.ofNat v)).toNat =
      mapExact frame.toNat desktop.toNat v :=
    (mapAxis_exact hframe hdesktop (Int64.toInt_ofNat_of_lt (Nat.lt_trans hv (by decide)))).mapped
  refine axisMap_of_pixels hdesktop (fun v w hle hw => ?_) ?_ fun v hv hsmall => ?_
  · rw [hmapped v (Nat.lt_of_le_of_lt hle hw), hmapped w hw]
    exact mapExact_mono _ _ hle
  · rw [hmapped 0 (by decide), mapExact_zero]
  · rw [hmapped v hsmall, mapExact_edge hframe _ hv]

theorem axisMap_desktop {desktop : UInt16} (h : 2 ≤ desktop.toNat) :
    AxisMap desktop.toNat fun v =>
      hidScaleAbsolute (hidClampAbsolute (UInt16.ofNat v) desktop) desktop.toUInt32 := by
  have hvalue (v : Nat) (hv : v < 65536) : (UInt16.ofNat v).toNat = v :=
    UInt16.toNat_ofNat_of_lt hv
  refine axisMap_of_pixels h (fun v w hle hw => ?_) rfl fun v hv hsmall => ?_
  · rw [hvalue v (Nat.lt_of_le_of_lt hle hw), hvalue w hw]
    exact hle
  · rw [hvalue v hsmall]
    exact hv

/-- The pointer after a request that names a pixel of the frame; an error leaves it where no
pixel is. -/
def mousePosition (agent : Agent) (frame : FrameSize) (router : InputRouter)
    (buttons : Option Int64) (down : Bool) (x y : Nat) : UInt16 × UInt16 :=
  let request := { x := some (Int64.ofNat x), y := some (Int64.ofNat y), buttons, down }
  match (handleMouse true frame router request).2.1 with
  | some message => position (agent.dispatch message).2.hid
  | none => (0, 0)

def rdpPosition (agent : Agent) (router : InputRouter) (flags : UInt16) (x y : Nat) : UInt16 × UInt16 :=
  position (agent.dispatch
    (router.absolutePointer (UInt16.ofNat x) (UInt16.ofNat y) flags false).2).2.hid

theorem not_outside (hv : v < 65536) : ¬ Int64.ofNat v < 0 ∧ ¬ Int64.ofNat v > 0xffff := by
  have hvalue : (Int64.ofNat v).toInt = v := Int64.toInt_ofNat_of_lt (Nat.lt_trans hv (by decide))
  have hzero : (0 : Int64).toInt = 0 := rfl
  have hlast : (0xffff : Int64).toInt = 0xffff := rfl
  rw [gt_iff_lt, Int64.lt_iff_toInt_lt, Int64.lt_iff_toInt_lt, hvalue, hzero, hlast]
  omega

theorem mousePosition_eq (agent : Agent) (frame : FrameSize) (router : InputRouter)
    (buttons : Option Int64) (down : Bool) (hx : x < 65536) (hy : y < 65536) :
    mousePosition agent frame router buttons down x y =
      (hidScaleAbsolute (hidClampAbsolute (mapAxis frame.width router.width (Int64.ofNat x))
          router.width) router.width.toUInt32,
        hidScaleAbsolute (hidClampAbsolute (mapAxis frame.height router.height (Int64.ofNat y))
          router.height) router.height.toUInt32) := by
  have hinside : ¬ (Int64.ofNat x < 0 ∨ Int64.ofNat y < 0 ∨ Int64.ofNat x > 0xffff ∨
      Int64.ofNat y > 0xffff) := by
    have hinx := not_outside hx
    have hiny := not_outside hy
    tauto
  rw [mousePosition, handleMouse]
  simp only [if_neg hinside]
  exact position_absolutePointer agent router _ _ _

/-- On each axis the way of a pixel to the host keeps the order, stays in the range of the
descriptor and reaches both of its ends, and no number on it leaves its type. -/
theorem pointer_mapping_monotone (agent : Agent) (frame : FrameSize) (router : InputRouter)
    (hfw : 2 ≤ frame.width.toNat) (hfh : 2 ≤ frame.height.toNat) (hrw : 2 ≤ router.width.toNat)
    (hrh : 2 ≤ router.height.toNat) :
    (∀ buttons down, ∀ other < 65536,
      AxisMap frame.width.toNat (fun v => (mousePosition agent frame router buttons down v other).1) ∧
      AxisMap frame.height.toNat
        (fun v => (mousePosition agent frame router buttons down other v).2)) ∧
    (∀ flags other,
      AxisMap router.width.toNat (fun v => (rdpPosition agent router flags v other).1) ∧
      AxisMap router.height.toNat (fun v => (rdpPosition agent router flags other v).2)) ∧
    (∀ v < 65536, MapExact frame.width router.width (Int64.ofNat v) v ∧
      MapExact frame.height router.height (Int64.ofNat v) v) ∧
    ∀ value, ScaleExact (hidClampAbsolute value router.width) router.width.toUInt32 ∧
      ScaleExact (hidClampAbsolute value router.height) router.height.toUInt32 := by
  refine ⟨fun buttons down other hother => ⟨?_, ?_⟩, fun flags other => ⟨?_, ?_⟩, fun v hv => ?_,
    fun value => ⟨clamped_exact hrw value, clamped_exact hrh value⟩⟩
  · refine (axisMap_frame hfw hrw).congr fun v hv => ?_
    rw [mousePosition_eq agent frame router buttons down hv hother]
  · refine (axisMap_frame hfh hrh).congr fun v hv => ?_
    rw [mousePosition_eq agent frame router buttons down hother hv]
  · refine (axisMap_desktop hrw).congr fun v _ => ?_
    rw [rdpPosition, position_absolutePointer]
  · refine (axisMap_desktop hrh).congr fun v _ => ?_
    rw [rdpPosition, position_absolutePointer]
  · have hvalue : (Int64.ofNat v).toInt = v := Int64.toInt_ofNat_of_lt (Nat.lt_trans hv (by decide))
    exact ⟨mapAxis_exact hfw hrw hvalue, mapAxis_exact hfh hrh hvalue⟩

theorem pointer_mapping_monotone_desktop : AxisMap 1280 fun v =>
    (mousePosition (Agent.start {} fun _ => {}) ⟨1280, 720⟩
      { width := 1920, height := 1080, swapAltCommand := false } none true v 0).1 :=
  ((pointer_mapping_monotone (Agent.start {} fun _ => {}) ⟨1280, 720⟩
    { width := 1920, height := 1080, swapAltCommand := false } (by decide) (by decide) (by decide)
    (by decide)).1 none true 0 (by decide)).1

end NanokvmRdp.Gateway
