import Mathlib.Algebra.Order.Ring.Int
import NanokvmRdp.Hid.DeviceLaws

/-!
# Relative motion

A report carries at most 127 in each direction, so `hid_relative` splits a
motion into several. Each turn of its loop takes off what the report carries,
and a turn without anything left does not happen: the reports add up to the
motion, and the loop ends, also from -32768.
-/

namespace NanokvmRdp.Hid

namespace HidState

-- ---------------------------------------------------------------------------
-- Reports that were queued
-- ---------------------------------------------------------------------------

theorem log_queueReport {hid : HidState} {e : Endpoint} {payload : Payload} {delayMs : UInt16}
    (hok : (hid.queueReport e payload false delayMs).1 = true) :
    (hid.queueReport e payload false delayMs).2.log e.queue =
      hid.log e.queue ++ [(e, payload.bytes)] := by
  rcases (queueReport_log hid e payload false delayMs).2 with
    ⟨reports, bytes, hlog, ⟨rfl, hold⟩ | ⟨hmotion, -⟩⟩ | ⟨hfailed, -⟩
  · rw [hlog, hold]
  · cases hmotion
  · rw [hfailed] at hok
    cases hok

theorem log_sendRelative {hid : HidState} {dx dy wheel : Int8}
    (hok : (hid.sendRelative dx dy wheel).1 = true) :
    (hid.sendRelative dx dy wheel).2.log .pointer =
      hid.log .pointer ++ [(.mouse, (hid.input.relativeReport dx dy wheel).bytes)] :=
  log_queueReport hok

theorem input_sendRelative (hid : HidState) (dx dy wheel : Int8) :
    (hid.sendRelative dx dy wheel).2.input = hid.input :=
  input_queueReport ..

theorem log_sendAbsolute {hid : HidState} (hok : (hid.sendAbsolute false).1 = true) :
    (hid.sendAbsolute false).2.log .pointer =
      hid.log .pointer ++ [(.touch, hid.input.absoluteReport.bytes)] := by
  rw [sendAbsolute_false] at hok ⊢
  exact log_queueReport hok

theorem buttons_sendAbsolute (hid : HidState) :
    (hid.sendAbsolute false).2.input.buttons = hid.input.buttons := by
  rw [sendAbsolute_false]
  rfl

-- ---------------------------------------------------------------------------
-- Splitting
-- ---------------------------------------------------------------------------

theorem clampDelta_bounds (x : Int) : -127 ≤ clampDelta x ∧ clampDelta x ≤ 127 := by
  unfold clampDelta
  split
  · omega
  · split <;> omega

theorem toInt_clampDelta (x : Int) : (Int8.ofInt (clampDelta x)).toInt = clampDelta x := by
  obtain ⟨hlow, hhigh⟩ := clampDelta_bounds x
  exact Int8.toInt_ofInt_of_le (by omega) (by omega)

theorem clampDelta_eq_zero_iff (x : Int) : clampDelta x = 0 ↔ x = 0 := by
  unfold clampDelta
  split
  · omega
  · split <;> omega

theorem natAbs_sub_clampDelta (x : Int) :
    (x - clampDelta x).natAbs + (clampDelta x).natAbs = x.natAbs := by
  unfold clampDelta
  split
  · omega
  · split <;> omega

/-- The reports move by `x` and `y` in all, and each of them moves. -/
structure Splits (x y : Int) (moves : List (Int8 × Int8)) : Prop where
  within : ∀ move ∈ moves, (-127 ≤ move.1.toInt ∧ move.1.toInt ≤ 127) ∧
    -127 ≤ move.2.toInt ∧ move.2.toInt ≤ 127
  sumX : (moves.map fun move => move.1.toInt).sum = x
  sumY : (moves.map fun move => move.2.toInt).sum = y
  moving : ∀ move ∈ moves, move ≠ (0, 0)

theorem splits_nil : Splits 0 0 [] :=
  ⟨fun _ hmove => (List.not_mem_nil hmove).elim, rfl, rfl,
    fun _ hmove => (List.not_mem_nil hmove).elim⟩

theorem Splits.cons (h : Splits (x - clampDelta x) (y - clampDelta y) moves)
    (hleft : ¬ (x = 0 ∧ y = 0)) :
    Splits x y ((Int8.ofInt (clampDelta x), Int8.ofInt (clampDelta y)) :: moves) := by
  have hx := toInt_clampDelta x
  have hy := toInt_clampDelta y
  refine ⟨?_, ?_, ?_, ?_⟩
  · rw [List.forall_mem_cons, hx, hy]
    exact ⟨⟨clampDelta_bounds x, clampDelta_bounds y⟩, h.within⟩
  · rw [List.map_cons, List.sum_cons, h.sumX, hx]
    omega
  · rw [List.map_cons, List.sum_cons, h.sumY, hy]
    omega
  · rw [List.forall_mem_cons]
    refine ⟨fun hzero => hleft ?_, h.moving⟩
    rw [Prod.mk.injEq] at hzero
    rw [← clampDelta_eq_zero_iff x, ← clampDelta_eq_zero_iff y, ← hx, ← hy, hzero.1, hzero.2]
    exact ⟨rfl, rfl⟩

-- ---------------------------------------------------------------------------
-- The loop
-- ---------------------------------------------------------------------------

def moveReport (buttons : UInt8) (move : Int8 × Int8) : Report :=
  (.mouse, [buttons &&& hidMouseButtonsMask, move.1.toUInt8, move.2.toUInt8, 0])

theorem log_moveRelative {hid : HidState} {x y : Int} (hfuel : x.natAbs + y.natAbs ≤ fuel)
    (hok : (moveRelative fuel hid x y).1 = true) :
    ∃ moves, Splits x y moves ∧ (x ≠ 0 ∨ y ≠ 0 → moves ≠ []) ∧
      (moveRelative fuel hid x y).2.log .pointer =
        hid.log .pointer ++ moves.map (moveReport hid.input.buttons) := by
  induction fuel generalizing hid x y with
  | zero =>
    obtain rfl : x = 0 := by omega
    obtain rfl : y = 0 := by omega
    exact ⟨[], splits_nil, fun hmoves => by omega, (List.append_nil _).symm⟩
  | succ fuel ih =>
    rw [moveRelative] at hok ⊢
    by_cases hleft : x = 0 ∧ y = 0
    · obtain ⟨rfl, rfl⟩ := hleft
      exact ⟨[], splits_nil, fun hmoves => by omega, (List.append_nil _).symm⟩
    · rw [if_neg hleft] at hok ⊢
      have hsent := @log_sendRelative hid (Int8.ofInt (clampDelta x)) (Int8.ofInt (clampDelta y)) 0
      have hinput := input_sendRelative hid (Int8.ofInt (clampDelta x)) (Int8.ofInt (clampDelta y)) 0
      generalize hid.sendRelative _ _ _ = sent at hok hsent hinput ⊢
      obtain ⟨ok, mid⟩ := sent
      cases ok with
      | false => cases hok
      | true =>
        have hx := natAbs_sub_clampDelta x
        have hy := natAbs_sub_clampDelta y
        have hnear : x.natAbs + y.natAbs ≠ 0 := by omega
        have hturn : (clampDelta x).natAbs + (clampDelta y).natAbs ≠ 0 := by
          have := clampDelta_eq_zero_iff x
          have := clampDelta_eq_zero_iff y
          omega
        obtain ⟨moves, hsplits, -, hlog⟩ := ih (by omega) hok
        refine ⟨_, hsplits.cons hleft, fun _ => List.cons_ne_nil _ _, ?_⟩
        simp only [onSuccess]
        rw [hlog, hsent rfl, hinput, List.append_assoc]
        rfl

def narrowDelta (x : Int16) : Int8 := if x > 127 then 127 else if x < -127 then -127 else x.toInt8

/-- The loop with these types. It has no end of its own: `none` is a run that still goes on after
`fuel` turns. -/
def relativeLoop : Nat → HidState → Int16 → Int16 → Option (Bool × HidState)
  | fuel, hid, x, y =>
    if x = 0 ∧ y = 0 then some (true, hid)
    else
      match fuel with
      | 0 => none
      | fuel + 1 =>
        match hid.sendRelative (narrowDelta x) (narrowDelta y) 0 with
        | (false, hid) => some (false, hid)
        | (true, hid) =>
          relativeLoop fuel hid (x - (narrowDelta x).toInt16) (y - (narrowDelta y).toInt16)

theorem toInt_narrowDelta (x : Int16) : (narrowDelta x).toInt = clampDelta x.toInt := by
  unfold narrowDelta clampDelta
  have hhigh : x > 127 ↔ x.toInt > 127 := Int16.lt_iff_toInt_lt
  have hlow : x < -127 ↔ x.toInt < -127 := Int16.lt_iff_toInt_lt
  simp only [hhigh, hlow]
  split
  · rfl
  · split
    · rfl
    · rw [Int16.toInt_toInt8]
      exact Int.bmod_eq_of_le (by omega) (by omega)

theorem toInt_sub_narrowDelta (x : Int16) :
    (x - (narrowDelta x).toInt16).toInt = x.toInt - clampDelta x.toInt := by
  have hlow := Int16.le_toInt x
  have hhigh := Int16.toInt_lt x
  have hnear := natAbs_sub_clampDelta x.toInt
  rw [Int16.toInt_sub, Int8.toInt_toInt16, toInt_narrowDelta]
  exact Int.bmod_eq_of_le (by omega) (by omega)

theorem both_zero_iff (x y : Int16) : x = 0 ∧ y = 0 ↔ x.toInt = 0 ∧ y.toInt = 0 := by
  rw [← Int16.toInt_inj, ← Int16.toInt_inj]
  rfl

/-- Every turn comes nearer to 0, so the loop ends. -/
theorem relativeLoop_eq (hid : HidState) (x y : Int16)
    (hfuel : x.toInt.natAbs + y.toInt.natAbs ≤ fuel) :
    relativeLoop fuel hid x y = some (moveRelative fuel hid x.toInt y.toInt) := by
  induction fuel generalizing hid x y with
  | zero =>
    have hzero : x = 0 ∧ y = 0 := (both_zero_iff x y).mpr (by omega)
    rw [relativeLoop, if_pos hzero]
    rfl
  | succ fuel ih =>
    rw [relativeLoop, moveRelative]
    simp only [both_zero_iff]
    by_cases hleft : x.toInt = 0 ∧ y.toInt = 0
    · rw [if_pos hleft, if_pos hleft]
    · rw [if_neg hleft, if_neg hleft]
      have hdelta (z : Int16) : Int8.ofInt (clampDelta z.toInt) = narrowDelta z := by
        rw [← Int8.toInt_inj, toInt_clampDelta, toInt_narrowDelta]
      have hnearx := natAbs_sub_clampDelta x.toInt
      have hneary := natAbs_sub_clampDelta y.toInt
      have hturnx := clampDelta_eq_zero_iff x.toInt
      have hturny := clampDelta_eq_zero_iff y.toInt
      rw [hdelta, hdelta]
      generalize hid.sendRelative (narrowDelta x) (narrowDelta y) 0 = sent
      obtain ⟨ok, mid⟩ := sent
      cases ok with
      | false => rfl
      | true =>
        have hrest := ih mid (x - (narrowDelta x).toInt16) (y - (narrowDelta y).toInt16) (by
          rw [toInt_sub_narrowDelta, toInt_sub_narrowDelta]
          omega)
        rw [toInt_sub_narrowDelta, toInt_sub_narrowDelta] at hrest
        exact hrest

-- ---------------------------------------------------------------------------
-- The whole call
-- ---------------------------------------------------------------------------

def nextButtons (buttons : UInt8) : UInt8 := buttons &&& hidTouchButtonsMask

def changedButtons (hid : HidState) (buttons : UInt8) : UInt8 :=
  hid.input.buttons ^^^ nextButtons buttons

def holding (hid : HidState) (buttons : UInt8) : HidState :=
  hid.setInput { hid.input with buttons := nextButtons buttons, mouseButtons := nextButtons buttons }

theorem hidRelative_eq (hid : HidState) (x y : Int16) (buttons : UInt8) :
    hid.hidRelative x y buttons =
      onSuccess (if hid.changedButtons buttons &&& 0x18 ≠ 0 then
          (hid.holding buttons).sendAbsolute false else (true, hid.holding buttons)) fun mid =>
        if x = 0 ∧ y = 0 then
          if hid.changedButtons buttons &&& hidMouseButtonsMask = 0 then (true, mid)
          else mid.sendRelative 0 0 0
        else moveRelative (x.toInt.natAbs + y.toInt.natAbs) mid x.toInt y.toInt := rfl

structure Moves (x y : Int16) (standard : Prop) (moves : List (Int8 × Int8)) : Prop where
  within : ∀ move ∈ moves, (-127 ≤ move.1.toInt ∧ move.1.toInt ≤ 127) ∧
    -127 ≤ move.2.toInt ∧ move.2.toInt ≤ 127
  sumX : (moves.map fun move => move.1.toInt).sum = x.toInt
  sumY : (moves.map fun move => move.2.toInt).sum = y.toInt
  moving : x ≠ 0 ∨ y ≠ 0 → ∀ move ∈ moves, move ≠ (0, 0)
  reported : standard ∨ x ≠ 0 ∨ y ≠ 0 → moves ≠ []

theorem moves_of_splits (h : Splits x.toInt y.toInt moves) (hne : moves ≠ []) :
    Moves x y standard moves :=
  ⟨h.within, h.sumX, h.sumY, fun _ => h.moving, fun _ => hne⟩

theorem moves_of_unchanged (h : ¬ standard) : Moves 0 0 standard [] where
  within _ hmove := (List.not_mem_nil hmove).elim
  sumX := rfl
  sumY := rfl
  moving _ _ hmove := (List.not_mem_nil hmove).elim
  reported hsome := by
    rcases hsome with hstandard | hx | hy
    · exact absurd hstandard h
    · exact absurd rfl hx
    · exact absurd rfl hy

theorem moves_of_button (standard : Prop) : Moves 0 0 standard [(0, 0)] where
  within move hmove := by
    rw [List.mem_singleton.mp hmove]
    decide
  sumX := rfl
  sumY := rfl
  moving hmoves := by
    rcases hmoves with hx | hy
    · exact absurd rfl hx
    · exact absurd rfl hy
  reported _ := List.cons_ne_nil _ _

theorem log_changedTouch (held : HidState) (changed : UInt8) (result : Bool × HidState)
    (hresult : result = if changed &&& 0x18 ≠ 0 then held.sendAbsolute false else (true, held))
    (hok : result.1 = true) :
    ∃ absolute : List Report, result.2.log .pointer = held.log .pointer ++ absolute ∧
      (absolute = [] ∨ changed &&& 0x18 ≠ 0 ∧ ∃ bytes, absolute = [(.touch, bytes)]) ∧
      result.2.input.buttons = held.input.buttons := by
  subst hresult
  split at hok
  · rename_i htouch
    rw [if_pos htouch, log_sendAbsolute hok]
    exact ⟨_, rfl, .inr ⟨htouch, _, rfl⟩, buttons_sendAbsolute held⟩
  · rename_i htouch
    rw [if_neg htouch]
    exact ⟨[], (List.append_nil _).symm, .inl rfl, rfl⟩

theorem moveReport_nextButtons (buttons : UInt8) :
    moveReport (nextButtons buttons) = moveReport buttons := by
  funext move
  have hmask : nextButtons buttons &&& hidMouseButtonsMask = buttons &&& hidMouseButtonsMask := by
    rw [nextButtons, UInt8.and_assoc]
    rfl
  rw [moveReport, hmask, moveReport]

theorem log_motion {hid : HidState} {x y : Int16} {changed : UInt8} (result : Bool × HidState)
    (hresult : result =
      if x = 0 ∧ y = 0 then
        if changed &&& hidMouseButtonsMask = 0 then (true, hid) else hid.sendRelative 0 0 0
      else moveRelative (x.toInt.natAbs + y.toInt.natAbs) hid x.toInt y.toInt)
    (hok : result.1 = true) :
    ∃ moves, Moves x y (changed &&& hidMouseButtonsMask ≠ 0) moves ∧
      result.2.log .pointer = hid.log .pointer ++ moves.map (moveReport hid.input.buttons) := by
  subst hresult
  split at hok
  · rename_i hzero
    obtain ⟨rfl, rfl⟩ := hzero
    rw [if_pos ⟨rfl, rfl⟩]
    split at hok
    · rename_i hsame
      rw [if_pos hsame]
      exact ⟨[], moves_of_unchanged (fun hne => hne hsame), (List.append_nil _).symm⟩
    · rename_i hchanged
      rw [if_neg hchanged, log_sendRelative hok]
      exact ⟨[(0, 0)], moves_of_button _, rfl⟩
  · rename_i hmoves
    rw [if_neg hmoves]
    obtain ⟨moves, hsplits, hne, hlog⟩ := log_moveRelative (Nat.le_refl _) hok
    rw [both_zero_iff] at hmoves
    exact ⟨moves, moves_of_splits hsplits (hne (by omega)), hlog⟩

/-- The loop ends for every motion, and a call that succeeds has put its reports on the pointer
queue: an absolute one only if button 4 or 5 changes, and behind it relative ones with the three
standard buttons, which add up to the motion. -/
theorem relative_motion_splits (hid : HidState) (x y : Int16) (buttons : UInt8) :
    (∀ hid : HidState, relativeLoop (x.toInt.natAbs + y.toInt.natAbs) hid x y =
      some (moveRelative (x.toInt.natAbs + y.toInt.natAbs) hid x.toInt y.toInt)) ∧
    ((hid.hidRelative x y buttons).1 = true → ∃ absolute moves,
      (hid.hidRelative x y buttons).2.log .pointer =
        hid.log .pointer ++ absolute ++ moves.map (moveReport buttons) ∧
      (absolute = [] ∨ hid.changedButtons buttons &&& 0x18 ≠ 0 ∧
        ∃ bytes, absolute = [(.touch, bytes)]) ∧
      Moves x y (hid.changedButtons buttons &&& hidMouseButtonsMask ≠ 0) moves) := by
  refine ⟨fun hid => relativeLoop_eq hid x y (Nat.le_refl _), fun hok => ?_⟩
  rw [hidRelative_eq] at hok ⊢
  have hfirst := log_changedTouch (hid.holding buttons) (hid.changedButtons buttons) _ rfl
  generalize (if hid.changedButtons buttons &&& 0x18 ≠ 0 then
      (hid.holding buttons).sendAbsolute false else (true, hid.holding buttons)) = first at hok hfirst ⊢
  obtain ⟨ok, mid⟩ := first
  cases ok with
  | false => cases hok
  | true =>
    obtain ⟨absolute, hlog, habsolute, hbuttons⟩ := hfirst rfl
    have hheld : mid.input.buttons = nextButtons buttons := hbuttons
    obtain ⟨moves, hmoves, hmoved⟩ := log_motion _ rfl hok
    rw [hheld, moveReport_nextButtons, hlog] at hmoved
    exact ⟨absolute, moves, hmoved, habsolute, hmoves⟩

end HidState

end NanokvmRdp.Hid
