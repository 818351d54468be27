import Mathlib.Data.Nat.Bitwise
import NanokvmRdp.Hid.Held

/-!
# The HID operations converge

Each operation that returns true leaves every endpoint told what is held.
Where it returns false nothing is said: the callers then release everything,
and a release converges from any state.
-/

namespace NanokvmRdp.Hid

theorem onSuccess_ok (h : (onSuccess result rest).1 = true) :
    result.1 = true ∧ onSuccess result rest = rest result.2 := by
  obtain ⟨ok, hid⟩ := result
  cases ok with
  | true => exact ⟨rfl, rfl⟩
  | false => cases h

theorem and_eq_of_xor_and_eq_zero {a b m : UInt8} (h : (a ^^^ b) &&& m = 0) : a &&& m = b &&& m := by
  have hnat := congrArg UInt8.toNat h
  rw [UInt8.toNat_and, UInt8.toNat_xor, Nat.and_xor_distrib_right] at hnat
  apply UInt8.toNat_inj.mp
  rw [UInt8.toNat_and, UInt8.toNat_and]
  exact Nat.xor_eq_zero_iff.mp hnat

namespace HidState

theorem Told.of_keys (h : Told hid held .keyboard) (hmodifiers : held'.modifiers = held.modifiers)
    (husages : held'.usages = held.usages) : Told hid held' .keyboard := by
  obtain ⟨bytes, hlatest, hencodes⟩ := h
  refine ⟨bytes, hlatest, ?_⟩
  rw [Encodes, Held.pressed, hmodifiers, husages]
  exact hencodes

theorem Told.of_mouseButtons (h : Told hid held .mouse)
    (hbuttons : held.buttons &&& 0x07 = held'.buttons &&& 0x07) : Told hid held' .mouse := by
  obtain ⟨bytes, hlatest, hencodes⟩ := h
  exact ⟨bytes, hlatest, hencodes.trans (congrArg some hbuttons)⟩

theorem Told.of_touchButtons (h : Told hid held .touch)
    (hbuttons : held.buttons &&& 0x18 = held'.buttons &&& 0x18) : Told hid held' .touch := by
  obtain ⟨bytes, hlatest, hencodes⟩ := h
  exact ⟨bytes, hlatest, hencodes.trans (congrArg some hbuttons)⟩

theorem Converged.setInput {input : HidInput} (h : Converged hid)
    (hheld : input.held = hid.input.held) : (hid.setInput input).Converged := by
  intro e
  rw [input_setInput, hheld]
  exact (h e).congr rfl

/-- New keyboard state leaves the pointer endpoints told, and its report tells
the keyboard endpoint. -/
theorem Converged.sendKeyboard_of_latest (h : Converged hid)
    (hok : (sendKeyboard hid').1 = true) (hlatest : ∀ e, hid'.latest e = hid.latest e)
    (hbuttons : hid'.input.buttons = hid.input.buttons) : hid'.sendKeyboard.2.Converged := by
  refine (sendKeyboard_sent _).converged hok fun e he => ?_
  have htold := (h e).congr (hlatest e)
  have hheld : hid'.input.held.buttons = hid.input.held.buttons := hbuttons
  cases e with
  | keyboard => exact absurd rfl he
  | mouse => exact htold.of_mouseButtons (by rw [hheld])
  | touch => exact htold.of_touchButtons (by rw [hheld])

theorem Converged.sendKeyboard {input : HidInput} (h : Converged hid)
    (hok : (hid.setInput input).sendKeyboard.1 = true)
    (hbuttons : input.buttons = hid.input.buttons) :
    (hid.setInput input).sendKeyboard.2.Converged :=
  h.sendKeyboard_of_latest hok (fun _ => rfl) hbuttons

-- ---------------------------------------------------------------------------
-- Keyboard
-- ---------------------------------------------------------------------------

theorem buttons_setKey (input : HidInput) (key : ScanKey) (release : Bool) :
    (input.setKey key release).buttons = input.buttons := by
  unfold HidInput.setKey
  split <;> rfl

theorem hidScancode_converged (h : Converged hid)
    (hok : (hid.hidScancode code extended release).1 = true) :
    (hid.hidScancode code extended release).2.Converged := by
  unfold hidScancode at hok ⊢
  split
  · exact h
  · rename_i key hkey
    simp only [hkey] at hok
    split
    · exact h
    · rename_i hchanged
      rw [if_neg hchanged] at hok
      exact h.sendKeyboard hok (buttons_setKey _ _ _)

theorem tapTextKey_converged (h : Converged hid) (hok : (hid.tapTextKey key).1 = true) :
    (hid.tapTextKey key).2.Converged := by
  unfold tapTextKey at hok ⊢
  simp only at hok ⊢
  obtain ⟨hpressed, heq⟩ := onSuccess_ok hok
  rw [heq] at hok ⊢
  exact (h.sendKeyboard hpressed rfl).sendKeyboard hok rfl

theorem typeAsciiSequence_converged (h : Converged hid)
    (hok : (hid.typeAsciiSequence text).1 = true) : (hid.typeAsciiSequence text).2.Converged := by
  induction text generalizing hid with
  | nil => exact h
  | cons character text ih =>
    rw [typeAsciiSequence] at hok ⊢
    split at hok
    · cases hok
    · obtain ⟨htapped, heq⟩ := onSuccess_ok hok
      rw [heq] at hok ⊢
      exact ih (tapTextKey_converged h htapped) hok

theorem typeCodepoint_converged (h : Converged hid) (hok : (hid.typeCodepoint codepoint).1 = true) :
    (hid.typeCodepoint codepoint).2.Converged := by
  unfold typeCodepoint at hok ⊢
  split
  · rename_i key hkey
    simp only [hkey] at hok
    exact tapTextKey_converged h hok
  · rename_i hkey
    simp only [hkey] at hok
    split
    · rename_i lead vowel trail hsequences
      simp only [hsequences] at hok
      obtain ⟨hlead, heq⟩ := onSuccess_ok hok
      rw [heq] at hok ⊢
      obtain ⟨hvowel, heq⟩ := onSuccess_ok hok
      rw [heq] at hok ⊢
      exact typeAsciiSequence_converged
        (typeAsciiSequence_converged (typeAsciiSequence_converged h hlead) hvowel) hok
    · rename_i hsequences
      simp only [hsequences] at hok
      split
      · rename_i text htext
        simp only [htext] at hok
        exact typeAsciiSequence_converged h hok
      · rename_i htext
        simp only [htext] at hok
        cases hok

theorem pasteCodepoint_converged (h : Converged hid)
    (hok : (hid.pasteCodepoint codepoint).1 = true) :
    (hid.pasteCodepoint codepoint).2.Converged := by
  unfold pasteCodepoint at hok ⊢
  split
  · rename_i hclosed
    rw [if_pos hclosed] at hok
    cases hok
  · rename_i hopen
    simp only [if_neg hopen] at hok ⊢
    split
    · rename_i hfailed
      rw [if_pos hfailed] at hok
      cases hok
    · rename_i hqueued
      rw [if_neg hqueued] at hok
      rw [Bool.not_eq_true', Bool.not_eq_false] at hqueued
      refine Converged.sendKeyboard (Converged.setInput (h.sendKeyboard hqueued rfl) ?_) hok rfl
      rfl

theorem typeOrPaste_converged (h : Converged hid) (hok : (hid.typeOrPaste codepoint).1 = true) :
    (hid.typeOrPaste codepoint).2.Converged := by
  unfold typeOrPaste at hok ⊢
  split
  · rename_i htypable
    rw [if_pos htypable] at hok
    exact typeCodepoint_converged h hok
  · rename_i hpaste
    rw [if_neg hpaste] at hok
    exact pasteCodepoint_converged h hok

theorem typeText_converged (h : Converged hid) (hok : (typeText fuel hid text).1 = true) :
    (typeText fuel hid text).2.Converged := by
  induction fuel generalizing hid text with
  | zero => cases text <;> exact h
  | succ fuel ih =>
    cases text with
    | nil => exact h
    | cons byte text =>
      simp only [typeText] at hok ⊢
      split at hok
      · cases hok
      · obtain ⟨htyped, heq⟩ := onSuccess_ok hok
        rw [heq] at hok ⊢
        exact ih (typeOrPaste_converged h htyped) hok

-- ---------------------------------------------------------------------------
-- Release
-- ---------------------------------------------------------------------------

theorem held_released (input : HidInput) : input.released.held = Held.none := rfl

theorem input_hidReleaseAll (hid : HidState) : hid.hidReleaseAll.input = hid.input.released :=
  input_hidSynchronize hid.clearQueues

theorem encodes_neutralMouseReport : Encodes Held.none .mouse neutralMouseReport.bytes :=
  show neutralMouseReport.bytes.head? = some ((0 : UInt8) &&& 0x07) by decide

theorem hidReleaseAll_converged (hid : HidState) : hid.hidReleaseAll.Converged := by
  intro e
  rw [input_hidReleaseAll]
  have hlog := hid.hidReleaseAll_log e.queue
  cases e with
  | keyboard =>
    refine ⟨_, ?_, encodes_keyboardReport _⟩
    rw [latest, hlog, Endpoint.queue, neutralReports, lastOn_concat, if_pos rfl]
  | mouse =>
    refine ⟨neutralMouseReport.bytes, ?_, encodes_neutralMouseReport⟩
    rw [latest, hlog, Endpoint.queue, neutralReports, ← List.singleton_append, ← List.append_assoc,
      lastOn_concat, lastOn_concat]
    rfl
  | touch =>
    refine ⟨_, ?_, head_absoluteReport _⟩
    rw [latest, hlog, Endpoint.queue, neutralReports, ← List.singleton_append, ← List.append_assoc,
      lastOn_concat, if_pos rfl]

theorem endText_converged (h : result.1 = true → result.2.Converged) :
    (endText result).2.Converged := by
  obtain ⟨ok, hid⟩ := result
  cases ok <;> simp only [endText]
  · exact hidReleaseAll_converged _
  · exact (h rfl).setInput rfl

/-- Text that fails releases everything by itself. -/
theorem hidTypeUtf8_converged (h : Converged hid) : (hid.hidTypeUtf8 text).2.Converged := by
  unfold hidTypeUtf8
  split
  · exact h
  · have hdelay : (hid.setKeyboardDelay 20).Converged := h.setInput rfl
    simp only
    split
    · exact endText_converged fun hok => tapTextKey_converged hdelay hok
    · refine endText_converged fun hok => ?_
      obtain ⟨hsent, heq⟩ := onSuccess_ok hok
      rw [heq] at hok ⊢
      refine typeText_converged ?_ hok
      exact hdelay.sendKeyboard_of_latest hsent (fun _ => rfl) rfl

theorem hidSynchronize_converged (hok : (hidSynchronize hid).1 = true) :
    (hidSynchronize hid).2.Converged := by
  simp only [hidSynchronize, Bool.and_eq_true] at hok ⊢
  obtain ⟨⟨hkeyboard, hmouse⟩, htouch⟩ := hok
  have hkeyboardSent := sendKeyboard_sent
    ((hid.resetKeyboardState false).setInput hid.input.released)
  generalize ((hid.resetKeyboardState false).setInput hid.input.released).sendKeyboard = keyboard
    at *
  have hheld : keyboard.2.input.held = Held.none := hkeyboardSent.held
  have hmouseSent := queueReport_sent keyboard.2 .mouse neutralMouseReport false 0
    (hheld ▸ encodes_neutralMouseReport) (fun h => by cases h)
  generalize keyboard.2.queueReport .mouse neutralMouseReport false 0 = mouse at *
  refine (sendAbsolute_sent mouse.2 false).converged htouch fun e he => ?_
  rw [hmouseSent.held, hheld]
  cases e with
  | keyboard =>
    exact (hkeyboardSent.told hkeyboard).congr (hmouseSent.others .keyboard (by decide))
  | mouse => exact hheld ▸ hmouseSent.told hmouse
  | touch => exact absurd rfl he

-- ---------------------------------------------------------------------------
-- Pointer
-- ---------------------------------------------------------------------------

/-- After new buttons were sent to the absolute endpoint, only the relative
endpoint may have something to learn. -/
theorem Converged.sent_touch {input : HidInput} (h : Converged hid)
    (htouch : Sent .touch (hid.setInput input) sent) (hok : sent.1 = true)
    (hmodifiers : input.modifiers = hid.input.modifiers) (husages : input.usages = hid.input.usages) :
    (∀ e, e ≠ .mouse → sent.2.Told sent.2.input.held e) ∧
      ((hid.input.buttons ^^^ sent.2.input.buttons) &&& 0x07 = 0 → sent.2.Converged) := by
  have hkeyboard : sent.2.Told sent.2.input.held .keyboard := by
    rw [htouch.held]
    exact ((h .keyboard).congr (htouch.others .keyboard (by decide))).of_keys hmodifiers husages
  have htold : sent.2.Told sent.2.input.held .touch := by
    rw [htouch.held]
    exact htouch.told hok
  refine ⟨fun e he => ?_, fun hsame e => ?_⟩
  · cases e with
    | keyboard => exact hkeyboard
    | mouse => exact absurd rfl he
    | touch => exact htold
  · cases e with
    | keyboard => exact hkeyboard
    | mouse =>
      exact ((h .mouse).congr (htouch.others .mouse (by decide))).of_mouseButtons
        (and_eq_of_xor_and_eq_zero hsame)
    | touch => exact htold

theorem hidAbsolute_converged (h : Converged hid)
    (hok : (hid.hidAbsolute x y width height flags).1 = true) :
    (hid.hidAbsolute x y width height flags).2.Converged := by
  simp only [hidAbsolute] at hok ⊢
  obtain ⟨hsent, heq⟩ := onSuccess_ok hok
  rw [heq] at hok ⊢
  obtain ⟨hothers, hall⟩ := h.sent_touch (sendAbsolute_sent _ _) hsent rfl rfl
  split
  · rename_i hsame
    exact hall hsame
  · rename_i hchanged
    rw [if_neg hchanged] at hok
    exact (sendRelative_sent _ 0 0 0).converged hok hothers

theorem moveRelative_converged (h : Converged hid) (hok : (moveRelative fuel hid x y).1 = true) :
    (moveRelative fuel hid x y).2.Converged := by
  induction fuel generalizing hid x y with
  | zero => exact h
  | succ fuel ih =>
    rw [moveRelative] at hok ⊢
    split at hok
    · rename_i hdone
      rw [if_pos hdone]
      exact h
    · rename_i hmoves
      rw [if_neg hmoves]
      obtain ⟨hsent, heq⟩ := onSuccess_ok hok
      rw [heq] at hok ⊢
      exact ih ((sendRelative_sent ..).converged hsent fun e _ => h e) hok

/-- A motion that is not null sends at least one relative report. -/
theorem moveRelative_converged_of_ne (h : ∀ e, e ≠ .mouse → Told hid hid.input.held e)
    (hmoves : ¬ (x = 0 ∧ y = 0))
    (hok : (moveRelative (x.natAbs + y.natAbs) hid x y).1 = true) :
    (moveRelative (x.natAbs + y.natAbs) hid x y).2.Converged := by
  obtain ⟨fuel, hfuel⟩ : ∃ fuel, x.natAbs + y.natAbs = fuel + 1 :=
    ⟨x.natAbs + y.natAbs - 1, by omega⟩
  rw [hfuel, moveRelative, if_neg hmoves] at hok ⊢
  obtain ⟨hsent, heq⟩ := onSuccess_ok hok
  rw [heq] at hok ⊢
  exact moveRelative_converged ((sendRelative_sent ..).converged hsent h) hok

/-- `hid_relative` writes an absolute report only if one of its buttons changed. -/
theorem Converged.sent_changed (h : Converged hid) (input : HidInput) :
    Sent .touch (hid.setInput input)
      (if (hid.input.buttons ^^^ input.buttons) &&& 0x18 ≠ 0 then
        (hid.setInput input).sendAbsolute false else (true, hid.setInput input)) := by
  split
  · exact sendAbsolute_sent _ _
  · rename_i hsame
    refine ⟨rfl, fun _ => ?_, fun _ _ => rfl⟩
    exact (h .touch).of_touchButtons (and_eq_of_xor_and_eq_zero (not_not.mp hsame))

theorem hidRelative_converged (h : Converged hid) (hok : (hid.hidRelative x y buttons).1 = true) :
    (hid.hidRelative x y buttons).2.Converged := by
  simp only [hidRelative] at hok ⊢
  obtain ⟨hsent, heq⟩ := onSuccess_ok hok
  rw [heq] at hok ⊢
  have htouch := h.sent_changed { hid.input with
    buttons := buttons &&& hidTouchButtonsMask, mouseButtons := buttons &&& hidTouchButtonsMask }
  obtain ⟨hothers, hall⟩ := h.sent_touch htouch hsent rfl rfl
  split
  · rename_i hstill
    rw [if_pos hstill] at hok
    split
    · rename_i hsame
      refine hall ?_
      have hbuttons := congrArg Held.buttons htouch.held
      exact (congrArg (fun held => (hid.input.buttons ^^^ held) &&& 0x07) hbuttons).trans hsame
    · rename_i hchanged
      rw [if_neg hchanged] at hok
      exact (sendRelative_sent _ 0 0 0).converged hok hothers
  · rename_i hmoves
    rw [if_neg hmoves] at hok
    refine moveRelative_converged_of_ne hothers (fun hzero => hmoves ?_) hok
    exact ⟨Int16.toInt_inj.mp hzero.1, Int16.toInt_inj.mp hzero.2⟩

theorem hidWheel_converged (h : Converged hid) (hok : (hid.hidWheel flags).1 = true) :
    (hid.hidWheel flags).2.Converged := by
  simp only [hidWheel] at hok ⊢
  split
  · exact h
  · rename_i hwheel
    rw [if_neg hwheel] at hok
    split
    · rename_i hhorizontal
      rw [if_pos hhorizontal] at hok
      split
      · exact h
      · rename_i hpan
        rw [if_neg hpan] at hok
        exact (sendAbsolute_sent _ false).converged hok fun e _ => h.setInput rfl e
    · rename_i hvertical
      rw [if_neg hvertical] at hok
      exact (sendRelative_sent ..).converged hok fun e _ => h e

-- ---------------------------------------------------------------------------
-- Housekeeping
-- ---------------------------------------------------------------------------

theorem Converged.setKeepaliveAt (h : Converged hid) (keepaliveAt : UInt64) :
    (hid.setInput { hid.input with keepaliveAt }).Converged := h.setInput rfl

theorem hidKeepalive_converged (h : Converged hid) (hok : (hid.hidKeepalive nowMs).1 = true) :
    (hid.hidKeepalive nowMs).2.Converged := by
  simp only [hidKeepalive] at hok ⊢
  split
  · exact h
  · rename_i hidle
    rw [if_neg hidle] at hok
    obtain ⟨hsent, heq⟩ := onSuccess_ok hok
    have hmoved := (sendRelative_sent ..).converged hsent fun e _ => h.setKeepaliveAt _ e
    rw [heq]
    generalize sendRelative _ _ _ _ = sent at hmoved ⊢
    exact hmoved.setInput rfl

theorem Flushed.converged (hf : Flushed hid hid') (h : Converged hid) : hid'.Converged := by
  intro e
  rw [hf.input]
  exact (h e).congr (latest_of_log hf.log e)

theorem hidFlush_flushed (hid : HidState) : Flushed hid hid.hidFlush.2 := by
  have hdrained := (quiet_drainKeyboardFeedback hid).idle.flushed
  have hkeyboard := flushReports_flushed hid.drainKeyboardFeedback .keyboard
  have hpointer := flushReports_flushed (hid.drainKeyboardFeedback.flushReports .keyboard).2 .pointer
  simp only [hidFlush]
  exact hdrained.trans (hkeyboard.trans (hpointer.trans (quiet_noteDesynced _).idle.flushed))

end HidState

end NanokvmRdp.Hid
