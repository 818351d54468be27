import NanokvmRdp.Hid.Convergence

/-!
# The buttons held

What each HID operation does to `hid.buttons`. Only the pointer operations and
the releases touch them.
-/

namespace NanokvmRdp.Hid

theorem hidPointerButtons_of_none {flags : UInt16}
    (h : ∀ flag ∈ buttonFlags, flags &&& flag.1 = 0) (buttons : UInt8) :
    hidPointerButtons buttons flags = buttons := by
  unfold hidPointerButtons
  revert h
  generalize buttonFlags = list
  intro h
  induction list with
  | nil => rfl
  | cons button list ih =>
    rw [List.foldl_cons]
    simp only [h button List.mem_cons_self, ne_eq, not_true_eq_false, if_false]
    exact ih fun flag hflag => h flag (List.mem_cons_of_mem _ hflag)

/-- The flags that `hid_absolute` looks at to tell pure motion from a click. -/
theorem buttons_of_motion {flags : UInt16}
    (h : flags &&& (ptrFlagsButton1 ||| ptrFlagsButton2 ||| ptrFlagsButton3 |||
      ptrXflagsButton1 ||| ptrXflagsButton2) = 0) (buttons : UInt8) :
    hidPointerButtons buttons flags = buttons := by
  refine hidPointerButtons_of_none (fun flag hflag => ?_) buttons
  have hbit : ∀ flag ∈ buttonFlags, (ptrFlagsButton1 ||| ptrFlagsButton2 ||| ptrFlagsButton3 |||
      ptrXflagsButton1 ||| ptrXflagsButton2) &&& flag.1 = flag.1 := by
    simp only [buttonFlags, List.forall_mem_cons]
    exact ⟨rfl, rfl, rfl, rfl, rfl, List.forall_mem_nil _⟩
  rw [← hbit flag hflag, ← UInt16.and_assoc, h, UInt16.zero_and]

namespace HidState

variable {buttons : UInt8}

theorem buttons_onSuccess {result : Bool × HidState} {rest : HidState → Bool × HidState}
    (h : result.2.input.buttons = buttons)
    (hrest : ∀ hid : HidState, hid.input.buttons = buttons → (rest hid).2.input.buttons = buttons) :
    (onSuccess result rest).2.input.buttons = buttons :=
  onSuccess_leaves (P := fun hid => hid.input.buttons = buttons) h fun _ => hrest result.2 h

@[simp] theorem buttons_sendKeyboard (hid : HidState) :
    hid.sendKeyboard.2.input.buttons = hid.input.buttons := by
  rw [input_sendKeyboard]

-- ---------------------------------------------------------------------------
-- Keyboard
-- ---------------------------------------------------------------------------

theorem buttons_hidScancode (hid : HidState) (code : UInt8) (extended release : Bool) :
    (hid.hidScancode code extended release).2.input.buttons = hid.input.buttons := by
  unfold hidScancode
  split
  · rfl
  · split
    · rfl
    · rw [buttons_sendKeyboard, input_setInput, buttons_setKey]

theorem buttons_tapTextKey (key : HidTextKey) {hid : HidState} (h : hid.input.buttons = buttons) :
    (hid.tapTextKey key).2.input.buttons = buttons := by
  unfold tapTextKey
  refine buttons_onSuccess ?_ fun hid h => ?_
  · rw [buttons_sendKeyboard]
    exact h
  · rw [buttons_sendKeyboard]
    exact h

theorem buttons_typeAsciiSequence (text : List UInt8) {hid : HidState}
    (h : hid.input.buttons = buttons) : (hid.typeAsciiSequence text).2.input.buttons = buttons := by
  induction text generalizing hid with
  | nil => exact h
  | cons character text ih =>
    rw [typeAsciiSequence]
    split
    · exact h
    · exact buttons_onSuccess (buttons_tapTextKey _ h) fun hid h => ih h

theorem buttons_typeCodepoint (codepoint : UInt32) {hid : HidState}
    (h : hid.input.buttons = buttons) : (hid.typeCodepoint codepoint).2.input.buttons = buttons := by
  unfold typeCodepoint
  split
  · exact buttons_tapTextKey _ h
  · split
    · refine buttons_onSuccess (buttons_typeAsciiSequence _ h) fun hid h => ?_
      exact buttons_onSuccess (buttons_typeAsciiSequence _ h) fun hid h =>
        buttons_typeAsciiSequence _ h
    · split
      · exact buttons_typeAsciiSequence _ h
      · exact h

theorem buttons_pasteCodepoint (codepoint : UInt32) {hid : HidState}
    (h : hid.input.buttons = buttons) : (hid.pasteCodepoint codepoint).2.input.buttons = buttons := by
  unfold pasteCodepoint
  split
  · exact h
  · simp only
    split
    · simpa using h
    · simpa using h

theorem buttons_typeText (fuel : Nat) (text : List UInt8) {hid : HidState}
    (h : hid.input.buttons = buttons) : (typeText fuel hid text).2.input.buttons = buttons := by
  induction fuel generalizing hid text with
  | zero => cases text <;> exact h
  | succ fuel ih =>
    cases text with
    | nil => exact h
    | cons byte text =>
      rw [typeText]
      split
      · exact h
      · refine buttons_onSuccess ?_ fun hid h => ih _ h
        unfold typeOrPaste
        split
        · exact buttons_typeCodepoint _ h
        · exact buttons_pasteCodepoint _ h
      · simp

theorem buttons_endText {result : Bool × HidState} (h : result.2.input.buttons = buttons)
    (hok : (endText result).1 = true) : (endText result).2.input.buttons = buttons := by
  obtain ⟨ok, hid⟩ := result
  cases ok with
  | true => exact h
  | false => cases hok

theorem buttons_hidTypeUtf8 {hid : HidState} {text : List UInt8}
    (hok : (hid.hidTypeUtf8 text).1 = true) :
    (hid.hidTypeUtf8 text).2.input.buttons = hid.input.buttons := by
  unfold hidTypeUtf8 at hok ⊢
  split
  · rfl
  · rename_i htext
    rw [if_neg htext] at hok
    simp only at hok ⊢
    split
    · rename_i hshortcut
      rw [hshortcut] at hok
      exact buttons_endText (buttons_tapTextKey _ rfl) hok
    · rename_i hshortcut
      rw [hshortcut] at hok
      refine buttons_endText (buttons_onSuccess ?_ fun hid h => buttons_typeText _ _ h) hok
      rw [buttons_sendKeyboard]
      rfl

-- ---------------------------------------------------------------------------
-- Pointer
-- ---------------------------------------------------------------------------

-- A pointer operation changes the buttons of what is held and nothing else.

variable {held : Held}

theorem held_onSuccess {result : Bool × HidState} {rest : HidState → Bool × HidState}
    (h : result.2.input.held = held)
    (hrest : ∀ hid : HidState, hid.input.held = held → (rest hid).2.input.held = held) :
    (onSuccess result rest).2.input.held = held :=
  onSuccess_leaves (P := fun hid => hid.input.held = held) h fun _ => hrest result.2 h

theorem held_sendRelative (hid : HidState) (dx dy wheel : Int8) :
    (hid.sendRelative dx dy wheel).2.input.held = hid.input.held :=
  (sendRelative_sent hid dx dy wheel).held

theorem held_sendAbsolute (hid : HidState) (motion : Bool) :
    (hid.sendAbsolute motion).2.input.held = hid.input.held :=
  (sendAbsolute_sent hid motion).held

theorem held_hidAbsolute (hid : HidState) (x y : UInt16) (width height : UInt32)
    (flags : UInt16) :
    (hid.hidAbsolute x y width height flags).2.input.held =
      { hid.input.held with buttons := hidPointerButtons hid.input.buttons flags } := by
  unfold hidAbsolute
  refine held_onSuccess ?_ fun hid h => ?_
  · rw [held_sendAbsolute]
    rfl
  · split
    · exact h
    · rw [held_sendRelative]
      exact h

theorem held_moveRelative (fuel : Nat) (x y : Int) {hid : HidState} (h : hid.input.held = held) :
    (moveRelative fuel hid x y).2.input.held = held := by
  induction fuel generalizing hid x y with
  | zero => exact h
  | succ fuel ih =>
    rw [moveRelative]
    split
    · exact h
    · refine held_onSuccess ?_ fun hid h => ih _ _ h
      rw [held_sendRelative]
      exact h

theorem held_hidRelative (hid : HidState) (x y : Int16) (buttons : UInt8) :
    (hid.hidRelative x y buttons).2.input.held =
      { hid.input.held with buttons := buttons &&& hidTouchButtonsMask } := by
  unfold hidRelative
  refine held_onSuccess ?_ fun hid h => ?_
  · split
    · rw [held_sendAbsolute]
      rfl
    · rfl
  · split
    · split
      · exact h
      · rw [held_sendRelative]
        exact h
    · exact held_moveRelative _ _ _ h

theorem held_hidWheel (hid : HidState) (flags : UInt16) :
    (hid.hidWheel flags).2.input.held = hid.input.held := by
  unfold hidWheel
  simp only
  split
  · rfl
  · split
    · split
      · rfl
      · rw [held_sendAbsolute]
        rfl
    · rw [held_sendRelative]

theorem held_setKeepaliveAt (hid : HidState) (keepaliveAt : UInt64) :
    (hid.setInput { hid.input with keepaliveAt }).input.held = hid.input.held := rfl

theorem held_hidKeepalive (hid : HidState) (nowMs : UInt64) :
    (hid.hidKeepalive nowMs).2.input.held = hid.input.held := by
  unfold hidKeepalive
  split
  · rfl
  · refine held_onSuccess ?_ fun hid h => h
    rw [held_sendRelative, held_setKeepaliveAt]

theorem buttons_hidAbsolute (hid : HidState) (x y : UInt16) (width height : UInt32)
    (flags : UInt16) :
    (hid.hidAbsolute x y width height flags).2.input.buttons =
      hidPointerButtons hid.input.buttons flags :=
  congrArg Held.buttons (hid.held_hidAbsolute x y width height flags)

theorem buttons_hidRelative (hid : HidState) (x y : Int16) (buttons : UInt8) :
    (hid.hidRelative x y buttons).2.input.buttons = buttons &&& hidTouchButtonsMask :=
  congrArg Held.buttons (hid.held_hidRelative x y buttons)

theorem buttons_hidWheel (hid : HidState) (flags : UInt16) :
    (hid.hidWheel flags).2.input.buttons = hid.input.buttons :=
  congrArg Held.buttons (hid.held_hidWheel flags)

theorem buttons_hidReleaseAll (hid : HidState) : hid.hidReleaseAll.input.buttons = 0 := by
  rw [input_hidReleaseAll]
  rfl

theorem buttons_hidSynchronize (hid : HidState) : hid.hidSynchronize.2.input.buttons = 0 := by
  rw [input_hidSynchronize]
  rfl

end HidState

end NanokvmRdp.Hid
