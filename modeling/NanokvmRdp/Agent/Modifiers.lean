import NanokvmRdp.Agent.Buttons

/-!
# The modifiers the agent holds

What each control message does to `hid.modifiers`. A key sets or clears the bit
of its modifier, a text leaves what was held or nothing, and a message that is
not delivered leaves nothing held at all.
-/

namespace NanokvmRdp

open Hid Protocol

namespace Hid

-- ---------------------------------------------------------------------------
-- Typing puts the modifiers back
-- ---------------------------------------------------------------------------

def Leaves (modifiers : UInt8) (result : Bool × HidState) : Prop :=
  result.1 = true → result.2.input.modifiers = modifiers

theorem leaves_failed (modifiers : UInt8) (hid : HidState) : Leaves modifiers (false, hid) :=
  fun hok => absurd hok Bool.false_ne_true

theorem Leaves.onSuccess {modifiers after : UInt8} {result : Bool × HidState}
    {rest : HidState → Bool × HidState} (h : Leaves modifiers result)
    (hrest : ∀ hid : HidState, hid.input.modifiers = modifiers → Leaves after (rest hid)) :
    Leaves after (onSuccess result rest) := by
  obtain ⟨ok, hid⟩ := result
  cases ok with
  | true => exact hrest hid (h rfl)
  | false => exact leaves_failed _ _

theorem leaves_sendKeyboard (hid : HidState) : Leaves hid.input.modifiers hid.sendKeyboard := by
  intro _
  rw [HidState.input_sendKeyboard]

namespace HidState

theorem leaves_tapTextKey (hid : HidState) (key : HidTextKey) :
    Leaves hid.input.modifiers (hid.tapTextKey key) := by
  unfold tapTextKey
  refine Leaves.onSuccess (leaves_sendKeyboard _) fun hid' _ => ?_
  exact leaves_sendKeyboard (hid'.setInput _)

theorem leaves_typeAsciiSequence (hid : HidState) (text : List UInt8) :
    Leaves hid.input.modifiers (hid.typeAsciiSequence text) := by
  induction text generalizing hid with
  | nil => exact fun _ => rfl
  | cons character text ih =>
    rw [typeAsciiSequence]
    cases asciiToHid character with
    | none => exact leaves_failed _ _
    | some key =>
      refine (hid.leaves_tapTextKey key).onSuccess fun hid' hsame => ?_
      rw [← hsame]
      exact ih hid'

theorem leaves_typeCodepoint (hid : HidState) (codepoint : UInt32) :
    Leaves hid.input.modifiers (hid.typeCodepoint codepoint) := by
  unfold typeCodepoint
  split
  · exact hid.leaves_tapTextKey _
  · split
    · rename_i lead vowel trail _
      refine (hid.leaves_typeAsciiSequence lead).onSuccess fun hid' hsame => ?_
      rw [← hsame]
      refine (hid'.leaves_typeAsciiSequence vowel).onSuccess fun hid'' hsame' => ?_
      rw [← hsame']
      exact hid''.leaves_typeAsciiSequence trail
    · split
      · exact hid.leaves_typeAsciiSequence _
      · exact leaves_failed _ _

theorem leaves_pasteCodepoint (hid : HidState) (codepoint : UInt32) :
    Leaves hid.input.modifiers (hid.pasteCodepoint codepoint) := by
  unfold pasteCodepoint
  split
  · exact leaves_failed _ _
  · simp only
    split
    · exact leaves_failed _ _
    · intro _
      rw [input_sendKeyboard]
      rfl

theorem leaves_typeOrPaste (hid : HidState) (codepoint : UInt32) :
    Leaves hid.input.modifiers (hid.typeOrPaste codepoint) := by
  unfold typeOrPaste
  split
  · exact hid.leaves_typeCodepoint codepoint
  · exact hid.leaves_pasteCodepoint codepoint

theorem leaves_typeText (fuel : Nat) (hid : HidState) (text : List UInt8) :
    Leaves hid.input.modifiers (typeText fuel hid text) := by
  induction fuel generalizing hid text with
  | zero => cases text <;> exact fun _ => rfl
  | succ fuel ih =>
    cases text with
    | nil => exact fun _ => rfl
    | cons first text =>
      rw [typeText]
      · split
        · exact leaves_failed _ _
        · refine (hid.leaves_typeOrPaste _).onSuccess fun hid' hsame => ?_
          rw [← hsame]
          exact ih hid' _
      · exact List.cons_ne_nil first text

theorem leaves_endText {modifiers : UInt8} {result : Bool × HidState}
    (h : Leaves modifiers result) : Leaves modifiers (endText result) := by
  obtain ⟨ok, hid⟩ := result
  cases ok with
  | true => exact h
  | false => exact leaves_failed _ _

/-- A text that is typed keeps the modifiers for a shortcut, and drops them for
any other text. -/
theorem modifiers_hidTypeUtf8 {hid : HidState} {text : List UInt8}
    (hok : (hid.hidTypeUtf8 text).1 = true) :
    (hid.hidTypeUtf8 text).2.input.modifiers = hid.input.modifiers ∨
      (hid.hidTypeUtf8 text).2.input.modifiers = 0 := by
  unfold hidTypeUtf8 at hok ⊢
  split
  · exact .inl rfl
  · rename_i hnonempty
    rw [if_neg hnonempty] at hok
    simp only at hok ⊢
    split
    · rename_i shortcut hshortcut
      rw [hshortcut] at hok
      exact .inl (leaves_endText (leaves_tapTextKey _ shortcut) hok)
    · rename_i hnone
      rw [hnone] at hok
      refine .inr (leaves_endText ?_ hok)
      refine (leaves_sendKeyboard (resetKeyboardState _ false)).onSuccess fun hid' hsame => ?_
      have htext := leaves_typeText text.length hid' text
      rwa [hsame] at htext

-- ---------------------------------------------------------------------------
-- The other operations
-- ---------------------------------------------------------------------------

def scannedModifiers (code : UInt8) (extended release : Bool) (modifiers : UInt8) : UInt8 :=
  match hidTranslateScancode code extended with
  | none => modifiers
  | some key =>
    if key.modifier = 0 then modifiers
    else if decide (modifiers &&& key.modifier ≠ 0) = !release then modifiers
    else if release then modifiers &&& ~~~key.modifier
    else modifiers ||| key.modifier

theorem modifiers_hidScancode (hid : HidState) (code : UInt8) (extended release : Bool) :
    (hid.hidScancode code extended release).2.input.modifiers =
      scannedModifiers code extended release hid.input.modifiers := by
  unfold hidScancode scannedModifiers
  cases hidTranslateScancode code extended with
  | none => rfl
  | some key =>
    simp only
    by_cases hmodifier : key.modifier = 0
    · rw [if_pos hmodifier]
      split
      · rfl
      · rw [input_sendKeyboard]
        simp [setInput, HidInput.setKey, hmodifier]
    · rw [if_neg hmodifier]
      simp only [HidInput.holds, if_pos hmodifier]
      split
      · rfl
      · rw [input_sendKeyboard]
        simp [setInput, HidInput.setKey, hmodifier]

theorem modifiers_hidAbsolute (hid : HidState) (x y : UInt16) (width height : UInt32)
    (flags : UInt16) :
    (hid.hidAbsolute x y width height flags).2.input.modifiers = hid.input.modifiers :=
  congrArg Held.modifiers (hid.held_hidAbsolute x y width height flags)

theorem modifiers_hidRelative (hid : HidState) (x y : Int16) (buttons : UInt8) :
    (hid.hidRelative x y buttons).2.input.modifiers = hid.input.modifiers :=
  congrArg Held.modifiers (hid.held_hidRelative x y buttons)

theorem modifiers_hidWheel (hid : HidState) (flags : UInt16) :
    (hid.hidWheel flags).2.input.modifiers = hid.input.modifiers :=
  congrArg Held.modifiers (hid.held_hidWheel flags)

theorem modifiers_hidReleaseAll (hid : HidState) : hid.hidReleaseAll.input.modifiers = 0 := by
  rw [input_hidReleaseAll]
  rfl

theorem modifiers_hidSynchronize (hid : HidState) :
    hid.hidSynchronize.2.input.modifiers = 0 := by
  rw [input_hidSynchronize]
  rfl

end HidState

end Hid

-- ---------------------------------------------------------------------------
-- Messages
-- ---------------------------------------------------------------------------

namespace Agent

def keyModifiers (modifiers : UInt8) : List UInt8 → UInt8
  | [code, extended, release] =>
    HidState.scannedModifiers code (extended != 0) (release != 0) modifiers
  | [code, extended, release, _, _, _, _] =>
    HidState.scannedModifiers code (extended != 0) (release != 0) modifiers
  | _ => modifiers

/-- The modifiers held after a message other than text that is delivered. -/
def modifiersAfter (message : ControlMessage) (modifiers : UInt8) : UInt8 :=
  match ControlType.ofCode? message.type with
  | some .key => keyModifiers modifiers message.payload
  | some .releaseAll | some .synchronize | some .stopStream => 0
  | _ => modifiers

theorem modifiers_handleText {agent : Agent} {payload : List UInt8}
    (htext : payload ≠ [] → (agent.hid.hidTypeUtf8 payload).1 = true) :
    (agent.handleText payload).hid.input.modifiers = agent.hid.input.modifiers ∨
      (agent.handleText payload).hid.input.modifiers = 0 := by
  unfold handleText
  split
  · exact .inl rfl
  · rename_i hnonempty
    have hok := htext hnonempty
    have hmodifiers := HidState.modifiers_hidTypeUtf8 hok
    generalize agent.hid.hidTypeUtf8 payload = typed at hok hmodifiers ⊢
    obtain ⟨ok, hid⟩ := typed
    cases hok
    exact hmodifiers

theorem modifiers_handleKey (agent : Agent) (payload : List UInt8) :
    (agent.handleKey payload).2.hid.input.modifiers =
      keyModifiers agent.hid.input.modifiers payload := by
  unfold handleKey
  split
  · rw [hid_outcome, HidState.modifiers_hidScancode]
    rfl
  · simp only [hid_protocolSend, hid_outcome, HidState.modifiers_hidScancode]
    rfl
  · rename_i hshort hlong
    unfold keyModifiers
    split
    · exact absurd rfl (hshort _ _ _)
    · exact absurd rfl (hlong _ _ _ _ _ _ _)
    · rfl

theorem modifiers_dispatch {agent : Agent} {message : ControlMessage}
    (htext : ControlType.ofCode? message.type ≠ some .textUtf8) :
    (agent.dispatch message).2.hid.input.modifiers =
      modifiersAfter message agent.hid.input.modifiers := by
  unfold dispatch modifiersAfter
  split <;> try (rename_i htype; simp only [htype])
  · exact HidState.modifiers_hidReleaseAll agent.hid
  · exact modifiers_handleKey agent message.payload
  · exact absurd htype htext
  · unfold handlePointerAbs
    split
    · rw [hid_outcome, HidState.modifiers_hidAbsolute]
    · rfl
  · unfold handlePointerRel
    split
    · rw [hid_outcome, HidState.modifiers_hidRelative]
    · rfl
  · unfold handleWheel
    split
    · rw [hid_outcome, HidState.modifiers_hidWheel]
    · rfl
  · rw [hid_setHid, HidState.modifiers_hidReleaseAll]
  · rw [hid_outcome, HidState.modifiers_hidSynchronize]
  · rfl
  · rfl

theorem modifiers_handleControl {agent : Agent} {message : ControlMessage}
    (h : agent.delivers message = true)
    (htext : ControlType.ofCode? message.type ≠ some .textUtf8) :
    (agent.handleControl message).hid.input.modifiers =
      modifiersAfter message agent.hid.input.modifiers := by
  simp only [delivers, Bool.and_eq_true] at h
  simp only [handleControl, input_countInput, if_pos h.1]
  exact modifiers_dispatch htext

theorem modifiers_handleControl_text {agent : Agent} {message : ControlMessage}
    (h : agent.delivers message = true)
    (htext : ControlType.ofCode? message.type = some .textUtf8) :
    (agent.handleControl message).hid.input.modifiers = agent.hid.input.modifiers ∨
      (agent.handleControl message).hid.input.modifiers = 0 := by
  simp only [delivers, Bool.and_eq_true, Bool.or_eq_true, decide_eq_true_eq] at h
  obtain ⟨hok, htyped⟩ := h
  simp only [handleControl, input_countInput, if_pos hok]
  simp only [dispatch, htext]
  refine modifiers_handleText fun hnonempty => ?_
  rcases htyped with (hother | hempty) | htyped
  · exact absurd htext hother
  · exact absurd hempty hnonempty
  · exact htyped

def AtRest (agent : Agent) : Prop :=
  agent.hid.input.buttons = 0 ∧ agent.hid.input.modifiers = 0

theorem atRest_hidReleaseAll (agent : Agent) (hid : HidState) :
    (agent.setHid hid.hidReleaseAll).AtRest :=
  ⟨HidState.buttons_hidReleaseAll hid, HidState.modifiers_hidReleaseAll hid⟩

theorem atRest_start (config : HidConfig) (kernel : Nat → Answer) :
    (Agent.start config kernel).AtRest :=
  ⟨HidState.buttons_hidReleaseAll (hidInit config kernel),
    HidState.modifiers_hidReleaseAll (hidInit config kernel)⟩

theorem atRest_handleText {agent : Agent} {payload : List UInt8} (hnonempty : payload ≠ [])
    (hfailed : (agent.hid.hidTypeUtf8 payload).1 = false) : (agent.handleText payload).AtRest := by
  rw [handleText, if_neg hnonempty]
  generalize agent.hid.hidTypeUtf8 payload = typed at hfailed ⊢
  obtain ⟨ok, hid⟩ := typed
  cases hfailed
  exact agent.atRest_hidReleaseAll hid

theorem atRest_handleControl {agent : Agent} {message : ControlMessage}
    (h : agent.delivers message = false) : (agent.handleControl message).AtRest := by
  unfold AtRest
  simp only [handleControl, input_countInput]
  by_cases hok : ((agent.setHid agent.hid.now.2).dispatch message).1 = true
  · simp only [if_pos hok]
    simp only [delivers, hok, Bool.true_and, Bool.or_eq_false_iff, decide_eq_false_iff_not,
      ne_eq, not_not] at h
    obtain ⟨⟨htype, hnonempty⟩, hfailed⟩ := h
    simp only [dispatch, htype]
    exact atRest_handleText hnonempty hfailed
  · simp only [if_neg hok]
    exact atRest_hidReleaseAll _ _

theorem modifiers_pumpHid {agent : Agent} (h : agent.pumps = true) :
    agent.pumpHid.hid.input.modifiers = agent.hid.input.modifiers :=
  congrArg Held.modifiers (held_pumpHid h)

theorem atRest_pumpHid {agent : Agent} (h : agent.pumps = false) : agent.pumpHid.AtRest := by
  unfold pumps at h
  unfold pumpHid
  generalize agent.hid.hidFlush = flushed at h ⊢
  obtain ⟨ok, hid⟩ := flushed
  cases ok with
  | false => exact atRest_hidReleaseAll agent hid
  | true =>
    simp only [Bool.true_and] at h ⊢
    generalize hid.now.2.hidKeepalive hid.now.1 = kept at h ⊢
    obtain ⟨ok, hid'⟩ := kept
    cases h
    exact atRest_hidReleaseAll agent hid'

end Agent

end NanokvmRdp
