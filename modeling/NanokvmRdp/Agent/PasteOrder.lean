import NanokvmRdp.Agent.Settled
import NanokvmRdp.Hid.TypedText

/-!
# The order of clipboard pastes

A character without keys is pasted: its payload is written to the clipboard and
then Command+V is struck. A text that was accepted is from then on part of the
keyboard stream, where each payload stands right before its own Command+V and
after every report of the characters before it. Later flushes write the stream
from its front, so this is the order of the writes, at whatever time each of
them happens. In no state of the agent a pointer report is marked, so nothing
else is written to the clipboard.
-/

namespace NanokvmRdp.Hid

-- ---------------------------------------------------------------------------
-- The payload of a character
-- ---------------------------------------------------------------------------

def quotedPayload (c : Char) : List UInt8 := 0x27 :: String.utf8EncodeChar c ++ [0x27, 0x0a]

theorem escapePaste_of_le {payload encoded : List UInt8} (h : ∀ byte ∈ encoded, 0x80 ≤ byte.toNat)
    (room : payload.length + encoded.length < 32) :
    escapePaste payload encoded = some (payload ++ encoded) := by
  induction encoded generalizing payload with
  | nil => rw [escapePaste, List.append_nil]
  | cons byte encoded ih =>
    rw [List.forall_mem_cons] at h
    rw [List.length_cons] at room
    have hplain : ¬ (byte = 0x27 ∨ byte = 0x5c) := by
      rintro (rfl | rfl) <;> exact absurd h.1 (by decide)
    have hroom : (payload ++ [byte]).length + encoded.length < 32 := by
      rw [List.length_append, List.length_singleton]
      omega
    rw [escapePaste, if_neg hplain, if_neg (by omega), ih h.2 hroom, List.append_assoc,
      List.singleton_append]

theorem pastePayload_char {c : Char} (h : 0x7f < c.toNat) :
    pastePayload c.val = some (quotedPayload c) := by
  have hsize : (String.utf8EncodeChar c).length ≤ 4 := by
    rw [String.length_utf8EncodeChar]
    exact c.utf8Size_le_four
  have hescape : escapePaste [0x27] (String.utf8EncodeChar c) =
      some ([0x27] ++ String.utf8EncodeChar c) :=
    escapePaste_of_le (fun _ => (Utf8.form_encode _).le_toNat h) (by
      rw [List.length_singleton]
      omega)
  have hfits : ¬ (([0x27] ++ String.utf8EncodeChar c).length + 2 > 32) := by
    rw [List.length_append, List.length_singleton]
    omega
  simp only [pastePayload, utf8Encode_char, hescape, Option.bind_eq_bind, Option.bind_some,
    if_neg hfits]
  rfl

-- ---------------------------------------------------------------------------
-- The writes of a text
-- ---------------------------------------------------------------------------

def UsbEvent.pastes : UsbEvent → Bool
  | .wrote .paste _ => true
  | _ => false

def isPasted (c : Char) : Bool := (codepointKeys c.val).isNone

def pasteWrite (c : Char) : UsbEvent := .wrote .paste (quotedPayload c)

def keyWrite (bytes : List UInt8) : UsbEvent := .wrote (.endpoint .keyboard) bytes

/-- The taps of the character's keys; or the clipboard, Command+V and its release. -/
def characterWrites (c : Char) : List UsbEvent :=
  match codepointKeys c.val with
  | some strokes => strokes.flatMap fun key =>
      [keyWrite (keyBytes key.modifier key.usage), keyWrite releasedBytes]
  | none => [pasteWrite c, keyWrite (keyBytes 0x08 0x19), keyWrite releasedBytes]

def HidInput.shortcutWrites (input : HidInput) (key : HidTextKey) : List UsbEvent :=
  (input.tap key).map fun report => keyWrite report.2

def HidInput.textWrites (input : HidInput) (chars : List Char) : List UsbEvent :=
  match input.shortcut (chars.flatMap String.utf8EncodeChar) with
  | some key => input.shortcutWrites key
  | none => keyWrite releasedBytes :: chars.flatMap characterWrites

theorem events_unmarked (bytes : List UInt8) : (KeyEntry.mk 0 bytes).events = [keyWrite bytes] := rfl

theorem HidInput.tapEntries_events (input : HidInput) (hmark : input.keyboardPasteCodepoint = 0)
    (key : HidTextKey) :
    (input.tapEntries key).flatMap KeyEntry.events = input.shortcutWrites key := by
  have hpress : (input.press key).keyboardPasteCodepoint = 0 := hmark
  simp only [tapEntries, entry, hmark, hpress, List.flatMap_cons, List.flatMap_nil, events_unmarked]
  rfl

theorem events_marked {c : Char} (h : 0x7f < c.toNat) (bytes : List UInt8) :
    (KeyEntry.mk c.val bytes).events = [pasteWrite c, keyWrite bytes] := by
  have hmarked : c.val ≠ 0 := by
    rintro hzero
    rw [Char.toNat, hzero] at h
    exact absurd h (by decide)
  simp only [KeyEntry.events, if_neg hmarked, pastePayload_char h, Option.getD_some]
  rfl

theorem characterEntries_events {c : Char} (h : isPasted c = true → 0x7f < c.toNat) :
    (characterEntries 0 c.val).flatMap KeyEntry.events = characterWrites c := by
  rw [isPasted] at h
  unfold characterEntries characterWrites
  generalize codepointKeys c.val = found at h ⊢
  cases found with
  | some strokes =>
    simp only [List.flatMap_assoc]
    rfl
  | none =>
    have hmarked := events_marked (h rfl) (keyBytes 0x08 0x19)
    simp only [pasteTap, List.flatMap_cons, List.flatMap_nil, List.append_nil, hmarked,
      events_unmarked]
    rfl

theorem textEntries_events {chars : List Char} (h : ∀ c ∈ chars, isPasted c = true → 0x7f < c.toNat) :
    (chars.flatMap fun c => characterEntries 0 c.val).flatMap KeyEntry.events =
      chars.flatMap characterWrites := by
  induction chars with
  | nil => rfl
  | cons c chars ih =>
    rw [List.forall_mem_cons] at h
    rw [List.flatMap_cons, List.flatMap_append, ih h.2, characterEntries_events h.1,
      List.flatMap_cons]

theorem pastes_of_mem_keys {strokes : List HidTextKey} :
    (strokes.flatMap fun key => [keyWrite (keyBytes key.modifier key.usage),
      keyWrite releasedBytes]).filter UsbEvent.pastes = [] := by
  rw [List.filter_eq_nil_iff]
  intro event hevent
  obtain ⟨key, -, hkey⟩ := List.mem_flatMap.mp hevent
  simp only [List.mem_cons, List.not_mem_nil, or_false] at hkey
  rcases hkey with rfl | rfl <;> exact Bool.false_ne_true

theorem pastes_characterWrites (c : Char) : (characterWrites c).filter UsbEvent.pastes =
    if isPasted c then [pasteWrite c] else [] := by
  unfold characterWrites isPasted
  cases codepointKeys c.val with
  | some strokes => exact pastes_of_mem_keys
  | none => rfl

/-- A text writes the payloads of its pasted characters, in their order, and no other. -/
theorem pastes_flatMap_characterWrites (chars : List Char) :
    (chars.flatMap characterWrites).filter UsbEvent.pastes =
      (chars.filter isPasted).map pasteWrite := by
  induction chars with
  | nil => rfl
  | cons c chars ih =>
    rw [List.flatMap_cons, List.filter_append, ih, pastes_characterWrites, List.filter_cons]
    split <;> rfl

theorem characterWrites_of_pasted {c : Char} (h : isPasted c = true) : characterWrites c =
    [pasteWrite c, keyWrite (keyBytes 0x08 0x19), keyWrite releasedBytes] := by
  rw [characterWrites, Option.isNone_iff_eq_none.mp h]

theorem pastes_textWrites {input : HidInput} {chars : List Char}
    (h : input.shortcut (chars.flatMap String.utf8EncodeChar) ≠ none →
      ∀ c ∈ chars, isPasted c = false) :
    (input.textWrites chars).filter UsbEvent.pastes = (chars.filter isPasted).map pasteWrite := by
  unfold HidInput.textWrites
  generalize input.shortcut (chars.flatMap String.utf8EncodeChar) = shortcut at h ⊢
  cases shortcut with
  | none => exact pastes_flatMap_characterWrites chars
  | some key =>
    have hkeys : chars.filter isPasted = [] := List.filter_eq_nil_iff.mpr fun c hc => by
      rw [h (Option.some_ne_none key) c hc]
      exact Bool.false_ne_true
    rw [hkeys]
    rfl

-- ---------------------------------------------------------------------------
-- The stream of an accepted text
-- ---------------------------------------------------------------------------

theorem asciiToHid_ascii (character : UInt8) (h : (asciiToHid character).isSome) :
    character.toNat ≤ 0x7f := by
  have htable : ∀ n : Fin 256, (asciiToHid (UInt8.ofNat n)).isSome → n.val ≤ 0x7f := by decide +kernel
  have hentry := htable ⟨character.toNat, character.toNat_lt⟩
  rw [UInt8.ofNat_toNat] at hentry
  exact hentry h

theorem exists_char_of_shortcut {input : HidInput} {text : List UInt8}
    (h : input.shortcut text = some key) :
    ∃ c : Char, text = String.utf8EncodeChar c ∧ isPasted c = false := by
  have hkey : HidState.shortcutKey text = some key := by
    rw [HidInput.shortcut] at h
    split at h
    · exact h
    · cases h
  unfold HidState.shortcutKey at hkey
  split at hkey
  · rename_i character
    have hascii := asciiToHid_ascii character (hkey ▸ rfl)
    obtain ⟨c, hval, htext⟩ := utf8Decode_sound (utf8Decode_one (Nat.lt_succ_of_le hascii) [])
    rw [List.append_nil] at htext
    have hle : c.val ≤ 0x7f := by
      rw [hval, UInt32.le_iff_toNat_le, UInt8.toNat_toUInt32]
      exact hascii
    refine ⟨c, htext, ?_⟩
    rw [isPasted, codepointKeys_ascii hle, hval, UInt8.toUInt8_toUInt32, hkey]
    rfl
  · cases hkey

namespace HidState

theorem steady_false : Steady fun _ => False where
  congr h _ _ := h
  send h := h.elim

theorem endText_of_accepted {result : Bool × HidState} (h : (endText result).1 = true) :
    result.1 = true ∧ (endText result).2.stream = result.2.stream ∧
      (endText result).2.queues = result.2.queues := by
  obtain ⟨ok, hid⟩ := result
  cases ok with
  | false => cases h
  | true => exact ⟨rfl, rfl, rfl⟩

/-- The text is a sequence of characters whose writes are put at the end of the stream. -/
def AppendsText (hid : HidState) (text : List UInt8) (hid' : HidState) : Prop :=
  ∃ chars : List Char, text = chars.flatMap String.utf8EncodeChar ∧
    hid'.stream = hid.stream ++ hid.input.textWrites chars ∧
    (hid'.queues .pointer).reports.toList <:+ (hid.queues .pointer).reports.toList ∧
    (hid.input.shortcut text ≠ none → ∀ c ∈ chars, isPasted c = false)

theorem appendsText_shortcut {hid : HidState} {text : List UInt8}
    (hmark : hid.input.keyboardPasteCodepoint = 0) (hshortcut : hid.input.shortcut text = some key)
    (hok : (endText ((hid.setKeyboardDelay 20).tapTextKey key)).1 = true) :
    hid.AppendsText text (endText ((hid.setKeyboardDelay 20).tapTextKey key)).2 := by
  obtain ⟨c, rfl, hkeys⟩ := exists_char_of_shortcut hshortcut
  obtain ⟨htapped, hstream, hqueues⟩ := endText_of_accepted hok
  have htap := strokes_tapTextKey steady_false (hid.setKeyboardDelay 20) key
  refine ⟨[c], (List.flatMap_singleton _ _).symm, ?_, ?_, ?_⟩
  · rw [HidInput.textWrites, List.flatMap_singleton, hshortcut]
    simp only
    rw [hstream, htap.stream htapped]
    exact congrArg (hid.stream ++ ·) (hid.input.tapEntries_events hmark key)
  · rw [hqueues]
    exact htap.pointer
  · intro _ d hd
    rw [List.mem_singleton.mp hd]
    exact hkeys

theorem appendsText_fresh {hid : HidState} {text : List UInt8}
    (hmark : hid.input.keyboardPasteCodepoint = 0) (hshortcut : hid.input.shortcut text = none)
    (hok : (endText (onSuccess ((hid.setKeyboardDelay 20).resetKeyboardState false).sendKeyboard
      fun hid => typeText text.length hid text)).1 = true) :
    hid.AppendsText text
      (endText (onSuccess ((hid.setKeyboardDelay 20).resetKeyboardState false).sendKeyboard
        fun hid => typeText text.length hid text)).2 := by
  obtain ⟨htyped, hstream, hqueues⟩ := endText_of_accepted hok
  have hfirst : (typeText text.length
      ((hid.setKeyboardDelay 20).resetKeyboardState false).sendKeyboard.2 text).1 = true := by
    generalize ((hid.setKeyboardDelay 20).resetKeyboardState false).sendKeyboard = sent at htyped
    obtain ⟨ok, mid⟩ := sent
    cases ok with
    | false => cases htyped
    | true => exact htyped
  obtain ⟨chars, rfl, hchars⟩ := exists_chars_of_typeText (Nat.le_refl _) hfirst
  have hneutral : ((hid.setKeyboardDelay 20).resetKeyboardState false).input.Neutral := ⟨rfl, rfl⟩
  have hfresh : Strokes _ _ _ _ _ (onSuccess _ fun hid => typeText _ hid _) :=
    strokes_freshText steady_false hneutral (.inr hmark)
      (Nat.le_refl (chars.flatMap String.utf8EncodeChar).length)
  refine ⟨chars, rfl, ?_, ?_, fun hsome => absurd hshortcut hsome⟩
  · rw [HidInput.textWrites, hshortcut]
    simp only
    rw [hstream, hfresh.stream htyped, List.flatMap_cons]
    have hentries := textEntries_events fun c hc hpasted =>
      UInt32.lt_iff_toNat_lt.mp (hchars c hc (Option.isNone_iff_eq_none.mp hpasted))
    have hreset : ((hid.setKeyboardDelay 20).resetKeyboardState false).input.keyboardPasteCodepoint =
        0 := hmark
    rw [hreset, hentries]
    rfl
  · rw [hqueues]
    exact hfresh.pointer

theorem appendsText_hidTypeUtf8 {hid : HidState} {text : List UInt8}
    (hmark : hid.input.keyboardPasteCodepoint = 0) (hok : (hid.hidTypeUtf8 text).1 = true) :
    hid.AppendsText text (hid.hidTypeUtf8 text).2 := by
  have hne : text ≠ [] := by
    rintro rfl
    cases hok
  rw [hidTypeUtf8_eq hid hne] at hok ⊢
  cases hshortcut : hid.input.shortcut text with
  | some key =>
    rw [hshortcut] at hok
    exact appendsText_shortcut hmark hshortcut hok
  | none =>
    rw [hshortcut] at hok
    exact appendsText_fresh hmark hshortcut hok

-- ---------------------------------------------------------------------------
-- Later flushes
-- ---------------------------------------------------------------------------

/-- Any number of calls of `hid_flush`, each at a time of its own. -/
def hidFlushes : Nat → HidState → HidState
  | 0, hid => hid
  | n + 1, hid => hidFlushes n hid.hidFlush.2

theorem Quiet.stream (h : Quiet hid hid') : hid'.stream = hid.stream := by
  simp only [HidState.stream, typedTrace, keyEntries, h.trace, h.queues]

theorem Quiet.pointerUnmarked (h : Quiet hid hid') (hunmarked : hid.PointerUnmarked) :
    hid'.PointerUnmarked := by
  rw [PointerUnmarked, h.queues]
  exact hunmarked

theorem stream_hidFlush {hid : HidState} (h : hid.PointerUnmarked) :
    hid.hidFlush.2.stream = hid.stream ∧ hid.hidFlush.2.PointerUnmarked := by
  have hdrain := quiet_drainKeyboardFeedback hid
  have hkeyboard := flushReports_passes hid.drainKeyboardFeedback
  have hunmarked := (hdrain.pointerUnmarked h).passes hkeyboard
  have hpointer := flushReports_pointer_passes _ hunmarked
  have hdesynced := quiet_noteDesynced
    ((hid.drainKeyboardFeedback.flushReports .keyboard).2.flushReports .pointer).2
  constructor
  · calc hid.hidFlush.2.stream
      _ = _ := hdesynced.stream
      _ = _ := hpointer.stream
      _ = hid.drainKeyboardFeedback.stream := hkeyboard.stream
      _ = hid.stream := hdrain.stream
  · exact hdesynced.pointerUnmarked (hunmarked.passes hpointer)

theorem stream_hidFlushes {hid : HidState} (h : hid.PointerUnmarked) (n : Nat) :
    (hidFlushes n hid).stream = hid.stream := by
  induction n generalizing hid with
  | zero => rfl
  | succ n ih =>
    obtain ⟨hstream, hunmarked⟩ := stream_hidFlush h
    rw [hidFlushes, ih hunmarked, hstream]

/-- What has been written is the front of the stream, and all of it once nothing is pending. -/
theorem typedTrace_of_stream (hid : HidState) : hid.typedTrace <+: hid.stream ∧
    (hid.count .keyboard = 0 → hid.typedTrace = hid.stream) := by
  refine ⟨List.prefix_append _ _, fun hempty => ?_⟩
  have hnone : hid.keyEntries = [] := by
    rw [keyEntries, List.map_eq_nil_iff, ← List.length_eq_zero_iff, RingBuffer.length_toList]
    exact hempty
  rw [stream, hnone, List.flatMap_nil, List.append_nil]

/-- The clipboard is for keyboard reports only, whatever is queued and flushed. -/
theorem closed_pointerUnmarked : Closed PointerUnmarked where
  congr h hqueues := by
    rw [PointerUnmarked, hqueues]
    exact h
  queueReport h e payload motion delayMs := (queueReport_errors _ h e payload motion delayMs).1
  flushReports h q := by
    obtain ⟨ok, hpasses⟩ := exists_passes _ h q
    exact h.passes hpasses
  cleared _ _ hreport := by cases hreport

theorem typedTrace_hidTypeUtf8 {hid : HidState} {text : List UInt8}
    (hmark : hid.input.keyboardPasteCodepoint = 0) (hpointer : hid.PointerUnmarked)
    (haccepted : (hid.hidTypeUtf8 text).1 = true) :
    ∃ chars : List Char, text = chars.flatMap String.utf8EncodeChar ∧
      (hid.input.shortcut text ≠ none → ∀ c ∈ chars, isPasted c = false) ∧
      ∀ n, (hidFlushes n (hid.hidTypeUtf8 text).2).typedTrace <+:
          hid.stream ++ hid.input.textWrites chars ∧
        ((hidFlushes n (hid.hidTypeUtf8 text).2).count .keyboard = 0 →
          (hidFlushes n (hid.hidTypeUtf8 text).2).typedTrace =
            hid.stream ++ hid.input.textWrites chars) := by
  obtain ⟨chars, htext, hstream, hsuffix, hshortcut⟩ := appendsText_hidTypeUtf8 hmark haccepted
  have hunmarked : (hid.hidTypeUtf8 text).2.PointerUnmarked :=
    fun report hreport => hpointer report (hsuffix.mem hreport)
  refine ⟨chars, htext, hshortcut, fun n => ?_⟩
  have htrace := typedTrace_of_stream (hidFlushes n (hid.hidTypeUtf8 text).2)
  rwa [stream_hidFlushes hunmarked n, hstream] at htrace

end HidState

/-- After a text that any state of the agent accepts, the keyboard and the clipboard are written
in one order, however the flushes fall: what was pending before, and then for each pasted character
its payload, Command+V and the release, after all reports of the characters before it. No other
payload is written. -/
theorem pastes_keep_order (config : HidConfig) (kernel : Nat → Answer) (history : List AgentEvent)
    (hid : HidState) (hhid : hid = ((Agent.start config kernel).run history).hid) (text : List UInt8)
    (haccepted : (hid.hidTypeUtf8 text).1 = true) :
    ∃ chars : List Char, text = chars.flatMap String.utf8EncodeChar ∧
      (∀ n, (HidState.hidFlushes n (hid.hidTypeUtf8 text).2).typedTrace <+:
          hid.stream ++ hid.input.textWrites chars ∧
        ((HidState.hidFlushes n (hid.hidTypeUtf8 text).2).count .keyboard = 0 →
          (HidState.hidFlushes n (hid.hidTypeUtf8 text).2).typedTrace =
            hid.stream ++ hid.input.textWrites chars)) ∧
      (hid.input.textWrites chars).filter UsbEvent.pastes =
        (chars.filter isPasted).map pasteWrite ∧
      ∀ before c after, chars = before ++ c :: after → isPasted c = true →
        hid.input.textWrites chars =
          keyWrite releasedBytes :: before.flatMap characterWrites ++
            [pasteWrite c, keyWrite (keyBytes 0x08 0x19), keyWrite releasedBytes] ++
            after.flatMap characterWrites := by
  have hsettled := Agent.settled_run HidState.closed_pointerUnmarked config kernel history
  rw [← hhid] at hsettled
  obtain ⟨chars, rfl, hshortcut, hwritten⟩ :=
    HidState.typedTrace_hidTypeUtf8 hsettled.unmarked hsettled.queues haccepted
  refine ⟨chars, rfl, hwritten, pastes_textWrites hshortcut, ?_⟩
  rintro before c after rfl hpasted
  have hnone : hid.input.shortcut ((before ++ c :: after).flatMap String.utf8EncodeChar) = none := by
    by_contra hsome
    have hkeys := hshortcut hsome c (List.mem_append_right before List.mem_cons_self)
    exact absurd (hkeys.symm.trans hpasted) Bool.false_ne_true
  rw [HidInput.textWrites, hnone, ← characterWrites_of_pasted hpasted]
  simp only [List.flatMap_append, List.flatMap_cons, List.cons_append, List.append_assoc]

theorem pastes_keep_order_start : ∃ chars : List Char,
    [0x61, 0xc3, 0xa9, 0x62] = chars.flatMap String.utf8EncodeChar ∧
      ∀ n, (HidState.hidFlushes n ((Agent.start {} fun _ => {}).hid.hidTypeUtf8
          [0x61, 0xc3, 0xa9, 0x62]).2).typedTrace <+:
        (Agent.start {} fun _ => {}).hid.stream ++
          (Agent.start {} fun _ => {}).hid.input.textWrites chars := by
  obtain ⟨chars, htext, hwritten, -⟩ := pastes_keep_order {} (fun _ => {}) []
    (Agent.start {} fun _ => {}).hid rfl [0x61, 0xc3, 0xa9, 0x62] (by decide +kernel)
  exact ⟨chars, htext, fun n => (hwritten n).1⟩

end NanokvmRdp.Hid
