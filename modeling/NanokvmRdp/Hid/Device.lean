import NanokvmRdp.Hid.Queue

/-!
# The HID operations

The functions of `hid.c` that the agent calls. Each changes what is held and
queues reports; where the source gives up half-way the model does too, with
the state it has reached.
-/

namespace NanokvmRdp.Hid

-- ---------------------------------------------------------------------------
-- Flags and coordinates
-- ---------------------------------------------------------------------------

def ptrFlagsWheel : UInt16 := 0x0200
def ptrFlagsWheelNegative : UInt16 := 0x0100
def ptrFlagsHwheel : UInt16 := 0x0400
def ptrFlagsDown : UInt16 := 0x8000
def ptrFlagsButton1 : UInt16 := 0x1000
def ptrFlagsButton2 : UInt16 := 0x2000
def ptrFlagsButton3 : UInt16 := 0x4000
def ptrXflagsButton1 : UInt16 := 0x0001
def ptrXflagsButton2 : UInt16 := 0x0002
def wheelRotationMask : UInt16 := 0x01ff
def hidMouseButtonsMask : UInt8 := 0x07
def hidTouchButtonsMask : UInt8 := 0x1f

def hidScaleAbsolute (value : UInt16) (dimension : UInt32) : UInt16 :=
  if dimension ≤ 1 then 0x3fff
  else
    let scaled := value.toUInt32 * 0x7fff / (dimension - 1)
    let scaled := if scaled < 1 then 1 else scaled
    let scaled := if scaled > 0x7fff then 0x7fff else scaled
    scaled.toUInt16

def hidClampAbsolute (value dimension : UInt16) : UInt16 :=
  if dimension = 0 then 0 else if value < dimension then value else dimension - 1

def hidPointerFlagsFromExtended (flags : UInt16) : UInt16 :=
  flags &&& (ptrFlagsDown ||| ptrXflagsButton1 ||| ptrXflagsButton2)

/-- The flag of each USB button, with the bit of the button. -/
def buttonFlags : List (UInt16 × UInt8) := [
  (ptrFlagsButton1, 0x01), (ptrFlagsButton2, 0x02), (ptrFlagsButton3, 0x04),
  (ptrXflagsButton1, 0x08), (ptrXflagsButton2, 0x10)]

def hidPointerButtons (buttons : UInt8) (flags : UInt16) : UInt8 :=
  buttonFlags.foldl (fun buttons (flag, bit) =>
    if flags &&& flag ≠ 0 then
      if flags &&& ptrFlagsDown ≠ 0 then buttons ||| bit else buttons &&& ~~~bit
    else buttons) buttons

/-- The rotation is a signed 9-bit number; any rotation is at least one detent. -/
def wheelDetents (flags : UInt16) : Int :=
  let rotation := flags &&& wheelRotationMask
  let delta : Int :=
    if rotation &&& ptrFlagsWheelNegative ≠ 0 then rotation.toNat - 0x200 else rotation.toNat
  let detents := delta.tdiv 120
  if detents = 0 ∧ delta ≠ 0 then (if delta > 0 then 1 else -1) else detents

/-- The buttons that exist only on the absolute endpoint. -/
def touchButtons (buttons : UInt8) : UInt8 := buttons &&& 0x18

-- ---------------------------------------------------------------------------
-- Reports
-- ---------------------------------------------------------------------------

def allUsages : List UInt8 := (List.range 256).map UInt8.ofNat

def fillUsages (usages : UInt8 → Bool) : List UInt8 → Nat → List UInt8
  | [], _ => []
  | _, 0 => []
  | usage :: rest, room + 1 =>
    if usages usage then usage :: fillUsages usages rest room
    else fillUsages usages rest (room + 1)

theorem length_fillUsages_le (usages : UInt8 → Bool) (rest : List UInt8) (room : Nat) :
    (fillUsages usages rest room).length ≤ room := by
  induction rest generalizing room with
  | nil => simp [fillUsages]
  | cons usage rest ih =>
    cases room with
    | zero => simp [fillUsages]
    | succ room =>
      rw [fillUsages]
      split
      · simpa using ih room
      · exact ih (room + 1)

def zeroPadded (size : Nat) (bytes : List UInt8) : List UInt8 :=
  bytes ++ List.replicate (size - bytes.length) 0

def HidInput.keyboardReport (input : HidInput) : Payload where
  bytes := input.modifiers :: 0 :: zeroPadded 6 (fillUsages input.usages allUsages 6)
  pos := by simp
  le := by
    have := length_fillUsages_le input.usages allUsages 6
    simp [zeroPadded]
    omega

def HidInput.absoluteReport (input : HidInput) : Payload :=
  let report := [touchButtons input.buttons,
    input.lastX.toUInt8, (input.lastX >>> 8).toUInt8,
    input.lastY.toUInt8, (input.lastY >>> 8).toUInt8, input.wheel.toUInt8]
  { bytes := if input.absoluteReportLength.1 = 7 then report ++ [input.pan.toUInt8] else report
    pos := by split <;> simp [report]
    le := by split <;> simp [report] }

def HidInput.relativeReport (input : HidInput) (dx dy wheel : Int8) : Payload where
  bytes := [input.buttons &&& hidMouseButtonsMask, dx.toUInt8, dy.toUInt8, wheel.toUInt8]
  pos := by simp
  le := by simp

/-- The `mouse` array of `hid_synchronize`. -/
def neutralMouseReport : Payload where
  bytes := [0, 0, 0, 0]
  pos := by simp
  le := by simp

/-- `if (!f(hid)) return false;` followed by the rest of the function. -/
def onSuccess (result : Bool × HidState) (rest : HidState → Bool × HidState) : Bool × HidState :=
  match result with
  | (true, hid) => rest hid
  | (false, hid) => (false, hid)

namespace HidState

def setInput (hid : HidState) (input : HidInput) : HidState := { hid with input }

-- ---------------------------------------------------------------------------
-- Keyboard
-- ---------------------------------------------------------------------------

def noteDesynced (hid : HidState) : HidState :=
  { hid with keyboardDesynced := decide (0 < hid.count .keyboard) }

def sendKeyboard (hid : HidState) : Bool × HidState :=
  let queued := hid.queueReport .keyboard hid.input.keyboardReport false hid.input.keyboardDelayMs
  (queued.1, queued.2.noteDesynced)

end HidState

def HidInput.resetKeyboardState (input : HidInput) : HidInput :=
  { input with usages := fun _ => false, modifiers := 0 }

def HidInput.holds (input : HidInput) (key : ScanKey) : Bool :=
  if key.modifier ≠ 0 then decide (input.modifiers &&& key.modifier ≠ 0) else input.usages key.usage

def HidInput.setKey (input : HidInput) (key : ScanKey) (release : Bool) : HidInput :=
  if key.modifier ≠ 0 then
    { input with
      modifiers :=
        if release then input.modifiers &&& ~~~key.modifier else input.modifiers ||| key.modifier }
  else { input with usages := Function.update input.usages key.usage (!release) }

def HidInput.released (input : HidInput) : HidInput :=
  { input.resetKeyboardState with
    keyboardDelayMs := 0
    keyboardPasteCodepoint := 0
    buttons := 0
    mouseButtons := 0
    wheel := 0
    pan := 0 }

namespace HidState

def resetKeyboardState (hid : HidState) (desynced : Bool) : HidState :=
  { hid with input := hid.input.resetKeyboardState, keyboardDesynced := desynced }

def hidScancode (hid : HidState) (code : UInt8) (extended release : Bool) : Bool × HidState :=
  match hidTranslateScancode code extended with
  | none => (true, hid)
  | some key =>
    if hid.input.holds key = !release then (true, hid)
    else (hid.setInput (hid.input.setKey key release)).sendKeyboard

def tapTextKey (hid : HidState) (key : HidTextKey) : Bool × HidState :=
  let savedModifiers := hid.input.modifiers
  let savedUsage := hid.input.usages key.usage
  let pressed := hid.setInput { hid.input with
    modifiers := savedModifiers ||| key.modifier
    usages := Function.update hid.input.usages key.usage true }
  onSuccess pressed.sendKeyboard fun hid =>
    (hid.setInput { hid.input with
      modifiers := savedModifiers
      usages := Function.update hid.input.usages key.usage savedUsage }).sendKeyboard

def typeAsciiSequence (hid : HidState) : List UInt8 → Bool × HidState
  | [] => (true, hid)
  | character :: text =>
    match asciiToHid character with
    | none => (false, hid)
    | some key => onSuccess (hid.tapTextKey key) fun hid => hid.typeAsciiSequence text

def typeCodepoint (hid : HidState) (codepoint : UInt32) : Bool × HidState :=
  match if codepoint ≤ 0x7f then asciiToHid codepoint.toUInt8 else none with
  | some key => hid.tapTextKey key
  | none =>
    match codepointToHangulSequences codepoint with
    | some (lead, vowel, trail) =>
      onSuccess (hid.typeAsciiSequence lead) fun hid =>
        onSuccess (hid.typeAsciiSequence vowel) fun hid => hid.typeAsciiSequence trail
    | none =>
      match hangulJamoSequence codepoint with
      | some text => hid.typeAsciiSequence text
      | none => (false, hid)

/-- The report that carries Command+V also carries the character, for the
clipboard to be filled before it is sent. -/
def pasteCodepoint (hid : HidState) (codepoint : UInt32) : Bool × HidState :=
  if !hid.isOpen .paste then (false, hid)
  else
    let saved := hid.input.modifiers
    let pressed := hid.setInput { hid.input with
      usages := Function.update (fun _ => false) 0x19 true
      modifiers := 0x08
      keyboardPasteCodepoint := codepoint }
    let queued := pressed.sendKeyboard
    let hid := queued.2.setInput { queued.2.input with keyboardPasteCodepoint := 0 }
    if !queued.1 then (false, hid)
    else
      (hid.setInput { hid.input with
        usages := Function.update hid.input.usages 0x19 false
        modifiers := saved }).sendKeyboard

def typeOrPaste (hid : HidState) (codepoint : UInt32) : Bool × HidState :=
  if codepoint ≤ 0x7f ∨ (0xac00 ≤ codepoint ∧ codepoint ≤ 0xd7a3) ∨
      (hangulJamoSequence codepoint).isSome then hid.typeCodepoint codepoint
  else hid.pasteCodepoint codepoint

/-- The loop of `hid_type_utf8`; a character takes at least one byte. -/
def typeText : Nat → HidState → List UInt8 → Bool × HidState
  | _, hid, [] => (true, hid)
  | 0, hid, _ => (true, hid)
  | fuel + 1, hid, text =>
    match utf8Decode text with
    | none => (false, hid)
    | some (codepoint, rest) =>
      onSuccess (hid.typeOrPaste codepoint) fun hid => typeText fuel hid rest

-- ---------------------------------------------------------------------------
-- Pointer
-- ---------------------------------------------------------------------------

/-- Pure motion goes out at once if nothing of the pointer is on its way. -/
def writeAbsoluteNow (hid : HidState) (report : Payload) : Bool × HidState :=
  if hid.count .pointer ≠ 0 ∨ (hid.queues .pointer).inflightEndpoint ≠ none ∨
      !hid.isOpen (.endpoint .touch) then (false, hid)
  else
    match hid.write (.endpoint .touch) report.bytes with
    | (.complete, hid) =>
      (true, { hid with
        submittedState := Function.update hid.submittedState .touch (report.bytes.headD 0)
        stats.reportsSent := hid.stats.reportsSent + 1 })
    | (_, hid) => (false, hid)

/-- Wheel and pan are deltas, so they are cleared once queued. -/
def queueAbsolute (hid : HidState) (report : Payload) (motion : Bool) : Bool × HidState :=
  let queued := hid.queueReport .touch report motion 0
  (queued.1, queued.2.setInput { hid.input with wheel := 0, pan := 0 })

def sendAbsolute (hid : HidState) (motion : Bool) : Bool × HidState :=
  let report := hid.input.absoluteReport
  let pureMotion := motion && hid.input.wheel == 0 && hid.input.pan == 0
  if pureMotion then
    match hid.writeAbsoluteNow report with
    | (true, hid) => (true, hid)
    | (false, hid) => hid.queueAbsolute report true
  else hid.queueAbsolute report false

def sendRelative (hid : HidState) (dx dy wheel : Int8) : Bool × HidState :=
  hid.queueReport .mouse (hid.input.relativeReport dx dy wheel) false 0

def hidAbsolute (hid : HidState) (x y : UInt16) (width height : UInt32) (flags : UInt16) :
    Bool × HidState :=
  let previous := hid.input.buttons
  let buttons := hidPointerButtons hid.input.buttons flags
  let moved := hid.setInput { hid.input with
    buttons := buttons
    mouseButtons := buttons
    lastX := hidScaleAbsolute x width
    lastY := hidScaleAbsolute y height }
  let motion := flags &&& (ptrFlagsButton1 ||| ptrFlagsButton2 ||| ptrFlagsButton3 |||
    ptrXflagsButton1 ||| ptrXflagsButton2) == 0
  onSuccess (moved.sendAbsolute motion) fun hid =>
    if (previous ^^^ hid.input.buttons) &&& hidMouseButtonsMask = 0 then (true, hid)
    else hid.sendRelative 0 0 0

def clampDelta (x : Int) : Int := if x > 127 then 127 else if x < -127 then -127 else x

/-- The loop of `hid_relative`; each turn takes something off `x` or `y`. -/
def moveRelative : Nat → HidState → Int → Int → Bool × HidState
  | 0, hid, _, _ => (true, hid)
  | fuel + 1, hid, x, y =>
    if x = 0 ∧ y = 0 then (true, hid)
    else
      onSuccess (hid.sendRelative (Int8.ofInt (clampDelta x)) (Int8.ofInt (clampDelta y)) 0)
        fun hid => moveRelative fuel hid (x - clampDelta x) (y - clampDelta y)

def hidRelative (hid : HidState) (x y : Int16) (buttons : UInt8) : Bool × HidState :=
  let held := buttons &&& hidTouchButtonsMask
  let changed := hid.input.buttons ^^^ held
  let hid := hid.setInput { hid.input with buttons := held, mouseButtons := held }
  onSuccess (if changed &&& 0x18 ≠ 0 then hid.sendAbsolute false else (true, hid)) fun hid =>
    if x = 0 ∧ y = 0 then
      if changed &&& hidMouseButtonsMask = 0 then (true, hid) else hid.sendRelative 0 0 0
    else moveRelative (x.toInt.natAbs + y.toInt.natAbs) hid x.toInt y.toInt

def hidWheel (hid : HidState) (flags : UInt16) : Bool × HidState :=
  let vertical : Bool := flags &&& ptrFlagsWheel != 0
  let horizontal : Bool := flags &&& ptrFlagsHwheel != 0
  if !vertical && !horizontal then (true, hid)
  else
    let detents := Int8.ofInt (wheelDetents flags)
    if horizontal && !vertical then
      if hid.input.absoluteReportLength.1 ≠ 7 then (true, hid)
      else (hid.setInput { hid.input with pan := detents }).sendAbsolute false
    else hid.sendRelative 0 0 detents

-- ---------------------------------------------------------------------------
-- Housekeeping
-- ---------------------------------------------------------------------------

def hidPending (hid : HidState) : Bool := hid.count .keyboard ≠ 0 || hid.count .pointer ≠ 0

def hidKeepalive (hid : HidState) (nowMs : UInt64) : Bool × HidState :=
  if nowMs < hid.input.keepaliveAt ∨ hid.hidPending ∨ hid.input.buttons ≠ 0 ∨
      hid.input.modifiers ≠ 0 ∨ allUsages.any hid.input.usages then (true, hid)
  else
    let hid := hid.setInput { hid.input with keepaliveAt := nowMs + hidKeepaliveIntervalMs }
    onSuccess (hid.sendRelative hid.input.keepaliveDx 0 0) fun hid =>
      (true, hid.setInput { hid.input with keepaliveDx := -hid.input.keepaliveDx })

/-- All three neutral reports are queued whatever becomes of the others. -/
def hidSynchronize (hid : HidState) : Bool × HidState :=
  let keyboard := ((hid.resetKeyboardState false).setInput hid.input.released).sendKeyboard
  let mouse := keyboard.2.queueReport .mouse neutralMouseReport false 0
  let absolute := mouse.2.sendAbsolute false
  (keyboard.1 && mouse.1 && absolute.1, absolute.2)

def clearQueues (hid : HidState) : HidState := { hid with queues := HidReportQueue.zero }

def hidReleaseAll (hid : HidState) : HidState := hid.clearQueues.hidSynchronize.2

def setKeyboardDelay (hid : HidState) (delayMs : UInt16) : HidState :=
  hid.setInput { hid.input with keyboardDelayMs := delayMs }

/-- The end of `hid_type_utf8`: the pacing stops, and text that cannot be typed
is cancelled. -/
def endText (result : Bool × HidState) : Bool × HidState :=
  match result with
  | (true, hid) => (true, hid.setKeyboardDelay 0)
  | (false, hid) => (false, (hid.setKeyboardDelay 0).hidReleaseAll)

def shortcutKey : List UInt8 → Option HidTextKey
  | [character] => asciiToHid character
  | _ => none

def hidTypeUtf8 (hid : HidState) (text : List UInt8) : Bool × HidState :=
  if text = [] then (false, hid)
  else
    let hid := hid.setKeyboardDelay 20
    match if hid.input.modifiers ≠ 0 then shortcutKey text else none with
    | some shortcut => endText (hid.tapTextKey shortcut)
    | none =>
      endText (onSuccess (hid.resetKeyboardState false).sendKeyboard fun hid =>
        typeText text.length hid text)

def openKeyboardFeedback (hid : HidState) : HidState :=
  if hid.keyboardIsGadget then (hid.openHidFd .feedback).2 else hid.setOpen .feedback false

/-- The reading loop of `drain_keyboard_feedback`. -/
def readFeedback : Nat → HidState → UInt64 → HidState
  | 0, hid, _ => hid
  | batch + 1, hid, now =>
    match hid.ask with
    | (answer, hid) =>
      match answer.read with
      | .report first =>
        readFeedback batch
          { hid with
            stats.feedbackReports := hid.stats.feedbackReports + 1
            keyboardLeds := first &&& 0x1f } now
      | .interrupted => readFeedback batch hid now
      | .again => hid
      | .failed =>
        { hid.setOpen .feedback false with
          stats.feedbackErrors := hid.stats.feedbackErrors + 1
          feedbackRetryAt := now + 1000 }

/-- A missing feedback device is tried again once a second. -/
def retryFeedback (hid : HidState) (now : UInt64) : HidState :=
  if !hid.isOpen .feedback ∧ now ≥ hid.feedbackRetryAt then
    { hid.openKeyboardFeedback with feedbackRetryAt := now + 1000 }
  else hid

def drainKeyboardFeedback (hid : HidState) : HidState :=
  match hid.now with
  | (now, hid) =>
    let hid := hid.retryFeedback now
    if !hid.isOpen .feedback then hid else readFeedback 32 hid now

def hidFlush (hid : HidState) : Bool × HidState :=
  let keyboard := hid.drainKeyboardFeedback.flushReports .keyboard
  let pointer := keyboard.2.flushReports .pointer
  (keyboard.1 && pointer.1, pointer.2.noteDesynced)

end HidState

-- ---------------------------------------------------------------------------
-- Initialisation
-- ---------------------------------------------------------------------------

/-- What `hid_init` finds: the number in `NANOKVM_HID_ABSOLUTE_REPORT_LENGTH`
if that is set, what the paths are, and the descriptor bytes if they can be
read. -/
structure HidConfig where
  configured : Option Int := none
  touchIsHidg2 : Bool := true
  descriptor : Option (List UInt8) := none
  keyboardIsGadget : Bool := true

def hasPan : List UInt8 → Bool
  | a :: b :: c :: rest => (a == 0x0a && b == 0x38 && c == 0x02) || hasPan (b :: c :: rest)
  | _ => false

def absoluteReportLength (config : HidConfig) : AbsoluteReportLength :=
  match config.configured with
  | some 6 => ⟨6, .inl rfl⟩
  | some 7 => ⟨7, .inr rfl⟩
  | _ =>
    match config.touchIsHidg2, config.descriptor with
    | true, some descriptor =>
      let descriptor := descriptor.take 96
      if 8 ≤ descriptor.length && hasPan descriptor then ⟨7, .inr rfl⟩ else ⟨6, .inl rfl⟩
    | _, _ => ⟨6, .inl rfl⟩

def hidInit (config : HidConfig) (kernel : Nat → Answer) : HidState :=
  let hid : HidState :=
    { input := { absoluteReportLength := absoluteReportLength config }
      queues := HidReportQueue.zero
      isOpen := fun _ => false
      keyboardIsGadget := config.keyboardIsGadget
      usb := { kernel } }
  match hid.now with
  | (now, hid) =>
    let hid := hid.setInput { hid.input with keepaliveAt := now + hidKeepaliveIntervalMs }
    let hid := (hid.openHidFd (.endpoint .keyboard)).2.openKeyboardFeedback
    let hid := (hid.openHidFd (.endpoint .mouse)).2
    let hid := (hid.openHidFd (.endpoint .touch)).2
    (hid.openHidFd .paste).2

end NanokvmRdp.Hid
