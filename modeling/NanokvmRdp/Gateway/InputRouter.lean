import NanokvmRdp.Hid.Device
import NanokvmRdp.Protocol.Frame

/-!
# The input router

`input_router.c` turns RDP input into control messages and remembers which
buttons and modifiers are held. The handlers of `rdp_input.c` call it once for
each event of the client.
-/

namespace NanokvmRdp.Gateway

open Hid Protocol

/-- An `InputRouterMessage`; its payload has room for 12 bytes. -/
def inputMessage (type : ControlType) (payload : List UInt8) (h : payload.length ≤ 12) :
    ControlMessage where
  type := type.code
  payload := payload
  fits := Nat.le_trans h (by decide)

structure InputRouter where
  width : UInt16
  height : UInt16
  swapAltCommand : Bool
  pointerButtons : UInt8 := 0
  keyboardModifiers : UInt8 := 0
  controlSpaceDown : Bool := false
  deriving DecidableEq, Repr

namespace InputRouter

def keyboard (router : InputRouter) (code : UInt8) (extended release : Bool) :
    InputRouter × ControlMessage :=
  let mapped := hidMapScancode code extended router.swapAltCommand
  let modifier := (hidTranslateScancode mapped.1 mapped.2).elim 0 ScanKey.modifier
  let modifiers :=
    if release then router.keyboardModifiers &&& ~~~modifier
    else router.keyboardModifiers ||| modifier
  let controlSpace :=
    code == 0x39 && !extended && (modifiers &&& 0x11 != 0 || router.controlSpaceDown)
  ({ router with
      keyboardModifiers := modifiers
      controlSpaceDown := if controlSpace then !release else router.controlSpaceDown },
    inputMessage .key [mapped.1, mapped.2.toUInt8, release.toUInt8] (by simp))

/-- A press gives the code unit as UTF-8, a release gives no message. `none` is
a code unit that is not supported. -/
def unicode (code : UInt16) (release : Bool) : Option (Option ControlMessage) :=
  if release then some none
  else if code = 0 ∨ (0xd800 ≤ code ∧ code ≤ 0xdfff) then none
  else if code ≤ 0x007f then some (some (inputMessage .textUtf8 [code.toUInt8] (by simp)))
  else if code ≤ 0x07ff then
    some (some (inputMessage .textUtf8
      [((0xc0 : UInt16) ||| code >>> 6).toUInt8, ((0x80 : UInt16) ||| code &&& 0x3f).toUInt8] (by simp)))
  else
    some (some (inputMessage .textUtf8
      [((0xe0 : UInt16) ||| code >>> 12).toUInt8, ((0x80 : UInt16) ||| code >>> 6 &&& 0x3f).toUInt8,
        ((0x80 : UInt16) ||| code &&& 0x3f).toUInt8] (by simp)))

def released (router : InputRouter) : InputRouter :=
  { router with pointerButtons := 0, keyboardModifiers := 0, controlSpaceDown := false }

def synchronize (router : InputRouter) : InputRouter × ControlMessage :=
  (router.released, inputMessage .synchronize [] (by simp))

def releaseAll (router : InputRouter) : InputRouter × ControlMessage :=
  (router.released, inputMessage .releaseAll [] (by simp))

def press (router : InputRouter) (flags : UInt16) : InputRouter :=
  { router with pointerButtons := hidPointerButtons router.pointerButtons flags }

def wheelMessage (flags : UInt16) : ControlMessage :=
  inputMessage .wheel (protocolWriteU16 flags) (by simp)

def absolutePointer (router : InputRouter) (x y flags : UInt16) (wheel : Bool) :
    InputRouter × ControlMessage :=
  if wheel then (router, wheelMessage flags)
  else
    (router.press flags,
      inputMessage .pointerAbs
        (protocolWriteU16 (hidClampAbsolute x router.width) ++
          protocolWriteU16 (hidClampAbsolute y router.height) ++
          protocolWriteU16 router.width ++ protocolWriteU16 router.height ++
          protocolWriteU16 flags ++ [0, 0]) (by simp))

def relativePointer (router : InputRouter) (xDelta yDelta : Int16) (flags : UInt16) (wheel : Bool) :
    InputRouter × ControlMessage :=
  if wheel then (router, wheelMessage flags)
  else
    (router.press flags,
      inputMessage .pointerRel
        (protocolWriteU16 xDelta.toUInt16 ++ protocolWriteU16 yDelta.toUInt16 ++
          [(router.press flags).pointerButtons]) (by simp))

end InputRouter

-- ---------------------------------------------------------------------------
-- Events of the client
-- ---------------------------------------------------------------------------

inductive ClientEvent where
  | keyboard (code : UInt8) (extended release : Bool)
  | unicode (code : UInt16) (release : Bool)
  | mouse (flags x y : UInt16)
  | extendedMouse (flags x y : UInt16)
  | relativeMouse (flags : UInt16) (xDelta yDelta : Int16)
  | synchronize
  | releaseAll
  deriving DecidableEq, Repr

def hasWheel (flags : UInt16) : Bool := flags &&& (ptrFlagsWheel ||| ptrFlagsHwheel) != 0

/-- A horizontal motion with the vertical wheel bit is a horizontal scroll. -/
def scrollFlags (flags : UInt16) (xDelta yDelta : Int16) : UInt16 :=
  if flags &&& ptrFlagsHwheel = 0 ∧ flags &&& ptrFlagsWheel ≠ 0 ∧ xDelta ≠ 0 ∧ yDelta = 0 then
    let turned := (flags &&& ~~~(ptrFlagsWheel ||| wheelRotationMask)) ||| ptrFlagsHwheel |||
      (flags &&& wheelRotationMask)
    if xDelta < 0 then turned ||| ptrFlagsWheelNegative else turned &&& ~~~ptrFlagsWheelNegative
  else flags

def InputRouter.onMouse (router : InputRouter) (flags x y : UInt16) : InputRouter × ControlMessage :=
  router.absolutePointer x y flags (hasWheel flags)

/-- The locked section of the handler, and the message that it sends after it. -/
def InputRouter.handle (router : InputRouter) : ClientEvent → InputRouter × Option ControlMessage
  | .keyboard code extended release =>
    (router.keyboard code extended release).map id some
  | .unicode code release => (router, (InputRouter.unicode code release).join)
  | .mouse flags x y => (router.onMouse flags x y).map id some
  | .extendedMouse flags x y =>
    (router.onMouse (hidPointerFlagsFromExtended flags) x y).map id some
  | .relativeMouse flags xDelta yDelta =>
    let flags := scrollFlags flags xDelta yDelta
    (router.relativePointer xDelta yDelta flags (hasWheel flags)).map id some
  | .synchronize => router.synchronize.map id some
  | .releaseAll => router.releaseAll.map id some

end NanokvmRdp.Gateway
