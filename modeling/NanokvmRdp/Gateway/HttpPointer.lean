import NanokvmRdp.Gateway.HttpText

/-!
# The pointer over HTTP

`map_pointer`, `handle_mouse` and `handle_wheel` of `http_api.c`, behind the
parsing of the JSON fields: a field that is missing, or is no number, is `none`.
A `long` has 64 bits.
-/

namespace NanokvmRdp.Gateway

open Protocol

-- ---------------------------------------------------------------------------
-- Position
-- ---------------------------------------------------------------------------

def long (size : UInt16) : Int64 := Int64.ofNat size.toNat

/-- A coordinate outside the source is moved to its edge. -/
def clampSource (source : UInt16) (x : Int64) : Int64 :=
  let x := if x < 0 then 0 else x
  if source > 1 ∧ x ≥ long source then long source - 1 else x

/-- `map_pointer` on one axis; until a frame was seen the source is the desktop. -/
def mapAxis (frame desktop : UInt16) (x : Int64) : UInt16 :=
  let source := if frame ≠ 0 then frame else desktop
  let x := clampSource source x
  if source ≤ 1 ∨ desktop ≤ 1 then 0
  else (x * (long desktop - 1) / (long source - 1)).toUInt64.toUInt16

/-- The sizes of the last frame; 0 stands for none. -/
structure FrameSize where
  width : UInt16
  height : UInt16

def mapPointer (frame : FrameSize) (router : InputRouter) (x y : Int64) : UInt16 × UInt16 :=
  (mapAxis frame.width router.width x, mapAxis frame.height router.height y)

structure MouseRequest where
  x : Option Int64
  y : Option Int64
  buttons : Option Int64 := none
  down : Bool := true

def mouseFlags (buttons : Option Int64) (down : Bool) : UInt16 :=
  match buttons with
  | none => 0
  | some buttons =>
    let left : UInt16 := if buttons &&& 1 ≠ 0 then 0x1000 else 0
    let right : UInt16 := if buttons &&& 2 ≠ 0 then 0x2000 else 0
    let middle : UInt16 := if buttons &&& 4 ≠ 0 then 0x4000 else 0
    let flags := left ||| right ||| middle
    if down ∧ flags ≠ 0 then flags ||| 0x8000 else flags

inductive MouseAnswer where
  | error (status : Nat) (text : String)
  | moved (sent : Bool) (x y : UInt16) (sourceX sourceY : Int64) (width height : UInt16)
  deriving DecidableEq, Repr

/-- The router after the request, its message and the answer; the message is delivered if
`delivers` holds. -/
def handleMouse (delivers : Bool) (frame : FrameSize) (router : InputRouter) (request : MouseRequest) :
    InputRouter × Option ControlMessage × MouseAnswer :=
  match request.x, request.y with
  | some x, some y =>
    if x < 0 ∨ y < 0 ∨ x > 0xffff ∨ y > 0xffff then (router, none, .error 400 "x,y")
    else
      let mapped := mapPointer frame router x y
      let flags := mouseFlags request.buttons request.down
      let routed := router.absolutePointer mapped.1 mapped.2 flags false
      (routed.1, some routed.2,
        .moved delivers mapped.1 mapped.2 x y router.width router.height)
  | _, _ => (router, none, .error 400 "x,y")

-- ---------------------------------------------------------------------------
-- Wheel
-- ---------------------------------------------------------------------------

/-- At most one detent a request. -/
def wheelSteps (raw : Int64) : Int64 := if raw > 120 then 120 else if raw < -120 then -120 else raw

def wheelFlags (vertical : Bool) (steps : Int64) : UInt16 :=
  let magnitude := (if steps < 0 then -steps else steps).toUInt64.toUInt16
  let flags := (if vertical then 0x0200 else 0x0400) ||| (magnitude &&& 0x01ff)
  if steps < 0 then flags ||| 0x0100 else flags

/-- Of two rotations only the vertical one counts. -/
def wheelRaw (dy dx : Int64) : Int64 := if dy ≠ 0 then dy else dx

def handleWheel (delivers : Bool) (router : InputRouter) (dy dx : Int64) :
    InputRouter × Option ControlMessage × HttpAnswer :=
  if dy = 0 ∧ dx = 0 then (router, none, .error 400 "dx,dy")
  else
    let flags := wheelFlags (dy ≠ 0) (wheelSteps (wheelRaw dy dx))
    let routed := router.absolutePointer 0 0 flags true
    (routed.1, some routed.2, .ok delivers)

end NanokvmRdp.Gateway
