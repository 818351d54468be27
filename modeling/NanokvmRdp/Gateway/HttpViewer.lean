import NanokvmRdp.Gateway.HttpFragments
import NanokvmRdp.Gateway.HttpInput
import NanokvmRdp.Gateway.PointerMapping

/-!
# The viewer page

The page that the HTTP API serves posts an object for each event of its image
and of its keys. A browser puts headers of its own around it, and the network
cuts the request into pieces; what reaches the router is the event.
-/

namespace NanokvmRdp.Gateway

open CString Protocol

-- ---------------------------------------------------------------------------
-- Lines of a header
-- ---------------------------------------------------------------------------

def isLine (line : List UInt8) : Bool := !line.isEmpty && line.all fun b => b != 13 && b != 0

structure HeaderLine where
  bytes : List UInt8
  line : isLine bytes = true
  other : namesHeader contentLengthName bytes bytes.length = some false

def joined : List (List UInt8) → List UInt8
  | [] => []
  | [line] => line
  | line :: lines => line ++ (crlf ++ joined lines)

def ended (lines : List (List UInt8)) : List UInt8 := lines.flatMap (· ++ crlf)

section

variable {line : List UInt8} {lines : List (List UInt8)}

end

-- ---------------------------------------------------------------------------
-- Requests
-- ---------------------------------------------------------------------------

def postLine (path : List UInt8) : List UInt8 := ascii "POST" ++ 32 :: (path ++ 32 :: ascii "HTTP/1.1")

def lengthLine (length : Nat) : List UInt8 :=
  contentLengthName ++ colon :: 32 :: printNat length

/-- A path that `handle_request` takes as it is. -/
def isPath (path : List UInt8) : Bool :=
  !path.isEmpty && path.length.ble 255 && path.all fun b => !isSpace b && b != 63 && b != 0

section

variable {path : List UInt8}

end

/-- A post as a browser writes it, with headers of its own on either side of the length. -/
structure PostRequest where
  path : List UInt8
  before : List HeaderLine
  after : List HeaderLine
  body : List UInt8
  path_ok : isPath path = true

namespace PostRequest

def lines (post : PostRequest) : List (List UInt8) :=
  postLine post.path :: (post.before.map HeaderLine.bytes ++
    lengthLine post.body.length :: post.after.map HeaderLine.bytes)

def header (post : PostRequest) : List UInt8 := joined post.lines

def stream (post : PostRequest) : List UInt8 := post.header ++ (crlf2 ++ post.body)

variable (post : PostRequest)

end PostRequest

-- ---------------------------------------------------------------------------
-- Events of the page
-- ---------------------------------------------------------------------------

/-- The buttons of a browser, as the page numbers them. -/
inductive PageButton where
  | left
  | right
  | middle
  deriving DecidableEq, Repr

def PageButton.number : PageButton → Int64
  | left => 1
  | right => 2
  | middle => 4

def PageButton.flag : PageButton → UInt16
  | left => 0x1000
  | right => 0x2000
  | middle => 0x4000

inductive PageTurn where
  | back
  | none
  | forward
  deriving DecidableEq, Repr

/-- `Math.sign(..)*120`. -/
def PageTurn.delta : PageTurn → Int64
  | back => -120
  | none => 0
  | forward => 120

def PageTurn.message (axis : UInt16) : PageTurn → Option ControlMessage
  | back => some (InputRouter.wheelMessage (axis ||| 0x0178))
  | none => Option.none
  | forward => some (InputRouter.wheelMessage (axis ||| 0x0078))

/-- What the page posts for. A position is one of the image in its natural size. -/
inductive PageEvent where
  | mousemove (x y : UInt16)
  | mousedown (x y : UInt16) (button : PageButton)
  | mouseup (x y : UInt16) (button : PageButton)
  | wheel (dy dx : PageTurn)
  | keydown (code : UInt8) (extended : Bool)
  | keyup (code : UInt8) (extended : Bool)
  | blur
  deriving DecidableEq, Repr

namespace PageEvent

def path : PageEvent → List UInt8
  | mousemove .. | mousedown .. | mouseup .. => ascii "/api/mouse"
  | wheel .. => ascii "/api/wheel"
  | keydown .. | keyup .. => ascii "/api/key"
  | blur => ascii "/api/release"

def position (x y : UInt16) : List (JsonKey × JsonScalar) :=
  [(JsonKey.x, .number (long x)), (JsonKey.y, .number (long y))]

def keyBody (code : UInt8) (extended release : Bool) : List (JsonKey × JsonScalar) :=
  [(JsonKey.code, .number (Int64.ofNat code.toNat)), (JsonKey.extended, .flag extended),
    (JsonKey.release, .flag release)]

def fields : PageEvent → List (JsonKey × JsonScalar)
  | mousemove x y => position x y
  | mousedown x y button =>
    position x y ++ [(JsonKey.buttons, .number button.number), (JsonKey.down, .flag true)]
  | mouseup x y button =>
    position x y ++ [(JsonKey.buttons, .number button.number), (JsonKey.down, .flag false)]
  | wheel dy dx => [(JsonKey.dy, .number dy.delta), (JsonKey.dx, .number dx.delta)]
  | keydown code extended => keyBody code extended false
  | keyup code extended => keyBody code extended true
  | blur => []

/-- The pointer is moved to the place of the desktop that the image shows there. -/
def pointer (delivers : Nat → Bool) (s : HttpInput) (x y flags : UInt16) :
    HttpInput × HttpResponse :=
  let (mappedX, mappedY) := mapPointer s.frame s.router (long x) (long y)
  ((s.routed (s.router.absolutePointer mappedX mappedY flags false)).noteInputBusy,
    .mouse (.moved (delivers 0) mappedX mappedY (long x) (long y) s.router.width s.router.height))

variable (delivers : Nat → Bool) (s : HttpInput)

end PageEvent

-- ---------------------------------------------------------------------------
-- Connections of the page
-- ---------------------------------------------------------------------------

def PageEvent.post (event : PageEvent) (before after : List HeaderLine) : PostRequest where
  path := event.path
  before := before
  after := after
  body := stringify event.fields
  path_ok := by cases event <;> rfl

/-- One connection: the event and the headers that the browser adds, and what the HTTP thread
finds: the array on its stack, the allocator, the socket and the deliveries to the agent. -/
structure PageConnection where
  event : PageEvent
  before : List HeaderLine
  after : List HeaderLine
  request : List UInt8
  calloc : Nat → Bool
  socket : Socket
  delivers : Nat → Bool

namespace PageConnection

def post (c : PageConnection) : PostRequest := c.event.post c.before c.after

/-- The header fits its array, there is memory for the body, and the socket conveys the request,
in any pieces. -/
structure Arrives (c : PageConnection) : Prop where
  request : c.request.length = httpApiMaxHeader + 1
  header : c.post.header.length + 4 ≤ httpApiMaxHeader
  allocated : c.calloc (c.post.body.length + 1) = true
  conveyed : Conveys c.socket c.post.stream

end PageConnection

end NanokvmRdp.Gateway
