import NanokvmRdp.Gateway.Config
import NanokvmRdp.Gateway.HttpForms
import NanokvmRdp.Gateway.HttpPointer
import NanokvmRdp.Gateway.HttpRequest
import NanokvmRdp.Gateway.InputAccount
import NanokvmRdp.Lib.Machine

/-!
# Input over HTTP

`handle_request` of `http_api.c` and the handlers of its input paths, on the
texts of a request. The requests are served one after the other by one thread,
and each handler changes the router in one locked section; `input_busy` is what
the keepalive reads of it without the lock.

Whatever bytes the requests are made of, the router's account is that of the
messages it sent, and `input_busy` is exact until `http_api_stop` releases the
router and leaves the flag as it is.
-/

namespace NanokvmRdp.Gateway

open CString Hid Protocol

-- ---------------------------------------------------------------------------
-- Keys and paths
-- ---------------------------------------------------------------------------

namespace JsonKey

def code : JsonKey := ⟨ascii "code", rfl⟩
def extended : JsonKey := ⟨ascii "extended", rfl⟩
def release : JsonKey := ⟨ascii "release", rfl⟩
def up : JsonKey := ⟨ascii "up", rfl⟩
def x : JsonKey := ⟨ascii "x", rfl⟩
def y : JsonKey := ⟨ascii "y", rfl⟩
def buttons : JsonKey := ⟨ascii "buttons", rfl⟩
def down : JsonKey := ⟨ascii "down", rfl⟩
def dy : JsonKey := ⟨ascii "dy", rfl⟩
def dx : JsonKey := ⟨ascii "dx", rfl⟩

end JsonKey

/-- `%7s` or `%255s` of `sscanf`: the word, and what is behind it. -/
def scanWord (width : Nat) (text : List UInt8) : Option (List UInt8 × List UInt8) :=
  let text := text.dropWhile isSpace
  let word := (text.takeWhile fun b => !isSpace b).take width
  if word = [] then none else some (word, text.drop word.length)

def requestLine (header : List UInt8) : Option (List UInt8 × List UInt8) :=
  (scanWord 7 header).bind fun (method, rest) =>
    (scanWord 255 rest).map fun (path, _) => (method, path.takeWhile (· ≠ 63))

inductive HttpRoute where
  | options
  | page
  | snapshot
  | status
  | key
  | text
  | mouse
  | wheel
  | release
  | notFound
  deriving DecidableEq, Repr

/-- The comparisons of `handle_request`. -/
def routeOf (method path : List UInt8) : HttpRoute :=
  if method = ascii "OPTIONS" then .options
  else if method = ascii "GET" ∧ (path = ascii "/" ∨ path = ascii "/index.html") then .page
  else if method = ascii "GET" ∧ path = ascii "/snapshot.jpg" then .snapshot
  else if method = ascii "GET" ∧ path = ascii "/api/status" then .status
  else if method ≠ ascii "POST" then .notFound
  else if path = ascii "/api/key" then .key
  else if path = ascii "/api/text" then .text
  else if path = ascii "/api/mouse" then .mouse
  else if path = ascii "/api/wheel" then .wheel
  else if path = ascii "/api/release" then .release
  else .notFound

-- ---------------------------------------------------------------------------
-- State
-- ---------------------------------------------------------------------------

/-- The condition of `note_input_busy`. -/
def InputRouter.holding (router : InputRouter) : Bool :=
  router.pointerButtons != 0 || router.keyboardModifiers != 0 || router.controlSpaceDown

/-- The part of an `HttpApi` that the input handlers use, with the messages that were handed to
`send_control`. -/
structure HttpInput where
  router : InputRouter
  frame : FrameSize := ⟨0, 0⟩
  inputBusy : Bool := false
  started : Bool := true
  sent : List ControlMessage := []

inductive HttpResponse where
  | noContent
  | page
  | snapshot
  | status
  | answer (answer : HttpAnswer)
  | mouse (answer : MouseAnswer)
  deriving DecidableEq, Repr

namespace HttpInput

def noteInputBusy (s : HttpInput) : HttpInput := { s with inputBusy := s.router.holding }

def routed (s : HttpInput) (result : InputRouter × ControlMessage) : HttpInput :=
  { s with router := result.1, sent := s.sent ++ [result.2] }

def badRequest (s : HttpInput) (text : String) : HttpInput × HttpResponse :=
  (s, .answer (.error 400 text))

-- ---------------------------------------------------------------------------
-- Handlers
-- ---------------------------------------------------------------------------

def key (delivers : Nat → Bool) (s : HttpInput) (code : UInt8) (extended release : Bool) :
    HttpInput × HttpResponse :=
  ((s.routed (s.router.keyboard code extended release)).noteInputBusy, .answer (.ok (delivers 0)))

/-- `handle_key`; `up` is another word for `release`. -/
def handleKey (delivers : Nat → Bool) (s : HttpInput) (body : List UInt8) :
    HttpInput × HttpResponse :=
  match jsonLong body JsonKey.code.bytes with
  | none => s.badRequest "code"
  | some code =>
    if code < 0 ∨ code > 255 then s.badRequest "code"
    else
      s.key delivers code.toUInt64.toUInt8 (jsonBool body JsonKey.extended.bytes false)
        (jsonBool body JsonKey.release.bytes false || jsonBool body JsonKey.up.bytes false)

def handleText (delivers : Nat → Bool) (s : HttpInput) (body : List UInt8) :
    HttpInput × HttpResponse :=
  let (messages, answer) := handleTextBody delivers body
  ({ s with sent := s.sent ++ messages }, .answer answer)

def mouse (delivers : Nat → Bool) (s : HttpInput) (request : MouseRequest) :
    HttpInput × HttpResponse :=
  match Gateway.handleMouse (delivers 0) s.frame s.router request with
  | (_, none, answer) => (s, .mouse answer)
  | (router, some message, answer) => ((s.routed (router, message)).noteInputBusy, .mouse answer)

def mouseRequest (body : List UInt8) : MouseRequest where
  x := jsonLong body JsonKey.x.bytes
  y := jsonLong body JsonKey.y.bytes
  buttons := jsonLong body JsonKey.buttons.bytes
  down := jsonBool body JsonKey.down.bytes true

def handleMouse (delivers : Nat → Bool) (s : HttpInput) (body : List UInt8) :
    HttpInput × HttpResponse :=
  s.mouse delivers (mouseRequest body)

/-- `handle_wheel` behind its parsing. It leaves `input_busy` alone. -/
def wheel (delivers : Nat → Bool) (s : HttpInput) (dy dx : Int64) : HttpInput × HttpResponse :=
  match Gateway.handleWheel (delivers 0) s.router dy dx with
  | (_, none, answer) => (s, .answer answer)
  | (router, some message, answer) => (s.routed (router, message), .answer answer)

def handleWheel (delivers : Nat → Bool) (s : HttpInput) (body : List UInt8) :
    HttpInput × HttpResponse :=
  s.wheel delivers ((jsonLong body JsonKey.dy.bytes).getD 0) ((jsonLong body JsonKey.dx.bytes).getD 0)

def handleRelease (delivers : Nat → Bool) (s : HttpInput) : HttpInput × HttpResponse :=
  ((s.routed s.router.releaseAll).noteInputBusy, .answer (.ok (delivers 0)))

/-- `handle_request` on the two strings that `serve_client` gives it. -/
def handleRequest (delivers : Nat → Bool) (s : HttpInput) (header body : List UInt8) :
    HttpInput × HttpResponse :=
  match requestLine header with
  | none => s.badRequest "request"
  | some (method, path) =>
    match routeOf method path with
    | .options => (s, .noContent)
    | .page => (s, .page)
    | .snapshot => (s, .snapshot)
    | .status => (s, .status)
    | .key => s.handleKey delivers body
    | .text => s.handleText delivers body
    | .mouse => s.handleMouse delivers body
    | .wheel => s.handleWheel delivers body
    | .release => s.handleRelease delivers
    | .notFound => (s, .answer (.error 404 "not-found"))

def serve (delivers : Nat → Bool) (s : HttpInput) : Served → HttpInput × Option HttpResponse
  | .closed => (s, none)
  | .answer answer => (s, some (.answer answer))
  | .request header body => (s.handleRequest delivers header (textOf body)).map id some

/-- `serve_client`, from the bytes of the connection on. -/
def connection (s : HttpInput) (calloc : Nat → Bool) (request : List UInt8) (socket : Socket)
    (delivers : Nat → Bool) : Checked (HttpInput × Option HttpResponse) :=
  (serveClient calloc request socket).map (s.serve delivers)

-- ---------------------------------------------------------------------------
-- Runs
-- ---------------------------------------------------------------------------

/-- `http_api_create` and `http_api_start`. -/
def start (width height : UInt16) (swapAltCommand : Bool) : HttpInput where
  router := { width, height, swapAltCommand }

def publishFrame (s : HttpInput) (width height : UInt16) : HttpInput :=
  { s with frame := ⟨width, height⟩ }

def setDesktop (s : HttpInput) (width height : UInt16) : HttpInput :=
  if width = 0 ∨ height = 0 then s else { s with router := { s.router with width, height } }

/-- `http_api_stop`, once the thread has been joined. -/
def stop (s : HttpInput) : HttpInput := { s.routed s.router.releaseAll with started := false }

end HttpInput

inductive HttpInputEvent where
  | connection (served : Served) (delivers : Nat → Bool)
  | publishFrame (width height : UInt16)
  | setDesktop (width height : UInt16)
  | stop

namespace HttpInput

def step (s : HttpInput) : HttpInputEvent → Option HttpInput
  | .connection served delivers => if s.started then some (s.serve delivers served).1 else none
  | .publishFrame width height => some (s.publishFrame width height)
  | .setDesktop width height => some (s.setDesktop width height)
  | .stop => some (if s.started then s.stop else s)

-- ---------------------------------------------------------------------------
-- The account
-- ---------------------------------------------------------------------------

/-- `busy` is the flag that the keepalive reads. -/
structure Accounted (s : HttpInput) : Prop where
  account : Account s.router s.sent
  busy : s.started = true → s.inputBusy = s.router.holding
  rest : s.started = false → s.router.holding = false

variable {s : HttpInput}

theorem accounted_start (width height : UInt16) (swapAltCommand : Bool) :
    (start width height swapAltCommand).Accounted where
  account := Account.start width height swapAltCommand
  busy _ := rfl
  rest := nofun

theorem Accounted.noted (h : s.Accounted) (hstarted : s.started = true)
    {result : InputRouter × ControlMessage} (hcarries : Carries s.router result.1 result.2) :
    (s.routed result).noteInputBusy.Accounted where
  account := h.account.routed hcarries
  busy _ := rfl
  rest hstopped := by
    rw [show (s.routed result).noteInputBusy.started = s.started from rfl, hstarted] at hstopped
    cases hstopped

theorem Accounted.handleKey (h : s.Accounted) (hstarted : s.started = true) (delivers : Nat → Bool)
    (body : List UInt8) : (s.handleKey delivers body).1.Accounted := by
  unfold HttpInput.handleKey
  split
  · exact h
  · split
    · exact h
    · exact h.noted hstarted (carries_keyboard h.account.five _ _ _)

theorem isText_textLoop {delivers : Nat → Bool} {fuel : Nat} {text : List UInt8}
    {sent : List ControlMessage} (h : ∀ message ∈ sent, isText message = true) :
    ∀ message ∈ (textLoop delivers fuel text sent).1, isText message = true := by
  fun_induction textLoop delivers fuel text sent with
  | case1 => exact h
  | case2 => exact h
  | case3 => exact h
  | case4 => exact h
  | case5 => exact h
  | case6 _ _ _ _ _ _ _ _ _ ih => exact ih h
  | case7 _ _ _ _ _ _ _ _ message hmessage _ ih =>
    refine ih (List.forall_mem_append.mpr ⟨h, ?_⟩)
    exact List.forall_mem_singleton.mpr (isText_unicode (congrArg Option.join hmessage))
  | case8 _ _ _ _ _ _ _ _ message hmessage =>
    refine List.forall_mem_append.mpr ⟨h, ?_⟩
    exact List.forall_mem_singleton.mpr (isText_unicode (congrArg Option.join hmessage))

theorem Accounted.handleText (h : s.Accounted) (delivers : Nat → Bool) (body : List UInt8) :
    (s.handleText delivers body).1.Accounted := by
  have htexts : ∀ message ∈ (handleTextBody delivers body).1, isText message = true := by
    unfold handleTextBody
    split
    · nofun
    · exact isText_textLoop nofun
  exact { h with account := h.account.texts htexts }

theorem handleMouse_cases (delivers : Bool) (frame : FrameSize) (router : InputRouter)
    (request : MouseRequest) :
    (∃ answer, Gateway.handleMouse delivers frame router request = (router, none, answer)) ∨
      ∃ x y flags answer, Gateway.handleMouse delivers frame router request =
        ((router.absolutePointer x y flags false).1,
          some (router.absolutePointer x y flags false).2, answer) := by
  unfold Gateway.handleMouse
  split
  · split
    · exact .inl ⟨_, rfl⟩
    · exact .inr ⟨_, _, _, _, rfl⟩
  · exact .inl ⟨_, rfl⟩

theorem Accounted.mouse (h : s.Accounted) (hstarted : s.started = true) (delivers : Nat → Bool)
    (request : MouseRequest) : (s.mouse delivers request).1.Accounted := by
  obtain ⟨answer, hrefused⟩ | ⟨x, y, flags, answer, hmoved⟩ :=
    handleMouse_cases (delivers 0) s.frame s.router request
  · simp only [HttpInput.mouse, hrefused]
    exact h
  · simp only [HttpInput.mouse, hmoved]
    exact h.noted hstarted (carries_absolute h.account.five x y flags false)

theorem Accounted.wheel (h : s.Accounted) (delivers : Nat → Bool) (dy dx : Int64) :
    (s.wheel delivers dy dx).1.Accounted := by
  unfold HttpInput.wheel Gateway.handleWheel
  by_cases hnone : dy = 0 ∧ dx = 0
  · simp only [if_pos hnone]
    exact h
  · simp only [if_neg hnone]
    exact { h with account := h.account.routed (carries_wheel h.account.five _) }

theorem Accounted.handleRequest (h : s.Accounted) (hstarted : s.started = true)
    (delivers : Nat → Bool) (header body : List UInt8) :
    (s.handleRequest delivers header body).1.Accounted := by
  unfold HttpInput.handleRequest
  split
  · exact h
  · rename_i method path _
    cases routeOf method path with
    | key => exact h.handleKey hstarted delivers body
    | text => exact h.handleText delivers body
    | mouse => exact h.mouse hstarted delivers _
    | wheel => exact h.wheel delivers _ _
    | release => exact h.noted hstarted (carries_released rfl (fun _ => rfl) fun _ => rfl)
    | options | page | snapshot | status | notFound => exact h

theorem accounted_step {event : HttpInputEvent} {s' : HttpInput} (h : s.Accounted)
    (hstep : s.step event = some s') : s'.Accounted := by
  cases event with
  | connection served delivers =>
    obtain ⟨hstarted, hserved⟩ := Option.ite_none_right_eq_some.mp hstep
    cases hserved
    cases served with
    | request header body => exact h.handleRequest hstarted delivers header (textOf body)
    | answer answer => exact h
    | closed => exact h
  | publishFrame width height =>
    cases hstep
    exact { h with }
  | setDesktop width height =>
    cases hstep
    unfold setDesktop
    split
    · exact h
    · exact { h with account := ⟨h.account.five, h.account.buttons, h.account.modifiers⟩ }
  | stop =>
    cases hstep
    split
    · exact ⟨h.account.routed (carries_released rfl (fun _ => rfl) fun _ => rfl), nofun, fun _ => rfl⟩
    · exact h

theorem accounted_run {width height : UInt16} {swapAltCommand : Bool}
    {events : List HttpInputEvent}
    (hrun : Machine.run step (start width height swapAltCommand) events = some s) : s.Accounted :=
  Machine.run_induction (fun _ _ _ => accounted_step) (accounted_start width height swapAltCommand) hrun

end HttpInput

end NanokvmRdp.Gateway
