import NanokvmRdp.Lib.RingBuffer

/-!
# The HID state and the USB gadget below it

`HidState` with its two report queues, and the system calls of `hid.c`. What
the kernel answers is a stream read one entry a call, so a statement over
every stream is a statement over every clock, every `EAGAIN` and every
failure. The calls leave a trace; the reports in it are what the host was
told.
-/

namespace NanokvmRdp.Hid

inductive Endpoint where
  | keyboard
  | mouse
  | touch
  deriving DecidableEq, Repr

inductive QueueId where
  | keyboard
  | pointer
  deriving DecidableEq, Repr

/-- Both mouse endpoints share a queue. -/
def Endpoint.queue : Endpoint → QueueId
  | .keyboard => .keyboard
  | .mouse => .pointer
  | .touch => .pointer

def QueueId.endpoint : QueueId → Endpoint
  | .keyboard => .keyboard
  | .pointer => .mouse

@[simp] theorem QueueId.queue_endpoint (q : QueueId) : q.endpoint.queue = q := by
  cases q <;> rfl

inductive Device where
  | endpoint (e : Endpoint)
  | paste
  | feedback
  deriving DecidableEq, Repr

-- ---------------------------------------------------------------------------
-- The kernel
-- ---------------------------------------------------------------------------

/-- `poll` on one descriptor: writable, nothing yet, `EINTR`, another error, or
one of `POLLERR`, `POLLHUP`, `POLLNVAL`. -/
inductive PollAnswer where
  | ready
  | quiet
  | interrupted
  | failed
  | broken
  deriving DecidableEq, Repr

/-- How `open` and `write` end, by what the callers ask of `errno`: `again` is
`EAGAIN` or `EWOULDBLOCK`. A `write` that meets `EINTR` is made again. -/
inductive IoAnswer where
  | complete
  | again
  | failed
  deriving DecidableEq, Repr

inductive ReadAnswer where
  | report (first : UInt8)
  | interrupted
  | again
  | failed
  deriving DecidableEq, Repr

structure Answer where
  clock : UInt64 := 0
  poll : PollAnswer := .ready
  opened : IoAnswer := .complete
  wrote : IoAnswer := .complete
  read : ReadAnswer := .again

inductive UsbEvent where
  | wrote (device : Device) (bytes : List UInt8)
  | writable (device : Device)
  deriving DecidableEq, Repr

/-- Call number `n` is answered by `kernel n`. -/
structure Usb where
  kernel : Nat → Answer
  calls : Nat := 0
  trace : List UsbEvent := []

-- ---------------------------------------------------------------------------
-- Reports and queues
-- ---------------------------------------------------------------------------

def hidReportQueueCapacity : Nat := 256

instance : NeZero hidReportQueueCapacity := ⟨by decide⟩

def hidReportStallTimeoutMs : UInt64 := 1000

def hidKeepaliveIntervalMs : UInt64 := 300000

/-- The bytes handed to `queue_report`; they fit the array of a `HidReport`. -/
structure Payload where
  bytes : List UInt8
  pos : 0 < bytes.length
  le : bytes.length ≤ 8

structure HidReport (q : QueueId) where
  data : List UInt8
  endpoint : Endpoint
  length : Nat
  delayMs : UInt16
  motion : Bool
  pasteCodepoint : UInt32
  queuedAt : UInt64
  queue_endpoint : endpoint.queue = q
  length_data : data.length = 8
  length_pos : 0 < length
  length_le : length ≤ 8

/-- What a slot holds before a report is stored there; it is never read. -/
def HidReport.blank (q : QueueId) : HidReport q where
  data := List.replicate 8 0
  endpoint := q.endpoint
  length := 8
  delayMs := 0
  motion := false
  pasteCodepoint := 0
  queuedAt := 0
  queue_endpoint := q.queue_endpoint
  length_data := rfl
  length_pos := by decide
  length_le := by decide

def HidReport.bytes (r : HidReport q) : List UInt8 := r.data.take r.length

def HidReport.overwrite (r : HidReport q) (payload : Payload) : HidReport q :=
  { r with
    data := payload.bytes ++ r.data.drop payload.bytes.length
    length_data := by
      have := payload.le
      have := r.length_data
      simp
      omega }

structure HidReportQueue (q : QueueId) where
  reports : RingBuffer (HidReport q) hidReportQueueCapacity
  readyAt : UInt64
  blockedAt : UInt64
  inflightEndpoint : Option Endpoint

def HidReportQueue.zero (q : QueueId) : HidReportQueue q where
  reports := .empty (.blank q)
  readyAt := 0
  blockedAt := 0
  inflightEndpoint := none

-- ---------------------------------------------------------------------------
-- The state
-- ---------------------------------------------------------------------------

abbrev AbsoluteReportLength := { n : Nat // n = 6 ∨ n = 7 }

/-- The fields of `HidState` that say what the user holds and what the next
report will carry. Flushing a queue never touches them. -/
structure HidInput where
  modifiers : UInt8 := 0
  usages : UInt8 → Bool := fun _ => false
  keyboardDelayMs : UInt16 := 0
  keyboardPasteCodepoint : UInt32 := 0
  lastX : UInt16 := 0x3fff
  lastY : UInt16 := 0x3fff
  keepaliveAt : UInt64 := 0
  keepaliveDx : Int8 := 1
  buttons : UInt8 := 0
  mouseButtons : UInt8 := 0
  wheel : Int8 := 0
  pan : Int8 := 0
  absoluteReportLength : AbsoluteReportLength := ⟨6, .inl rfl⟩

structure HidStats where
  reportsSent : UInt64 := 0
  writeRetries : UInt64 := 0
  writeErrors : UInt64 := 0
  queueOverflows : UInt64 := 0
  maxQueueAgeMs : UInt64 := 0
  feedbackReports : UInt64 := 0
  feedbackErrors : UInt64 := 0
  deriving DecidableEq, Repr

structure HidState where
  input : HidInput
  queues : (q : QueueId) → HidReportQueue q
  stats : HidStats := {}
  feedbackRetryAt : UInt64 := 0
  keyboardLeds : UInt8 := 0
  submittedState : Endpoint → UInt8 := fun _ => 0
  keyboardDesynced : Bool := false
  isOpen : Device → Bool
  keyboardIsGadget : Bool
  usb : Usb

namespace HidState

def setQueue (hid : HidState) (q : QueueId) (queue : HidReportQueue q) : HidState :=
  { hid with queues := Function.update hid.queues q queue }

@[simp] theorem queues_setQueue_self (hid : HidState) (q : QueueId) (queue : HidReportQueue q) :
    (hid.setQueue q queue).queues q = queue := Function.update_self ..

@[simp] theorem queues_setQueue_of_ne (hid : HidState) (queue : HidReportQueue q) (h : q' ≠ q) :
    (hid.setQueue q queue).queues q' = hid.queues q' := Function.update_of_ne h ..

@[simp] theorem input_setQueue (hid : HidState) (q : QueueId) (queue : HidReportQueue q) :
    (hid.setQueue q queue).input = hid.input := rfl

@[simp] theorem usb_setQueue (hid : HidState) (q : QueueId) (queue : HidReportQueue q) :
    (hid.setQueue q queue).usb = hid.usb := rfl

def count (hid : HidState) (q : QueueId) : Nat := (hid.queues q).reports.count

-- ---------------------------------------------------------------------------
-- System calls
-- ---------------------------------------------------------------------------

def ask (hid : HidState) : Answer × HidState :=
  (hid.usb.kernel hid.usb.calls, { hid with usb := { hid.usb with calls := hid.usb.calls + 1 } })

def record (hid : HidState) (event : UsbEvent) : HidState :=
  { hid with usb := { hid.usb with trace := hid.usb.trace ++ [event] } }

def setOpen (hid : HidState) (device : Device) (isOpen : Bool) : HidState :=
  { hid with isOpen := Function.update hid.isOpen device isOpen }

/-- `hid_now`. -/
def now (hid : HidState) : UInt64 × HidState := (hid.ask.1.clock, hid.ask.2)

def poll (hid : HidState) (device : Device) : PollAnswer × HidState :=
  match hid.ask with
  | (answer, hid) => (answer.poll, if answer.poll = .ready then hid.record (.writable device) else hid)

def openHidFd (hid : HidState) (device : Device) : IoAnswer × HidState :=
  match hid.ask with
  | (answer, hid) => (answer.opened, hid.setOpen device (answer.opened = .complete))

/-- `hid_fd`: a descriptor that polls cleanly is kept, any other is reopened. -/
def hidFd (hid : HidState) (device : Device) : IoAnswer × HidState :=
  if hid.isOpen device then
    match hid.poll device with
    | (.ready, hid) => (.complete, hid)
    | (.quiet, hid) => (.complete, hid)
    | (_, hid) => (hid.setOpen device false).openHidFd device
  else hid.openHidFd device

def write (hid : HidState) (device : Device) (bytes : List UInt8) : IoAnswer × HidState :=
  match hid.ask with
  | (answer, hid) =>
    (answer.wrote,
      if answer.wrote = .complete then hid.record (.wrote device bytes) else hid)

/-- `write_hid_report`. After a hard error the descriptor is closed. -/
def writeHidReport (hid : HidState) (device : Device) (report : List UInt8) : IoAnswer × HidState :=
  match hid.hidFd device with
  | (.complete, hid) =>
    match hid.write device report with
    | (.complete, hid) => (.complete, hid)
    | (.again, hid) => (.again, hid)
    | (.failed, hid) => (.failed, hid.setOpen device false)
  | (.again, hid) => (.again, hid)
  | (.failed, hid) => (.failed, hid)

end HidState

end NanokvmRdp.Hid
