import NanokvmRdp.Hid.Keymap
import NanokvmRdp.Hid.State

/-!
# The report queues

`flush_reports` and `queue_report`. A turn of the loop of `flush_reports` is
cut into its stages, each of which ends the loop or goes on.
-/

namespace NanokvmRdp.Hid

-- ---------------------------------------------------------------------------
-- Flushing
-- ---------------------------------------------------------------------------

/-- The loop in `write_paste_codepoint`: quotes and backslashes are escaped, and
the payload stays inside its 32 bytes. -/
def escapePaste : List UInt8 → List UInt8 → Option (List UInt8)
  | payload, [] => some payload
  | payload, byte :: encoded =>
    if byte = 0x27 ∨ byte = 0x5c then
      if payload.length + 2 ≥ 32 then none else escapePaste (payload ++ [0x5c, byte]) encoded
    else if payload.length + 1 ≥ 32 then none
    else escapePaste (payload ++ [byte]) encoded

def pastePayload (codepoint : UInt32) : Option (List UInt8) := do
  let encoded ← utf8Encode codepoint
  let payload ← escapePaste [0x27] encoded
  if payload.length + 2 > 32 then none else some (payload ++ [0x27, 0x0a])

inductive Turn where
  | stop (result : Bool) (hid : HidState)
  | next (hid : HidState)

def Turn.andThen : Turn → (HidState → Turn) → Turn
  | .stop result hid, _ => .stop result hid
  | .next hid, f => f hid

namespace HidState

def countWriteError (hid : HidState) : HidState :=
  { hid with stats.writeErrors := hid.stats.writeErrors + 1 }

def writePasteCodepoint (hid : HidState) (codepoint : UInt32) : Bool × HidState :=
  match hid.isOpen .paste, pastePayload codepoint with
  | true, some payload =>
    match hid.writeHidReport .paste payload with
    | (.complete, hid) => (true, hid)
    | (_, hid) => (false, hid)
  | _, _ => (false, hid)

/-- `if (!queue->blocked_at) queue->blocked_at = now`. -/
def block (hid : HidState) (q : QueueId) (now : UInt64) : HidState :=
  if (hid.queues q).blockedAt = 0 then hid.setQueue q { hid.queues q with blockedAt := now } else hid

/-- A queue waits until `ready_at`, and gives up once it has been blocked for
too long. -/
def checkPace (hid : HidState) (q : QueueId) (now : UInt64) : Turn :=
  if now < (hid.queues q).readyAt then .stop true hid
  else if (hid.queues q).blockedAt ≠ 0 ∧
      now - (hid.queues q).blockedAt ≥ hidReportStallTimeoutMs then
    .stop false hid.countWriteError
  else .next hid

/-- The poll of the endpoint that was written last. Without a descriptor there
is no call, and `errno` is left from an earlier one. -/
def pollPrevious (hid : HidState) (previous : Endpoint) : PollAnswer × HidState :=
  if hid.isOpen (.endpoint previous) then hid.poll (.endpoint previous)
  else
    match hid.ask with
    | (answer, hid) => (if answer.poll = .interrupted then .interrupted else .failed, hid)

def awaitPrevious (hid : HidState) (q : QueueId) (now : UInt64) : Turn :=
  match (hid.queues q).inflightEndpoint with
  | none => .next hid
  | some previous =>
    if previous = (hid.queues q).reports.front.endpoint then .next hid
    else
      match hid.pollPrevious previous with
      | (.quiet, hid) => .stop true (hid.block q now)
      | (.interrupted, hid) => .stop true (hid.block q now)
      | (.ready, hid) => .next (hid.setQueue q { hid.queues q with inflightEndpoint := none })
      | (_, hid) => .stop false hid.countWriteError

/-- The clipboard is filled 30 ms before the report that pastes it. -/
def pasteFront (hid : HidState) (q : QueueId) (now : UInt64) : Turn :=
  let report := (hid.queues q).reports.front
  if report.pasteCodepoint = 0 then .next hid
  else
    match hid.writePasteCodepoint report.pasteCodepoint with
    | (false, hid) => .stop false hid.countWriteError
    | (true, hid) =>
      .stop true (hid.setQueue q
        { hid.queues q with
          reports := (hid.queues q).reports.set 0 { report with pasteCodepoint := 0 }
          readyAt := now + 30 })

def popFront (hid : HidState) (q : QueueId) (now : UInt64) : HidState :=
  let report := (hid.queues q).reports.front
  let age := now - report.queuedAt
  { hid.setQueue q
      { reports := (hid.queues q).reports.pop
        readyAt := now + report.delayMs.toUInt64
        blockedAt := 0
        inflightEndpoint := some report.endpoint } with
    submittedState := Function.update hid.submittedState report.endpoint (report.data.headD 0)
    stats.maxQueueAgeMs := if age > hid.stats.maxQueueAgeMs then age else hid.stats.maxQueueAgeMs
    stats.reportsSent := hid.stats.reportsSent + 1 }

def submitFront (hid : HidState) (q : QueueId) (now : UInt64) : Turn :=
  let report := (hid.queues q).reports.front
  match hid.writeHidReport (.endpoint report.endpoint) report.bytes with
  | (.complete, hid) => .next (hid.popFront q now)
  | (.again, hid) =>
    let hid := hid.block q now
    .stop true { hid with stats.writeRetries := hid.stats.writeRetries + 1 }
  | (.failed, hid) =>
    let hid := (hid.block q now).countWriteError
    .stop false (hid.setQueue q { hid.queues q with readyAt := now + 100 })

def flushTurn (hid : HidState) (q : QueueId) : Turn :=
  match hid.now with
  | (now, hid) =>
    (hid.checkPace q now).andThen fun hid =>
      (hid.awaitPrevious q now).andThen fun hid =>
        (hid.pasteFront q now).andThen fun hid => hid.submitFront q now

/-- `fuel` is the number of reports in the queue, and a turn that goes on takes
one of them. -/
def flushLoop : Nat → HidState → QueueId → Bool × HidState
  | 0, hid, _ => (true, hid)
  | fuel + 1, hid, q =>
    match hid.flushTurn q with
    | .stop result hid => (result, hid)
    | .next hid => flushLoop fuel hid q

def flushReports (hid : HidState) (q : QueueId) : Bool × HidState := flushLoop (hid.count q) hid q

-- ---------------------------------------------------------------------------
-- Queueing
-- ---------------------------------------------------------------------------

/-- Only adjacent absolute motion with unchanged buttons is replaced. -/
def coalesces (hid : HidState) (e : Endpoint) (payload : Payload) (motion : Bool) : Bool :=
  let previous := (hid.queues e.queue).reports.back
  motion && decide (0 < hid.count e.queue) && previous.motion && decide (previous.endpoint = e) &&
    decide (previous.data.head? = payload.bytes.head?)

def overwriteBack (hid : HidState) (q : QueueId) (payload : Payload) : HidState :=
  hid.setQueue q
    { hid.queues q with
      reports := (hid.queues q).reports.set (hid.count q - 1)
        ((hid.queues q).reports.back.overwrite payload) }

def newReport (hid : HidState) (e : Endpoint) (payload : Payload) (motion : Bool)
    (delayMs : UInt16) (queuedAt : UInt64) : HidReport e.queue where
  data := payload.bytes ++ List.replicate (8 - payload.bytes.length) 0
  endpoint := e
  length := payload.bytes.length
  delayMs := delayMs
  motion := motion
  pasteCodepoint := if e.queue = .keyboard then hid.input.keyboardPasteCodepoint else 0
  queuedAt := queuedAt
  queue_endpoint := rfl
  length_data := by
    have := payload.le
    simp
    omega
  length_pos := payload.pos
  length_le := payload.le

def pushBack (hid : HidState) (e : Endpoint) (payload : Payload) (motion : Bool)
    (delayMs : UInt16) (room : hid.count e.queue < hidReportQueueCapacity) : HidState :=
  let report := hid.newReport e payload motion delayMs hid.now.1
  hid.now.2.setQueue e.queue
    { hid.queues e.queue with reports := (hid.queues e.queue).reports.push report room }

/-- A full queue is flushed first. -/
def makeRoom (hid : HidState) (q : QueueId) : HidState :=
  if hid.count q = hidReportQueueCapacity then (hid.flushReports q).2 else hid

def queueReport (hid : HidState) (e : Endpoint) (payload : Payload) (motion : Bool)
    (delayMs : UInt16) : Bool × HidState :=
  if hid.coalesces e payload motion then (hid.overwriteBack e.queue payload).flushReports e.queue
  else
    let hid := hid.makeRoom e.queue
    if room : hid.count e.queue < hidReportQueueCapacity then
      (hid.pushBack e payload motion delayMs room).flushReports e.queue
    else (false, { hid with stats.queueOverflows := hid.stats.queueOverflows + 1 })

end HidState

end NanokvmRdp.Hid
