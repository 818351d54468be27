import NanokvmRdp.Gateway.FrameFlow
import NanokvmRdp.Lib.Machine

/-!
# The AVC420 video thread

`video_thread` with `client_accept_avc_frame` and `send_avc420_frame`, cut at
the client lock: a step is one locked section or one blocking call. The
channel thread acknowledges frames and any thread may stop the client in
between.
-/

namespace NanokvmRdp.Gateway

/-- `rtp_client_read_h264` returns no empty unit. -/
structure VideoSourceAccessUnit where
  length : UInt32
  nalTypes : UInt32
  packetLoss : Bool := false
  length_ne : length ≠ 0 := by decide
  deriving DecidableEq, Repr

namespace VideoSourceAccessUnit

def idr (unit : VideoSourceAccessUnit) : Bool := unit.nalTypes &&& ((1 : UInt32) <<< 5) != 0

def pFrame (unit : VideoSourceAccessUnit) : Bool := unit.nalTypes &&& ((1 : UInt32) <<< 1) != 0

end VideoSourceAccessUnit

structure VideoClient where
  gfxReady : Bool := true
  stopping : Bool := false
  needIdr : Bool := true
  flow : FrameFlow := {}
  nextFrameId : UInt32 := 0
  deriving DecidableEq

inductive VideoPc where
  | reading
  | admitting (unit : VideoSourceAccessUnit) (bytes : UInt32) (waitStartedAt : UInt64)
  | waiting (unit : VideoSourceAccessUnit) (bytes : UInt32) (waitStartedAt : UInt64)
  | sending (unit : VideoSourceAccessUnit) (bytes : UInt32)
  | submitting (unit : VideoSourceAccessUnit) (bytes id : UInt32)
  | registering (unit : VideoSourceAccessUnit) (bytes id : UInt32)
  | ended
  deriving DecidableEq, Repr

/-- What became of a unit: `submitted` when `SurfaceFrameCommand` succeeded,
`requested` when the flow control sent an `IDR_REQUEST` for it. -/
structure Handled where
  unit : VideoSourceAccessUnit
  submitted : Bool := false
  requested : Bool := false
  deriving DecidableEq, Repr

/-- `history` has the returned units in order, up to the one at `pc`. -/
structure VideoThread where
  client : VideoClient := {}
  pc : VideoPc := .reading
  history : List Handled := []
  deriving DecidableEq

inductive WaitOutcome where
  | signalled
  | timeout
  | failed
  deriving DecidableEq, Repr

/-- `prepared` is the length `h264_parameter_sets_prepare_idr` gives, if it
succeeds. -/
inductive VideoEvent where
  | read (unit : VideoSourceAccessUnit) (prepared : Option UInt32)
  | readFailed (again : Bool)
  | accept (now : UInt64)
  | wait (outcome : WaitOutcome)
  | send
  | submit (ok : Bool)
  | register (now : UInt64)
  | ack (id depth : UInt32) (now : UInt64)
  | stop
  | leave
  deriving DecidableEq, Repr

namespace VideoThread

def stop (s : VideoThread) : VideoThread :=
  { s with client := { s.client with stopping := true } }

/-- `frame_flow_avc_send_failed`. -/
def sendFailed (s : VideoThread) : VideoThread :=
  { s with client := { s.client with needIdr := true } }

def goto (s : VideoThread) (pc : VideoPc) : VideoThread := { s with pc }

def drop (s : VideoThread) (unit : VideoSourceAccessUnit) (requested : Bool) : VideoThread :=
  { s with pc := .reading, history := s.history ++ [{ unit, requested }] }

def halted (s : VideoThread) : Bool := !s.client.gfxReady || s.client.stopping

/-- The loop body up to the call of `client_accept_avc_frame`. -/
def read (s : VideoThread) (unit : VideoSourceAccessUnit) (prepared : Option UInt32) : VideoThread :=
  let s := if unit.packetLoss then s.sendFailed else s
  if !unit.packetLoss && frameFlowAvcShouldSend s.client.needIdr unit.idr unit.pFrame && !s.halted then
    if unit.idr then
      match prepared with
      | some bytes => s.goto (.admitting unit bytes 0)
      | none => ((s.sendFailed.drop unit false).stop).goto .ended
    else s.goto (.admitting unit unit.length 0)
  else s.drop unit false

/-- The locked section of `client_accept_avc_frame`. -/
def accept (s : VideoThread) (unit : VideoSourceAccessUnit) (bytes : UInt32)
    (waitStartedAt now : UInt64) : VideoThread :=
  if s.halted then s.drop unit false
  else
    match s.client.flow.avcAdmit bytes unit.idr now waitStartedAt with
    | .send => s.goto (.sending unit bytes)
    | .wait => s.goto (.waiting unit bytes (if waitStartedAt = 0 then now else waitStartedAt))
    | .resync =>
      let rejected := frameFlowAvcFlowRejected s.client.needIdr
      { s with client := { s.client with needIdr := rejected.2 } }.drop unit rejected.1

/-- The stop check and the wait on `avc_ack_event`. -/
def wait (s : VideoThread) (unit : VideoSourceAccessUnit) (bytes : UInt32) (waitStartedAt : UInt64)
    (outcome : WaitOutcome) : VideoThread :=
  if s.client.stopping then s.drop unit false
  else
    match outcome with
    | .signalled | .timeout => s.goto (.admitting unit bytes waitStartedAt)
    | .failed => s.drop unit false

/-- The first locked section of `send_avc420_frame`. -/
def send (s : VideoThread) (unit : VideoSourceAccessUnit) (bytes : UInt32) : VideoThread :=
  if s.halted then (s.drop unit false).stop
  else
    { s with
      client := { s.client with nextFrameId := s.client.nextFrameId + 1 }
      pc := .submitting unit bytes s.client.nextFrameId }

def submit (s : VideoThread) (unit : VideoSourceAccessUnit) (bytes id : UInt32) (ok : Bool) :
    VideoThread :=
  if ok then
    { s with
      pc := .registering unit bytes id
      history := s.history ++ [{ unit, submitted := true }] }
  else (s.sendFailed.drop unit false).stop

/-- The last section of `send_avc420_frame`, which ignores whether the frame was
tracked. -/
def register (s : VideoThread) (unit : VideoSourceAccessUnit) (bytes id : UInt32) (now : UInt64) :
    VideoThread :=
  { s with
    client := { s.client with
      flow :=
        if unit.idr then (s.client.flow.sentKeyframeSized id bytes now).2
        else (s.client.flow.sentSized id bytes now).2
      needIdr := frameFlowAvcSent s.client.needIdr unit.idr }
    pc := .reading }

def step (s : VideoThread) (event : VideoEvent) : Option VideoThread :=
  match s.pc, event with
  | .reading, .read unit prepared => some (s.read unit prepared)
  | .reading, .readFailed again =>
    some (if s.client.stopping then s.goto .ended else if again then s else s.stop.goto .ended)
  | .reading, .leave => if s.client.stopping then some (s.goto .ended) else none
  | .admitting unit bytes waitStartedAt, .accept now => some (s.accept unit bytes waitStartedAt now)
  | .waiting unit bytes waitStartedAt, .wait outcome =>
    some (s.wait unit bytes waitStartedAt outcome)
  | .sending unit bytes, .send => some (s.send unit bytes)
  | .submitting unit bytes id, .submit ok => some (s.submit unit bytes id ok)
  | .registering unit bytes id, .register now => some (s.register unit bytes id now)
  | _, .ack id depth now =>
    some { s with client := { s.client with flow := (s.client.flow.ack id depth now).2.2 } }
  | _, .stop => some s.stop
  | _, _ => none

end VideoThread

end NanokvmRdp.Gateway
