import NanokvmRdp.Lib.Machine

/-!
# Snapshots

`http_api_publish_frame` hands decoded frames to the HTTP interface, from the
thread that decodes. The HTTP thread answers `/snapshot.jpg` with the newest of
them: under the lock it takes the JPEG kept from the last request or a clone of
the frame, encodes the clone with the lock open, and keeps the result under the
lock again. Frames may be published between any two of these steps.

An event is one locked section or one action of a thread outside of the lock.
The MJPEG encoder has no delay: the packet received behind a frame that was sent
is the packet of that frame. Its bytes, and whether an allocation or a library
call succeeds, come with the event.
-/

namespace NanokvmRdp.Gateway

-- ---------------------------------------------------------------------------
-- The encoder
-- ---------------------------------------------------------------------------

structure AvFrame (α : Type u) where
  width : Int
  height : Int
  format : Int
  data : α
  deriving DecidableEq, Repr

def httpApiMaxJpeg : Nat := 8 * 1024 * 1024

/-- What the interface keeps from one encoding to the next: the size that the
encoder was opened with, the size of the converted picture, and the format and
size that the scaler was made for. The fields `jpeg_source_*` describe the
scaler whenever there is one. -/
structure JpegEncoder where
  encoder : Option (Int × Int) := none
  yuv : Option (Int × Int) := none
  scaler : Option (Int × Int × Int) := none
  sourceFormat : Int := 0
  sourceWidth : Int := 0
  sourceHeight : Int := 0
  described : ∀ source, scaler = some source → source = (sourceFormat, sourceWidth, sourceHeight) := by
    simp
  deriving DecidableEq, Repr

inductive EncodeStage where
  | packet
  | encoder
  | opening
  | yuv
  | buffer
  | scaler
  | writable
  | scale
  | send
  | receive
  | copy
  deriving DecidableEq, Repr

/-- What the libraries answer during one `encode_frame`; `received` is the packet
of `avcodec_receive_packet`, if that succeeds. -/
structure EncodeAnswers where
  packet : Bool := true
  encoder : Bool := true
  opened : Bool := true
  yuv : Bool := true
  buffer : Bool := true
  scaler : Bool := true
  writable : Bool := true
  scaledRows : Int
  sent : Bool := true
  received : Option (List UInt8)
  copied : Bool := true
  deriving DecidableEq, Repr

namespace JpegEncoder

def ensureEncoder (j : JpegEncoder) (answers : EncodeAnswers) (frame : AvFrame α) :
    JpegEncoder × Option EncodeStage :=
  if j.encoder = some (frame.width, frame.height) then (j, none)
  else if !answers.encoder then ({ j with encoder := none }, some .encoder)
  else if !answers.opened then ({ j with encoder := none }, some .opening)
  else ({ j with encoder := some (frame.width, frame.height) }, none)

def ensureYuv (j : JpegEncoder) (answers : EncodeAnswers) (frame : AvFrame α) :
    JpegEncoder × Option EncodeStage :=
  if j.yuv = some (frame.width, frame.height) then (j, none)
  else if !answers.yuv then ({ j with yuv := none }, some .yuv)
  else if !answers.buffer then ({ j with yuv := none }, some .buffer)
  else ({ j with yuv := some (frame.width, frame.height) }, none)

/-- `sws_getCachedContext` frees the old context when it cannot make the new one. -/
def ensureScaler (j : JpegEncoder) (answers : EncodeAnswers) (frame : AvFrame α) : JpegEncoder :=
  if j.scaler.isNone || j.sourceFormat ≠ frame.format || j.sourceWidth ≠ frame.width ||
      j.sourceHeight ≠ frame.height then
    { j with
      scaler := if answers.scaler then some (frame.format, frame.width, frame.height) else none
      sourceFormat := frame.format
      sourceWidth := frame.width
      sourceHeight := frame.height
      described := by
        intro source h
        exact (Option.some.inj (Option.ite_none_right_eq_some.mp h).2).symm }
  else j

def encodePicture (answers : EncodeAnswers) (frame : AvFrame α) : Except EncodeStage (List UInt8) :=
  if !answers.writable then .error .writable
  else if answers.scaledRows ≠ frame.height then .error .scale
  else if !answers.sent then .error .send
  else
    match answers.received with
    | none => .error .receive
    | some packet =>
      if packet.length = 0 || httpApiMaxJpeg < packet.length then .error .receive
      else if !answers.copied then .error .copy
      else .ok packet

def encodeFrame (j : JpegEncoder) (answers : EncodeAnswers) (frame : AvFrame α) :
    JpegEncoder × Except EncodeStage (List UInt8) :=
  if !answers.packet then (j, .error .packet)
  else
    match j.ensureEncoder answers frame with
    | (j, some stage) => (j, .error stage)
    | (j, none) =>
      match j.ensureYuv answers frame with
      | (j, some stage) => (j, .error stage)
      | (j, none) =>
        let j := j.ensureScaler answers frame
        if j.scaler.isNone then (j, .error .scaler) else (j, encodePicture answers frame)

structure Fits (j : JpegEncoder) (frame : AvFrame α) : Prop where
  encoder : j.encoder = some (frame.width, frame.height)
  yuv : j.yuv = some (frame.width, frame.height)
  scaler : j.scaler = some (frame.format, frame.width, frame.height)

section Encode

variable {j j' : JpegEncoder} {answers : EncodeAnswers} {frame : AvFrame α} {jpeg : List UInt8}

theorem encoder_ensureEncoder (h : j.ensureEncoder answers frame = (j', none)) :
    j'.encoder = some (frame.width, frame.height) := by
  unfold ensureEncoder at h
  split at h
  case isTrue hfits =>
    cases h
    exact hfits
  case isFalse =>
    split at h
    · cases h
    · split at h <;> cases h
      rfl

theorem ensureYuv_fits (h : j.ensureYuv answers frame = (j', none)) :
    j'.yuv = some (frame.width, frame.height) ∧ j'.encoder = j.encoder := by
  unfold ensureYuv at h
  split at h
  case isTrue hfits =>
    cases h
    exact ⟨hfits, rfl⟩
  case isFalse =>
    split at h
    · cases h
    · split at h <;> cases h
      exact ⟨rfl, rfl⟩

/-- Behind `ensureScaler` the source fields are the frame's, so a scaler that is
there was made for this very format and size. -/
theorem ensureScaler_fits (h : (j.ensureScaler answers frame).scaler = some source) :
    source = (frame.format, frame.width, frame.height) ∧
    (j.ensureScaler answers frame).encoder = j.encoder ∧
    (j.ensureScaler answers frame).yuv = j.yuv := by
  have hsource := (j.ensureScaler answers frame).described source h
  rw [hsource]
  unfold ensureScaler
  split
  · exact ⟨rfl, rfl, rfl⟩
  case isFalse hsame =>
    simp only [ne_eq, Bool.or_eq_true, decide_eq_true_eq, not_or, Decidable.not_not] at hsame
    obtain ⟨⟨⟨-, hformat⟩, hwidth⟩, hheight⟩ := hsame
    exact ⟨by rw [hformat, hwidth, hheight], rfl, rfl⟩

theorem encodePicture_ok (h : encodePicture answers frame = .ok jpeg) :
    jpeg ≠ [] ∧ jpeg.length ≤ httpApiMaxJpeg := by
  unfold encodePicture at h
  split at h
  · cases h
  split at h
  · cases h
  split at h
  · cases h
  split at h
  · cases h
  case h_2 packet hreceived =>
    split at h
    · cases h
    case isFalse hsize =>
      split at h <;> cases h
      simpa using hsize

/-- Whatever was encoded before, a frame is encoded with an encoder, a picture and
a scaler of its own size and format. -/
theorem encodeFrame_ok (h : j.encodeFrame answers frame = (j', .ok jpeg)) :
    j'.Fits frame ∧ jpeg ≠ [] ∧ jpeg.length ≤ httpApiMaxJpeg := by
  unfold encodeFrame at h
  split at h
  · cases h
  split at h
  · cases h
  case h_2 j₁ hencoder =>
    split at h
    · cases h
    case h_2 j₂ hyuv =>
      obtain ⟨hpicture, hkept⟩ := ensureYuv_fits hyuv
      dsimp only at h
      split at h
      · cases h
      case isFalse hscaler =>
        obtain ⟨rfl, hok⟩ := Prod.mk.inj h
        obtain ⟨source, hsource⟩ : ∃ source, (j₂.ensureScaler answers frame).scaler = some source := by
          simpa [Option.ne_none_iff_exists'] using hscaler
        obtain ⟨rfl, hsame, hsameYuv⟩ := ensureScaler_fits hsource
        refine ⟨⟨?_, hsameYuv.trans hpicture, hsource⟩, encodePicture_ok hok⟩
        rw [hsame, hkept, encoder_ensureEncoder hencoder]

end Encode

end JpegEncoder

-- ---------------------------------------------------------------------------
-- The interface, its publishers and the HTTP thread
-- ---------------------------------------------------------------------------

structure Encoding (α : Type u) where
  id : UInt32
  frame : AvFrame α
  encoder : JpegEncoder
  jpeg : List UInt8
  deriving DecidableEq, Repr

inductive SnapshotPhase (α : Type u) where
  | idle
  /-- Behind the first locked section, with a clone of the frame. -/
  | encoding (id : UInt32) (frame : AvFrame α)
  /-- Before the second locked section. -/
  | encoded (encoding : Encoding α)
  /-- In `handle_snapshot`, with a copy of the JPEG. -/
  | serving (id : UInt32) (jpeg : List UInt8)
  deriving DecidableEq, Repr

/-- An answer to `/snapshot.jpg`; `asked` is how many frames had been published
when `get_snapshot` took the lock. -/
structure SnapshotAnswer where
  id : UInt32
  jpeg : List UInt8
  asked : Nat
  deriving DecidableEq, Repr

structure StatusAnswer where
  id : UInt32
  width : UInt16
  height : UInt16
  hasFrame : Bool
  asked : Nat
  deriving DecidableEq, Repr

/-- The fields of `HttpApi` that the lock guards, and the two parties. `cloned`
are the frames of publishers before their locked section, and `discarded` counts
the replaced frames behind it that are not freed yet. `published`, `encodings`,
`answers` and `statuses` record the run: a `none` among the answers is the status
503 for `no-frame`. `liveFrames` and `liveJpegs` count what was cloned or
allocated and not freed. -/
structure Snapshots (α : Type u) where
  width : UInt16
  height : UInt16
  frame : Option (AvFrame α) := none
  frameId : UInt32 := 0
  frameWidth : UInt16 := 0
  frameHeight : UInt16 := 0
  jpeg : Option (List UInt8) := none
  jpegFrameId : UInt32 := 0
  encoder : JpegEncoder := {}
  cloned : List (AvFrame α) := []
  discarded : Nat := 0
  phase : SnapshotPhase α := .idle
  asked : Nat := 0
  published : List (AvFrame α) := []
  encodings : List (Encoding α) := []
  answers : List (Option SnapshotAnswer) := []
  statuses : List StatusAnswer := []
  liveFrames : Nat := 0
  liveJpegs : Nat := 0
  deriving DecidableEq, Repr

inductive SnapshotEvent (α : Type u) where
  | clone (source : AvFrame α) (cloned : Bool)
  | publish (i : Nat)
  | discard
  | request (allocated : Bool)
  | encode (answers : EncodeAnswers)
  | keep (allocated : Bool)
  | respond
  | status
  | setDesktop (width height : UInt16)
  deriving DecidableEq, Repr

namespace Snapshots

/-- The part of `http_api_publish_frame` before the lock. -/
def clone (s : Snapshots α) (source : AvFrame α) (cloned : Bool) : Snapshots α :=
  if source.width ≤ 0 || source.height ≤ 0 || !cloned then s
  else { s with cloned := s.cloned ++ [source], liveFrames := s.liveFrames + 1 }

/-- The locked section of `http_api_publish_frame`. -/
def publishFrame (s : Snapshots α) (i : Nat) (frame : AvFrame α) : Snapshots α :=
  { s with
    cloned := s.cloned.eraseIdx i
    discarded := if s.frame.isSome then s.discarded + 1 else s.discarded
    frame := some frame
    frameId := s.frameId + 1
    frameWidth := UInt16.ofInt frame.width
    frameHeight := UInt16.ofInt frame.height
    published := s.published ++ [frame] }

/-- The first locked section of `get_snapshot`. -/
def request (s : Snapshots α) (allocated : Bool) : Snapshots α :=
  let s := { s with asked := s.published.length }
  match s.frame with
  | none => { s with answers := s.answers ++ [none] }
  | some frame =>
    match s.jpeg.filter fun jpeg => !jpeg.isEmpty && s.jpegFrameId == s.frameId with
    | some jpeg =>
      if allocated then { s with phase := .serving s.frameId jpeg, liveJpegs := s.liveJpegs + 1 }
      else { s with answers := s.answers ++ [none] }
    | none =>
      if allocated then { s with phase := .encoding s.frameId frame, liveFrames := s.liveFrames + 1 }
      else { s with answers := s.answers ++ [none] }

/-- `encode_frame` on the clone, which is freed behind it. -/
def encode (s : Snapshots α) (id : UInt32) (frame : AvFrame α) (answers : EncodeAnswers) : Snapshots α :=
  let s := { s with liveFrames := s.liveFrames - 1 }
  match s.encoder.encodeFrame answers frame with
  | (encoder, .error _) =>
    { s with encoder := encoder, phase := .idle, answers := s.answers ++ [none] }
  | (encoder, .ok jpeg) =>
    { s with
      encoder := encoder
      phase := .encoded { id := id, frame := frame, encoder := encoder, jpeg := jpeg }
      liveJpegs := s.liveJpegs + 1 }

/-- The second locked section of `get_snapshot`: the JPEG goes to the interface,
and a copy of it to the request. -/
def keep (s : Snapshots α) (encoding : Encoding α) (allocated : Bool) : Snapshots α :=
  let s := { s with
    liveJpegs := if s.jpeg.isSome then s.liveJpegs - 1 else s.liveJpegs
    jpeg := some encoding.jpeg
    jpegFrameId := encoding.id
    encodings := s.encodings ++ [encoding] }
  if allocated then { s with phase := .serving encoding.id encoding.jpeg, liveJpegs := s.liveJpegs + 1 }
  else { s with phase := .idle, answers := s.answers ++ [none] }

def respond (s : Snapshots α) (id : UInt32) (jpeg : List UInt8) : Snapshots α :=
  { s with
    phase := .idle
    answers := s.answers ++ [some { id := id, jpeg := jpeg, asked := s.asked }]
    liveJpegs := s.liveJpegs - 1 }

def handleStatus (s : Snapshots α) : StatusAnswer where
  id := s.frameId
  width := if s.frameWidth ≠ 0 then s.frameWidth else s.width
  height := if s.frameHeight ≠ 0 then s.frameHeight else s.height
  hasFrame := s.frame.isSome
  asked := s.published.length

def httpApiSetDesktop (s : Snapshots α) (width height : UInt16) : Snapshots α :=
  if width = 0 || height = 0 then s else { s with width := width, height := height }

def step (s : Snapshots α) : SnapshotEvent α → Option (Snapshots α)
  | .clone source cloned => some (s.clone source cloned)
  | .publish i => s.cloned[i]?.map (s.publishFrame i)
  | .discard =>
    if 0 < s.discarded then
      some { s with discarded := s.discarded - 1, liveFrames := s.liveFrames - 1 }
    else none
  | .request allocated =>
    match s.phase with
    | .idle => some (s.request allocated)
    | _ => none
  | .encode answers =>
    match s.phase with
    | .encoding id frame => some (s.encode id frame answers)
    | _ => none
  | .keep allocated =>
    match s.phase with
    | .encoded encoding => some (s.keep encoding allocated)
    | _ => none
  | .respond =>
    match s.phase with
    | .serving id jpeg => some (s.respond id jpeg)
    | _ => none
  | .status =>
    -- The HTTP thread handles one request at a time.
    match s.phase with
    | .idle => some { s with statuses := s.statuses ++ [s.handleStatus] }
    | _ => none
  | .setDesktop width height => some (s.httpApiSetDesktop width height)

def start (width height : UInt16) : Snapshots α := { width := width, height := height }

end Snapshots

end NanokvmRdp.Gateway
