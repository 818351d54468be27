import NanokvmRdp.Gateway.TileLaws
import NanokvmRdp.Lib.Machine

/-!
# The bitmap output of a client

The decoder hands each frame to `on_decoded_frame`, and the output thread
sends them with `client_flush_pending_bitmap`. Between them stand two
mailboxes: `pending_next_decoded` while a classic slice is open, and
`pending_decoded` otherwise. The flush takes the lock, lets go of it to send,
and takes it again twice; each of these parts is one step, so that the decoder
and the acknowledgements come in between. A decoded frame is the image the
converter makes of it at the size of the client.

A classic slice is never opened, since `send_classic_bitmap_frame` fails. With
RemoteFX or NSCodec the last frame is lost if the socket blocks once the image is
composed (`last_frame_lost`), and only then (`last_frame_shown`).
-/

namespace NanokvmRdp.Gateway

/-- RemoteFX and NSCodec send the whole image with `SurfaceBits`. -/
inductive BitmapCodec where
  | surface
  | progressive
  | classic
  deriving DecidableEq, Repr

structure BitmapAnswers where
  converted : Bool := true
  composed : Bool := true
  probe : WriteProbe := {}
  wrote : Bool := true
  progressive : ProgressiveAnswers := {}
  slice : SliceAnswers := {}

/-- `none` where the function returns false. -/
def sendBitmapFrame (codec : BitmapCodec) (client : BitmapClient) (image : Image)
    (answers : BitmapAnswers) : Option BitmapClient :=
  match codec with
  | .progressive => client.sendProgressiveFrame image answers.progressive
  | .classic => client.sendClassicBitmapFrame image answers.slice
  | .surface =>
    if !answers.composed then none
    else if !clientOutputWriteReady answers.probe then some client
    else if !answers.wrote then none
    else some { client with
      screen := Tile.paint ⟨0, 0, client.width, client.height⟩ (fun x y => some (image x y))
        client.screen }

/-- Where the output thread is in the flush. A frame is taken, or the open
slice is to be resumed. -/
inductive FlushStage where
  | idle
  | taken (frame : Option Image) (now : UInt64)
  | sent (ok : Bool) (now : UInt64)
  | collected (ok : Bool) (now : UInt64)
  | stopped

structure BitmapOutput where
  codec : BitmapCodec
  client : BitmapClient
  converterFrame : Image
  pendingDecoded : Option Image := none
  pendingNextDecoded : Option Image := none
  lastSendStartedAt : UInt64 := 0
  stage : FlushStage := .idle
  /-- The frame decoded last. -/
  latest : Option Image := none

inductive BitmapEvent where
  | decoded (image : Image)
  | flush (probe : WriteProbe) (now : UInt64)
  | send (answers : BitmapAnswers)
  | collect
  | account (completedAt : UInt64)
  | ack (id depth : UInt32) (now : UInt64)

def bitmapFrameInterval : UInt32 := 10

namespace BitmapOutput

-- ---------------------------------------------------------------------------
-- The steps
-- ---------------------------------------------------------------------------

def onDecodedFrame (s : BitmapOutput) (image : Image) : BitmapOutput :=
  if s.client.classicFrameOpen then { s with pendingNextDecoded := some image, latest := some image }
  else { s with pendingDecoded := some image, latest := some image }

def interval (s : BitmapOutput) : UInt32 :=
  if s.codec = .progressive then s.client.flow.interval else bitmapFrameInterval

def classicResume (s : BitmapOutput) : Bool :=
  s.codec ≠ .progressive && s.client.classicFrameOpen

def putOff (s : BitmapOutput) (now : UInt64) : Bool :=
  (s.codec = .progressive && s.client.flow.blocked) ||
    (!s.classicResume && s.lastSendStartedAt ≠ 0 &&
      now - s.lastSendStartedAt < s.interval.toUInt64)

/-- `client_flush_pending_bitmap` up to where it lets go of the lock. -/
def flush (s : BitmapOutput) (probe : WriteProbe) (now : UInt64) : BitmapOutput :=
  if !clientOutputWriteReady probe then s
  else if s.putOff now then s
  else if s.classicResume then { s with pendingDecoded := none, stage := .taken none now }
  else
    match s.pendingDecoded with
    | none => s
    | some frame =>
      { s with
        pendingDecoded := none
        lastSendStartedAt := now
        stage := .taken (some frame) now }

def sent (s : BitmapOutput) (now : UInt64) : Option BitmapClient → BitmapOutput
  | none => { s with stage := .sent false now }
  | some client => { s with client, stage := .sent true now }

def send (s : BitmapOutput) (frame : Option Image) (now : UInt64) (answers : BitmapAnswers) :
    BitmapOutput :=
  match frame with
  | none => s.sent now (s.client.sendClassicBitmapFrame s.converterFrame answers.slice)
  | some image =>
    if !answers.converted then s.sent now none
    else
      { s with converterFrame := image }.sent now (sendBitmapFrame s.codec s.client image answers)

/-- The frames that came while the slice was open. -/
def collect (s : BitmapOutput) (ok : Bool) (now : UInt64) : BitmapOutput :=
  if ok && !s.client.classicFrameOpen then
    { s with
      pendingDecoded := s.pendingNextDecoded.or s.pendingDecoded
      pendingNextDecoded := none
      stage := .collected ok now }
  else { s with stage := .collected ok now }

def setFlow (s : BitmapOutput) (flow : FrameFlow) : BitmapOutput :=
  { s with client := { s.client with flow } }

def account (s : BitmapOutput) (ok : Bool) (now completedAt : UInt64) : BitmapOutput :=
  let s :=
    if s.codec = .progressive then s.setFlow (s.client.flow.sendCost (completedAt - now) completedAt)
    else s
  { s with stage := if ok then .idle else .stopped }

def step (s : BitmapOutput) : BitmapEvent → Option BitmapOutput
  | .decoded image =>
    match s.stage with
    | .stopped => none
    | _ => some (s.onDecodedFrame image)
  | .flush probe now =>
    match s.stage with
    | .idle => some (s.flush probe now)
    | _ => none
  | .send answers =>
    match s.stage with
    | .taken frame now => some (s.send frame now answers)
    | _ => none
  | .collect =>
    match s.stage with
    | .sent ok now => some (s.collect ok now)
    | _ => none
  | .account completedAt =>
    match s.stage with
    | .collected ok now => some (s.account ok now completedAt)
    | _ => none
  | .ack id depth now => some (s.setFlow (s.client.flow.ack id depth now).2.2)

/-- A client that was just activated. The record of the last image is not set,
nor is the image of the converter. -/
def start (codec : BitmapCodec) (width height maxUpdateSize : Nat) (width_pos : 0 < width)
    (memory : Image) : BitmapOutput where
  codec := codec
  client := { width, height, maxUpdateSize, width_pos, previousBitmap := memory }
  converterFrame := memory

-- ---------------------------------------------------------------------------
-- Where the last frame is
-- ---------------------------------------------------------------------------

def Held (s : BitmapOutput) (image : Image) : Prop :=
  match s.stage with
  | .taken (some frame) _ => frame = image
  | .sent false _ | .collected false _ | .stopped => True
  | _ => s.client.shows image

structure Located (s : BitmapOutput) (image : Image) : Prop where
  pending : ∀ pending ∈ s.pendingDecoded, pending = image
  held : s.pendingDecoded = none → s.Held image

structure Sound (s : BitmapOutput) : Prop where
  coherent : s.client.Coherent
  unrecorded : s.codec = .surface → s.client.previousBitmapValid = false
  unallocated : s.client.classicEncoded = false
  closed : s.client.classicFrameOpen = false
  fresh : ∀ now, s.stage ≠ .taken none now
  next : s.pendingNextDecoded = none
  latest : ∀ image ∈ s.latest, s.Located image

/-- The output is ready once RemoteFX or NSCodec composed the image, and the
Progressive codec encodes a region that is not empty. -/
def Allowed (s : BitmapOutput) : BitmapEvent → Prop
  | .send answers =>
    match s.codec with
    | .surface => clientOutputWriteReady answers.probe = true
    | .progressive => answers.progressive.encoded ≠ .nothing
    | .classic => True
  | _ => True

instance (s : BitmapOutput) (event : BitmapEvent) : Decidable (s.Allowed event) :=
  match event with
  | .send answers =>
    match h : s.codec with
    | .surface => decidable_of_iff (clientOutputWriteReady answers.probe = true) (by simp only [Allowed, h])
    | .progressive => decidable_of_iff (answers.progressive.encoded ≠ .nothing) (by simp only [Allowed, h])
    | .classic => .isTrue (by simp only [Allowed, h])
  | .decoded _ | .flush .. | .collect | .account _ | .ack .. => .isTrue trivial

-- ---------------------------------------------------------------------------
-- One step
-- ---------------------------------------------------------------------------

theorem sound_start (codec : BitmapCodec) (width height maxUpdateSize : Nat) (width_pos : 0 < width)
    (memory : Image) : (start codec width height maxUpdateSize width_pos memory).Sound where
  coherent hvalid := by cases hvalid
  unrecorded _ := rfl
  unallocated := rfl
  closed := rfl
  fresh _ hstage := by cases hstage
  next := rfl
  latest _ hlatest := by cases hlatest

section Steps

variable {s s' : BitmapOutput}

theorem Sound.onDecodedFrame (h : s.Sound) (image : Image) : (s.onDecodedFrame image).Sound := by
  rw [BitmapOutput.onDecodedFrame, h.closed]
  refine { h with latest := ?_ }
  rintro _ ⟨⟩
  refine ⟨?_, nofun⟩
  rintro _ ⟨⟩
  rfl

theorem Sound.flush (h : s.Sound) (probe : WriteProbe) (now : UInt64) :
    (s.flush probe now).Sound := by
  have hresume : s.classicResume = false := by simp [classicResume, h.closed]
  unfold BitmapOutput.flush
  rw [hresume]
  split
  · exact h
  split
  · exact h
  simp only [Bool.false_eq_true, if_false]
  split
  · exact h
  case h_2 frame hpending =>
    refine { h with fresh := nofun, latest := fun image hlatest => ⟨nofun, fun _ => ?_⟩ }
    exact (h.latest image hlatest).pending frame hpending

theorem Sound.sent (h : s.Sound) {image : Image} {result : Option BitmapClient}
    (hlast : ∀ last ∈ s.latest, s.pendingDecoded = none → image = last)
    (hsends : ∀ client ∈ result, s.client.Sends image client)
    (hunrecorded : ∀ client ∈ result, s.codec = .surface → client.previousBitmapValid = false)
    (now : UInt64) : (s.sent now result).Sound := by
  cases result with
  | none =>
    refine { h with fresh := nofun, latest := fun last hlatest => ?_ }
    exact ⟨(h.latest last hlatest).pending, fun _ => trivial⟩
  | some client =>
    have hsent := hsends client rfl
    refine ⟨hsent.coherent, hunrecorded client rfl, hsent.unallocated.trans h.unallocated,
      hsent.unopened.trans h.closed, nofun, h.next, fun last hlatest => ?_⟩
    refine ⟨(h.latest last hlatest).pending, fun hempty => ?_⟩
    have hshows : client.shows image := hsent.shows
    rw [hlast last hlatest hempty] at hshows
    exact hshows

theorem sendBitmapFrame_sends {client : BitmapClient} (h : s.Sound) (hallowed : s.Allowed (.send answers))
    (hsend : sendBitmapFrame s.codec s.client image answers = some client) :
    s.client.Sends image client ∧ (s.codec = .surface → client.previousBitmapValid = false) := by
  cases hcodec : s.codec with
  | classic =>
    rw [hcodec, sendBitmapFrame, BitmapClient.sendClassicBitmapFrame_fails h.unallocated] at hsend
    cases hsend
  | progressive =>
    simp only [Allowed, hcodec] at hallowed
    rw [hcodec] at hsend
    exact ⟨BitmapClient.sendProgressiveFrame_sends h.coherent hallowed hsend, nofun⟩
  | surface =>
    simp only [Allowed, hcodec] at hallowed
    simp only [hcodec, sendBitmapFrame, hallowed, Bool.not_true, Bool.false_eq_true, if_false] at hsend
    split at hsend
    · cases hsend
    split at hsend
    · cases hsend
    cases hsend
    have hinvalid := h.unrecorded hcodec
    refine ⟨⟨fun hvalid => ?_, fun x hx y hy => ?_, rfl, rfl⟩, fun _ => hinvalid⟩
    · exact absurd hvalid (by simp [hinvalid])
    · have hcovers : Tile.Covers ⟨0, 0, s.client.width, s.client.height⟩ x y := by
        simpa [Tile.Covers] using ⟨hx, hy⟩
      exact Tile.paint_of_covers hcovers (fun x y => some (image x y)) s.client.screen

theorem Sound.send (h : s.Sound) (hstage : s.stage = .taken frame now)
    (hallowed : s.Allowed (.send answers)) : (s.send frame now answers).Sound := by
  cases frame with
  | none => exact absurd hstage (h.fresh now)
  | some image =>
    have hlast : ∀ last ∈ s.latest, s.pendingDecoded = none → image = last := by
      intro last hlatest hempty
      have hheld := (h.latest last hlatest).held hempty
      rwa [Held, hstage] at hheld
    unfold BitmapOutput.send
    dsimp only
    split
    · exact h.sent hlast (fun _ hnone => by cases hnone) (fun _ hnone => by cases hnone) now
    · have hconverted : Sound { s with converterFrame := image } := { h with
        latest := fun last hlatest => { h.latest last hlatest with } }
      refine hconverted.sent hlast (fun client hsend => ?_) (fun client hsend => ?_) now
      · exact (sendBitmapFrame_sends h hallowed hsend).1
      · exact (sendBitmapFrame_sends h hallowed hsend).2

theorem Sound.setStage (h : s.Sound) (stage : FlushStage) (hfresh : ∀ now, stage ≠ .taken none now)
    (hheld : ∀ image, s.Held image → Held { s with stage } image) : Sound { s with stage } :=
  { h with
    fresh := hfresh
    latest := fun image hlatest => ⟨(h.latest image hlatest).pending, fun hempty =>
      hheld image ((h.latest image hlatest).held hempty)⟩ }

theorem Sound.collect (h : s.Sound) (hstage : s.stage = .sent ok now) : (s.collect ok now).Sound := by
  have hcollected : Sound { s with stage := .collected ok now } := by
    refine h.setStage _ nofun fun image hheld => ?_
    rw [Held, hstage] at hheld
    cases ok <;> exact hheld
  unfold BitmapOutput.collect
  split
  · -- nothing waits behind a slice, so the frames stay where they are
    rw [h.next, Option.none_or]
    exact { hcollected with next := rfl, latest := fun image hlatest => { hcollected.latest image hlatest with } }
  · exact hcollected

theorem Sound.setFlow (h : s.Sound) (flow : FrameFlow) : (s.setFlow flow).Sound :=
  { h with latest := fun image hlatest => { h.latest image hlatest with } }

theorem Sound.account (h : s.Sound) (hstage : s.stage = .collected ok now) (completedAt : UInt64) :
    (s.account ok now completedAt).Sound := by
  unfold BitmapOutput.account
  generalize hs' : (if s.codec = .progressive then
    s.setFlow (s.client.flow.sendCost (completedAt - now) completedAt) else s) = s'
  have hflow : s'.Sound ∧ s'.stage = .collected ok now := by
    subst hs'
    split
    · exact ⟨h.setFlow _, hstage⟩
    · exact ⟨h, hstage⟩
  obtain ⟨h, hstage⟩ := hflow
  refine h.setStage _ (fun now => ?_) fun image hheld => ?_
  · cases ok <;> nofun
  · rw [Held, hstage] at hheld
    cases ok <;> exact hheld

theorem Sound.step {event : BitmapEvent} (h : s.Sound) (hallowed : s.Allowed event)
    (hstep : s.step event = some s') : s'.Sound := by
  cases event with
  | decoded image =>
    simp only [BitmapOutput.step] at hstep
    split at hstep
    · cases hstep
    · exact Option.some.inj hstep ▸ h.onDecodedFrame image
  | flush probe now =>
    simp only [BitmapOutput.step] at hstep
    split at hstep
    · exact Option.some.inj hstep ▸ h.flush probe now
    · cases hstep
  | send answers =>
    simp only [BitmapOutput.step] at hstep
    split at hstep
    · exact Option.some.inj hstep ▸ h.send ‹_› hallowed
    · cases hstep
  | collect =>
    simp only [BitmapOutput.step] at hstep
    split at hstep
    · exact Option.some.inj hstep ▸ h.collect ‹_›
    · cases hstep
  | account completedAt =>
    simp only [BitmapOutput.step] at hstep
    split at hstep
    · exact Option.some.inj hstep ▸ h.account ‹_› completedAt
    · cases hstep
  | ack id depth now => exact Option.some.inj hstep ▸ h.setFlow _

end Steps

-- ---------------------------------------------------------------------------
-- Every run
-- ---------------------------------------------------------------------------

/-- Nothing waits, no flush is on its way and no slice is open. -/
def AtRest (s : BitmapOutput) : Prop :=
  s.pendingDecoded = none ∧ s.pendingNextDecoded = none ∧ s.stage = .idle ∧
    s.client.classicFrameOpen = false

theorem last_frame_shown {codec : BitmapCodec} {width height maxUpdateSize : Nat}
    {width_pos : 0 < width} {memory : Image} {events : List BitmapEvent} {s : BitmapOutput}
    (hallowed : Machine.Along step Allowed (start codec width height maxUpdateSize width_pos memory)
      events)
    (hrun : Machine.run step (start codec width height maxUpdateSize width_pos memory) events = some s)
    (hrest : s.AtRest) : ∀ image ∈ s.latest, s.client.shows image := by
  intro image hlatest
  obtain ⟨hempty, -, hidle, -⟩ := hrest
  have hsound : s.Sound := Machine.run_invariant (fun _ _ _ hs => hs.step)
    (sound_start codec width height maxUpdateSize width_pos memory) hallowed hrun
  have hheld := (hsound.latest image hlatest).held hempty
  rwa [Held, hidle] at hheld

def plain (level : UInt8) : Image := fun _ _ => ⟨level, level, level⟩

def onePixel (codec : BitmapCodec) : BitmapOutput :=
  start codec 1 1 32768 Nat.one_pos (plain 0)

def twoFrames : List BitmapEvent :=
  [.decoded (plain 128), .flush {} 1000, .decoded (plain 255), .send {}, .collect, .account 1001,
    .flush {} 1002, .flush {} 1010, .send {}, .collect, .account 1011]

theorem twoFrames_shown :
    ∃ s, Machine.run step (onePixel .surface) twoFrames = some s ∧
      s.AtRest ∧ s.latest = some (plain 255) ∧ s.client.shows (plain 255) := by
  refine ⟨_, rfl, ⟨rfl, rfl, rfl, rfl⟩, rfl, ?_⟩
  exact @last_frame_shown .surface 1 1 32768 Nat.one_pos (plain 0) twoFrames _ (by decide +kernel) rfl
    ⟨rfl, rfl, rfl, rfl⟩ _ rfl

def blockedProbe : WriteProbe := { blocked := true, blockedAfter := true }

/-- The socket blocks after the image is composed. -/
theorem last_frame_lost :
    ∃ s, Machine.run step (onePixel .surface)
        [.decoded (plain 255), .flush {} 1000, .send { probe := blockedProbe }, .collect, .account 1001] =
          some s ∧
      s.AtRest ∧ ∃ image ∈ s.latest, ¬ s.client.shows image := by
  refine ⟨_, rfl, ⟨rfl, rfl, rfl, rfl⟩, _, rfl, fun h => ?_⟩
  cases h 0 Nat.one_pos 0 Nat.one_pos

end BitmapOutput

end NanokvmRdp.Gateway
