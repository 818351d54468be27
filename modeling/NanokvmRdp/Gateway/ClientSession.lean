import NanokvmRdp.Gateway.BitmapOutput

/-!
# The threads of a client

From `peer_post_connect` to `client_stop`. Without `-direct-gfx` the client gets
a `bitmap_video_thread` and an `output_thread`; with it, the capabilities the
client advertises decide which video thread `on_gfx_caps_advertise` starts. The
decoder of a `bitmap_video_thread` leaves its frames in the mailboxes of
`BitmapOutput`, and the steps of the flush are those of the output thread.
-/

namespace NanokvmRdp.Gateway

-- ---------------------------------------------------------------------------
-- Capabilities
-- ---------------------------------------------------------------------------

inductive GfxVersion where
  | v8
  | v81
  | v10
  | v101
  | v102
  | v103
  | v104
  | v105
  | v106Err
  | v106
  | v107
  deriving DecidableEq, Repr

/-- A capability set with the two flags that are read. Another version is `none`. -/
structure GfxCap where
  version : Option GfxVersion
  avc420Enabled : Bool := false
  avcDisabled : Bool := false
  deriving DecidableEq, Repr

def preferredVersions : List GfxVersion :=
  [.v107, .v106, .v106Err, .v105, .v104, .v103, .v102, .v101, .v10, .v81, .v8]

def clientCapSupportsAvc420 (version : GfxVersion) (cap : GfxCap) : Bool :=
  match version with
  | .v8 => false
  | .v81 => cap.avc420Enabled
  | _ => !cap.avcDisabled

/-- One pass of `client_select_gfx_cap`; the first one takes AVC420 only. -/
def selectPass (caps : List GfxCap) (avcOnly : Bool) : Option (GfxCap × Bool) :=
  preferredVersions.findSome? fun version =>
    caps.findSome? fun cap =>
      let avc420 := clientCapSupportsAvc420 version cap
      if cap.version ≠ some version || (avcOnly && !avc420) then none else some (cap, avc420)

def clientSelectGfxCap (caps : List GfxCap) : Option (GfxCap × Bool) :=
  (selectPass caps true).or (selectPass caps false)

-- ---------------------------------------------------------------------------
-- The client
-- ---------------------------------------------------------------------------

inductive ClientThread where
  | video
  | bitmapVideo
  deriving DecidableEq, Repr

/-- Where `peer_post_connect` is. `client_prepare_bitmap` starts the video thread,
then the output thread, then asks for the stream. -/
inductive Setup where
  | connecting
  | startingOutput
  | requestingStream
  | returned (ok : Bool)
  deriving DecidableEq, Repr

structure ClientSession where
  directGfx : Bool
  setup : Setup := .connecting
  directGfxActive : Bool := false
  bitmapFallbackActive : Bool := false
  gfxReady : Bool := false
  needIdr : Bool := true
  gfxUsesProgressive : Bool := false
  threads : List ClientThread := []
  outputThread : Bool := false
  stopping : Bool := false
  output : BitmapOutput

/-- The answers of the calls in `peer_post_connect`: the desktop size and the claim
of the server, the graphics channel, the codec, and the video thread. -/
structure ConnectAnswers where
  activated : Bool := true
  gfxInitialized : Bool := true
  codecReady : Bool := true
  videoStarted : Bool := true
  deriving DecidableEq, Repr

/-- The answers of the calls in `on_gfx_caps_advertise`: confirming the
capability and making the surface, the Progressive context, and the thread. -/
structure GfxAnswers where
  surfaceReady : Bool := true
  progressiveReady : Bool := true
  videoStarted : Bool := true
  deriving DecidableEq, Repr

inductive SessionStep where
  | postConnect (answers : ConnectAnswers)
  | startOutput (started : Bool)
  | requestStream (sent : Bool)
  | capsAdvertise (caps : List GfxCap) (answers : GfxAnswers)
  | decoded (image : Image) (cloned : Bool)
  | flush (probe : WriteProbe) (now : UInt64)
  | send (answers : BitmapAnswers)
  | collect
  | account (completedAt : UInt64)
  | ack (id depth : UInt32) (now : UInt64)
  | stop

def FlushStage.isStopped : FlushStage → Bool
  | .stopped => true
  | _ => false

namespace ClientSession

def initial (directGfx : Bool) (output : BitmapOutput) : ClientSession := { directGfx, output }

/-- `client_prepare_bitmap` up to the video thread. -/
def prepareBitmap (s : ClientSession) (answers : ConnectAnswers) : ClientSession :=
  let s := { s with bitmapFallbackActive := true }
  if !answers.codecReady || !answers.videoStarted then { s with setup := .returned false }
  else { s with threads := .bitmapVideo :: s.threads, setup := .startingOutput }

def postConnect (s : ClientSession) (answers : ConnectAnswers) : ClientSession :=
  if !answers.activated then { s with setup := .returned false }
  else if s.directGfx then
    if answers.gfxInitialized then { s with directGfxActive := true, setup := .returned true }
    else { s with setup := .returned false }
  else s.prepareBitmap answers

def startOutput (s : ClientSession) (started : Bool) : ClientSession :=
  if started then { s with outputThread := true, setup := .requestingStream }
  else { s with setup := .returned false }

/-- `on_gfx_caps_advertise` with the capability it selected. -/
def confirmCaps (s : ClientSession) (useAvc420 : Bool) (answers : GfxAnswers) : ClientSession :=
  if !answers.surfaceReady || (!useAvc420 && !answers.progressiveReady) then s
  else
    let s := { s with
      gfxReady := true
      needIdr := useAvc420
      gfxUsesProgressive := !useAvc420
      bitmapFallbackActive := !useAvc420
      output := if useAvc420 then s.output else { s.output with codec := .progressive } }
    if answers.videoStarted then
      { s with threads := (if useAvc420 then .video else .bitmapVideo) :: s.threads }
    else { s with stopping := true }

def onGfxCapsAdvertise (s : ClientSession) (caps : List GfxCap) (answers : GfxAnswers) :
    ClientSession :=
  if !s.directGfxActive || s.bitmapFallbackActive then s
  else
    match clientSelectGfxCap caps with
    | none => { s with stopping := true }
    | some (_, useAvc420) => s.confirmCaps useAvc420 answers

def onDecodedFrame (s : ClientSession) (image : Image) (cloned : Bool) : ClientSession :=
  if s.stopping || !cloned then s else { s with output := s.output.onDecodedFrame image }

/-- A step of the flush. A send that failed stops the client. -/
def runOutput (s : ClientSession) (event : BitmapEvent) : Option ClientSession :=
  if s.outputThread then
    (s.output.step event).map fun output =>
      { s with output, stopping := s.stopping || output.stage.isStopped }
  else none

def step (s : ClientSession) : SessionStep → Option ClientSession
  | .postConnect answers => if s.setup = .connecting then some (s.postConnect answers) else none
  | .startOutput started =>
    if s.setup = .startingOutput then some (s.startOutput started) else none
  | .requestStream sent =>
    if s.setup = .requestingStream then some { s with setup := .returned sent } else none
  | .capsAdvertise caps answers => some (s.onGfxCapsAdvertise caps answers)
  | .decoded image cloned =>
    if .bitmapVideo ∈ s.threads then some (s.onDecodedFrame image cloned) else none
  | .flush probe now =>
    -- the loop of `output_thread` comes to the flush only for a bitmap client
    if s.bitmapFallbackActive && !s.stopping then s.runOutput (.flush probe now) else none
  | .send answers => s.runOutput (.send answers)
  | .collect => s.runOutput .collect
  | .account completedAt => s.runOutput (.account completedAt)
  | .ack id depth now =>
    (s.output.step (.ack id depth now)).map fun output => { s with output }
  | .stop => some { s with stopping := true }

-- ---------------------------------------------------------------------------
-- Decoded frames have a drain
-- ---------------------------------------------------------------------------

def Waiting (s : ClientSession) : Prop :=
  s.output.pendingDecoded.isSome = true ∨ s.output.pendingNextDecoded.isSome = true

def Running (s : ClientSession) : Prop := s.setup = .returned true ∧ s.stopping = false

/-- A running client with a thread that decodes frames has the thread that sends
them, and no frame waits without it. -/
structure Drained (s : ClientSession) : Prop where
  pipeline : .bitmapVideo ∈ s.threads → s.Running → s.outputThread = true
  frames : s.Waiting → s.Running → s.outputThread = true

/-- A capability without AVC420 is not selected where the handler acts on it. -/
def SelectsAvc420 (s : ClientSession) : SessionStep → Prop
  | .capsAdvertise caps _ =>
    s.directGfxActive = true → s.bitmapFallbackActive = false →
      ∀ selected ∈ clientSelectGfxCap caps, selected.2 = true
  | _ => True

/-- Without a thread that decodes frames nothing waits. Only the setup starts
that thread, and goes on to start the output thread. -/
structure Pipelined (s : ClientSession) : Prop where
  connecting : s.setup = .connecting → .bitmapVideo ∉ s.threads
  requesting : s.setup = .requestingStream → s.outputThread = true
  returned : s.setup = .returned true → .bitmapVideo ∈ s.threads → s.outputThread = true
  waiting : s.Waiting → .bitmapVideo ∈ s.threads
  decoding : s.outputThread = true → .bitmapVideo ∈ s.threads
  starting : s.setup = .startingOutput → .bitmapVideo ∈ s.threads

theorem Pipelined.drained {s : ClientSession} (h : s.Pipelined) : s.Drained where
  pipeline hthread hrunning := h.returned hrunning.1 hthread
  frames hwaiting hrunning := h.returned hrunning.1 (h.waiting hwaiting)

-- ---------------------------------------------------------------------------
-- One step
-- ---------------------------------------------------------------------------

theorem Pipelined.congr {s s' : ClientSession} (h : s.Pipelined) (hsetup : s'.setup = s.setup)
    (hthreads : .bitmapVideo ∈ s'.threads ↔ .bitmapVideo ∈ s.threads)
    (houtput : s'.outputThread = s.outputThread)
    (hwaiting : s'.Waiting → .bitmapVideo ∈ s.threads) : s'.Pipelined where
  connecting hstage := by
    rw [hthreads]
    exact h.connecting (hsetup ▸ hstage)
  requesting hstage := by
    rw [houtput]
    exact h.requesting (hsetup ▸ hstage)
  returned hstage hthread := by
    rw [houtput]
    exact h.returned (hsetup ▸ hstage) (hthreads.mp hthread)
  waiting hframe := hthreads.mpr (hwaiting hframe)
  decoding hstarted := hthreads.mpr (h.decoding (houtput ▸ hstarted))
  starting hstage := hthreads.mpr (h.starting (hsetup ▸ hstage))

theorem Pipelined.failed {s : ClientSession} (h : s.Pipelined) :
    Pipelined { s with setup := .returned false } where
  connecting hstage := nomatch hstage
  requesting hstage := nomatch hstage
  returned hstage := nomatch hstage
  waiting := h.waiting
  decoding := h.decoding
  starting hstage := nomatch hstage

theorem Pipelined.postConnect {s : ClientSession} (h : s.Pipelined)
    (hconnecting : s.setup = .connecting) (answers : ConnectAnswers) :
    (s.postConnect answers).Pipelined := by
  have hnone := h.connecting hconnecting
  unfold ClientSession.postConnect
  split
  · exact h.failed
  split
  · split
    · exact {
        connecting := fun hstage => nomatch hstage
        requesting := fun hstage => nomatch hstage
        returned := fun _ hthread => absurd hthread hnone
        waiting := h.waiting
        decoding := h.decoding
        starting := fun hstage => nomatch hstage }
    · exact h.failed
  · unfold prepareBitmap
    simp only
    split
    · have hfallback : Pipelined { s with bitmapFallbackActive := true } :=
        h.congr rfl Iff.rfl rfl h.waiting
      exact hfallback.failed
    · exact {
        connecting := fun hstage => nomatch hstage
        requesting := fun hstage => nomatch hstage
        returned := fun hstage => nomatch hstage
        waiting := fun _ => List.mem_cons_self
        decoding := fun _ => List.mem_cons_self
        starting := fun _ => List.mem_cons_self }

theorem Pipelined.startOutput {s : ClientSession} (h : s.Pipelined)
    (hstarting : s.setup = .startingOutput) (started : Bool) :
    (s.startOutput started).Pipelined := by
  unfold ClientSession.startOutput
  split
  · exact {
      connecting := fun hstage => nomatch hstage
      requesting := fun _ => rfl
      returned := fun hstage => nomatch hstage
      waiting := h.waiting
      decoding := fun _ => h.starting hstarting
      starting := fun hstage => nomatch hstage }
  · exact h.failed

theorem Pipelined.requestStream {s : ClientSession} (h : s.Pipelined)
    (hrequesting : s.setup = .requestingStream) (sent : Bool) :
    Pipelined { s with setup := .returned sent } where
  connecting hstage := nomatch hstage
  requesting hstage := nomatch hstage
  returned _ _ := h.requesting hrequesting
  waiting := h.waiting
  decoding := h.decoding
  starting hstage := nomatch hstage

/-- With AVC420 the handler starts the thread that sends its units itself. -/
theorem Pipelined.confirmCaps {s : ClientSession} (h : s.Pipelined) (answers : GfxAnswers) :
    (s.confirmCaps true answers).Pipelined := by
  unfold ClientSession.confirmCaps
  split
  · exact h
  · simp only
    split
    · refine h.congr rfl ?_ rfl h.waiting
      simp
    · exact h.congr rfl Iff.rfl rfl h.waiting

theorem Pipelined.onGfxCapsAdvertise {s : ClientSession} (h : s.Pipelined) {caps : List GfxCap}
    {answers : GfxAnswers} (hselects : s.SelectsAvc420 (.capsAdvertise caps answers)) :
    (s.onGfxCapsAdvertise caps answers).Pipelined := by
  unfold ClientSession.onGfxCapsAdvertise
  split
  · exact h
  · rename_i hacts
    simp only [Bool.or_eq_true, Bool.not_eq_true', not_or, Bool.not_eq_false,
      Bool.not_eq_true] at hacts
    have havc := hselects hacts.1 hacts.2
    cases hselected : clientSelectGfxCap caps with
    | none => exact h.congr rfl Iff.rfl rfl h.waiting
    | some selected =>
      obtain ⟨cap, useAvc420⟩ := selected
      obtain rfl : useAvc420 = true := havc _ hselected
      exact h.confirmCaps answers

theorem Pipelined.onDecodedFrame {s : ClientSession} (h : s.Pipelined)
    (hthread : .bitmapVideo ∈ s.threads) (image : Image) (cloned : Bool) :
    (s.onDecodedFrame image cloned).Pipelined := by
  unfold ClientSession.onDecodedFrame
  split
  · exact h
  · exact h.congr rfl Iff.rfl rfl fun _ => hthread

/-- Whatever the output thread leaves in the mailboxes, the frames came from a
thread that decodes them. -/
theorem Pipelined.runOutput {s s' : ClientSession} (h : s.Pipelined) {event : BitmapEvent}
    (hrun : s.runOutput event = some s') : s'.Pipelined := by
  unfold ClientSession.runOutput at hrun
  split at hrun
  · rename_i hstarted
    obtain ⟨output, -, rfl⟩ := Option.map_eq_some_iff.mp hrun
    exact h.congr rfl Iff.rfl rfl fun _ => h.decoding hstarted
  · cases hrun

theorem Pipelined.ack {s s' : ClientSession} (h : s.Pipelined) {id depth : UInt32} {now : UInt64}
    (hstep : s.step (.ack id depth now) = some s') : s'.Pipelined := by
  cases hstep
  exact h.congr rfl Iff.rfl rfl h.waiting

theorem pipelined_step (s : ClientSession) (event : SessionStep) (s' : ClientSession)
    (h : s.Pipelined) (hselects : s.SelectsAvc420 event) (hstep : s.step event = some s') :
    s'.Pipelined := by
  cases event with
  | postConnect answers =>
    simp only [step] at hstep
    split at hstep
    · cases hstep
      exact h.postConnect ‹_› answers
    · cases hstep
  | startOutput started =>
    simp only [step] at hstep
    split at hstep
    · cases hstep
      exact h.startOutput ‹_› started
    · cases hstep
  | requestStream sent =>
    simp only [step] at hstep
    split at hstep
    · cases hstep
      exact h.requestStream ‹_› sent
    · cases hstep
  | capsAdvertise caps answers =>
    cases hstep
    exact h.onGfxCapsAdvertise hselects
  | decoded image cloned =>
    simp only [step] at hstep
    split at hstep
    · cases hstep
      exact h.onDecodedFrame ‹_› image cloned
    · cases hstep
  | flush probe now =>
    simp only [step] at hstep
    split at hstep
    · exact h.runOutput hstep
    · cases hstep
  | send answers => exact h.runOutput hstep
  | collect => exact h.runOutput hstep
  | account completedAt => exact h.runOutput hstep
  | ack id depth now => exact h.ack hstep
  | stop =>
    cases hstep
    exact h.congr rfl Iff.rfl rfl h.waiting

-- ---------------------------------------------------------------------------
-- Every run
-- ---------------------------------------------------------------------------

def accepted (directGfx : Bool) (width height maxUpdateSize : Nat) (width_pos : 0 < width)
    (memory : Image) : ClientSession :=
  initial directGfx (BitmapOutput.start .surface width height maxUpdateSize width_pos memory)

theorem pipelined_accepted (directGfx : Bool) (width height maxUpdateSize : Nat)
    (width_pos : 0 < width) (memory : Image) :
    (accepted directGfx width height maxUpdateSize width_pos memory).Pipelined where
  connecting _ := List.not_mem_nil
  requesting hstage := nomatch hstage
  returned hstage := nomatch hstage
  waiting hframe := by
    rcases hframe with hframe | hframe <;> cases hframe
  decoding hstarted := nomatch hstarted
  starting hstage := nomatch hstage

/-- Decoded frames have a drain in every run in which no capability without
AVC420 is selected. -/
theorem decoded_frames_drained (directGfx : Bool) (width height maxUpdateSize : Nat)
    (width_pos : 0 < width) (memory : Image) (events : List SessionStep) (s : ClientSession)
    (hselects : Machine.Along step SelectsAvc420
      (accepted directGfx width height maxUpdateSize width_pos memory) events)
    (hrun : Machine.run step (accepted directGfx width height maxUpdateSize width_pos memory)
      events = some s) : s.Drained := by
  have hpipelined : s.Pipelined := Machine.run_invariant pipelined_step
    (pipelined_accepted directGfx width height maxUpdateSize width_pos memory) hselects hrun
  exact hpipelined.drained

def onePixel (directGfx : Bool) : ClientSession :=
  accepted directGfx 1 1 32768 Nat.one_pos (BitmapOutput.plain 0)

def bitmapSession : List SessionStep :=
  [.postConnect {}, .startOutput true, .requestStream true, .decoded (BitmapOutput.plain 255) true]

theorem bitmap_session_drained :
    ∃ s, Machine.run step (onePixel false) bitmapSession = some s ∧
      .bitmapVideo ∈ s.threads ∧ s.Waiting ∧ s.Running ∧ s.outputThread = true := by
  obtain ⟨s, hrun⟩ : ∃ s, Machine.run step (onePixel false) bitmapSession = some s := ⟨_, rfl⟩
  have hselects : Machine.Along step SelectsAvc420 (onePixel false) bitmapSession := by
    refine Machine.along_of_forall (fun event hevent s => ?_) _
    simp only [bitmapSession, List.mem_cons, List.not_mem_nil, or_false] at hevent
    obtain rfl | rfl | rfl | rfl := hevent <;> exact trivial
  have hdrained := decoded_frames_drained false 1 1 32768 Nat.one_pos (BitmapOutput.plain 0)
    bitmapSession s hselects hrun
  cases hrun
  exact ⟨_, rfl, by decide, .inl rfl, ⟨rfl, rfl⟩, hdrained.frames (.inl rfl) ⟨rfl, rfl⟩⟩

/-- A client of `-direct-gfx` that knows version 8 only. -/
def progressiveSession : List SessionStep :=
  [.postConnect {}, .capsAdvertise [{ version := some .v8 }] {},
    .decoded (BitmapOutput.plain 255) true]

/-- It runs with a decoded frame and no thread to send it. -/
theorem progressive_frame_undrained :
    ∃ s, Machine.run step (onePixel true) progressiveSession = some s ∧
      .bitmapVideo ∈ s.threads ∧ s.Running ∧ s.output.pendingDecoded.isSome = true ∧
      s.outputThread = false ∧ ¬ s.Drained := by
  refine ⟨_, rfl, by decide, ⟨rfl, rfl⟩, rfl, rfl, fun hdrained => ?_⟩
  have hstarted := hdrained.pipeline (by decide) ⟨rfl, rfl⟩
  cases hstarted

end ClientSession

end NanokvmRdp.Gateway
