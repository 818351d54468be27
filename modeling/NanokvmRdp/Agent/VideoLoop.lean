import NanokvmRdp.Agent.Control
import NanokvmRdp.Lib.Log
import NanokvmRdp.Lib.Machine

/-!
# The agent's video thread

The control thread and `video_loop` share two flags, `streaming` and
`wait_for_idr`. Every load and every store of one of them is a step of its
own, so that the two threads interleave in any way. A frame that is captured
while `streaming` is off is dropped without a mark on the chain; what makes up
for it is the store to `wait_for_idr` in `START_STREAM`, which comes after the
store to `streaming`.
-/

namespace NanokvmRdp

open Hid Protocol

-- ---------------------------------------------------------------------------
-- The control thread
-- ---------------------------------------------------------------------------

structure StreamFlags where
  streaming : Bool := false
  waitForIdr : Bool := true
  deriving DecidableEq, Repr

inductive FlagStore where
  | streaming (value : Bool)
  | waitForIdr (value : Bool)
  deriving DecidableEq, Repr

def FlagStore.apply (flags : StreamFlags) : FlagStore → StreamFlags
  | .streaming value => { flags with streaming := value }
  | .waitForIdr value => { flags with waitForIdr := value }

inductive StreamCommand where
  | startStream
  | stopStream
  | idrRequest
  | disconnect
  deriving DecidableEq, Repr

/-- The stores in program order: the first one and those behind it. -/
def StreamCommand.stores : StreamCommand → FlagStore × List FlagStore
  | .startStream => (.streaming true, [.waitForIdr true])
  | .stopStream => (.streaming false, [])
  | .idrRequest => (.waitForIdr true, [])
  | .disconnect => (.streaming false, [.waitForIdr true])

def StreamCommand.apply (command : StreamCommand) (flags : StreamFlags) : StreamFlags :=
  command.stores.2.foldl FlagStore.apply (command.stores.1.apply flags)

def StreamCommand.ofMessage? (message : ControlMessage) : Option StreamCommand :=
  match ControlType.ofCode? message.type with
  | some .startStream => some .startStream
  | some .stopStream => some .stopStream
  | some .idrRequest => some .idrRequest
  | _ => none

namespace Agent

def flags (agent : Agent) : StreamFlags := ⟨agent.streaming, agent.waitForIdr⟩

@[simp] theorem flags_setHid (agent : Agent) (hid : HidState) :
    (agent.setHid hid).flags = agent.flags := rfl

@[simp] theorem flags_outcome (agent : Agent) (result : Bool × HidState) :
    (agent.outcome result).2.flags = agent.flags := rfl

@[simp] theorem flags_protocolSend (agent : Agent) (type : ControlType) (payload : List UInt8) :
    (agent.protocolSend type payload).flags = agent.flags := rfl

@[simp] theorem flags_handleKey (agent : Agent) (payload : List UInt8) :
    (agent.handleKey payload).2.flags = agent.flags := by
  unfold handleKey
  split
  · rw [flags_outcome]
  · rw [flags_protocolSend, flags_outcome]
  · rfl

@[simp] theorem flags_handlePointerAbs (agent : Agent) (payload : List UInt8) :
    (agent.handlePointerAbs payload).2.flags = agent.flags := by
  unfold handlePointerAbs
  split
  · rw [flags_outcome]
  · rfl

@[simp] theorem flags_handlePointerRel (agent : Agent) (payload : List UInt8) :
    (agent.handlePointerRel payload).2.flags = agent.flags := by
  unfold handlePointerRel
  split
  · rw [flags_outcome]
  · rfl

@[simp] theorem flags_handleWheel (agent : Agent) (payload : List UInt8) :
    (agent.handleWheel payload).2.flags = agent.flags := by
  unfold handleWheel
  split
  · rw [flags_outcome]
  · rfl

@[simp] theorem flags_handleText (agent : Agent) (payload : List UInt8) :
    (agent.handleText payload).flags = agent.flags := by
  unfold handleText
  split
  · rfl
  · split <;> rw [flags_setHid]

@[simp] theorem flags_countInput (agent : Agent) (type : UInt8) (started : UInt64) :
    (agent.countInput type started).flags = agent.flags := by
  unfold countInput
  split <;> rfl

theorem flags_dispatch (agent : Agent) (message : ControlMessage) :
    (agent.dispatch message).2.flags =
      (StreamCommand.ofMessage? message).elim agent.flags fun command => command.apply agent.flags := by
  unfold dispatch StreamCommand.ofMessage?
  cases ControlType.ofCode? message.type with
  | none => rfl
  | some type =>
    cases type with
    | key => exact flags_handleKey agent message.payload
    | textUtf8 => exact flags_handleText agent message.payload
    | pointerAbs => exact flags_handlePointerAbs agent message.payload
    | pointerRel => exact flags_handlePointerRel agent message.payload
    | wheel => exact flags_handleWheel agent message.payload
    | synchronize => exact flags_outcome agent agent.hid.hidSynchronize
    | releaseAll => exact flags_setHid agent agent.hid.hidReleaseAll
    | ping => exact flags_protocolSend agent .pong []
    | _ => rfl

/-- A message that is handled without an interruption does the stores of its
command. -/
theorem flags_handleControl (agent : Agent) (message : ControlMessage) :
    (agent.handleControl message).flags =
      (StreamCommand.ofMessage? message).elim agent.flags fun command => command.apply agent.flags := by
  rw [handleControl, flags_countInput]
  split
  · rw [flags_dispatch, flags_setHid]
  · rw [flags_setHid, flags_dispatch, flags_setHid]

theorem flags_disconnectControl (agent : Agent) :
    agent.disconnectControl.flags = StreamCommand.disconnect.apply agent.flags := rfl

end Agent

-- ---------------------------------------------------------------------------
-- The video thread
-- ---------------------------------------------------------------------------

inductive FrameKind where
  | sps
  | pps
  | idr
  | p
  | other
  deriving DecidableEq, Repr

structure Capture where
  kind : FrameKind
  sent : Bool
  deriving DecidableEq, Repr

/-- Where the video thread is in its loop. `failed` is behind a send that
failed. -/
inductive LoopStage where
  | test
  | capture
  | captured (kind : FrameKind)
  | loadStreaming (kind : FrameKind)
  | loadWait (kind : FrameKind)
  | send (kind : FrameKind)
  | failed
  | ended
  deriving DecidableEq, Repr

structure LoopAnswer where
  loaded : Bool := true
  captured : Option FrameKind := none
  sent : Bool := true
  deriving DecidableEq, Repr

def captureFailLimit : Nat := 50
def captureReinitLimit : Nat := 3

/-- The flags, the stores that the command at hand has still to do, and the
variables of `video_loop`. -/
structure VideoLoop where
  flags : StreamFlags := {}
  pending : List FlagStore := []
  stage : LoopStage := .test
  captureInitialized : Bool := false
  captureFailCount : Nat := 0
  captureReinitCount : Nat := 0
  timestamp : UInt32 := 1
  captureFrames : UInt32 := 0
  droppedFrames : UInt32 := 0
  captures : List Capture := []
  deriving DecidableEq

inductive StreamEvent where
  | command (command : StreamCommand)
  | store
  | video (answer : LoopAnswer)
  deriving DecidableEq, Repr

namespace VideoLoop

def endTurn (s : VideoLoop) : VideoLoop :=
  { s with timestamp := s.timestamp + 9000, stage := .test }

def drop (s : VideoLoop) (kind : FrameKind) : VideoLoop :=
  endTurn { s with
    droppedFrames := if kind = .p then s.droppedFrames + 1 else s.droppedFrames
    captures := s.captures ++ [⟨kind, false⟩] }

def captureFailed (s : VideoLoop) : VideoLoop :=
  if s.captureFailCount + 1 ≥ captureFailLimit then
    if s.captureReinitCount + 1 > captureReinitLimit then
      { s with
        captureFailCount := s.captureFailCount + 1
        captureReinitCount := s.captureReinitCount + 1
        captureInitialized := false
        stage := .ended }
    else
      { s with
        captureFailCount := 0
        captureReinitCount := s.captureReinitCount + 1
        captureInitialized := false
        stage := .test }
  else { s with captureFailCount := s.captureFailCount + 1, stage := .test }

def videoStep (s : VideoLoop) (answer : LoopAnswer) : VideoLoop :=
  match s.stage with
  | .test =>
    if !s.flags.streaming then s
    else if s.captureInitialized then { s with stage := .capture }
    else if !answer.loaded then { s with captureFailCount := 0 }
    else { s with captureFailCount := 0, captureInitialized := true, stage := .capture }
  | .capture =>
    match answer.captured with
    | none => s.captureFailed
    | some kind =>
      { s with captureFailCount := 0, captureReinitCount := 0, stage := .captured kind }
  | .captured kind =>
    { s with
      flags := if kind = .idr then (FlagStore.waitForIdr false).apply s.flags else s.flags
      captureFrames := s.captureFrames + 1
      stage := .loadStreaming kind }
  | .loadStreaming kind =>
    if !s.flags.streaming then s.drop kind
    else if kind = .sps ∨ kind = .pps ∨ kind = .idr then { s with stage := .send kind }
    else { s with stage := .loadWait kind }
  | .loadWait kind =>
    if !s.flags.waitForIdr && kind = .p then { s with stage := .send kind } else s.drop kind
  | .send kind =>
    if answer.sent then endTurn { s with captures := s.captures ++ [⟨kind, true⟩] }
    else
      { s with
        droppedFrames := s.droppedFrames + 1
        captures := s.captures ++ [⟨kind, false⟩]
        stage := .failed }
  | .failed => endTurn { s with flags := (FlagStore.waitForIdr true).apply s.flags }
  | .ended => s

def step (s : VideoLoop) : StreamEvent → Option VideoLoop
  | .command command =>
    match s.pending with
    | [] => some { s with flags := command.stores.1.apply s.flags, pending := command.stores.2 }
    | _ => none
  | .store =>
    match s.pending with
    | [] => none
    | first :: rest => some { s with flags := first.apply s.flags, pending := rest }
  | .video answer => some (s.videoStep answer)

-- ---------------------------------------------------------------------------
-- The chain
-- ---------------------------------------------------------------------------

end VideoLoop

namespace Capture

def slice (capture : Capture) : Bool := capture.kind == .idr || capture.kind == .p

def Intact (captures : List Capture) : Prop :=
  ∃ before idr after, captures = before ++ idr :: after ∧ idr.kind = .idr ∧ idr.sent = true ∧
    ∀ capture ∈ after, capture.slice = true → capture.sent = true

theorem intact_of_idr (captures : List Capture) : Intact (captures ++ [⟨.idr, true⟩]) :=
  ⟨captures, ⟨.idr, true⟩, [], rfl, rfl, rfl, fun _ hmem => absurd hmem List.not_mem_nil⟩

theorem Intact.append (h : Intact captures) {capture : Capture}
    (hsent : capture.slice = true → capture.sent = true) : Intact (captures ++ [capture]) := by
  obtain ⟨before, idr, after, rfl, hkind, hidr, hafter⟩ := h
  refine ⟨before, idr, after ++ [capture], by simp, hkind, hidr, fun other hmem => ?_⟩
  rcases List.mem_append.mp hmem with hmem | hmem
  · exact hafter other hmem
  · rw [List.mem_singleton.mp hmem]
    exact hsent

def Chained (before : List Capture) (capture : Capture) : Prop :=
  capture.kind = .p → capture.sent = true → Intact before

end Capture

namespace VideoLoop

def Starting (s : VideoLoop) : Prop := s.flags.streaming = true ∧ s.pending ≠ []

/-- What is known about the chain at each stage. -/
def Trusts (s : VideoLoop) : Prop :=
  match s.stage with
  | .send .p => Capture.Intact s.captures
  | .captured .idr | .loadStreaming .idr | .send .idr | .failed => True
  | .loadWait kind =>
    kind ≠ .idr ∧ (s.flags.waitForIdr = false → ¬ s.Starting → Capture.Intact s.captures)
  | _ =>
    s.flags.streaming = true → s.flags.waitForIdr = false → ¬ s.Starting →
      Capture.Intact s.captures

structure Sound (s : VideoLoop) : Prop where
  pending : ∀ store ∈ s.pending, store = .waitForIdr true
  short : s.pending.length ≤ 1
  trusts : s.Trusts
  chained : Log.Always Capture.Chained s.captures

/-- The video thread does not look at `wait_for_idr` for a P-frame between the
two stores of `START_STREAM`, unless the flag is set. -/
def Allowed (s : VideoLoop) : StreamEvent → Prop
  | .video _ => s.stage = .loadWait .p → s.flags.waitForIdr = false → ¬ s.Starting
  | _ => True

/-- A dropped frame breaks the chain; the flags say that no P-frame may follow,
or that the frame was no slice. -/
theorem Sound.drop {s : VideoLoop} (h : s.Sound)
    (hdropped : s.flags.streaming = true → s.flags.waitForIdr = false → ¬ s.Starting →
      kind ≠ .idr ∧ kind ≠ .p ∧ Capture.Intact s.captures) : (s.drop kind).Sound := by
  refine ⟨h.pending, h.short, fun hstreaming hwait hstarting => ?_, h.chained.concat fun _ hsent => ?_⟩
  · obtain ⟨hidr, hp, hintact⟩ := hdropped hstreaming hwait hstarting
    exact hintact.append (by simp [Capture.slice, hidr, hp])
  · cases hsent

theorem Sound.within {s s' : VideoLoop} (h : s.Sound) (hpending : s'.pending = s.pending)
    (hcaptures : s'.captures = s.captures) (htrusts : s'.Trusts) : s'.Sound where
  pending := hpending ▸ h.pending
  short := hpending ▸ h.short
  trusts := htrusts
  chained := hcaptures ▸ h.chained

theorem Sound.captureFailed {s : VideoLoop} (h : s.Sound) (hstage : s.stage = .capture) :
    s.captureFailed.Sound := by
  have htrusts := h.trusts
  simp only [Trusts, hstage] at htrusts
  unfold VideoLoop.captureFailed
  split
  · split
    · exact h.within rfl rfl htrusts
    · exact h.within rfl rfl htrusts
  · exact h.within rfl rfl htrusts

theorem Sound.sent {s : VideoLoop} (h : s.Sound) (hstage : s.stage = .send kind) :
    (endTurn { s with captures := s.captures ++ [⟨kind, true⟩] }).Sound := by
  have htrusts := h.trusts
  simp only [Trusts, hstage] at htrusts
  refine ⟨h.pending, h.short, fun hstreaming hwait hstarting => ?_, h.chained.concat fun hp _ => ?_⟩
  · cases kind with
    | idr => exact Capture.intact_of_idr s.captures
    | p => exact Capture.Intact.append htrusts fun _ => rfl
    | sps | pps | other => exact (htrusts hstreaming hwait hstarting).append fun _ => rfl
  · obtain rfl : kind = .p := hp
    exact htrusts

theorem Sound.videoStep {s : VideoLoop} (h : s.Sound) (hallowed : s.Allowed (.video answer)) :
    (s.videoStep answer).Sound := by
  have htrusts := h.trusts
  unfold VideoLoop.videoStep
  cases hstage : s.stage with
  | test =>
    simp only [Trusts, hstage] at htrusts
    simp only
    split
    · exact h
    · split
      · exact h.within rfl rfl htrusts
      · split
        · refine h.within rfl rfl ?_
          simp only [Trusts]
          exact htrusts
        · exact h.within rfl rfl htrusts
  | capture =>
    simp only
    split
    · exact h.captureFailed hstage
    · rename_i kind _
      simp only [Trusts, hstage] at htrusts
      refine h.within rfl rfl ?_
      cases kind <;> trivial
  | captured kind =>
    simp only [Trusts, hstage] at htrusts
    refine h.within rfl rfl ?_
    cases kind <;> trivial
  | loadStreaming kind =>
    simp only [Trusts, hstage] at htrusts
    simp only
    split
    · rename_i hoff
      exact h.drop fun hstreaming => absurd hstreaming (by simpa using hoff)
    · rename_i hon
      have hstreaming : s.flags.streaming = true := by simpa using hon
      split
      · rename_i hkind
        refine h.within rfl rfl ?_
        cases kind <;> trivial
      · rename_i hkind
        refine h.within rfl rfl ⟨fun hidr => hkind (.inr (.inr hidr)), ?_⟩
        cases kind <;> first | exact htrusts hstreaming | simp at hkind
  | loadWait kind =>
    simp only [Trusts, hstage] at htrusts
    obtain ⟨hidr, hintact⟩ := htrusts
    simp only
    split
    · rename_i hsend
      obtain ⟨hwait, rfl⟩ : s.flags.waitForIdr = false ∧ kind = .p := by simpa using hsend
      exact h.within rfl rfl (hintact hwait (hallowed hstage hwait))
    · rename_i hdrop
      refine h.drop fun _ hwait hstarting => ⟨hidr, fun hp => ?_, hintact hwait hstarting⟩
      exact hdrop (by simp [hwait, hp])
  | send kind =>
    simp only
    split
    · exact h.sent hstage
    · exact ⟨h.pending, h.short, trivial, h.chained.concat fun _ hsent => by cases hsent⟩
  | failed => exact h.within rfl rfl fun _ hwait => (by cases hwait)
  | ended => exact h

/-- A store of the control thread does not let the video thread trust in more
than before. -/
theorem Sound.store {s : VideoLoop} (h : s.Sound) {flags : StreamFlags} {pending : List FlagStore}
    (hpending : ∀ store ∈ pending, store = .waitForIdr true) (hshort : pending.length ≤ 1)
    (hless : flags.waitForIdr = false → ¬ (flags.streaming = true ∧ pending ≠ []) →
      s.flags.waitForIdr = false ∧ ¬ s.Starting ∧
        (flags.streaming = true → s.flags.streaming = true)) :
    Sound { s with flags, pending } := by
  refine ⟨hpending, hshort, ?_, h.chained⟩
  have htrusts := h.trusts
  have hall (known : s.flags.streaming = true → s.flags.waitForIdr = false → ¬ s.Starting →
      Capture.Intact s.captures) (hstreaming : flags.streaming = true)
      (hwait : flags.waitForIdr = false) (hstarting : ¬ (flags.streaming = true ∧ pending ≠ [])) :
      Capture.Intact s.captures := by
    obtain ⟨hwait, hstarting, hbefore⟩ := hless hwait hstarting
    exact known (hbefore hstreaming) hwait hstarting
  unfold Trusts at htrusts ⊢
  cases hstage : s.stage with
  | loadWait kind =>
    rw [hstage] at htrusts
    refine ⟨htrusts.1, fun hwait hstarting => ?_⟩
    obtain ⟨hwait, hstarting, _⟩ := hless hwait hstarting
    exact htrusts.2 hwait hstarting
  | captured kind | loadStreaming kind | send kind =>
    rw [hstage] at htrusts
    cases kind <;> first | trivial | exact hall htrusts
  | test | capture | ended =>
    rw [hstage] at htrusts
    exact hall htrusts
  | failed => trivial

theorem Sound.step {s s' : VideoLoop} {event : StreamEvent} (h : s.Sound)
    (hallowed : s.Allowed event) (hstep : s.step event = some s') : s'.Sound := by
  cases event with
  | video answer => exact Option.some.inj hstep ▸ h.videoStep hallowed
  | store =>
    simp only [VideoLoop.step] at hstep
    split at hstep
    · cases hstep
    · rename_i first rest hpending
      cases hstep
      obtain rfl : first = .waitForIdr true := h.pending first (by simp [hpending])
      refine h.store (fun store hmem => h.pending store (by simp [hpending, hmem])) ?_ nofun
      have hshort := h.short
      rw [hpending, List.length_cons] at hshort
      omega
  | command command =>
    simp only [VideoLoop.step] at hstep
    split at hstep
    · rename_i hpending
      cases hstep
      have hidle : ¬ s.Starting := fun hstarting => hstarting.2 hpending
      have htail : ∀ store ∈ command.stores.2, store = .waitForIdr true := by
        cases command <;> simp [StreamCommand.stores]
      refine h.store htail (by cases command <;> decide) fun hwait hstarting => ?_
      cases command with
      | startStream => exact absurd ⟨rfl, List.cons_ne_nil _ _⟩ hstarting
      | idrRequest => cases hwait
      | stopStream | disconnect => exact ⟨hwait, hidle, nofun⟩
    · cases hstep

-- ---------------------------------------------------------------------------
-- Every run
-- ---------------------------------------------------------------------------

/-- Every P-frame that is sent follows an IDR that was sent, with every slice
between them sent too. -/
theorem p_frames_chained {events : List StreamEvent} {s : VideoLoop}
    (hallowed : Machine.Along step Allowed {} events) (hrun : Machine.run step {} events = some s) :
    Log.Always Capture.Chained s.captures := by
  have hstart : Sound {} := ⟨(fun _ hmem => by cases hmem), Nat.zero_le 1, (fun _ hwait => by cases hwait),
    Log.always_nil⟩
  exact (Machine.run_invariant (fun _ _ _ hs => hs.step) hstart hallowed hrun).chained

instance (s : VideoLoop) (event : StreamEvent) : Decidable (s.Allowed event) :=
  match event with
  | .video _ => inferInstanceAs (Decidable (_ → _ → ¬ (_ ∧ _)))
  | .command _ | .store => inferInstanceAs (Decidable True)

def turn (kind : FrameKind) (steps : Nat) : List StreamEvent :=
  .video {} :: .video { captured := some kind } :: List.replicate steps (.video {})

def idrThenP : List StreamEvent :=
  .command .startStream :: .store :: turn .idr 3 ++ turn .p 4

theorem idr_and_p_sent :
    ∃ s, Machine.run step {} idrThenP = some s ∧ s.captures = [⟨.idr, true⟩, ⟨.p, true⟩] ∧
      Log.Always Capture.Chained s.captures :=
  ⟨_, rfl, rfl, @p_frames_chained idrThenP _ (by decide) rfl⟩

/-- The IDR is dropped because the stream stops just then; between the two
stores of the next start a P-frame is captured and sent. -/
theorem p_frame_sent_between_stores :
    ∃ s, Machine.run step {}
      ([.command .startStream, .store, .video {}, .video { captured := some .idr },
        .command .stopStream, .video {}, .video {}, .command .startStream] ++ turn .p 4) = some s ∧
      s.captures = [⟨.idr, false⟩, ⟨.p, true⟩] ∧ ¬ Log.Always Capture.Chained s.captures := by
  refine ⟨_, rfl, rfl, fun h => ?_⟩
  obtain ⟨before, idr, after, hsplit, hkind, hsent, _⟩ := h [⟨.idr, false⟩] ⟨.p, true⟩ [] rfl rfl rfl
  cases before with
  | nil =>
    cases hsplit
    cases hsent
  | cons first rest => simp at hsplit

end VideoLoop

end NanokvmRdp
