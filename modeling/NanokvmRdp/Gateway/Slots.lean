import Mathlib.Data.List.Perm.Subperm
import NanokvmRdp.Gateway.FlowLaws
import NanokvmRdp.Lib.Machine

/-!
# In-flight slots

A session of the RDPGFX channel: the sender submits frames and registers them
in `FrameFlow`, the channel thread acknowledges them. The Progressive path
registers a frame before it submits it. The AVC420 path submits first, so an
acknowledgement can come before the registration, which then takes a slot
that nothing releases.
-/

namespace NanokvmRdp.Gateway

open scoped List

-- ---------------------------------------------------------------------------
-- Frames and bytes of a flow
-- ---------------------------------------------------------------------------

namespace FrameFlow

def ids (flow : FrameFlow) : List UInt32 := flow.frames.map FlowFrame.id

end FrameFlow

theorem map_id_eraseP (frames : List FlowFrame) (id : UInt32) :
    (frames.eraseP fun frame => frame.id = id).map FlowFrame.id = (frames.map FlowFrame.id).erase id := by
  induction frames with
  | nil => rfl
  | cons frame frames ih =>
    by_cases h : frame.id = id
    · simp [h]
    · simp [h, ih]

namespace FrameFlow

theorem ids_ack (flow : FrameFlow) (id : UInt32) {depth : UInt32} (now : UInt64)
    (hdepth : depth ≠ suspendDepth) (h : flow.Accounted) :
    (flow.ack id depth now).2.2.ids = flow.ids.erase id := by
  rw [ids, (flow.ack_fields id now hdepth h).2.1, map_id_eraseP, ids]

structure Registers (flow : FrameFlow) (id : UInt32) (result : Bool × FrameFlow) : Prop where
  active : result.2.suspended = false
  ids : result.1 = true ∧ result.2.ids = flow.ids ++ [id] ∨ result.1 = false ∧ result.2.ids = flow.ids
  accounted : result.2.Accounted

theorem Enters.registers {flow : FrameFlow} (h : Enters flow frame result)
    (hactive : flow.suspended = false) (haccounted : flow.Accounted) :
    Registers flow frame.id result := by
  have hafter := h.accounted haccounted
  cases h with
  | suspended hsuspended =>
    rw [hactive] at hsuspended
    cases hsuspended
  | refused => exact ⟨hactive, .inr ⟨rfl, rfl⟩, hafter⟩
  | tracked _ room => exact ⟨hactive, .inl ⟨rfl, by simp [FrameFlow.ids, track]⟩, hafter⟩

end FrameFlow

-- ---------------------------------------------------------------------------
-- Sessions
-- ---------------------------------------------------------------------------

inductive OutputPath where
  | progressive
  | avc420
  deriving DecidableEq, Repr

/-- Where the sender is in `send_avc420_frame` (`admitted`, `submitted`) or in
`send_progressive_frame` (`registered`). `acked` is set once the client has
acknowledged the frame. -/
inductive Sender where
  | idle
  | admitted (bytes : UInt32) (idr : Bool)
  | submitted (id bytes : UInt32) (idr acked : Bool)
  | registered (id : UInt32)
  deriving DecidableEq, Repr

/-- `unacked` has the frames that are submitted and registered and that the
client has not acknowledged. -/
structure Session where
  path : OutputPath
  flow : FrameFlow := {}
  nextFrameId : UInt32 := 0
  sender : Sender := .idle
  unacked : List UInt32 := []
  deriving DecidableEq

inductive SlotEvent where
  | accept (bytes : UInt32) (idr : Bool) (now waitStartedAt : UInt64)
  | submit
  | register (now : UInt64)
  | ack (id depth : UInt32) (now : UInt64)
  | ackUnregistered (depth : UInt32) (now : UInt64)
  deriving DecidableEq, Repr

namespace Session

/-- The last section of `send_avc420_frame`, which ignores the result. -/
def registerAvc (flow : FrameFlow) (id bytes : UInt32) (idr : Bool) (now : UInt64) : FrameFlow :=
  if idr then (flow.sentKeyframeSized id bytes now).2 else (flow.sentSized id bytes now).2

/-- `register` of the Progressive path: a frame that is not tracked is not sent. -/
def registerProgressive (s : Session) (now : UInt64) : Session :=
  match s.flow.sent s.nextFrameId now with
  | (true, flow) =>
    { s with flow, nextFrameId := s.nextFrameId + 1, sender := .registered s.nextFrameId }
  | (false, flow) => { s with flow, nextFrameId := s.nextFrameId + 1 }

def step (s : Session) : SlotEvent → Option Session
  | .accept bytes idr now waitStartedAt =>
    match s.path, s.sender with
    | .avc420, .idle =>
      if s.flow.avcAdmit bytes idr now waitStartedAt = .send then
        some { s with sender := .admitted bytes idr }
      else none
    | _, _ => none
  | .submit =>
    match s.sender with
    | .admitted bytes idr =>
      some { s with
        nextFrameId := s.nextFrameId + 1
        sender := .submitted s.nextFrameId bytes idr false }
    | .registered id => some { s with sender := .idle, unacked := s.unacked ++ [id] }
    | _ => none
  | .register now =>
    match s.path, s.sender with
    | .progressive, .idle => some (s.registerProgressive now)
    | _, .submitted id bytes idr acked =>
      some { s with
        flow := registerAvc s.flow id bytes idr now
        sender := .idle
        unacked := if acked then s.unacked else s.unacked ++ [id] }
    | _, _ => none
  | .ack id depth now =>
    if depth ≠ FrameFlow.suspendDepth ∧ id ∈ s.unacked then
      some { s with flow := (s.flow.ack id depth now).2.2, unacked := s.unacked.erase id }
    else none
  | .ackUnregistered depth now =>
    match s.sender with
    | .submitted id bytes idr false =>
      if depth ≠ FrameFlow.suspendDepth then
        some { s with
          flow := (s.flow.ack id depth now).2.2
          sender := .submitted id bytes idr true }
      else none
    | _ => none

/-- No acknowledgement comes between the submission of a frame and its
registration. -/
def Timely (_ : Session) : SlotEvent → Prop
  | .ackUnregistered .. => False
  | _ => True

end Session

def Sender.reserved : Sender → List UInt32
  | .registered id => [id]
  | _ => []

/-- The sender is not between the submission and the registration of a frame. -/
def Sender.settled : Sender → Bool
  | .idle | .admitted .. => true
  | .submitted .. | .registered .. => false

theorem Sender.reserved_of_settled {sender : Sender} (h : sender.settled = true) :
    sender.reserved = [] := by
  cases sender <;> first | rfl | cases h

structure Session.Inv (s : Session) : Prop where
  active : s.flow.suspended = false
  accounted : s.flow.Accounted
  tracked : s.flow.ids <+~ s.unacked ++ s.sender.reserved
  unacked : ∀ id bytes idr acked, s.sender = .submitted id bytes idr acked → acked = false

namespace Session

theorem start_inv (path : OutputPath) : Inv { path } :=
  ⟨rfl, rfl, List.nil_subperm, fun _ _ _ _ h => by cases h⟩

theorem registerAvc_registers (flow : FrameFlow) (id bytes : UInt32) (idr : Bool) (now : UInt64)
    (hactive : flow.suspended = false) (h : flow.Accounted) :
    ∃ ok, FrameFlow.Registers flow id (ok, registerAvc flow id bytes idr now) := by
  unfold registerAvc
  split
  · exact ⟨_, (flow.enters_sentKeyframeSized id bytes now).registers hactive h⟩
  · exact ⟨_, (flow.enters_sentSized id bytes now).registers hactive h⟩

theorem registerProgressive_inv (s : Session) (now : UInt64) (h : s.Inv) (hidle : s.sender = .idle) :
    (s.registerProgressive now).Inv := by
  have htracked := h.tracked
  rw [hidle] at htracked
  have hregisters := (s.flow.enters_sentSized s.nextFrameId 0 now).registers h.active h.accounted
  unfold registerProgressive FrameFlow.sent
  generalize s.flow.sentSized s.nextFrameId 0 now = result at hregisters ⊢
  obtain ⟨ok, flow⟩ := result
  obtain ⟨hactive, hids, haccounted⟩ := hregisters
  rcases hids with ⟨hok, hids⟩ | ⟨hok, hids⟩ <;> simp only at hok hids <;> subst hok
  · refine ⟨hactive, haccounted, ?_, fun _ _ _ _ h => by cases h⟩
    rw [hids]
    simpa [Sender.reserved] using (List.subperm_append_right [s.nextFrameId]).mpr htracked
  · refine ⟨hactive, haccounted, ?_, h.unacked⟩
    rw [hids, hidle]
    exact htracked

theorem registerAvc_inv (s : Session) (id bytes : UInt32) (idr : Bool) (now : UInt64) (h : s.Inv)
    (hsender : s.sender = .submitted id bytes idr false) :
    Inv { s with
      flow := registerAvc s.flow id bytes idr now
      sender := .idle
      unacked := s.unacked ++ [id] } := by
  have htracked := h.tracked
  rw [hsender] at htracked
  simp only [Sender.reserved, List.append_nil] at htracked
  obtain ⟨ok, hactive, hids, haccounted⟩ :=
    registerAvc_registers s.flow id bytes idr now h.active h.accounted
  refine ⟨hactive, haccounted, ?_, fun _ _ _ _ h => by cases h⟩
  simp only [Sender.reserved, List.append_nil]
  rcases hids with ⟨-, hids⟩ | ⟨-, hids⟩ <;> rw [hids]
  · exact (List.subperm_append_right [id]).mpr htracked
  · exact htracked.trans (List.sublist_append_left _ _).subperm

theorem ack_inv (s : Session) (id depth : UInt32) (now : UInt64) (h : s.Inv)
    (hdepth : depth ≠ FrameFlow.suspendDepth) (hid : id ∈ s.unacked) :
    Inv { s with flow := (s.flow.ack id depth now).2.2, unacked := s.unacked.erase id } := by
  obtain ⟨hactive, _, haccounted⟩ := s.flow.ack_fields id now hdepth h.accounted
  have hids := s.flow.ids_ack id now hdepth h.accounted
  refine ⟨hactive, haccounted, ?_, h.unacked⟩
  rw [hids, ← List.erase_append_left _ hid]
  exact h.tracked.erase id

theorem step_inv (s : Session) (event : SlotEvent) (s' : Session) (h : s.Inv)
    (htimely : s.Timely event) (hstep : s.step event = some s') : s'.Inv := by
  cases event with
  | accept bytes idr now waitStartedAt =>
    simp only [step] at hstep
    split at hstep <;> try cases hstep
    rename_i hsender
    split at hstep <;> cases hstep
    have htracked := h.tracked
    rw [hsender] at htracked
    exact ⟨h.active, h.accounted, htracked, fun _ _ _ _ h => by cases h⟩
  | submit =>
    simp only [step] at hstep
    split at hstep <;> cases hstep
    · rename_i hsender
      have htracked := h.tracked
      rw [hsender] at htracked
      refine ⟨h.active, h.accounted, htracked, fun _ _ _ _ h => by cases h; rfl⟩
    · rename_i hsender
      have htracked := h.tracked
      rw [hsender] at htracked
      refine ⟨h.active, h.accounted, by simpa [Sender.reserved] using htracked, ?_⟩
      exact fun _ _ _ _ h => by cases h
  | register now =>
    rw [step] at hstep
    cases hsender : s.sender with
    | idle =>
      cases hpath : s.path <;> simp only [hpath, hsender] at hstep <;> cases hstep
      exact registerProgressive_inv s now h hsender
    | submitted id bytes idr acked =>
      obtain rfl := h.unacked _ _ _ _ hsender
      have hnext := registerAvc_inv s id bytes idr now h hsender
      cases hpath : s.path <;> simp only [hpath, hsender] at hstep <;> cases hstep <;>
        simpa [hpath] using hnext
    | admitted bytes idr => cases hpath : s.path <;> simp only [hpath, hsender] at hstep <;> cases hstep
    | registered id => cases hpath : s.path <;> simp only [hpath, hsender] at hstep <;> cases hstep
  | ack id depth now =>
    simp only [step] at hstep
    split at hstep <;> cases hstep
    rename_i hack
    exact ack_inv s id depth now h hack.1 hack.2
  | ackUnregistered depth now => exact htimely.elim

/-- In a session without early acknowledgements, a client that has
acknowledged every frame leaves no frame and no byte in flight. -/
theorem acknowledged_session_empty (path : OutputPath) (events : List SlotEvent) (s : Session)
    (htimely : Machine.Along step Timely { path } events)
    (hrun : Machine.run step { path } events = some s)
    (hsettled : s.sender.settled = true) (hacked : s.unacked = []) :
    s.flow.count = 0 ∧ s.flow.inflightBytes = 0 := by
  have h : s.Inv := Machine.run_invariant step_inv (start_inv path) htimely hrun
  have htracked := h.tracked
  rw [Sender.reserved_of_settled hsettled, hacked] at htracked
  have hempty : s.flow.frames = [] := by
    simpa [FrameFlow.ids] using htracked
  have haccounted := h.accounted
  rw [FrameFlow.Accounted, hempty] at haccounted
  exact ⟨by simp [FrameFlow.count, hempty], haccounted⟩

/-- Three frames, of which the second is acknowledged while the third is on its way
and the first last. -/
def ackedOutOfOrder : List SlotEvent :=
  [.accept 9000 true 0 0, .submit, .register 1, .accept 900 false 33 0, .submit, .register 34,
    .accept 800 false 66 0, .ack 1 2 67, .submit, .register 68, .ack 2 1 70, .ack 0 0 75]

theorem acknowledged_session_empty_avc :
    ((Machine.run step { path := .avc420 } ackedOutOfOrder).map
      fun s => (s.nextFrameId, s.flow.count, s.flow.inflightBytes)) = some (3, 0, 0) := by
  obtain ⟨s, hrun, hsettled, hacked, hid⟩ : ∃ s, Machine.run step { path := .avc420 } ackedOutOfOrder = some s ∧
      s.sender.settled = true ∧ s.unacked = [] ∧ s.nextFrameId = 3 := ⟨_, rfl, rfl, rfl, rfl⟩
  have hempty := acknowledged_session_empty .avc420 _ s
    (Machine.along_of_forall (by simp [ackedOutOfOrder, Timely]) _) hrun hsettled hacked
  rw [hrun, Option.map_some, hid, hempty.1, hempty.2]

/-- Three frames that the client acknowledges before they are registered fill
the flow for good. -/
theorem early_acks_block_session :
    ((Machine.run step { path := .avc420 }
        [.accept 9000 true 0 0, .submit, .ackUnregistered 0 1, .register 1,
          .accept 900 false 33 0, .submit, .ackUnregistered 0 34, .register 34,
          .accept 900 false 66 0, .submit, .ackUnregistered 0 67, .register 67]).map
      fun s => (s.sender, s.unacked, s.flow.count, s.flow.inflightBytes, s.flow.blocked)) =
        some (.idle, [], 3, 10800, true) := by
  decide

end Session

end NanokvmRdp.Gateway
