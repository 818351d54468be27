import Mathlib.Data.List.Basic
import NanokvmRdp.Gateway.Snapshot

/-!
# What a snapshot shows

Over every order of publishing and asking, a snapshot is an encoding of the
frame that its `X-Frame-Id` names, and that frame was the newest when the
request took the lock. Each frame is encoded at most once.

The frame number is 32 bits wide and the kept JPEG is recognised by the number
alone, so this is about the first 2 ^ 32 - 1 frames. What is allocated is freed
whatever the count.
-/

namespace NanokvmRdp.Gateway.Snapshots

-- ---------------------------------------------------------------------------
-- What the memory holds
-- ---------------------------------------------------------------------------

def phaseFrames : SnapshotPhase α → Nat
  | .encoding _ _ => 1
  | _ => 0

def phaseJpegs : SnapshotPhase α → Nat
  | .encoded _ => 1
  | .serving _ _ => 1
  | _ => 0

structure Balanced (s : Snapshots α) : Prop where
  frames : s.liveFrames = s.frame.toList.length + s.cloned.length + s.discarded + phaseFrames s.phase
  jpegs : s.liveJpegs = s.jpeg.toList.length + phaseJpegs s.phase

section Balance

variable {s s' : Snapshots α} {id : UInt32} {frame : AvFrame α} {encoding : Encoding α} {jpeg : List UInt8}

theorem balanced_publishFrame (h : s.Balanced) (hi : s.cloned[i]? = some frame) :
    (s.publishFrame i frame).Balanced := by
  refine ⟨?_, h.jpegs⟩
  have hlength : (s.cloned.eraseIdx i).length + 1 = s.cloned.length := by
    obtain ⟨hlt, -⟩ := List.getElem?_eq_some_iff.mp hi
    rw [List.length_eraseIdx_of_lt hlt]
    omega
  have hframes := h.frames
  simp only [publishFrame, Option.toList_some, List.length_singleton]
  cases hframe : s.frame <;> simp_all <;> omega

theorem balanced_request (h : s.Balanced) (hidle : s.phase = .idle) (allocated : Bool) :
    (s.request allocated).Balanced := by
  have hframes := h.frames
  have hjpegs := h.jpegs
  rw [hidle] at hframes hjpegs
  unfold request
  dsimp only
  split
  · exact ⟨h.frames, h.jpegs⟩
  · split <;> split
    · exact ⟨hframes, by rw [hjpegs]; rfl⟩
    · exact ⟨h.frames, h.jpegs⟩
    · exact ⟨by rw [hframes]; rfl, hjpegs⟩
    · exact ⟨h.frames, h.jpegs⟩

theorem balanced_encode (h : s.Balanced) (hphase : s.phase = .encoding id frame)
    (answers : EncodeAnswers) : (s.encode id frame answers).Balanced := by
  have hframes := h.frames
  have hjpegs := h.jpegs
  rw [hphase] at hframes hjpegs
  unfold encode
  dsimp only
  split
  · exact ⟨by rw [hframes]; rfl, hjpegs⟩
  · exact ⟨by rw [hframes]; rfl, by rw [hjpegs]; rfl⟩

theorem balanced_keep (h : s.Balanced) (hphase : s.phase = .encoded encoding) (allocated : Bool) :
    (s.keep encoding allocated).Balanced := by
  have hframes := h.frames
  have hjpegs := h.jpegs
  rw [hphase] at hframes hjpegs
  unfold keep
  cases allocated <;> refine ⟨hframes, ?_⟩ <;> cases hjpeg : s.jpeg <;>
    simp [hjpegs, hjpeg, phaseJpegs]

theorem balanced_respond (h : s.Balanced) (hphase : s.phase = .serving id jpeg) :
    (s.respond id jpeg).Balanced := by
  have hframes := h.frames
  have hjpegs := h.jpegs
  rw [hphase] at hframes hjpegs
  exact ⟨hframes, by simp [respond, hjpegs, phaseJpegs]⟩

theorem balanced_step (h : s.Balanced) (hstep : s.step e = some s') : s'.Balanced := by
  cases e with
  | clone source cloned =>
    cases hstep
    unfold clone
    split
    · exact h
    · refine ⟨?_, h.jpegs⟩
      simp only [h.frames, List.length_append, List.length_singleton]
      omega
  | publish i =>
    obtain ⟨frame, hi, rfl⟩ := Option.map_eq_some_iff.mp hstep
    exact balanced_publishFrame h hi
  | discard =>
    obtain ⟨hsome, ⟨⟩⟩ := Option.ite_none_right_eq_some.mp hstep
    refine ⟨?_, h.jpegs⟩
    simp only [h.frames]
    omega
  | request allocated =>
    rw [step] at hstep
    split at hstep <;> cases hstep
    exact balanced_request h ‹_› allocated
  | encode answers =>
    rw [step] at hstep
    split at hstep <;> cases hstep
    exact balanced_encode h ‹_› answers
  | keep allocated =>
    rw [step] at hstep
    split at hstep <;> cases hstep
    exact balanced_keep h ‹_› allocated
  | respond =>
    rw [step] at hstep
    split at hstep <;> cases hstep
    exact balanced_respond h ‹_›
  | status =>
    rw [step] at hstep
    split at hstep <;> cases hstep
    exact ⟨h.frames, h.jpegs⟩
  | setDesktop width height =>
    cases hstep
    unfold httpApiSetDesktop
    split
    · exact h
    · exact ⟨h.frames, h.jpegs⟩

end Balance

-- ---------------------------------------------------------------------------
-- Frames and their numbers
-- ---------------------------------------------------------------------------

/-- The frame of this number, counted from one. -/
def Numbered (published : List (AvFrame α)) (id : UInt32) (frame : AvFrame α) : Prop :=
  0 < id.toNat ∧ published[id.toNat - 1]? = some frame

section

variable {published : List (AvFrame α)} {id : UInt32} {frame : AvFrame α}

theorem Numbered.append (h : Numbered published id frame) (more : List (AvFrame α)) :
    Numbered (published ++ more) id frame := by
  obtain ⟨hlt, -⟩ := List.getElem?_eq_some_iff.mp h.2
  exact ⟨h.1, by rw [List.getElem?_append_left hlt, h.2]⟩

theorem Numbered.le_length (h : Numbered published id frame) : id.toNat ≤ published.length := by
  obtain ⟨hlt, -⟩ := List.getElem?_eq_some_iff.mp h.2
  have := h.1
  omega

theorem Numbered.of_append (h : Numbered (published ++ more) id frame)
    (hle : id.toNat ≤ published.length) : Numbered published id frame := by
  refine ⟨h.1, ?_⟩
  have := h.1
  rw [← h.2, List.getElem?_append_left (by omega)]

end

/-- The encoding is one of the frame it is numbered with, by an encoder set up
for that frame. -/
structure Right (published : List (AvFrame α)) (e : Encoding α) : Prop where
  numbered : Numbered published e.id e.frame
  fits : e.encoder.Fits e.frame
  jpeg : e.jpeg ≠ [] ∧ e.jpeg.length ≤ httpApiMaxJpeg

theorem Right.append {published : List (AvFrame α)} {e : Encoding α} (h : Right published e)
    (more : List (AvFrame α)) : Right (published ++ more) e :=
  ⟨h.numbered.append more, h.fits, h.jpeg⟩

structure Answered (published : List (AvFrame α)) (encodings : List (Encoding α)) (a : SnapshotAnswer) :
    Prop where
  newest : a.id.toNat = a.asked
  encoded : ∃ e ∈ encodings, e.id = a.id ∧ e.jpeg = a.jpeg ∧ Right published e

/-- The status names the frame that was newest, and its size when that fits into
16 bits. -/
structure Reported (published : List (AvFrame α)) (a : StatusAnswer) : Prop where
  newest : a.id.toNat = a.asked
  known : a.asked ≤ published.length
  hasFrame : a.hasFrame = decide (0 < a.asked)
  size : ∀ frame, Numbered published a.id frame → frame.width < 65536 → frame.height < 65536 →
    (a.width.toNat : Int) = frame.width ∧ (a.height.toNat : Int) = frame.height

/-- What the request in progress goes by: its number was the newest one when it
took the lock, and an encoding under way is of a frame not encoded before. -/
def Pending (published : List (AvFrame α)) (encodings : List (Encoding α)) (asked : Nat) :
    SnapshotPhase α → Prop
  | .idle => True
  | .encoding id frame => id.toNat = asked ∧ Numbered published id frame ∧ ∀ e ∈ encodings, e.id < id
  | .encoded encoding =>
    encoding.id.toNat = asked ∧ Right published encoding ∧ ∀ e ∈ encodings, e.id < encoding.id
  | .serving id jpeg => id.toNat = asked ∧ ∃ e ∈ encodings, e.id = id ∧ e.jpeg = jpeg

section Publishing

variable {published : List (AvFrame α)} {encodings : List (Encoding α)}

theorem Answered.append (h : Answered published encodings a) (more : List (AvFrame α)) :
    Answered (published ++ more) encodings a := by
  obtain ⟨hnewest, e, he, hid, hjpeg, hright⟩ := h
  exact ⟨hnewest, e, he, hid, hjpeg, hright.append more⟩

theorem Reported.append (h : Reported published a) (more : List (AvFrame α)) :
    Reported (published ++ more) a where
  newest := h.newest
  known := by
    rw [List.length_append]
    exact Nat.le_add_right_of_le h.known
  hasFrame := h.hasFrame
  size frame hframe := h.size frame (hframe.of_append (by rw [h.newest]; exact h.known))

theorem Pending.append {phase : SnapshotPhase α} (h : Pending published encodings n phase)
    (more : List (AvFrame α)) : Pending (published ++ more) encodings n phase := by
  cases phase with
  | idle => trivial
  | encoding id frame => exact ⟨h.1, h.2.1.append more, h.2.2⟩
  | encoded encoding => exact ⟨h.1, h.2.1.append more, h.2.2⟩
  | serving id jpeg => exact h

end Publishing

def Positive (frame : AvFrame α) : Prop := 0 < frame.width ∧ 0 < frame.height

structure Sound (s : Snapshots α) : Prop where
  cloned : ∀ frame ∈ s.cloned, Positive frame
  positive : ∀ frame ∈ s.published, Positive frame
  frameId : s.frameId.toNat = s.published.length
  frame : s.frame = s.published.getLast?
  frameWidth : ∀ frame, s.frame = some frame → s.frameWidth = UInt16.ofInt frame.width
  frameHeight : ∀ frame, s.frame = some frame → s.frameHeight = UInt16.ofInt frame.height
  -- The kept JPEG is the last encoding.
  cache : (s.jpeg.map fun jpeg => (s.jpegFrameId, jpeg)) = s.encodings.getLast?.map fun e => (e.id, e.jpeg)
  rights : ∀ e ∈ s.encodings, Right s.published e
  increasing : s.encodings.Pairwise fun e e' => e.id < e'.id
  pending : Pending s.published s.encodings s.asked s.phase
  asked : s.asked ≤ s.published.length
  answered : ∀ a, some a ∈ s.answers → a.asked ≤ s.asked ∧ Answered s.published s.encodings a
  order : s.answers.Pairwise fun a a' => ∀ b b', a = some b → a' = some b' → b.asked ≤ b'.asked
  reported : ∀ a ∈ s.statuses, Reported s.published a

-- ---------------------------------------------------------------------------
-- Each event keeps the invariant
-- ---------------------------------------------------------------------------

section Invariant

variable {s s' : Snapshots α} {id : UInt32} {frame : AvFrame α} {encoding : Encoding α} {jpeg : List UInt8}

theorem Sound.start (width height : UInt16) : (start width height : Snapshots α).Sound where
  cloned := by simp [Snapshots.start]
  positive := by simp [Snapshots.start]
  frameId := rfl
  frame := rfl
  frameWidth := by simp [Snapshots.start]
  frameHeight := by simp [Snapshots.start]
  cache := rfl
  rights := by simp [Snapshots.start]
  increasing := .nil
  pending := trivial
  asked := Nat.le_refl 0
  answered := by simp [Snapshots.start]
  order := .nil
  reported := by simp [Snapshots.start]

theorem Sound.newest (h : s.Sound) (hframe : s.frame = some frame) :
    Numbered s.published s.frameId frame := by
  rw [h.frame, List.getLast?_eq_getElem?] at hframe
  refine ⟨?_, by rw [h.frameId, hframe]⟩
  obtain ⟨hlt, -⟩ := List.getElem?_eq_some_iff.mp hframe
  rw [h.frameId]
  omega

/-- A kept JPEG of the newest number is an encoding of that number. -/
theorem Sound.hit (h : s.Sound)
    (hjpeg : (s.jpeg.filter fun jpeg => !jpeg.isEmpty && s.jpegFrameId == s.frameId) = some jpeg) :
    ∃ e ∈ s.encodings, e.id = s.frameId ∧ e.jpeg = jpeg := by
  obtain ⟨hkept, hcond⟩ := Option.filter_eq_some_iff.mp hjpeg
  have hcache := h.cache
  rw [hkept, Option.map_some, eq_comm, Option.map_eq_some_iff] at hcache
  obtain ⟨e, hlast, heq⟩ := hcache
  obtain ⟨hid, hbytes⟩ := Prod.mk.inj heq
  refine ⟨e, List.mem_of_getLast? hlast, ?_, hbytes⟩
  rw [hid]
  simp at hcond
  exact hcond.2

/-- Without one, no encoding has the newest number: it would be the last one, and
the last one is kept. -/
theorem Sound.miss (h : s.Sound)
    (hjpeg : (s.jpeg.filter fun jpeg => !jpeg.isEmpty && s.jpegFrameId == s.frameId) = none) :
    ∀ e ∈ s.encodings, e.id < s.frameId := by
  intro e he
  obtain ⟨init, last, hsplit⟩ : ∃ init last, s.encodings = init ++ [last] :=
    (List.eq_nil_or_concat' s.encodings).resolve_left (List.ne_nil_of_mem he)
  have hlast : last ∈ s.encodings := by simp [hsplit]
  have hcache := h.cache
  rw [hsplit, List.getLast?_concat, Option.map_some, Option.map_eq_some_iff] at hcache
  obtain ⟨kept, hkept, heq⟩ := hcache
  obtain ⟨hid, rfl⟩ := Prod.mk.inj heq
  have hother : last.id ≠ s.frameId := by
    intro hsame
    rw [hkept, Option.filter_eq_none_iff] at hjpeg
    have hnonempty := (h.rights last hlast).jpeg.1
    exact hjpeg last.jpeg rfl (by simp [hnonempty, hid, hsame])
  have hle : last.id.toNat ≤ s.frameId.toNat := by
    rw [h.frameId]
    exact (h.rights last hlast).numbered.le_length
  have hlt : last.id < s.frameId := by
    rw [UInt32.lt_iff_toNat_lt]
    exact Nat.lt_of_le_of_ne hle fun heq => hother (UInt32.toNat_inj.mp heq)
  have hincreasing := h.increasing
  rw [hsplit] at hincreasing he
  rcases List.mem_append.mp he with hinit | hsingle
  · exact UInt32.lt_trans ((List.pairwise_append.mp hincreasing).2.2 e hinit last (by simp)) hlt
  · rw [List.mem_singleton.mp hsingle]
    exact hlt

theorem Sound.refuse (h : s.Sound) (hasked : s.asked ≤ n) (hn : n ≤ s.published.length) :
    Sound { s with asked := n, phase := .idle, answers := s.answers ++ [none] } :=
  { h with
    pending := trivial
    asked := hn
    answered := by
      intro a ha
      obtain ⟨hle, hright⟩ := h.answered a (by simpa using ha)
      exact ⟨Nat.le_trans hle hasked, hright⟩
    order := List.pairwise_append.mpr ⟨h.order, List.pairwise_singleton _ _, by simp⟩ }

theorem Sound.proceed {phase : SnapshotPhase α} (h : s.Sound) (hasked : s.asked ≤ n)
    (hn : n ≤ s.published.length) (hphase : Pending s.published s.encodings n phase) :
    Sound { s with asked := n, phase := phase } :=
  { h with
    pending := hphase
    asked := hn
    answered := fun a ha => ⟨Nat.le_trans (h.answered a ha).1 hasked, (h.answered a ha).2⟩ }

theorem sound_clone (h : s.Sound) (source : AvFrame α) (cloned : Bool) : (s.clone source cloned).Sound := by
  unfold clone
  split
  · exact h
  case isFalse hsource =>
    simp only [Bool.or_eq_true, decide_eq_true_eq, not_or, Int.not_le] at hsource
    exact { h with
      cloned := List.forall_mem_append.mpr ⟨h.cloned, List.forall_mem_singleton.mpr hsource.1⟩ }

theorem sound_publishFrame (h : s.Sound) (hi : s.cloned[i]? = some frame)
    (hfew : (s.publishFrame i frame).published.length < UInt32.size) : (s.publishFrame i frame).Sound := by
  have hlength : s.published.length + 1 < UInt32.size := by simpa [publishFrame] using hfew
  refine { h with
    cloned := fun f hf => h.cloned f (List.mem_of_mem_eraseIdx hf)
    positive := List.forall_mem_append.mpr
      ⟨h.positive, List.forall_mem_singleton.mpr (h.cloned frame (List.mem_of_getElem? hi))⟩
    frameId := ?_
    frame := List.getLast?_concat.symm
    frameWidth := by
      rintro f ⟨⟩
      rfl
    frameHeight := by
      rintro f ⟨⟩
      rfl
    rights := fun e he => (h.rights e he).append [frame]
    pending := h.pending.append [frame]
    asked := ?_
    answered := fun a ha => ⟨(h.answered a ha).1, (h.answered a ha).2.append [frame]⟩
    reported := fun a ha => (h.reported a ha).append [frame] }
  · simp only [publishFrame, UInt32.toNat_add, h.frameId, List.length_append, List.length_singleton]
    exact Nat.mod_eq_of_lt hlength
  · simp only [publishFrame, List.length_append]
    exact Nat.le_add_right_of_le h.asked

theorem sound_request (h : s.Sound) (hidle : s.phase = .idle) (allocated : Bool) :
    (s.request allocated).Sound := by
  have hrefuse := h.refuse h.asked (Nat.le_refl _)
  rw [← hidle] at hrefuse
  unfold request
  dsimp only
  split
  · exact hrefuse
  case h_2 frame hframe =>
    split <;> split
    case h_1.isTrue jpeg hjpeg _ =>
      have hserving := h.proceed h.asked (Nat.le_refl _)
        (show Pending _ _ _ (.serving s.frameId jpeg) from ⟨h.frameId, h.hit hjpeg⟩)
      exact { hserving with }
    · exact hrefuse
    case h_2.isTrue hjpeg _ =>
      have hencoding := h.proceed h.asked (Nat.le_refl _)
        (show Pending _ _ _ (.encoding s.frameId frame) from ⟨h.frameId, h.newest hframe, h.miss hjpeg⟩)
      exact { hencoding with }
    · exact hrefuse

theorem sound_encode (h : s.Sound) (hphase : s.phase = .encoding id frame) (answers : EncodeAnswers) :
    (s.encode id frame answers).Sound := by
  have hpending := h.pending
  rw [hphase] at hpending
  obtain ⟨hid, hnumbered, hfresh⟩ := hpending
  unfold encode
  dsimp only
  split
  · exact { h.refuse (Nat.le_refl _) h.asked with }
  case h_2 encoder jpeg hencode =>
    obtain ⟨hfits, hjpeg⟩ := JpegEncoder.encodeFrame_ok hencode
    have hencoded : Pending s.published s.encodings s.asked
        (.encoded { id := id, frame := frame, encoder := encoder, jpeg := jpeg }) :=
      ⟨hid, ⟨hnumbered, hfits, hjpeg⟩, hfresh⟩
    exact { h.proceed (Nat.le_refl _) h.asked hencoded with }

theorem Sound.record (h : s.Sound) (hright : Right s.published encoding)
    (hnewer : ∀ e ∈ s.encodings, e.id < encoding.id) :
    Sound { s with
      phase := .idle, jpeg := some encoding.jpeg, jpegFrameId := encoding.id,
      encodings := s.encodings ++ [encoding] } := by
  refine { h with
    cache := by simp
    rights := List.forall_mem_append.mpr ⟨h.rights, List.forall_mem_singleton.mpr hright⟩
    increasing := ?_
    pending := trivial
    answered := ?_ }
  · refine List.pairwise_append.mpr ⟨h.increasing, List.pairwise_singleton _ _, ?_⟩
    intro e he e' he'
    rw [List.mem_singleton.mp he']
    exact hnewer e he
  · intro a ha
    obtain ⟨hle, hnewest, e, he, hrest⟩ := h.answered a ha
    exact ⟨hle, hnewest, e, List.mem_append_left _ he, hrest⟩

theorem sound_keep (h : s.Sound) (hphase : s.phase = .encoded encoding) (allocated : Bool) :
    (s.keep encoding allocated).Sound := by
  have hpending := h.pending
  rw [hphase] at hpending
  obtain ⟨hid, hright, hnewer⟩ := hpending
  have hrecord := h.record hright hnewer
  unfold keep
  dsimp only
  split
  · have hserving : Pending s.published (s.encodings ++ [encoding]) s.asked
        (.serving encoding.id encoding.jpeg) := ⟨hid, encoding, by simp, rfl, rfl⟩
    exact { hrecord.proceed (Nat.le_refl _) h.asked hserving with }
  · exact { hrecord.refuse (Nat.le_refl _) h.asked with }

theorem sound_respond (h : s.Sound) (hphase : s.phase = .serving id jpeg) : (s.respond id jpeg).Sound := by
  have hpending := h.pending
  rw [hphase] at hpending
  obtain ⟨hid, e, he, hsame, hjpeg⟩ := hpending
  refine { h with pending := trivial, answered := ?_, order := ?_ }
  · intro a ha
    rcases List.mem_append.mp ha with hold | hnew
    · exact h.answered a hold
    · cases List.mem_singleton.mp hnew
      exact ⟨Nat.le_refl _, hid, e, he, hsame, hjpeg, h.rights e he⟩
  · refine List.pairwise_append.mpr ⟨h.order, List.pairwise_singleton _ _, ?_⟩
    rintro a ha a' ha' b b' rfl rfl
    cases List.mem_singleton.mp ha'
    exact (h.answered b ha).1

theorem toNat_ofInt_size {size : Int} (hpos : 0 < size) (hlt : size < 65536) :
    ((UInt16.ofInt size).toNat : Int) = size := by
  simp only [UInt16.ofInt, UInt16.toNat_ofNat']
  omega

theorem Sound.reported_status (h : s.Sound) : Reported s.published s.handleStatus where
  newest := h.frameId
  known := Nat.le_refl _
  hasFrame := by
    rw [Bool.eq_iff_iff]
    simp [handleStatus, h.frame, List.length_pos_iff]
  size frame hframe hwidth hheight := by
    have hlast : s.frame = some frame := by
      rw [h.frame, List.getLast?_eq_getElem?, ← h.frameId]
      exact hframe.2
    obtain ⟨hw, hh⟩ := h.positive frame (List.mem_of_getElem? hframe.2)
    have hwidth := toNat_ofInt_size hw hwidth
    have hheight := toNat_ofInt_size hh hheight
    rw [← h.frameWidth frame hlast] at hwidth
    rw [← h.frameHeight frame hlast] at hheight
    have hw0 : s.frameWidth ≠ 0 := by
      intro h0
      rw [h0] at hwidth
      exact absurd hwidth.symm (Int.ne_of_gt hw)
    have hh0 : s.frameHeight ≠ 0 := by
      intro h0
      rw [h0] at hheight
      exact absurd hheight.symm (Int.ne_of_gt hh)
    simp only [handleStatus, if_pos hw0, if_pos hh0]
    exact ⟨hwidth, hheight⟩

theorem sound_step (h : s.Sound) (hstep : s.step e = some s') (hfew : s'.published.length < UInt32.size) :
    s'.Sound := by
  cases e with
  | clone source cloned =>
    cases hstep
    exact sound_clone h source cloned
  | publish i =>
    obtain ⟨frame, hi, rfl⟩ := Option.map_eq_some_iff.mp hstep
    exact sound_publishFrame h hi hfew
  | discard =>
    obtain ⟨-, ⟨⟩⟩ := Option.ite_none_right_eq_some.mp hstep
    exact { h with }
  | request allocated =>
    rw [step] at hstep
    split at hstep <;> cases hstep
    exact sound_request h ‹_› allocated
  | encode answers =>
    rw [step] at hstep
    split at hstep <;> cases hstep
    exact sound_encode h ‹_› answers
  | keep allocated =>
    rw [step] at hstep
    split at hstep <;> cases hstep
    exact sound_keep h ‹_› allocated
  | respond =>
    rw [step] at hstep
    split at hstep <;> cases hstep
    exact sound_respond h ‹_›
  | status =>
    rw [step] at hstep
    split at hstep <;> cases hstep
    exact { h with
      reported := List.forall_mem_append.mpr
        ⟨h.reported, List.forall_mem_singleton.mpr h.reported_status⟩ }
  | setDesktop width height =>
    cases hstep
    unfold httpApiSetDesktop
    split
    · exact h
    · exact { h with }

theorem published_step (hstep : s.step e = some s') : s.published.length ≤ s'.published.length := by
  cases e with
  | clone source cloned =>
    cases hstep
    unfold clone
    split <;> exact Nat.le_refl _
  | publish i =>
    obtain ⟨frame, -, rfl⟩ := Option.map_eq_some_iff.mp hstep
    simp [publishFrame]
  | discard =>
    obtain ⟨-, ⟨⟩⟩ := Option.ite_none_right_eq_some.mp hstep
    exact Nat.le_refl _
  | request allocated =>
    rw [step] at hstep
    split at hstep <;> cases hstep
    unfold request
    dsimp only
    split
    · exact Nat.le_refl _
    · split <;> split <;> exact Nat.le_refl _
  | encode answers =>
    rw [step] at hstep
    split at hstep <;> cases hstep
    unfold encode
    dsimp only
    split <;> exact Nat.le_refl _
  | keep allocated =>
    rw [step] at hstep
    split at hstep <;> cases hstep
    unfold keep
    dsimp only
    split <;> exact Nat.le_refl _
  | respond =>
    rw [step] at hstep
    split at hstep <;> cases hstep
    exact Nat.le_refl _
  | status =>
    rw [step] at hstep
    split at hstep <;> cases hstep
    exact Nat.le_refl _
  | setDesktop width height =>
    cases hstep
    unfold httpApiSetDesktop
    split <;> exact Nat.le_refl _

end Invariant

-- ---------------------------------------------------------------------------
-- Every run
-- ---------------------------------------------------------------------------

/-- In every run, what is allocated is held by someone. As long as the frame
numbers have not wrapped, a snapshot carries the number of the frame that was
newest when its request took the lock and an encoding of that very frame; no
frame is encoded twice, no snapshot is older than one answered before it, and
every status names the newest frame with its size. -/
theorem snapshots_coherent (width height : UInt16) (events : List (SnapshotEvent α)) (s : Snapshots α)
    (hrun : Machine.run step (start width height) events = some s) :
    s.Balanced ∧
    (s.published.length < UInt32.size →
      (∀ a, some a ∈ s.answers → Answered s.published s.encodings a) ∧
      (s.encodings.Pairwise fun e e' => e.id < e'.id) ∧
      (s.answers.Pairwise fun a a' => ∀ b b', a = some b → a' = some b' → b.asked ≤ b'.asked) ∧
      ∀ a ∈ s.statuses, Reported s.published a) := by
  refine ⟨?_, fun hfew => ?_⟩
  · exact Machine.run_induction (fun _ _ _ h hstep => balanced_step h hstep) ⟨rfl, rfl⟩ hrun
  · have hstep : ∀ (s : Snapshots α) e s', (s.published.length < UInt32.size → s.Sound) →
        s.step e = some s' → s'.published.length < UInt32.size → s'.Sound := fun s e s' h hstep hfew =>
      sound_step (h (Nat.lt_of_le_of_lt (published_step hstep) hfew)) hstep hfew
    have h := Machine.run_induction hstep (fun _ => Sound.start width height) hrun hfew
    exact ⟨fun a ha => (h.answered a ha).2, h.increasing, h.order, h.reported⟩

/-- Two frames are published around a request: the snapshot is of the first, and
the next one, served twice, of the second. -/
def overtakenEvents : List (SnapshotEvent Nat) :=
  let first : AvFrame Nat := { width := 1920, height := 1080, format := 0, data := 1 }
  let second : AvFrame Nat := { width := 1280, height := 720, format := 0, data := 2 }
  [.request true, .clone first true, .publish 0, .status, .request true, .clone second true, .publish 0,
    .discard, .encode { scaledRows := 1080, received := some [1] }, .keep true, .respond,
    .request true, .encode { scaledRows := 720, received := some [2] }, .keep true, .respond,
    .request true, .respond]

theorem overtaken_coherent :
    ∃ s : Snapshots Nat,
      Machine.run step (start 1920 1080) overtakenEvents = some s ∧
      s.answers.map (Option.map fun a => (a.id, a.jpeg, a.asked)) =
        [none, some (1, [1], 1), some (2, [2], 2), some (2, [2], 2)] ∧
      s.encodings.length = 2 ∧
      s.Balanced ∧ ∀ a, some a ∈ s.answers → Answered s.published s.encodings a := by
  refine ⟨(Machine.run step (start 1920 1080) overtakenEvents).get (by decide), by decide, by decide,
    by decide, ?_, ?_⟩
  · exact (snapshots_coherent 1920 1080 overtakenEvents _ (Option.some_get _).symm).1
  · exact ((snapshots_coherent 1920 1080 overtakenEvents _ (Option.some_get _).symm).2 (by decide)).1

end NanokvmRdp.Gateway.Snapshots
