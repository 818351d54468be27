import Mathlib.Data.List.Infix
import NanokvmRdp.Gateway.VideoThread

/-!
# The reference chain of the AVC420 path

A P-frame is decoded against the frames before it, up to the last IDR. As long
as no wait for an acknowledgement fails with `need_idr` clear, the video
thread submits a P-frame only onto an unbroken chain (`chained_of_run`), and
asks for at most one IDR at a time. A failed wait drops a frame without
setting `need_idr`, and the next P-frame then goes out onto a broken chain
(`failed_wait_breaks_chain`).
-/

namespace NanokvmRdp.Gateway

namespace Handled

def slice (h : Handled) : Bool := h.unit.idr || h.unit.pFrame

def anchors (h : Handled) : Bool := h.submitted && h.unit.idr

/-- The unit does not break the chain: it is whole, and it was submitted if it
has a slice. -/
def keeps (h : Handled) : Bool := !h.unit.packetLoss && (h.submitted || !h.slice)

end Handled

-- ---------------------------------------------------------------------------
-- Chains
-- ---------------------------------------------------------------------------

/-- An IDR was submitted, and no unit since the last one breaks the chain. -/
def Intact (history : List Handled) : Prop :=
  ∃ before anchor after, history = before ++ anchor :: after ∧ anchor.anchors = true ∧
    ∀ h ∈ after, h.anchors = false ∧ h.keeps = true

theorem intact_of_anchors {h : Handled} (hanchors : h.anchors = true) (history : List Handled) :
    Intact (history ++ [h]) :=
  ⟨history, h, [], rfl, hanchors, by simp⟩

theorem Intact.append {h : Handled} (hintact : Intact history) (hkeeps : h.keeps = true) :
    Intact (history ++ [h]) := by
  cases hanchors : h.anchors with
  | true => exact intact_of_anchors hanchors history
  | false =>
    obtain ⟨before, anchor, after, rfl, hanchor, hafter⟩ := hintact
    refine ⟨before, anchor, after ++ [h], by simp, hanchor, ?_⟩
    intro x hx
    rcases List.mem_append.mp hx with hx | hx
    · exact hafter x hx
    · rw [List.mem_singleton.mp hx]
      exact ⟨hanchors, hkeeps⟩

theorem Intact.last {h : Handled} (hintact : Intact (history ++ [h])) :
    h.anchors = true ∨ h.keeps = true := by
  obtain ⟨before, anchor, after, heq, hanchor, hafter⟩ := hintact
  rcases List.eq_nil_or_concat after with rfl | ⟨rest, last, rfl⟩
  · obtain ⟨-, heq⟩ := List.append_inj' heq rfl
    cases heq
    exact .inl hanchor
  · rw [List.concat_eq_append, ← List.cons_append, ← List.append_assoc] at heq
    obtain ⟨-, heq⟩ := List.append_inj' heq rfl
    cases heq
    exact .inr (hafter h (by simp)).2

/-- Every submitted P-frame is whole and went out onto an intact chain. -/
def Chained (history : List Handled) : Prop :=
  ∀ before h, before ++ [h] <+: history → h.submitted = true → h.unit.pFrame = true →
    h.unit.idr = false → Intact before ∧ h.unit.packetLoss = false

theorem Chained.append {h : Handled} (hchained : Chained history)
    (hlast : h.submitted = true → h.unit.idr = false →
      Intact history ∧ h.unit.packetLoss = false) :
    Chained (history ++ [h]) := by
  intro before x hx hsubmitted hp hidr
  rcases List.prefix_concat_iff.mp hx with heq | hx
  · obtain ⟨rfl, hlast_eq⟩ := List.append_inj' heq rfl
    obtain rfl : x = h := by simpa using hlast_eq
    exact hlast hsubmitted hidr
  · exact hchained before x hx hsubmitted hp hidr

-- ---------------------------------------------------------------------------
-- Requests
-- ---------------------------------------------------------------------------

def Asked (limit : Nat) (history : List Handled) : Prop :=
  ∀ segment, segment <:+ history → (∀ h ∈ segment, h.anchors = false) →
    segment.countP Handled.requested ≤ limit

def AskedOnce (history : List Handled) : Prop :=
  ∀ segment, segment <:+: history → (∀ h ∈ segment, h.anchors = false) →
    segment.countP Handled.requested ≤ 1

theorem Asked.mono (h : Asked limit history) (hle : limit ≤ limit') : Asked limit' history :=
  fun segment hsegment hnone => (h segment hsegment hnone).trans hle

theorem Asked.append (hasked : Asked limit history) (h : Handled) :
    Asked (limit + h.requested.toNat) (history ++ [h]) := by
  intro segment hsegment hnone
  rcases List.suffix_concat_iff.mp hsegment with rfl | ⟨rest, rfl, hrest⟩
  · simp
  · have hle := hasked rest hrest fun x hx => hnone x (List.mem_append_left _ hx)
    cases hrequested : h.requested <;> simp [hrequested] <;> omega

theorem asked_of_anchors {h : Handled} (hanchors : h.anchors = true) (history : List Handled) :
    Asked 0 (history ++ [h]) := by
  intro segment hsegment hnone
  rcases List.suffix_concat_iff.mp hsegment with rfl | ⟨rest, rfl, -⟩
  · simp
  · have hfalse := hnone h (by simp)
    rw [hanchors] at hfalse
    cases hfalse

theorem AskedOnce.append {h : Handled} (honce : AskedOnce history) (hasked : Asked 1 (history ++ [h])) :
    AskedOnce (history ++ [h]) := by
  intro segment hsegment hnone
  rcases List.infix_concat_iff.mp hsegment with hsegment | hsegment
  · exact hasked segment hsegment hnone
  · exact honce segment hsegment hnone

-- ---------------------------------------------------------------------------
-- The invariant
-- ---------------------------------------------------------------------------

namespace VideoThread

variable {s : VideoThread}

/-- What holds wherever the thread is. With `need_idr` clear the chain is intact
and no request is open. -/
structure Sound (s : VideoThread) : Prop where
  ready : s.client.gfxReady = true
  chained : Chained s.history
  once : AskedOnce s.history
  asked : Asked s.client.needIdr.toNat s.history
  intact : s.client.needIdr = false → s.client.stopping = false → Intact s.history

/-- The unit may be submitted: it is whole, and it is an IDR or continues an
intact chain. -/
def Fits (needIdr : Bool) (history : List Handled) (unit : VideoSourceAccessUnit) : Prop :=
  unit.packetLoss = false ∧ (unit.idr = true ∨ needIdr = false ∧ Intact history)

/-- What the thread knows of the unit it holds. -/
def Holds (needIdr : Bool) (history : List Handled) : VideoPc → Prop
  | .reading | .ended => True
  | .admitting unit _ _ | .waiting unit _ _ | .sending unit _ | .submitting unit _ _ =>
    Fits needIdr history unit
  | .registering unit _ _ => unit.idr = true → Intact history ∧ Asked 0 history

structure Inv (s : VideoThread) : Prop extends Sound s where
  holds : Holds s.client.needIdr s.history s.pc

theorem inv_start : Inv {} where
  ready := rfl
  chained before h hpre := by simp at hpre
  once segment hsegment _ := by simp [List.infix_nil.mp hsegment]
  asked segment hsegment _ := by simp [List.suffix_nil.mp hsegment]
  intact h := by cases h
  holds := trivial

theorem Sound.stop (h : s.Sound) : s.stop.Sound :=
  ⟨h.ready, h.chained, h.once, h.asked, fun _ hstop => by cases hstop⟩

theorem Sound.sendFailed (h : s.Sound) : s.sendFailed.Sound where
  ready := h.ready
  chained := h.chained
  once := h.once
  asked := h.asked.mono (Bool.toNat_le _)
  intact hneed := by cases hneed

theorem Sound.drop (h : s.Sound) (unit : VideoSourceAccessUnit)
    (hkeeps : s.client.needIdr = false → s.client.stopping = false →
      Handled.keeps { unit } = true) :
    (s.drop unit false).Sound := by
  have hasked : Asked s.client.needIdr.toNat (s.history ++ [⟨unit, false, false⟩]) :=
    h.asked.append _
  exact {
    ready := h.ready
    chained := h.chained.append fun hsubmitted => by cases hsubmitted
    once := h.once.append (hasked.mono (Bool.toNat_le _))
    asked := hasked
    intact := fun hneed hstop => (h.intact hneed hstop).append (hkeeps hneed hstop) }

theorem Sound.goto (h : s.Sound) (pc : VideoPc) : (s.goto pc).Sound :=
  ⟨h.ready, h.chained, h.once, h.asked, h.intact⟩

theorem Sound.inv_drop (h : s.Sound) (unit : VideoSourceAccessUnit)
    (hkeeps : s.client.needIdr = false → s.client.stopping = false →
      Handled.keeps { unit } = true) :
    (s.drop unit false).Inv :=
  ⟨h.drop unit hkeeps, trivial⟩

theorem Sound.inv_drop_halted (h : s.Sound) (unit : VideoSourceAccessUnit)
    (hhalted : s.halted = true) : (s.drop unit false).Inv := by
  refine h.inv_drop unit fun _ hstop => ?_
  simp [halted, h.ready, hstop] at hhalted

theorem Sound.inv_sendFailed_drop (h : s.Sound) (unit : VideoSourceAccessUnit) :
    (s.sendFailed.drop unit false).Inv :=
  h.sendFailed.inv_drop unit fun hneed => by cases hneed

theorem Inv.stop (h : s.Inv) : s.stop.Inv := ⟨h.toSound.stop, h.holds⟩

theorem Sound.inv_ended (h : s.Sound) : (s.goto .ended).Inv := ⟨h.goto .ended, trivial⟩

theorem read_inv_of_sound (h : s.Sound) (unit : VideoSourceAccessUnit) (prepared : Option UInt32)
    (hloss : unit.packetLoss = false) : (s.read unit prepared).Inv := by
  simp only [read, hloss, Bool.false_eq_true, if_false, Bool.not_false, Bool.true_and]
  split
  · rename_i hsend
    obtain ⟨hsend, hhalted⟩ : frameFlowAvcShouldSend s.client.needIdr unit.idr unit.pFrame = true ∧
      s.halted = false := by simpa using hsend
    have hstop : s.client.stopping = false := by
      simp only [halted, h.ready] at hhalted
      simpa using hhalted
    split
    · rename_i hidr
      cases prepared with
      | some bytes => exact ⟨h.goto _, hloss, .inl hidr⟩
      | none => exact (h.inv_sendFailed_drop unit).toSound.stop.inv_ended
    · rename_i hidr
      have hneed : s.client.needIdr = false := by
        simp only [frameFlowAvcShouldSend, hidr] at hsend
        simp_all
      exact ⟨h.goto _, hloss, .inr ⟨hneed, h.intact hneed hstop⟩⟩
  · rename_i hsend
    refine h.inv_drop unit fun hneed hstop => ?_
    -- not sent although nothing stands in the way: the unit has no slice
    simp only [halted, h.ready, hneed, hstop, frameFlowAvcShouldSend] at hsend
    simpa [Handled.keeps, Handled.slice, hloss] using hsend

theorem read_inv (h : s.Sound) (unit : VideoSourceAccessUnit) (prepared : Option UInt32) :
    (s.read unit prepared).Inv := by
  cases hloss : unit.packetLoss with
  | false => exact read_inv_of_sound h unit prepared hloss
  | true =>
    have hread : s.read unit prepared = s.sendFailed.drop unit false := by simp [read, hloss]
    rw [hread]
    exact h.inv_sendFailed_drop unit

/-- A rejection with `need_idr` clear is the one that asks for an IDR. -/
theorem reject_inv (h : s.Sound) (unit : VideoSourceAccessUnit) :
    Inv ({ s with client := { s.client with
        needIdr := (frameFlowAvcFlowRejected s.client.needIdr).2 } }.drop unit
      (frameFlowAvcFlowRejected s.client.needIdr).1) := by
  cases hneed : s.client.needIdr with
  | true => exact h.inv_sendFailed_drop unit
  | false =>
    have hclear := h.asked
    rw [hneed] at hclear
    have hasked : Asked 1 (s.history ++ [⟨unit, false, true⟩]) := hclear.append _
    exact {
      ready := h.ready
      chained := h.chained.append fun hsubmitted => by cases hsubmitted
      once := h.once.append hasked
      asked := hasked
      intact := fun hneed => by cases hneed
      holds := trivial }

theorem accept_inv (h : s.Sound) {unit : VideoSourceAccessUnit}
    (hfits : Fits s.client.needIdr s.history unit) (bytes : UInt32) (waitStartedAt now : UInt64) :
    (s.accept unit bytes waitStartedAt now).Inv := by
  unfold accept
  split
  · rename_i hhalted
    exact h.inv_drop_halted unit hhalted
  · split
    · exact ⟨h.goto _, hfits⟩
    · exact ⟨h.goto _, hfits⟩
    · exact reject_inv h unit

theorem wait_inv (h : s.Sound) {unit : VideoSourceAccessUnit}
    (hfits : Fits s.client.needIdr s.history unit) (bytes : UInt32) (waitStartedAt : UInt64)
    (outcome : WaitOutcome)
    (hwait : outcome = .failed → s.client.needIdr = true ∨ s.client.stopping = true) :
    (s.wait unit bytes waitStartedAt outcome).Inv := by
  unfold wait
  split
  · rename_i hstopping
    exact h.inv_drop_halted unit (by simp [halted, hstopping])
  · rename_i hrunning
    cases outcome with
    | signalled => exact ⟨h.goto _, hfits⟩
    | timeout => exact ⟨h.goto _, hfits⟩
    | failed =>
      have hset : s.client.needIdr = true := (hwait rfl).resolve_right hrunning
      refine h.inv_drop unit fun hneed => ?_
      rw [hset] at hneed
      cases hneed

theorem send_inv (h : s.Sound) {unit : VideoSourceAccessUnit}
    (hfits : Fits s.client.needIdr s.history unit) (bytes : UInt32) : (s.send unit bytes).Inv := by
  unfold send
  split
  · rename_i hhalted
    exact (h.inv_drop_halted unit hhalted).stop
  · exact ⟨⟨h.ready, h.chained, h.once, h.asked, h.intact⟩, hfits⟩

theorem submit_inv (h : s.Sound) {unit : VideoSourceAccessUnit}
    (hfits : Fits s.client.needIdr s.history unit) (bytes id : UInt32) (ok : Bool) :
    (s.submit unit bytes id ok).Inv := by
  obtain ⟨hloss, hchain⟩ := hfits
  cases ok with
  | false => exact (h.inv_sendFailed_drop unit).stop
  | true =>
    have hasked : Asked s.client.needIdr.toNat (s.history ++ [⟨unit, true, false⟩]) :=
      h.asked.append _
    have hkeeps : Handled.keeps ⟨unit, true, false⟩ = true := by simp [Handled.keeps, hloss]
    refine {
      ready := h.ready
      chained := h.chained.append fun _ hidr => ⟨?_, hloss⟩
      once := h.once.append (hasked.mono (Bool.toNat_le _))
      asked := hasked
      intact := fun hneed hstop => (h.intact hneed hstop).append hkeeps
      holds := fun hidr => ?_ }
    · rcases hchain with htrue | ⟨-, hintact⟩
      · cases htrue.symm.trans hidr
      · exact hintact
    · have hanchors : Handled.anchors ⟨unit, true, false⟩ = true := by
        simp [Handled.anchors, hidr]
      exact ⟨intact_of_anchors hanchors _, asked_of_anchors hanchors _⟩

theorem register_inv (h : s.Sound) {unit : VideoSourceAccessUnit}
    (hanchor : unit.idr = true → Intact s.history ∧ Asked 0 s.history) (bytes id : UInt32)
    (now : UInt64) : (s.register unit bytes id now).Inv := by
  cases hidr : unit.idr with
  | true =>
    obtain ⟨hintact, hasked⟩ := hanchor hidr
    refine ⟨⟨h.ready, h.chained, h.once, ?_, fun _ _ => hintact⟩, trivial⟩
    simpa [register, frameFlowAvcSent, hidr] using hasked
  | false =>
    refine ⟨⟨h.ready, h.chained, h.once, ?_, ?_⟩, trivial⟩
    · simpa [register, frameFlowAvcSent, hidr] using h.asked
    · simpa [register, frameFlowAvcSent, hidr] using h.intact

/-- A P-frame that is being handed to `SurfaceFrameCommand` is whole and goes out
onto an intact chain, whether the call then succeeds or not. -/
def SubmitsChained (s : VideoThread) : Prop :=
  ∀ unit bytes id, s.pc = .submitting unit bytes id → unit.pFrame = true → unit.idr = false →
    Intact s.history ∧ unit.packetLoss = false

theorem Inv.submitsChained (h : s.Inv) : s.SubmitsChained := by
  intro unit bytes id hpc _ hidr
  have hholds := h.holds
  rw [hpc] at hholds
  obtain ⟨hloss, hchain⟩ := hholds
  exact ⟨(hchain.resolve_left (by simp [hidr])).2, hloss⟩

/-- No wait for an acknowledgement fails while `need_idr` is clear, unless the
client is stopping. -/
def WaitsHold (s : VideoThread) (event : VideoEvent) : Prop :=
  event = .wait .failed → s.client.needIdr = true ∨ s.client.stopping = true

theorem step_inv (s : VideoThread) (event : VideoEvent) (s' : VideoThread) (h : s.Inv)
    (hwaits : s.WaitsHold event) (hstep : s.step event = some s') : s'.Inv := by
  obtain ⟨hsound, hholds⟩ := h
  unfold step at hstep
  cases event with
  -- the loop head
  | read unit prepared =>
    cases hpc : s.pc <;> simp only [hpc] at hstep <;> cases hstep
    exact read_inv hsound unit prepared
  | readFailed again =>
    cases hpc : s.pc <;> simp only [hpc] at hstep <;> cases hstep
    split
    · exact hsound.inv_ended
    · split
      · exact ⟨hsound, hholds⟩
      · exact hsound.stop.inv_ended
  | leave =>
    cases hpc : s.pc <;> simp only [hpc] at hstep <;> try cases hstep
    split at hstep <;> cases hstep
    exact hsound.inv_ended
  -- the unit at hand
  | accept now =>
    cases hpc : s.pc <;> simp only [hpc] at hstep <;> cases hstep
    rw [hpc] at hholds
    exact accept_inv hsound hholds _ _ _
  | wait outcome =>
    cases hpc : s.pc <;> simp only [hpc] at hstep <;> cases hstep
    rw [hpc] at hholds
    exact wait_inv hsound hholds _ _ _ fun hfailed => hwaits (by rw [hfailed])
  | send =>
    cases hpc : s.pc <;> simp only [hpc] at hstep <;> cases hstep
    rw [hpc] at hholds
    exact send_inv hsound hholds _
  | submit ok =>
    cases hpc : s.pc <;> simp only [hpc] at hstep <;> cases hstep
    rw [hpc] at hholds
    exact submit_inv hsound hholds _ _ _
  | register now =>
    cases hpc : s.pc <;> simp only [hpc] at hstep <;> cases hstep
    rw [hpc] at hholds
    exact register_inv hsound hholds _ _ _
  -- the other threads
  | ack id depth now =>
    have hack : Inv { s with client := { s.client with
        flow := (s.client.flow.ack id depth now).2.2 } } :=
      ⟨⟨hsound.ready, hsound.chained, hsound.once, hsound.asked, hsound.intact⟩, hholds⟩
    cases hpc : s.pc <;> simp only [hpc] at hstep <;> cases hstep <;> simpa only [hpc] using hack
  | stop =>
    have hstopped : s.stop.Inv := Inv.stop ⟨hsound, hholds⟩
    cases hpc : s.pc <;> simp only [hpc] at hstep <;> cases hstep <;> exact hstopped

/-- In every run in which no wait fails with `need_idr` clear, each P-frame handed
to `SurfaceFrameCommand` continues an intact chain, and there is at most one
request between two submitted IDRs. -/
theorem chained_of_run (events : List VideoEvent) (s : VideoThread)
    (hwaits : Machine.Along step WaitsHold {} events)
    (hrun : Machine.run step {} events = some s) :
    s.SubmitsChained ∧ Chained s.history ∧ AskedOnce s.history := by
  have h : s.Inv := Machine.run_invariant step_inv inv_start hwaits hrun
  exact ⟨h.submitsChained, h.chained, h.once⟩

-- An IDR with its parameter sets, and P-frames.
def keyUnit : VideoSourceAccessUnit := { length := 100000, nalTypes := 0x1a0 }
def bigUnit : VideoSourceAccessUnit := { length := 150000, nalTypes := 0x2 }
def smallUnit : VideoSourceAccessUnit := { length := 10, nalTypes := 0x2 }

def ackedWait : List VideoEvent :=
  [.read keyUnit (some 100000), .accept 1, .send, .submit true, .register 2, .read bigUnit none,
    .accept 10, .wait .timeout, .ack 0 0 15, .accept 16, .send, .submit true, .register 17,
    .read smallUnit none, .accept 20, .send]

theorem ackedWait_chained :
    ∃ s, Machine.run step {} ackedWait = some s ∧
      s.history = [⟨keyUnit, true, false⟩, ⟨bigUnit, true, false⟩] ∧
      s.pc = .submitting smallUnit 10 2 ∧ Intact s.history ∧ Chained s.history ∧ AskedOnce s.history := by
  refine ⟨_, rfl, rfl, rfl, ?_⟩
  obtain ⟨hsubmits, hchained, honce⟩ :=
    chained_of_run ackedWait _ (Machine.along_of_forall (by simp [ackedWait, WaitsHold]) _) rfl
  exact ⟨(hsubmits smallUnit 10 2 rfl rfl rfl).1, hchained, honce⟩

/-- A wait fails for the big frame, which is dropped; the small one is
submitted all the same. -/
theorem failed_wait_breaks_chain :
    ∃ s, Machine.run step {} [.read keyUnit (some 100000), .accept 1, .send, .submit true,
        .register 2, .read bigUnit none, .accept 10, .wait .failed,
        .read smallUnit none, .accept 20, .send, .submit true] = some s ∧
      ¬ Chained s.history := by
  refine ⟨_, rfl, ?_⟩
  intro hchained
  obtain ⟨hintact, -⟩ := hchained [⟨keyUnit, true, false⟩, ⟨bigUnit, false, false⟩]
    ⟨smallUnit, true, false⟩ List.prefix_rfl rfl rfl rfl
  have hlast := Intact.last
    (show Intact ([⟨keyUnit, true, false⟩] ++ [⟨bigUnit, false, false⟩]) from hintact)
  revert hlast
  decide

end VideoThread

end NanokvmRdp.Gateway
