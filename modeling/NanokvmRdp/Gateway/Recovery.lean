import NanokvmRdp.Gateway.VideoSource
import NanokvmRdp.Gateway.VideoThread

/-!
# Recovery from a loss

The video thread reads its units from the video source. A loss is reported
with the next unit that the source returns, and the thread takes a unit with
this flag for damaged. When all units between the loss and an IDR were
suppressed, the flag comes with the IDR that would repair the stream.
-/

namespace NanokvmRdp.Gateway

open Rtp (Returned)

def VideoSource.AccessUnit.taken (unit : VideoSource.AccessUnit) : Option VideoSourceAccessUnit :=
  if h : UInt32.ofNat unit.data.length = 0 then none
  else
    some {
      length := UInt32.ofNat unit.data.length
      nalTypes := unit.nalTypes
      packetLoss := unit.packetLoss
      length_ne := h }

/-- A result of `rtp_ops->read` whose size fits in the 32 bits that the thread
keeps of it. -/
structure SizedUnit extends Returned where
  length_lt : data.length < 2 ^ 32

structure GfxPipeline where
  run : SourceRun
  thread : VideoThread := {}

inductive GfxEvent where
  | rtp (unit : SizedUnit) (requested : Bool) (prepared : Option UInt32)
  | thread (event : VideoEvent)

namespace GfxPipeline

def rtp (s : GfxPipeline) (unit : SizedUnit) (requested : Bool) (prepared : Option UInt32) :
    GfxPipeline where
  run := s.run.take unit.toReturned requested
  thread :=
    match (s.run.source.turn unit.toReturned requested).1.bind VideoSource.AccessUnit.taken with
    | none => s.thread
    | some taken => s.thread.read taken prepared

def step (s : GfxPipeline) (event : GfxEvent) : Option GfxPipeline :=
  match event with
  | .rtp unit requested prepared =>
    if s.thread.pc = .reading then some (s.rtp unit requested prepared) else none
  | .thread (.read ..) => none
  | .thread event => (s.thread.step event).map fun thread => { s with thread }

end GfxPipeline

-- ---------------------------------------------------------------------------
-- Losses that were not reported yet
-- ---------------------------------------------------------------------------

/-- Since a change of the counter no unit was read that the source returns. -/
def Unreported (reads : List Returned) : Prop :=
  ∃ front lost back, reads = front ++ lost :: back ∧ lost.losses ≠ lastLosses 0 front ∧
    (∀ read ∈ lost :: back, ¬ HasNal read.data 7 ∧ ¬ HasNal read.data 8) ∧
    ((∀ read ∈ lost :: back, ¬ HasNal read.data 5) ∨ ¬ (AnyNal front 7 ∧ AnyNal front 8))

theorem lossesChange_iff (losses : UInt32) (reads : List Returned) :
    LossesChange losses reads ↔ ∃ front lost back, reads = front ++ lost :: back ∧
      lost.losses ≠ lastLosses losses front := by
  induction reads generalizing losses with
  | nil => simp [LossesChange]
  | cons read reads ih =>
    rw [LossesChange, ih]
    constructor
    · rintro (hchanged | ⟨front, lost, back, rfl, hchanged⟩)
      · exact ⟨[], read, reads, rfl, hchanged⟩
      · exact ⟨read :: front, lost, back, rfl, hchanged⟩
    · rintro ⟨front, lost, back, hsplit, hchanged⟩
      cases front with
      | nil =>
        cases hsplit
        exact .inl hchanged
      | cons first front =>
        cases hsplit
        exact .inr ⟨front, lost, back, rfl, hchanged⟩

theorem Since.of_suffix (h : Since (front ++ back) earlier skipped)
    (hback : ∀ entry ∈ back, entry.returned = none) :
    ∃ mid, front = earlier ++ mid ∧ skipped = mid ++ back := by
  obtain ⟨hsplit, -, hends⟩ := h
  rcases List.append_eq_append_iff.mp hsplit with ⟨mid, hearlier, hskipped⟩ | ⟨mid, hfront, hskipped⟩
  · rcases List.eq_nil_or_concat mid with rfl | ⟨rest, last, rfl⟩
    · exact ⟨[], by simpa using hearlier.symm, by simpa using hskipped.symm⟩
    · rcases hends with rfl | ⟨most, entry, rfl, hsome⟩
      · simp at hearlier
      · have hlast : last = entry := by
          rw [List.concat_eq_append, ← List.append_assoc] at hearlier
          exact (List.singleton_inj.mp (List.append_inj' hearlier rfl).2).symm
        have hnone := hback last (by simp [hskipped])
        rw [hlast] at hnone
        simp [hnone] at hsome
  · exact ⟨mid, hfront, hskipped⟩

theorem anyNal_front {front more : List Returned} (hmore : ∀ read ∈ more, ¬ HasNal read.data type)
    (h : AnyNal (front ++ more) type) : AnyNal front type := by
  obtain ⟨read, hread, hnal⟩ := h
  rcases List.mem_append.mp hread with hread | hread
  · exact ⟨read, hread, hnal⟩
  · exact absurd hnal (hmore read hread)

theorem not_resynced_of_unreported {front back : List Returned} {lost : Returned}
    (hchanged : lost.losses ≠ lastLosses 0 front)
    (hsets : ∀ read ∈ lost :: back, ¬ HasNal read.data 7 ∧ ¬ HasNal read.data 8)
    (hidr : (∀ read ∈ lost :: back, ¬ HasNal read.data 5) ∨ ¬ (AnyNal front 7 ∧ AnyNal front 8)) :
    ¬ Resynced (front ++ lost :: back) := by
  have hincomplete : ∀ read ∈ lost :: back, HasNal read.data 5 →
      AnyNal (front ++ lost :: back) 7 → ¬ AnyNal (front ++ lost :: back) 8 := by
    intro read hread hnal hsps hpps
    rcases hidr with hidr | hidr
    · exact hidr read hread hnal
    · exact hidr ⟨anyNal_front (fun r hr => (hsets r hr).1) hsps,
        anyNal_front (fun r hr => (hsets r hr).2) hpps⟩
  induction back using List.reverseRecOn with
  | nil =>
    rw [resynced_concat]
    rintro (⟨hnal, hsps, hpps⟩ | ⟨-, hsame⟩)
    · exact hincomplete lost (by simp) hnal hsps hpps
    · exact hchanged hsame
  | append_singleton back read ih =>
    have hfront : ∀ r ∈ lost :: back, r ∈ lost :: (back ++ [read]) := by simp +contextual
    have hsplit : front ++ lost :: (back ++ [read]) = (front ++ lost :: back) ++ [read] := by simp
    have hearlier : ¬ Resynced (front ++ lost :: back) := by
      refine ih (fun r hr => hsets r (hfront r hr)) ?_ ?_
      · exact hidr.imp_left fun h r hr => h r (hfront r hr)
      · intro r hr hnal hsps hpps
        refine hincomplete r (hfront r hr) hnal ?_ ?_
        · rw [hsplit, anyNal_concat]
          exact .inl hsps
        · rw [hsplit, anyNal_concat]
          exact .inl hpps
    rw [hsplit, resynced_concat]
    rintro (⟨hnal, hsps, hpps⟩ | ⟨hresynced, -⟩)
    · rw [← hsplit] at hsps hpps
      exact hincomplete read (by simp) hnal hsps hpps
    · exact hearlier hresynced

theorem map_read_split {history : List SourceRead} {front back : List Returned} {lost : Returned}
    (h : history.map SourceRead.read = front ++ lost :: back) :
    ∃ before entry after, history = before ++ entry :: after ∧ before.map SourceRead.read = front ∧
      entry.read = lost ∧ after.map SourceRead.read = back := by
  obtain ⟨before, rest, rfl, hbefore, hrest⟩ := List.map_eq_append_iff.mp h
  obtain ⟨entry, after, rfl, hentry, hafter⟩ := List.map_eq_cons_iff.mp hrest
  exact ⟨before, entry, after, rfl, hbefore, hentry, hafter⟩

/-- A loss behind which every unit was suppressed is unreported. -/
theorem SourceRun.Inv.unreported {s : SourceRun} (h : s.Inv)
    (hsplit : s.history = before ++ lost :: after)
    (hsuppressed : ∀ entry ∈ lost :: after, entry.returned = none)
    (hchanged : lost.read.losses ≠ lastLosses 0 (before.map SourceRead.read)) :
    Unreported s.reads := by
  have hentry : ∀ entry ∈ lost :: after, ∃ between rest, lost :: after = between ++ entry :: rest ∧
      ¬ HasNal entry.read.data 7 ∧ ¬ HasNal entry.read.data 8 ∧
      ¬ Resynced ((before ++ between).map SourceRead.read ++ [entry.read]) := by
    intro entry hmem
    obtain ⟨between, rest, heq⟩ := List.append_of_mem hmem
    have hposition : s.history = (before ++ between) ++ entry :: rest := by
      rw [hsplit, heq, List.append_assoc]
    exact ⟨between, rest, heq, (h.suppressed _ entry rest hposition).mp (hsuppressed entry hmem)⟩
  refine ⟨before.map SourceRead.read, lost.read, after.map SourceRead.read, ?_, hchanged, ?_, ?_⟩
  · simp [SourceRun.reads, hsplit]
  · intro read hread
    rw [← List.map_cons] at hread
    obtain ⟨entry, hmem, rfl⟩ := List.mem_map.mp hread
    obtain ⟨between, rest, -, hsps, hpps, -⟩ := hentry entry hmem
    exact ⟨hsps, hpps⟩
  · by_cases hparams : AnyNal (before.map SourceRead.read) 7 ∧ AnyNal (before.map SourceRead.read) 8
    · left
      intro read hread hnal
      rw [← List.map_cons] at hread
      obtain ⟨entry, hmem, rfl⟩ := List.mem_map.mp hread
      obtain ⟨between, rest, -, -, -, hwaits⟩ := hentry entry hmem
      have hseen : ∀ type, AnyNal (before.map SourceRead.read) type →
          AnyNal ((before ++ between).map SourceRead.read ++ [entry.read]) type := by
        rintro type ⟨r, hr, hnal⟩
        exact ⟨r, by simp_all, hnal⟩
      exact hwaits ((resynced_concat _ _).mpr (.inl ⟨hnal, hseen 7 hparams.1, hseen 8 hparams.2⟩))
    · exact .inr hparams

/-- Behind an unreported loss every unit was suppressed. -/
theorem SourceRun.Inv.suppressed_of_unreported {s : SourceRun} (h : s.Inv)
    (hsplit : s.history = before ++ lost :: after)
    (hchanged : lost.read.losses ≠ lastLosses 0 (before.map SourceRead.read))
    (hsets : ∀ entry ∈ lost :: after, ¬ HasNal entry.read.data 7 ∧ ¬ HasNal entry.read.data 8)
    (hidr : (∀ entry ∈ lost :: after, ¬ HasNal entry.read.data 5) ∨
      ¬ (AnyNal (before.map SourceRead.read) 7 ∧ AnyNal (before.map SourceRead.read) 8)) :
    ∀ entry ∈ lost :: after, entry.returned = none := by
  intro entry hmem
  obtain ⟨between, rest, heq⟩ := List.append_of_mem hmem
  have hposition : s.history = (before ++ between) ++ entry :: rest := by
    rw [hsplit, heq, List.append_assoc]
  refine (h.suppressed _ entry rest hposition).mpr ⟨(hsets entry hmem).1, (hsets entry hmem).2, ?_⟩
  -- the units from the loss to this one
  obtain ⟨tail, htail⟩ : ∃ tail, between ++ [entry] = lost :: tail := by
    cases between with
    | nil =>
      cases heq
      exact ⟨[], rfl⟩
    | cons first between =>
      cases heq
      exact ⟨between ++ [entry], rfl⟩
  have hpart : ∀ e ∈ lost :: tail, e ∈ lost :: after := by
    intro e he
    rw [← htail] at he
    rw [heq, List.append_cons]
    exact List.mem_append_left _ he
  have hreads : (before ++ between).map SourceRead.read ++ [entry.read] =
      before.map SourceRead.read ++ lost.read :: tail.map SourceRead.read := by
    have hmap := congrArg (List.map SourceRead.read) htail
    simpa using hmap
  rw [hreads]
  refine not_resynced_of_unreported hchanged ?_ ?_
  · rw [← List.map_cons, List.forall_mem_map]
    exact fun e he => hsets e (hpart e he)
  · rw [← List.map_cons, List.forall_mem_map]
    exact hidr.imp_left fun h e he => h e (hpart e he)

/-- The pending flag of the source, from the reads alone. -/
theorem SourceRun.Inv.pending_iff {s : SourceRun} (h : s.Inv) :
    s.source.pendingPacketLoss = true ↔ Unreported s.reads := by
  obtain ⟨earlier, skipped, hsince⟩ := exists_since s.history
  rw [h.loss earlier skipped hsince, lossesChange_iff]
  constructor
  · rintro ⟨front, lost, back, hskipped, hchanged⟩
    obtain ⟨mid, entry, after, rfl, rfl, rfl, rfl⟩ := map_read_split hskipped
    have hsplit : s.history = (earlier ++ mid) ++ entry :: after := by
      rw [hsince.split, List.append_assoc]
    refine h.unreported hsplit ?_ ?_
    · intro e he
      exact hsince.suppressed e (List.mem_append_right _ he)
    · rw [List.map_append, lastLosses_append]
      exact hchanged
  · rintro ⟨front, lost, back, hreads, hchanged, hsets, hidr⟩
    obtain ⟨before, entry, after, hsplit, rfl, rfl, rfl⟩ := map_read_split hreads
    have hback := h.suppressed_of_unreported hsplit hchanged ?_ ?_
    · rw [hsplit] at hsince
      obtain ⟨mid, rfl, rfl⟩ := hsince.of_suffix hback
      refine ⟨mid.map SourceRead.read, entry.read, after.map SourceRead.read, by simp, ?_⟩
      rw [List.map_append, lastLosses_append] at hchanged
      exact hchanged
    · simpa using hsets
    · simpa using hidr

-- ---------------------------------------------------------------------------
-- From the source to the surface
-- ---------------------------------------------------------------------------

namespace GfxPipeline

def Inv (s : GfxPipeline) : Prop := s.run.Inv

theorem step_inv (s : GfxPipeline) (event : GfxEvent) (s' : GfxPipeline) (h : s.Inv)
    (hstep : s.step event = some s') : s'.Inv := by
  cases event with
  | rtp unit requested prepared =>
    rw [step] at hstep
    split at hstep
    · cases hstep
      exact h.take unit.toReturned requested
    · cases hstep
  | thread event =>
    have hkept : s'.run = s.run := by
      cases event
      all_goals
        first
        | cases hstep
        | obtain ⟨thread, -, rfl⟩ := Option.map_eq_some_iff.mp hstep
          rfl
    rw [Inv, hkept]
    exact h

/-- An IDR is read with the counter unchanged and its parameter sets known,
while the thread waits for a unit and the channel is ready. -/
structure IntactIdr (s : GfxPipeline) (unit : SizedUnit) : Prop where
  reading : s.thread.pc = .reading
  ready : s.thread.client.gfxReady = true
  idr : HasNal unit.data 5
  unchanged : unit.losses = lastLosses 0 s.run.reads
  sps : AnyNal (s.run.reads ++ [unit.toReturned]) 7
  pps : AnyNal (s.run.reads ++ [unit.toReturned]) 8

theorem IntactIdr.taken {s : GfxPipeline} (h : s.IntactIdr unit) (hinv : SourceRun.Inv s.run)
    (requested : Bool) :
    ∃ taken : VideoSourceAccessUnit,
      (s.run.source.turn unit.toReturned requested).1.bind VideoSource.AccessUnit.taken = some taken ∧
      taken.length = UInt32.ofNat unit.data.length ∧ taken.nalTypes = h264NalTypeMask unit.data ∧
      (taken.packetLoss = true ↔ Unreported s.run.reads) := by
  have hremembers := hinv.remembers.noted unit.toReturned requested
  have hawaiting : (s.run.source.noted unit.toReturned requested).awaitingIdr = false := by
    rw [hremembers.resynced, resynced_concat]
    exact .inl ⟨h.idr, h.sps, h.pps⟩
  obtain ⟨-, -, -, -, hpending, -⟩ := s.run.source.noted_fields unit.toReturned requested
  have hsame : unit.losses = s.run.source.observedLosses := by
    rw [h.unchanged, hinv.remembers.observed]
  rcases s.run.source.turn_cases unit.toReturned requested with
    ⟨returned, hturn, hunit, htypes, hloss, -⟩ | ⟨-, hwaits, -⟩
  · have hdata : returned.data = unit.data := congrArg Returned.data hunit
    have hlength : UInt32.ofNat returned.data.length ≠ 0 := by
      intro hzero
      obtain ⟨header, hinfix, -⟩ := h.idr
      have hle := hinfix.length_le
      have hnat := congrArg UInt32.toNat hzero
      rw [hdata, UInt32.toNat_ofNat_of_lt' unit.length_lt] at hnat
      simp [hnat] at hle
    refine ⟨_, by rw [hturn]; exact dif_neg hlength, ?_, htypes, ?_⟩
    · simp only [hdata]
    · simp only [hloss, hpending, hsame, ne_eq, not_true, or_false]
      exact hinv.pending_iff
  · rw [hawaiting] at hwaits
    cases hwaits

end GfxPipeline

-- ---------------------------------------------------------------------------
-- The way of an admitted unit
-- ---------------------------------------------------------------------------

def FrameFlow.acked (flow : FrameFlow) (acks : List (UInt32 × UInt32 × UInt64)) : FrameFlow :=
  acks.foldl (fun flow ack => (flow.ack ack.1 ack.2.1 ack.2.2).2.2) flow

/-- A turn of the loop in `client_accept_avc_frame` that ends in a wait.
Acknowledgements come before the locked section and before the wait is over. -/
structure WaitTurn where
  acks : List (UInt32 × UInt32 × UInt64) := []
  now : UInt64
  waitAcks : List (UInt32 × UInt32 × UInt64) := []
  timeout : Bool := false

/-- `frame_flow_avc_admit` has an IDR wait in each of these turns, and answers SEND
in the one after them. -/
def AdmitsAfter (bytes : UInt32) (acks : List (UInt32 × UInt32 × UInt64)) (now : UInt64) :
    List WaitTurn → FrameFlow → UInt64 → Prop
  | [], flow, waitStartedAt => (flow.acked acks).avcAdmit bytes true now waitStartedAt = .send
  | turn :: turns, flow, waitStartedAt =>
    (flow.acked turn.acks).avcAdmit bytes true turn.now waitStartedAt = .wait ∧
      AdmitsAfter bytes acks now turns ((flow.acked turn.acks).acked turn.waitAcks)
        (if waitStartedAt = 0 then turn.now else waitStartedAt)

namespace VideoThread

theorem read_idr_admits {t : VideoThread} {unit : VideoSourceAccessUnit} (hidr : unit.idr = true)
    (hloss : unit.packetLoss = false) (hrunning : t.halted = false) (bytes : UInt32) :
    t.read unit (some bytes) = t.goto (.admitting unit bytes 0) := by
  simp [read, hidr, hloss, hrunning, frameFlowAvcShouldSend]

theorem read_idr_drops {t : VideoThread} {unit : VideoSourceAccessUnit} (hidr : unit.idr = true)
    (hdrop : unit.packetLoss = true ∨ t.halted = true ∨ prepared = none) :
    (t.read unit prepared).history = t.history ++ [{ unit := unit }] ∧
      ((t.read unit prepared).pc = .reading ∨ (t.read unit prepared).pc = .ended) := by
  unfold read
  cases hloss : unit.packetLoss with
  | true => simp [drop, sendFailed]
  | false =>
    cases hhalted : t.halted with
    | true => simp [hhalted, drop]
    | false =>
      obtain rfl : prepared = none := by simpa [hloss, hhalted] using hdrop
      simp [hhalted, hidr, frameFlowAvcShouldSend, drop, sendFailed, stop, goto]

def acked (t : VideoThread) (acks : List (UInt32 × UInt32 × UInt64)) : VideoThread :=
  { t with client := { t.client with flow := t.client.flow.acked acks } }

theorem step_ack (t : VideoThread) (id depth : UInt32) (now : UInt64) :
    t.step (.ack id depth now) = some (t.acked [(id, depth, now)]) := by
  obtain ⟨client, pc, history⟩ := t
  cases pc <;> rfl

theorem admitted_submits {t : VideoThread} (hpc : t.pc = .admitting unit bytes waitStartedAt)
    (hrunning : t.halted = false)
    (hsend : t.client.flow.avcAdmit bytes unit.idr now waitStartedAt = .send) :
    ∃ t₁ t₂ t₃, t.step (.accept now) = some t₁ ∧ t₁.step .send = some t₂ ∧
      t₂.step (.submit true) = some t₃ ∧
      t₃.history = t.history ++ [{ unit := unit, submitted := true }] := by
  obtain ⟨client, pc, history⟩ := t
  obtain rfl : pc = .admitting unit bytes waitStartedAt := hpc
  have haccept : VideoThread.accept ⟨client, .admitting unit bytes waitStartedAt, history⟩ unit bytes
      waitStartedAt now = ⟨client, .sending unit bytes, history⟩ := by
    simp [VideoThread.accept, hrunning, hsend, goto]
  have hrunning : halted ⟨client, .sending unit bytes, history⟩ = false := hrunning
  refine ⟨_, _, _, congrArg some haccept, congrArg some (if_neg ?_), rfl, rfl⟩
  simp [hrunning]

theorem step_accept_wait {t : VideoThread} (hpc : t.pc = .admitting unit bytes waitStartedAt)
    (hrunning : t.halted = false)
    (hwait : t.client.flow.avcAdmit bytes unit.idr now waitStartedAt = .wait) :
    t.step (.accept now) =
      some (t.goto (.waiting unit bytes (if waitStartedAt = 0 then now else waitStartedAt))) := by
  obtain ⟨client, pc, history⟩ := t
  obtain rfl : pc = .admitting unit bytes waitStartedAt := hpc
  refine congrArg some ((if_neg ?_).trans ?_)
  · simp [hrunning]
  · rw [hwait]

theorem step_wait {t : VideoThread} (hpc : t.pc = .waiting unit bytes waitStartedAt)
    (hrunning : t.halted = false) (timeout : Bool) :
    t.step (.wait (if timeout then .timeout else .signalled)) =
      some (t.goto (.admitting unit bytes waitStartedAt)) := by
  obtain ⟨client, pc, history⟩ := t
  obtain rfl : pc = .waiting unit bytes waitStartedAt := hpc
  have hstopping : client.stopping = false := (Bool.or_eq_false_iff.mp hrunning).2
  refine congrArg some ((if_neg ?_).trans ?_)
  · simp [hstopping]
  · cases timeout <;> rfl

theorem accept_disabled {t : VideoThread} (hpc : t.pc = .reading ∨ t.pc = .ended) (now : UInt64) :
    t.step (.accept now) = none := by
  obtain ⟨client, pc, history⟩ := t
  rcases hpc with rfl | rfl <;> rfl

end VideoThread

namespace GfxPipeline

def ackEvent (ack : UInt32 × UInt32 × UInt64) : GfxEvent := .thread (.ack ack.1 ack.2.1 ack.2.2)

theorem run_acks (s : GfxPipeline) (acks : List (UInt32 × UInt32 × UInt64)) (events : List GfxEvent) :
    Machine.run step s (acks.map ackEvent ++ events) =
      Machine.run step { s with thread := s.thread.acked acks } events := by
  induction acks generalizing s with
  | nil => rfl
  | cons ack acks ih =>
    have hstep : s.step (ackEvent ack) = some { s with thread := s.thread.acked [ack] } := by
      simp only [step, ackEvent, VideoThread.step_ack]
      rfl
    rw [List.map_cons, List.cons_append, Machine.run, hstep]
    exact ih _

def turnEvents (turn : WaitTurn) : List GfxEvent :=
  turn.acks.map ackEvent ++ .thread (.accept turn.now) ::
    (turn.waitAcks.map ackEvent ++ [.thread (.wait (if turn.timeout then .timeout else .signalled))])

def admission (turns : List WaitTurn) (acks : List (UInt32 × UInt32 × UInt64)) (now : UInt64) :
    List GfxEvent :=
  turns.flatMap turnEvents ++
    (acks.map ackEvent ++ [.thread (.accept now), .thread .send, .thread (.submit true)])

def submission (unit : SizedUnit) (requested : Bool) (prepared : Option UInt32) (turns : List WaitTurn)
    (acks : List (UInt32 × UInt32 × UInt64)) (now : UInt64) : List GfxEvent :=
  .rtp unit requested prepared :: admission turns acks now

theorem run_waitTurn {unit : VideoSourceAccessUnit} {s : GfxPipeline} (turn : WaitTurn)
    (hpc : s.thread.pc = .admitting unit bytes waitStartedAt) (hrunning : s.thread.halted = false)
    (hwait : (s.thread.client.flow.acked turn.acks).avcAdmit bytes unit.idr turn.now waitStartedAt = .wait)
    (events : List GfxEvent) :
    let startedAt := if waitStartedAt = 0 then turn.now else waitStartedAt
    Machine.run step s (turnEvents turn ++ events) =
      Machine.run step
        ⟨s.run, ((s.thread.acked turn.acks).acked turn.waitAcks).goto (.admitting unit bytes startedAt)⟩
        events := by
  intro startedAt
  have haccept : (s.thread.acked turn.acks).step (.accept turn.now) =
      some ((s.thread.acked turn.acks).goto (.waiting unit bytes startedAt)) :=
    VideoThread.step_accept_wait hpc hrunning hwait
  have hback := VideoThread.step_wait
    (t := ((s.thread.acked turn.acks).goto (.waiting unit bytes startedAt)).acked turn.waitAcks)
    rfl hrunning turn.timeout
  rw [turnEvents, List.append_assoc, run_acks, List.cons_append, Machine.run]
  simp only [step, haccept, Option.map_some, Option.bind_some]
  rw [List.append_assoc, run_acks, List.singleton_append, Machine.run]
  simp only [step, hback, Option.map_some, Option.bind_some]
  rfl

theorem run_admission {unit : VideoSourceAccessUnit} (hidr : unit.idr = true) (turns : List WaitTurn)
    {s : GfxPipeline} (hpc : s.thread.pc = .admitting unit bytes waitStartedAt)
    (hrunning : s.thread.halted = false)
    (hadmits : AdmitsAfter bytes acks now turns s.thread.client.flow waitStartedAt) :
    ∃ thread : VideoThread, Machine.run step s (admission turns acks now) = some { s with thread } ∧
      thread.history = s.thread.history ++ [{ unit := unit, submitted := true }] := by
  induction turns generalizing s waitStartedAt with
  | nil =>
    have hsend : (s.thread.acked acks).client.flow.avcAdmit bytes unit.idr now waitStartedAt = .send := by
      rw [hidr]
      exact hadmits
    obtain ⟨t₁, t₂, t₃, hfirst, hsecond, hthird, hhistory⟩ :=
      VideoThread.admitted_submits (t := s.thread.acked acks) hpc hrunning hsend
    refine ⟨t₃, ?_, hhistory⟩
    rw [admission, List.flatMap_nil, List.nil_append, run_acks]
    simp [Machine.run, step, hfirst, hsecond, hthird]
  | cons turn turns ih =>
    obtain ⟨hwait, hlater⟩ := hadmits
    rw [admission, List.flatMap_cons, List.append_assoc,
      run_waitTurn turn hpc hrunning (by rw [hidr]; exact hwait)]
    exact ih (s := ⟨s.run, _⟩) rfl hrunning hlater

theorem admission_accepts (turns : List WaitTurn) (acks : List (UInt32 × UInt32 × UInt64)) (now : UInt64) :
    ∃ (first : List (UInt32 × UInt32 × UInt64)) (time : UInt64) (rest : List GfxEvent),
      admission turns acks now = first.map ackEvent ++ .thread (.accept time) :: rest := by
  cases turns with
  | nil => exact ⟨acks, now, _, rfl⟩
  | cons turn turns =>
    rw [admission, List.flatMap_cons, turnEvents, List.append_assoc, List.append_assoc, List.cons_append]
    exact ⟨turn.acks, turn.now, _, rfl⟩

/-- The unit as the thread keeps it in its history. -/
def IsUnit (unit : SizedUnit) (taken : VideoSourceAccessUnit) : Prop :=
  taken.length = UInt32.ofNat unit.data.length ∧ taken.nalTypes = h264NalTypeMask unit.data

/-- The thread asks about the unit as often as it has to wait; when the answer is to
send it, it submits it. -/
def Submits (s : GfxPipeline) (unit : SizedUnit) (requested : Bool) (prepared : Option UInt32)
    (turns : List WaitTurn) (acks : List (UInt32 × UInt32 × UInt64)) (now : UInt64) : Prop :=
  ∃ s' taken, Machine.run step s (submission unit requested prepared turns acks now) = some s' ∧
    IsUnit unit taken ∧ s'.thread.history = s.thread.history ++ [{ unit := taken, submitted := true }]

/-- An intact IDR that the flow control admits, at once or after waiting, is submitted
exactly if every loss before it was reported with an earlier unit, the client is
not stopping and its payload could be prepared. Otherwise the thread drops it at once. -/
theorem intact_idr_submitted_iff {source epoch : VideoSource} {rtpOpened : Bool}
    (hopen : source.videoSourceOpen rtpOpened = (true, epoch)) (client : VideoClient)
    (events : List GfxEvent) (s : GfxPipeline)
    (hrun : Machine.run step ⟨⟨epoch, []⟩, { client }⟩ events = some s)
    (unit : SizedUnit) (hintact : s.IntactIdr unit) (requested : Bool) (prepared : Option UInt32)
    (turns : List WaitTurn) (acks : List (UInt32 × UInt32 × UInt64)) (now : UInt64)
    (hsends : ∀ bytes ∈ prepared, AdmitsAfter bytes acks now turns s.thread.client.flow 0) :
    (s.Submits unit requested prepared turns acks now ↔
      ¬ Unreported s.run.reads ∧ s.thread.client.stopping = false ∧ prepared ≠ none) ∧
    (Unreported s.run.reads ∨ s.thread.client.stopping = true ∨ prepared = none →
      ∃ s' taken, s.step (.rtp unit requested prepared) = some s' ∧ IsUnit unit taken ∧
        s'.thread.history = s.thread.history ++ [{ unit := taken }]) := by
  have hstart : GfxPipeline.Inv ⟨⟨epoch, []⟩, { client }⟩ := SourceRun.inv_opened hopen
  have hinv : s.Inv := Machine.run_induction step_inv hstart hrun
  obtain ⟨taken, htaken, hlength, htypes, hloss⟩ := hintact.taken hinv requested
  have hidr : taken.idr = true := by
    have hbit := (nalTypeBit_h264NalTypeMask (show (5 : UInt8) < 32 by decide) unit.data).mpr hintact.idr
    rw [← htypes] at hbit
    exact hbit
  have hread : s.step (.rtp unit requested prepared) =
      some ⟨s.run.take unit.toReturned requested, s.thread.read taken prepared⟩ := by
    rw [step, if_pos hintact.reading, rtp, htaken]
  have hhalted : s.thread.halted = s.thread.client.stopping := by
    simp [VideoThread.halted, hintact.ready]
  by_cases hdrop : taken.packetLoss = true ∨ s.thread.halted = true ∨ prepared = none
  · obtain ⟨hhistory, hpc⟩ := VideoThread.read_idr_drops hidr hdrop
    rw [hloss, hhalted] at hdrop
    refine ⟨iff_of_false ?_ ?_, fun _ => ⟨_, taken, hread, ⟨hlength, htypes⟩, hhistory⟩⟩
    · rintro ⟨s', -, hsubmitted, -⟩
      obtain ⟨first, time, rest, hadmission⟩ := admission_accepts turns acks now
      rw [submission, Machine.run, hread, Option.bind_some, hadmission, run_acks, Machine.run] at hsubmitted
      have hnone := VideoThread.accept_disabled
        (t := (s.thread.read taken prepared).acked first) hpc time
      simp [step, hnone] at hsubmitted
    · rintro ⟨hreported, hrunning, hprepared⟩
      rcases hdrop with h | h | h
      · exact hreported h
      · rw [hrunning] at h
        cases h
      · exact hprepared h
  · simp only [not_or, Bool.not_eq_true] at hdrop
    obtain ⟨hintactFlag, hrunning, hprepared⟩ := hdrop
    obtain ⟨bytes, rfl⟩ := Option.ne_none_iff_exists'.mp hprepared
    have hadmits := VideoThread.read_idr_admits hidr hintactFlag hrunning bytes
    obtain ⟨thread, hsubmits, hhistory⟩ := run_admission hidr turns
      (s := ⟨s.run.take unit.toReturned requested, s.thread.goto (.admitting taken bytes 0)⟩) rfl hrunning
      (hsends bytes rfl)
    have hreported : ¬ Unreported s.run.reads := by
      rw [← hloss, hintactFlag]
      simp
    rw [hhalted] at hrunning
    refine ⟨iff_of_true ?_ ⟨hreported, hrunning, hprepared⟩, ?_⟩
    · refine ⟨⟨s.run.take unit.toReturned requested, thread⟩, taken, ?_, ⟨hlength, htypes⟩, hhistory⟩
      rw [submission, Machine.run, hread, Option.bind_some, hadmits, hsubmits]
    · rintro (h | h | h)
      · exact absurd h hreported
      · rw [hrunning] at h
        cases h
      · exact absurd h hprepared

def nalUnit (header : UInt8) (losses : UInt32) : SizedUnit where
  data := [0, 0, 0, 1, header, 0x88]
  timestamp := 0
  ssrc := 42
  losses
  length_lt := by simp

def firstPipeline : GfxPipeline := ⟨⟨VideoSource.firstEpoch, []⟩, { client := {} }⟩

def sent (header : UInt8) (prepared : Option UInt32) (now : UInt64) : List GfxEvent :=
  submission (nalUnit header 0) true prepared [] [] now ++ [.thread (.register now)]

/-- Three frames are in flight when another SPS comes behind a loss. -/
def reportedLoss : List GfxEvent :=
  [.rtp (nalUnit 0x67 0) true none, .rtp (nalUnit 0x68 0) true none] ++ sent 0x65 (some 18) 5 ++
    sent 0x41 none 25 ++ sent 0x41 none 45 ++ [.rtp (nalUnit 0x67 1) true none]

def ackedTurns : List WaitTurn :=
  [{ now := 50, timeout := true }, { now := 55, waitAcks := [(0, 0, 58)] }]

theorem hasNal_nalUnit (header : UInt8) (losses : UInt32) :
    HasNal (nalUnit header losses).data (header &&& 0x1f) :=
  ⟨header, ⟨[0], [0x88], rfl⟩, rfl⟩

/-- An IDR whose parameter sets came first. -/
theorem intactIdr_nalUnit {s : GfxPipeline} (hreading : s.thread.pc = .reading)
    (hready : s.thread.client.gfxReady = true)
    (hreads : s.run.reads = (nalUnit 0x67 0).toReturned :: (nalUnit 0x68 0).toReturned :: rest)
    (hlosses : losses = lastLosses 0 s.run.reads) : s.IntactIdr (nalUnit 0x65 losses) where
  reading := hreading
  ready := hready
  idr := hasNal_nalUnit 0x65 losses
  unchanged := hlosses
  sps := ⟨(nalUnit 0x67 0).toReturned, by simp [hreads], hasNal_nalUnit 0x67 0⟩
  pps := ⟨(nalUnit 0x68 0).toReturned, by simp [hreads], hasNal_nalUnit 0x68 0⟩

theorem reportedLoss_recovers :
    ∃ s, Machine.run step firstPipeline reportedLoss = some s ∧ s.IntactIdr (nalUnit 0x65 1) ∧
      s.Submits (nalUnit 0x65 1) true (some 18) ackedTurns [] 60 ∧ ¬ Unreported s.run.reads := by
  obtain ⟨s, hrun, hreads, hreading, hready, hadmits, hsubmits⟩ :
      ∃ s, Machine.run step firstPipeline reportedLoss = some s ∧
        s.run.reads = [(nalUnit 0x67 0).toReturned, (nalUnit 0x68 0).toReturned,
          (nalUnit 0x65 0).toReturned, (nalUnit 0x41 0).toReturned, (nalUnit 0x41 0).toReturned,
          (nalUnit 0x67 1).toReturned] ∧
        s.thread.pc = .reading ∧ s.thread.client.gfxReady = true ∧
        AdmitsAfter 18 [] 60 ackedTurns s.thread.client.flow 0 ∧
        s.Submits (nalUnit 0x65 1) true (some 18) ackedTurns [] 60 :=
    ⟨_, rfl, rfl, rfl, rfl, ⟨rfl, rfl, rfl⟩, _, _, rfl, ⟨rfl, rfl⟩, rfl⟩
  have hintact : s.IntactIdr (nalUnit 0x65 1) :=
    intactIdr_nalUnit hreading hready hreads (by rw [hreads]; rfl)
  have hopen : VideoSource.videoSourceOpen { requestsIdr := true } true =
      (true, VideoSource.firstEpoch) := rfl
  have hiff := intact_idr_submitted_iff hopen {} reportedLoss s hrun (nalUnit 0x65 1) hintact true
    (some 18) ackedTurns [] 60 fun _ hbytes => Option.some.inj hbytes ▸ hadmits
  exact ⟨s, hrun, hintact, hsubmits, (hiff.1.mp hsubmits).1⟩

def suppressedLoss : List GfxEvent :=
  [.rtp (nalUnit 0x67 0) true none, .rtp (nalUnit 0x68 0) true none] ++
    sent 0x65 (some 18) 5 ++
    [.rtp (nalUnit 0x41 1) true none]

/-- The loss is still unreported when the next IDR comes, which is intact, and
the thread drops it; the dependent unit behind it is dropped as well. -/
theorem suppressed_loss_drops_idr :
    ∃ s s' s'', Machine.run step firstPipeline suppressedLoss = some s ∧
      s.IntactIdr (nalUnit 0x65 1) ∧ s.thread.client.stopping = false ∧
      s.thread.client.flow.avcAdmit 18 true 7 0 = .send ∧
      s.step (.rtp (nalUnit 0x65 1) true (some 18)) = some s' ∧
      s'.step (.rtp (nalUnit 0x41 1) true none) = some s'' ∧
      s.thread.history.map Handled.submitted = [false, false, true] ∧
      s''.thread.history.map Handled.submitted = [false, false, true, false, false] ∧
      ¬ s.Submits (nalUnit 0x65 1) true (some 18) [] [] 7 := by
  obtain ⟨s, s', s'', hrun, hreads, hreading, hready, hstopping, hsend, hstep, hstep', hbefore, hafter,
      hnone⟩ :
      ∃ s s' s'', Machine.run step firstPipeline suppressedLoss = some s ∧
        s.run.reads = [(nalUnit 0x67 0).toReturned, (nalUnit 0x68 0).toReturned,
          (nalUnit 0x65 0).toReturned, (nalUnit 0x41 1).toReturned] ∧
        s.thread.pc = .reading ∧ s.thread.client.gfxReady = true ∧
        s.thread.client.stopping = false ∧ s.thread.client.flow.avcAdmit 18 true 7 0 = .send ∧
        s.step (.rtp (nalUnit 0x65 1) true (some 18)) = some s' ∧
        s'.step (.rtp (nalUnit 0x41 1) true none) = some s'' ∧
        s.thread.history.map Handled.submitted = [false, false, true] ∧
        s''.thread.history.map Handled.submitted = [false, false, true, false, false] ∧
        Machine.run step s (submission (nalUnit 0x65 1) true (some 18) [] [] 7) = none :=
    ⟨_, _, _, rfl, rfl, rfl, rfl, rfl, rfl, rfl, rfl, rfl, rfl, rfl⟩
  have hintact : s.IntactIdr (nalUnit 0x65 1) :=
    intactIdr_nalUnit hreading hready hreads (by rw [hreads]; rfl)
  refine ⟨s, s', s'', hrun, hintact, hstopping, hsend, hstep, hstep', hbefore, hafter, ?_⟩
  rintro ⟨t, taken, hsubmitted, -⟩
  rw [hnone] at hsubmitted
  cases hsubmitted

end GfxPipeline

end NanokvmRdp.Gateway
