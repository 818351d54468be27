import Mathlib.Data.List.Induction
import NanokvmRdp.Gateway.H264
import NanokvmRdp.Lib.Log
import NanokvmRdp.Rtp.Client

/-!
# The video source

`VideoSource` reads access units from the RTP client and suppresses dependent
units after a loss. One turn of the loop in `video_source_read` takes one unit;
the history of an epoch has every unit that was read, with what the caller got
for it.
-/

namespace NanokvmRdp.Gateway

open Rtp (Returned)

structure VideoSource where
  requestsIdr : Bool := false
  epoch : UInt64 := 0
  observedLosses : UInt32 := 0
  awaitingIdr : Bool := false
  haveSps : Bool := false
  havePps : Bool := false
  pendingPacketLoss : Bool := false
  pendingIdrRequested : Bool := false
  opened : Bool := false
  deriving DecidableEq, Repr

/-- One call of `rtp_ops->read`, without a unit when it fails. `requested` is
what `request_idr` answers if this read leads to a call of it. -/
structure RtpRead where
  unit : Option Returned
  requested : Bool := false
  deriving DecidableEq, Repr

namespace VideoSource

structure AccessUnit extends Returned where
  nalTypes : UInt32
  epoch : UInt64
  packetLoss : Bool
  idrRequested : Bool
  deriving DecidableEq, Repr

def videoSourceRequestIdr (source : VideoSource) (answer : Bool) : Bool :=
  source.opened && source.requestsIdr && answer

def videoSourceOpen (source : VideoSource) (rtpOpened : Bool) : Bool × VideoSource :=
  if source.opened || !rtpOpened then (false, source)
  else
    (true, { source with
      opened := true
      observedLosses := 0
      awaitingIdr := true
      haveSps := false
      havePps := false
      pendingPacketLoss := false
      pendingIdrRequested := false
      epoch := if source.epoch + 1 = 0 then 1 else source.epoch + 1 })

def videoSourceClose (source : VideoSource) : VideoSource :=
  if source.opened then
    { source with
      opened := false
      observedLosses := 0
      awaitingIdr := false
      haveSps := false
      havePps := false
      pendingPacketLoss := false
      pendingIdrRequested := false }
  else source

def noteLosses (source : VideoSource) (losses : UInt32) (requested : Bool) : VideoSource :=
  let source :=
    if losses != source.observedLosses then
      { source with
        pendingPacketLoss := true
        awaitingIdr := true
        pendingIdrRequested := source.videoSourceRequestIdr requested || source.pendingIdrRequested }
    else source
  { source with observedLosses := losses }

/-- SPS and PPS are remembered, and an IDR with both ends the wait. -/
def noteNalTypes (source : VideoSource) (nalTypes : UInt32) : VideoSource :=
  let haveSps := source.haveSps || nalTypeBit nalTypes 7
  let havePps := source.havePps || nalTypeBit nalTypes 8
  { source with
    haveSps
    havePps
    awaitingIdr := if nalTypeBit nalTypes 5 && haveSps && havePps then false else source.awaitingIdr }

/-- The pending flags go out with a unit. -/
def reported (source : VideoSource) : VideoSource :=
  { source with pendingPacketLoss := false, pendingIdrRequested := false }

/-- One turn of the loop in `video_source_read` after a successful read. -/
def turn (source : VideoSource) (unit : Returned) (requested : Bool) :
    Option AccessUnit × VideoSource :=
  let nalTypes := h264NalTypeMask unit.data
  let source := (source.noteLosses unit.losses requested).noteNalTypes nalTypes
  if !source.awaitingIdr || nalTypeBit nalTypes 7 || nalTypeBit nalTypes 8 then
    (some { unit with
      nalTypes
      epoch := source.epoch
      packetLoss := source.pendingPacketLoss
      idrRequested := source.pendingIdrRequested },
      source.reported)
  else (none, source)

inductive ReadResult where
  | unit (unit : AccessUnit)
  | failed
  | waiting
  deriving DecidableEq, Repr

def readLoop : VideoSource → List RtpRead → ReadResult × VideoSource × List RtpRead
  | source, [] => (.waiting, source, [])
  | source, ⟨none, _⟩ :: reads => (.failed, source, reads)
  | source, ⟨some unit, requested⟩ :: reads =>
    match source.turn unit requested with
    | (some unit, source) => (.unit unit, source, reads)
    | (none, source) => readLoop source reads

def videoSourceRead (source : VideoSource) (reads : List RtpRead) :
    ReadResult × VideoSource × List RtpRead :=
  if source.opened then source.readLoop reads else (.failed, source, reads)

def readCalls : Nat → VideoSource → List RtpRead → List AccessUnit
  | 0, _, _ => []
  | fuel + 1, source, reads =>
    match source.videoSourceRead reads with
    | (.unit unit, source, rest) => unit :: readCalls fuel source rest
    | (.failed, source, rest) => readCalls fuel source rest
    | (.waiting, _, _) => []

end VideoSource

-- ---------------------------------------------------------------------------
-- The history of an epoch
-- ---------------------------------------------------------------------------

structure SourceRead where
  read : Returned
  returned : Option VideoSource.AccessUnit
  deriving DecidableEq, Repr

structure SourceRun where
  source : VideoSource
  history : List SourceRead := []
  deriving DecidableEq, Repr

namespace SourceRun

def reads (s : SourceRun) : List Returned := s.history.map SourceRead.read

def returned (s : SourceRun) : List VideoSource.AccessUnit := s.history.filterMap SourceRead.returned

def take (s : SourceRun) (unit : Returned) (requested : Bool) : SourceRun :=
  let (returned, source) := s.source.turn unit requested
  { source, history := s.history ++ [⟨unit, returned⟩] }

def readAll : SourceRun → List RtpRead → SourceRun
  | s, [] => s
  | s, ⟨none, _⟩ :: reads => readAll s reads
  | s, ⟨some unit, requested⟩ :: reads => readAll (s.take unit requested) reads

end SourceRun

def lastLosses : UInt32 → List Returned → UInt32
  | losses, [] => losses
  | _, read :: reads => lastLosses read.losses reads

def LossesChange : UInt32 → List Returned → Prop
  | _, [] => False
  | losses, read :: reads => read.losses ≠ losses ∨ LossesChange read.losses reads

def AnyNal (reads : List Returned) (type : UInt8) : Prop := ∃ read ∈ reads, HasNal read.data type

/-- An IDR that followed SPS and PPS, and no change of the counter behind it. -/
def Resynced (reads : List Returned) : Prop :=
  ∃ front idr back, reads = front ++ idr :: back ∧ HasNal idr.data 5 ∧
    AnyNal (front ++ [idr]) 7 ∧ AnyNal (front ++ [idr]) 8 ∧ ¬ LossesChange idr.losses back

/-- `skipped` is what was read since the last unit that was returned, if any. -/
structure Since (history earlier skipped : List SourceRead) : Prop where
  split : history = earlier ++ skipped
  suppressed : ∀ entry ∈ skipped, entry.returned = none
  ends : earlier = [] ∨ ∃ front entry, earlier = front ++ [entry] ∧ entry.returned.isSome = true

structure Delivered (before : List SourceRead) (entry : SourceRead) (unit : VideoSource.AccessUnit) :
    Prop where
  unmodified : unit.toReturned = entry.read
  resynced : ¬ HasNal unit.data 7 → ¬ HasNal unit.data 8 →
    Resynced (before.map SourceRead.read ++ [entry.read])
  loss : ∀ earlier skipped, Since before earlier skipped → (unit.packetLoss = true ↔
    LossesChange (lastLosses 0 (earlier.map SourceRead.read))
      (skipped.map SourceRead.read ++ [entry.read]))

theorem lastLosses_append (losses : UInt32) (reads more : List Returned) :
    lastLosses losses (reads ++ more) = lastLosses (lastLosses losses reads) more := by
  induction reads generalizing losses with
  | nil => rfl
  | cons read reads ih => exact ih read.losses

theorem lossesChange_concat (losses : UInt32) (reads : List Returned) (read : Returned) :
    LossesChange losses (reads ++ [read]) ↔
      LossesChange losses reads ∨ read.losses ≠ lastLosses losses reads := by
  induction reads generalizing losses with
  | nil => simp [LossesChange, lastLosses]
  | cons first reads ih => simp [LossesChange, lastLosses, ih, or_assoc]

theorem anyNal_concat (reads : List Returned) (read : Returned) (type : UInt8) :
    AnyNal (reads ++ [read]) type ↔ AnyNal reads type ∨ HasNal read.data type := by
  simp [AnyNal, or_and_right, exists_or]

theorem resynced_concat (reads : List Returned) (read : Returned) :
    Resynced (reads ++ [read]) ↔
      (HasNal read.data 5 ∧ AnyNal (reads ++ [read]) 7 ∧ AnyNal (reads ++ [read]) 8) ∨
        (Resynced reads ∧ read.losses = lastLosses 0 reads) := by
  constructor
  · rintro ⟨front, idr, back, hsplit, hidr, hsps, hpps, hback⟩
    rcases List.eq_nil_or_concat back with rfl | ⟨back, last, rfl⟩
    · obtain ⟨rfl, hlast⟩ := List.append_inj' hsplit rfl
      obtain rfl := List.singleton_inj.mp hlast
      exact .inl ⟨hidr, hsps, hpps⟩
    · have hsplit : reads ++ [read] = (front ++ idr :: back) ++ [last] := by simpa using hsplit
      obtain ⟨rfl, hlast⟩ := List.append_inj' hsplit rfl
      obtain rfl := List.singleton_inj.mp hlast
      rw [List.concat_eq_append, lossesChange_concat, not_or, not_ne_iff] at hback
      refine .inr ⟨⟨front, idr, back, rfl, hidr, hsps, hpps, hback.1⟩, ?_⟩
      rw [lastLosses_append]
      exact hback.2
  · rintro (⟨hidr, hsps, hpps⟩ | ⟨⟨front, idr, back, rfl, hidr, hsps, hpps, hback⟩, hlosses⟩)
    · exact ⟨reads, read, [], rfl, hidr, hsps, hpps, fun h => h⟩
    · refine ⟨front, idr, back ++ [read], by simp, hidr, hsps, hpps, ?_⟩
      rw [lastLosses_append, lastLosses] at hlosses
      rw [lossesChange_concat]
      simp [hback, hlosses]

theorem exists_since (history : List SourceRead) :
    ∃ earlier skipped, Since history earlier skipped := by
  induction history using List.reverseRecOn with
  | nil => exact ⟨[], [], rfl, by simp, .inl rfl⟩
  | append_singleton history entry ih =>
    cases hreturned : entry.returned with
    | some unit =>
      refine ⟨history ++ [entry], [], by simp, by simp, .inr ⟨history, entry, rfl, ?_⟩⟩
      simp [hreturned]
    | none =>
      obtain ⟨earlier, skipped, hsplit, hsuppressed, hends⟩ := ih
      refine ⟨earlier, skipped ++ [entry], by simp [hsplit], ?_, hends⟩
      intro e he
      rcases List.mem_append.mp he with he | he
      · exact hsuppressed e he
      · rw [List.mem_singleton.mp he, hreturned]

theorem Since.of_returned (h : Since (history ++ [entry]) earlier skipped)
    (hreturned : entry.returned = some unit) : skipped = [] := by
  rcases List.eq_nil_or_concat skipped with hnil | ⟨front, last, rfl⟩
  · exact hnil
  · have hlast : entry = last := by
      have hsplit := h.split
      rw [List.concat_eq_append, ← List.append_assoc] at hsplit
      exact (List.append_inj' hsplit rfl).2 |> List.singleton_inj.mp
    have hnone := h.suppressed last (by simp)
    rw [← hlast, hreturned] at hnone
    cases hnone

theorem Since.of_suppressed (h : Since (history ++ [entry]) earlier skipped)
    (hreturned : entry.returned = none) :
    ∃ front, skipped = front ++ [entry] ∧ Since history earlier front := by
  obtain ⟨hsplit, hsuppressed, hends⟩ := h
  rcases List.eq_nil_or_concat skipped with rfl | ⟨front, last, rfl⟩
  · rw [List.append_nil] at hsplit
    subst hsplit
    rcases hends with hnil | ⟨front, last, heq, hsome⟩
    · simp at hnil
    · have hlast : entry = last := List.singleton_inj.mp (List.append_inj' heq rfl).2
      rw [← hlast, hreturned] at hsome
      cases hsome
  · rw [List.concat_eq_append, ← List.append_assoc] at hsplit
    obtain ⟨hhistory, hlast⟩ := List.append_inj' hsplit rfl
    obtain rfl := List.singleton_inj.mp hlast
    refine ⟨front, List.concat_eq_append, hhistory, ?_, hends⟩
    intro e he
    exact hsuppressed e (by simp [he])

-- ---------------------------------------------------------------------------
-- One turn of the loop
-- ---------------------------------------------------------------------------

namespace VideoSource

/-- The state between the loss check and the decision to return the unit. -/
def noted (source : VideoSource) (unit : Returned) (requested : Bool) : VideoSource :=
  (source.noteLosses unit.losses requested).noteNalTypes (h264NalTypeMask unit.data)

theorem noted_fields (source : VideoSource) (unit : Returned) (requested : Bool) :
    let after := source.noted unit requested
    after.opened = source.opened ∧ after.observedLosses = unit.losses ∧
      (after.haveSps = true ↔ source.haveSps = true ∨ HasNal unit.data 7) ∧
      (after.havePps = true ↔ source.havePps = true ∨ HasNal unit.data 8) ∧
      (after.pendingPacketLoss = true ↔
        source.pendingPacketLoss = true ∨ unit.losses ≠ source.observedLosses) ∧
      (after.awaitingIdr = false ↔
        (HasNal unit.data 5 ∧ after.haveSps = true ∧ after.havePps = true) ∨
          (source.awaitingIdr = false ∧ unit.losses = source.observedLosses)) := by
  simp only [← nalTypeBit_h264NalTypeMask (show (5 : UInt8) < 32 by decide),
    ← nalTypeBit_h264NalTypeMask (show (7 : UInt8) < 32 by decide),
    ← nalTypeBit_h264NalTypeMask (show (8 : UInt8) < 32 by decide)]
  generalize hmask : h264NalTypeMask unit.data = mask
  have hwait : ∀ (idr sps pps waiting : Bool),
      (if idr && sps && pps then false else waiting) = false ↔
        (idr = true ∧ sps = true ∧ pps = true) ∨ waiting = false := by decide
  by_cases hlosses : unit.losses = source.observedLosses
  · simp only [noted, noteLosses, noteNalTypes, hlosses, hmask, hwait]
    simp
  · simp only [noted, noteLosses, noteNalTypes, hmask, hwait]
    simp [hlosses]

theorem turn_cases (source : VideoSource) (unit : Returned) (requested : Bool) :
    let after := source.noted unit requested
    (∃ returned : AccessUnit, source.turn unit requested = (some returned, after.reported) ∧
      returned.toReturned = unit ∧ returned.nalTypes = h264NalTypeMask unit.data ∧
      returned.packetLoss = after.pendingPacketLoss ∧
      (after.awaitingIdr = false ∨ HasNal unit.data 7 ∨ HasNal unit.data 8)) ∨
    (source.turn unit requested = (none, after) ∧ after.awaitingIdr = true ∧
      ¬ HasNal unit.data 7 ∧ ¬ HasNal unit.data 8) := by
  intro after
  have hturn : source.turn unit requested =
      if !after.awaitingIdr || nalTypeBit (h264NalTypeMask unit.data) 7 ||
          nalTypeBit (h264NalTypeMask unit.data) 8 then
        (some { unit with
          nalTypes := h264NalTypeMask unit.data
          epoch := after.epoch
          packetLoss := after.pendingPacketLoss
          idrRequested := after.pendingIdrRequested },
          after.reported)
      else (none, after) := rfl
  rw [hturn, ← nalTypeBit_h264NalTypeMask (show (7 : UInt8) < 32 by decide),
    ← nalTypeBit_h264NalTypeMask (show (8 : UInt8) < 32 by decide)]
  split
  · rename_i hreturns
    refine .inl ⟨_, rfl, rfl, rfl, rfl, ?_⟩
    simpa [or_assoc] using hreturns
  · rename_i hsuppressed
    refine .inr ⟨rfl, ?_⟩
    simpa [and_assoc] using hsuppressed

structure Remembers (source : VideoSource) (reads : List Returned) : Prop where
  opened : source.opened = true
  observed : source.observedLosses = lastLosses 0 reads
  sps : source.haveSps = true ↔ AnyNal reads 7
  pps : source.havePps = true ↔ AnyNal reads 8
  resynced : source.awaitingIdr = false ↔ Resynced reads

theorem Remembers.noted {source : VideoSource} (h : source.Remembers reads) (unit : Returned)
    (requested : Bool) :
    (source.noted unit requested).Remembers (reads ++ [unit]) := by
  obtain ⟨hopened, hobserved, hsps, hpps, -, hawaiting⟩ := source.noted_fields unit requested
  have hsps : (source.noted unit requested).haveSps = true ↔ AnyNal (reads ++ [unit]) 7 := by
    rw [hsps, h.sps, anyNal_concat]
  have hpps : (source.noted unit requested).havePps = true ↔ AnyNal (reads ++ [unit]) 8 := by
    rw [hpps, h.pps, anyNal_concat]
  refine ⟨hopened.trans h.opened, ?_, hsps, hpps, ?_⟩
  · rw [hobserved, lastLosses_append]
    rfl
  · rw [hawaiting, resynced_concat, ← h.resynced, ← h.observed]
    exact or_congr (and_congr_right fun _ => and_congr hsps hpps) Iff.rfl

theorem Remembers.reported {source : VideoSource} (h : source.Remembers reads) :
    source.reported.Remembers reads :=
  ⟨h.opened, h.observed, h.sps, h.pps, h.resynced⟩

end VideoSource

-- ---------------------------------------------------------------------------
-- A whole epoch
-- ---------------------------------------------------------------------------

namespace SourceRun

/-- A unit is suppressed exactly if it has no parameter set and the stream is
not resynchronised with it. -/
def SuppressedRightly (before : List SourceRead) (entry : SourceRead) : Prop :=
  entry.returned = none ↔ ¬ HasNal entry.read.data 7 ∧ ¬ HasNal entry.read.data 8 ∧
    ¬ Resynced (before.map SourceRead.read ++ [entry.read])

/-- `loss` says that the pending flag stands for the losses not yet reported. -/
structure Inv (s : SourceRun) : Prop where
  remembers : s.source.Remembers s.reads
  loss : ∀ earlier skipped, Since s.history earlier skipped → (s.source.pendingPacketLoss = true ↔
    LossesChange (lastLosses 0 (earlier.map SourceRead.read)) (skipped.map SourceRead.read))
  suppressed : Log.Always SuppressedRightly s.history
  delivered : Log.Always (fun before entry => ∀ unit, entry.returned = some unit →
    Delivered before entry unit) s.history

theorem Inv.noted_loss {s : SourceRun} (h : s.Inv) (unit : Returned) (requested : Bool)
    (hsince : Since s.history earlier skipped) :
    (s.source.noted unit requested).pendingPacketLoss = true ↔
      LossesChange (lastLosses 0 (earlier.map SourceRead.read))
        (skipped.map SourceRead.read ++ [unit]) := by
  obtain ⟨-, -, -, -, hpending, -⟩ := s.source.noted_fields unit requested
  have hreads : s.reads = earlier.map SourceRead.read ++ skipped.map SourceRead.read := by
    rw [reads, hsince.split, List.map_append]
  rw [hpending, h.loss earlier skipped hsince, lossesChange_concat, h.remembers.observed, hreads,
    lastLosses_append]

theorem Inv.returned {s : SourceRun} (h : s.Inv) {unit : Returned} {requested : Bool}
    {returned : VideoSource.AccessUnit} (hunit : returned.toReturned = unit)
    (hloss : returned.packetLoss = (s.source.noted unit requested).pendingPacketLoss)
    (hreturns : Resynced (s.reads ++ [unit]) ∨ HasNal unit.data 7 ∨ HasNal unit.data 8) :
    Inv ⟨(s.source.noted unit requested).reported, s.history ++ [⟨unit, some returned⟩]⟩ := by
  refine ⟨?_, ?_, ?_, ?_⟩
  · simpa [reads] using (h.remembers.noted unit requested).reported
  · intro earlier skipped hsince
    rw [hsince.of_returned rfl]
    simp [VideoSource.reported, LossesChange]
  · refine h.suppressed.concat (iff_of_false (by simp) ?_)
    rintro ⟨hsps, hpps, hwaits⟩
    rcases hreturns with hresynced | hset | hset
    · exact hwaits hresynced
    · exact hsps hset
    · exact hpps hset
  · refine h.delivered.concat fun delivered hdelivered => ?_
    obtain rfl := Option.some.inj hdelivered
    refine ⟨hunit, ?_, ?_⟩
    · intro hsps hpps
      rw [hunit] at hsps hpps
      rcases hreturns with hresynced | hset | hset
      · exact hresynced
      · exact absurd hset hsps
      · exact absurd hset hpps
    · intro earlier skipped hsince
      rw [hloss]
      exact h.noted_loss unit requested hsince

theorem Inv.skipped {s : SourceRun} (h : s.Inv) {unit : Returned} {requested : Bool}
    (hwaits : ¬ Resynced (s.reads ++ [unit])) (hsps : ¬ HasNal unit.data 7)
    (hpps : ¬ HasNal unit.data 8) :
    Inv ⟨s.source.noted unit requested, s.history ++ [⟨unit, none⟩]⟩ := by
  refine ⟨?_, ?_, ?_, ?_⟩
  · simpa [reads] using h.remembers.noted unit requested
  · intro earlier skipped hsince
    obtain ⟨front, rfl, hfront⟩ := hsince.of_suppressed rfl
    simpa using h.noted_loss unit requested hfront
  · exact h.suppressed.concat (iff_of_true rfl ⟨hsps, hpps, hwaits⟩)
  · refine h.delivered.concat fun delivered hdelivered => ?_
    cases hdelivered

theorem Inv.take {s : SourceRun} (h : s.Inv) (unit : Returned) (requested : Bool) :
    (s.take unit requested).Inv := by
  have hresynced := (h.remembers.noted unit requested).resynced
  rcases s.source.turn_cases unit requested with
    ⟨returned, hturn, hunit, -, hloss, hreturns⟩ | ⟨hturn, hawaiting, hsps, hpps⟩
  · rw [hresynced] at hreturns
    rw [SourceRun.take, hturn]
    exact h.returned hunit hloss hreturns
  · have hwaits : ¬ Resynced (s.reads ++ [unit]) := by
      rw [← hresynced, hawaiting]
      simp
    rw [SourceRun.take, hturn]
    exact h.skipped hwaits hsps hpps

theorem Inv.readAll {s : SourceRun} (h : s.Inv) (reads : List RtpRead) : (s.readAll reads).Inv := by
  fun_induction SourceRun.readAll s reads with
  | case1 => exact h
  | case2 s requested reads ih => exact ih h
  | case3 s unit requested reads ih => exact ih (h.take unit requested)

theorem inv_opened {source epoch : VideoSource}
    (hopen : source.videoSourceOpen rtpOpened = (true, epoch)) : Inv ⟨epoch, []⟩ := by
  unfold VideoSource.videoSourceOpen at hopen
  split at hopen
  · cases hopen
  · cases hopen
    refine ⟨⟨rfl, rfl, by simp [AnyNal, reads], by simp [AnyNal, reads], ?_⟩, ?_,
      Log.always_nil, Log.always_nil⟩
    · simp [Resynced, reads]
    · rintro earlier skipped ⟨hsplit, -, -⟩
      obtain ⟨rfl, rfl⟩ := List.append_eq_nil_iff.mp hsplit.symm
      simp [LossesChange]

theorem reads_readAll (s : SourceRun) (reads : List RtpRead) :
    (s.readAll reads).reads = s.reads ++ reads.filterMap RtpRead.unit := by
  fun_induction SourceRun.readAll s reads with
  | case1 => simp
  | case2 s requested reads ih => simp [ih]
  | case3 s unit requested reads ih =>
    rw [ih]
    simp [SourceRun.take, SourceRun.reads]

-- ---------------------------------------------------------------------------
-- The calls of a reader
-- ---------------------------------------------------------------------------

theorem returned_sublist {history : List SourceRead}
    (h : ∀ entry ∈ history, ∀ unit, entry.returned = some unit → unit.toReturned = entry.read) :
    ((history.filterMap SourceRead.returned).map VideoSource.AccessUnit.toReturned).Sublist
      (history.map SourceRead.read) := by
  induction history with
  | nil => exact .slnil
  | cons entry history ih =>
    have hrest := ih fun e he => h e (List.mem_cons_of_mem _ he)
    cases hreturned : entry.returned with
    | none =>
      rw [List.filterMap_cons_none hreturned]
      exact hrest.cons _
    | some unit =>
      rw [List.filterMap_cons_some hreturned, List.map_cons, List.map_cons,
        h entry List.mem_cons_self unit hreturned]
      exact hrest.cons_cons _

theorem returned_readAll (source : VideoSource) (history : List SourceRead) (reads : List RtpRead) :
    (SourceRun.readAll ⟨source, history⟩ reads).returned =
      history.filterMap SourceRead.returned ++ (SourceRun.readAll ⟨source, []⟩ reads).returned := by
  induction reads generalizing source history with
  | nil => simp [SourceRun.readAll, SourceRun.returned]
  | cons read reads ih =>
    obtain ⟨unit | unit, requested⟩ := read
    · exact ih source history
    · simp only [SourceRun.readAll, SourceRun.take]
      rw [ih, ih _ ([] ++ _), List.filterMap_append, List.append_assoc]
      rfl

end SourceRun

namespace VideoSource

theorem opened_turn (source : VideoSource) (unit : Returned) (requested : Bool) :
    (source.turn unit requested).2.opened = source.opened := by
  have hnoted := (source.noted_fields unit requested).1
  rcases source.turn_cases unit requested with ⟨returned, hturn, -⟩ | ⟨hturn, -⟩
  · rw [hturn]
    exact hnoted
  · rw [hturn]
    exact hnoted

theorem returned_readLoop (source : VideoSource) (reads : List RtpRead) :
    (SourceRun.readAll ⟨source, []⟩ reads).returned =
      match source.readLoop reads with
      | (.unit unit, source, rest) => unit :: (SourceRun.readAll ⟨source, []⟩ rest).returned
      | (.failed, source, rest) => (SourceRun.readAll ⟨source, []⟩ rest).returned
      | (.waiting, _, _) => [] := by
  fun_induction readLoop source reads with
  | case1 => rfl
  | case2 => rfl
  | case3 source unit requested reads returned after hturn =>
    simp only [SourceRun.readAll, SourceRun.take, hturn]
    rw [SourceRun.returned_readAll]
    rfl
  | case4 source unit requested reads after hturn ih =>
    simp only [SourceRun.readAll, SourceRun.take, hturn]
    rw [SourceRun.returned_readAll]
    exact ih

theorem readLoop_rest (source : VideoSource) (reads : List RtpRead) :
    (source.readLoop reads).2.1.opened = source.opened ∧
      ((source.readLoop reads).1 = .waiting ∨ (source.readLoop reads).2.2.length < reads.length) := by
  fun_induction readLoop source reads with
  | case1 => simp
  | case2 => simp
  | case3 source unit requested reads returned after hturn =>
    have hopened := source.opened_turn unit requested
    rw [hturn] at hopened
    exact ⟨hopened, .inr (by simp)⟩
  | case4 source unit requested reads after hturn ih =>
    have hopened := source.opened_turn unit requested
    rw [hturn] at hopened
    refine ⟨ih.1.trans hopened, ih.2.imp_right fun h => ?_⟩
    exact h.trans (by simp)

/-- The calls of a reader return the units of the history. -/
theorem readCalls_eq {source : VideoSource} (hopened : source.opened = true)
    (hfuel : reads.length < fuel) :
    source.readCalls fuel reads = (SourceRun.readAll ⟨source, []⟩ reads).returned := by
  induction fuel generalizing source reads with
  | zero => cases hfuel
  | succ fuel ih =>
    have hreturned := source.returned_readLoop reads
    obtain ⟨hsame, hrest⟩ := source.readLoop_rest reads
    rw [readCalls, videoSourceRead, if_pos hopened, hreturned]
    clear hreturned
    generalize source.readLoop reads = outcome at hsame hrest ⊢
    obtain ⟨result, after, rest⟩ := outcome
    cases result with
    | unit unit =>
      have hrest : rest.length < reads.length := by simpa using hrest
      simp only
      rw [ih (hsame.trans hopened) (by omega)]
    | failed =>
      have hrest : rest.length < reads.length := by simpa using hrest
      exact ih (hsame.trans hopened) (by omega)
    | waiting => rfl

/-- In an epoch, with every sequence of reads: dependent units are returned only
after an IDR with its parameter sets that no loss followed, a loss is reported
with the next returned unit and only there, and the units come unmodified and
in order. -/
theorem epoch_resynchronised {source epoch : VideoSource} {rtpOpened : Bool}
    (hopen : source.videoSourceOpen rtpOpened = (true, epoch)) (reads : List RtpRead) :
    let run := SourceRun.readAll ⟨epoch, []⟩ reads
    (∀ fuel, reads.length < fuel → epoch.readCalls fuel reads = run.returned) ∧
      run.reads = reads.filterMap RtpRead.unit ∧
      (run.returned.map AccessUnit.toReturned).Sublist run.reads ∧
      ∀ before entry after unit, run.history = before ++ entry :: after →
        entry.returned = some unit → Delivered before entry unit := by
  intro run
  have hstart := SourceRun.inv_opened hopen
  have hrun : run.Inv := hstart.readAll reads
  refine ⟨?_, ?_, ?_, ?_⟩
  · intro fuel hfuel
    exact readCalls_eq hstart.remembers.opened hfuel
  · simpa [SourceRun.reads] using SourceRun.reads_readAll ⟨epoch, []⟩ reads
  · refine SourceRun.returned_sublist fun entry hentry unit hreturned => ?_
    obtain ⟨before, after, hsplit⟩ := List.append_of_mem hentry
    exact (hrun.delivered before entry after hsplit unit hreturned).unmodified
  · intro before entry after unit hsplit hreturned
    exact hrun.delivered before entry after hsplit unit hreturned

def lossyReads : List RtpRead :=
  [⟨some ⟨[0, 0, 0, 1, 0x67, 0x64], 90000, 42, 0⟩, true⟩,
    ⟨some ⟨[0, 0, 0, 1, 0x68, 0xee], 92000, 42, 0⟩, true⟩,
    ⟨some ⟨[0, 0, 0, 1, 0x65, 0x88], 93000, 42, 0⟩, true⟩,
    ⟨some ⟨[0, 0, 0, 1, 0x41, 0x99], 94000, 42, 2⟩, true⟩,
    ⟨none, false⟩,
    ⟨some ⟨[0, 0, 0, 1, 0x67, 0x64, 0, 0, 0, 1, 0x68, 0xee, 0, 0, 0, 1, 0x65, 0x88], 95000, 42, 2⟩,
      true⟩]

def firstEpoch : VideoSource := (videoSourceOpen { requestsIdr := true } true).2

theorem lossyReads_resynchronised :
    videoSourceOpen { requestsIdr := true } true = (true, firstEpoch) ∧
    (firstEpoch.readCalls 7 lossyReads).map AccessUnit.packetLoss = [false, false, false, true] ∧
    let run := SourceRun.readAll ⟨firstEpoch, []⟩ lossyReads
    (∀ fuel, lossyReads.length < fuel → firstEpoch.readCalls fuel lossyReads = run.returned) ∧
      run.reads = lossyReads.filterMap RtpRead.unit ∧
      (run.returned.map AccessUnit.toReturned).Sublist run.reads ∧
      ∀ before entry after unit, run.history = before ++ entry :: after →
        entry.returned = some unit → Delivered before entry unit := by
  have hopen : videoSourceOpen { requestsIdr := true } true = (true, firstEpoch) := rfl
  exact ⟨hopen, by decide, epoch_resynchronised hopen lossyReads⟩

end VideoSource

end NanokvmRdp.Gateway
