import NanokvmRdp.Hid.DeviceLaws

/-!
# The order of reports

A run of `queue_report` and `flush_reports` calls, next to a ledger of the
reports that were passed. The reports written followed by the reports pending
are the ledger without its superseded entries, whatever the kernel answers
and wherever the ring stands.
-/

namespace NanokvmRdp.Hid

open scoped List

/-- A call of the run. `paste_codepoint` stores the character for the clipboard
before it queues, which `expectPaste` does here. -/
inductive QueueCall where
  | queue (e : Endpoint) (payload : Payload) (motion : Bool) (delayMs : UInt16)
  | flush (q : QueueId)
  | expectPaste (codepoint : UInt32)

structure Accepted where
  entry : Entry
  superseded : Bool
  deriving DecidableEq, Repr

def supersedeLast (ledger : List Accepted) : List Accepted :=
  ledger.dropLast ++ (ledger.getLast?.map fun a => { a with superseded := true }).toList

/-- The reports that were not made obsolete. -/
def kept (ledger : List Accepted) : List Entry :=
  (ledger.filter fun a => !a.superseded).map Accepted.entry

structure QueueRun where
  hid : HidState
  ledger : QueueId → List Accepted
  ok : Bool

def QueueRun.start (hid : HidState) : QueueRun where
  hid := hid
  ledger := fun q => (hid.pending q).map fun entry => ⟨entry, false⟩
  ok := true

/-- The ledger after a report was passed: a report that overflows the queue is
not entered, and a motion report supersedes the last one if that one is still
pending, is motion too and differs in its position only. -/
def QueueRun.enter (run : QueueRun) (e : Endpoint) (payload : Payload) (motion : Bool) :
    List Accepted :=
  let entry : Entry := ⟨(e, payload.bytes), motion⟩
  let ledger := run.ledger e.queue
  if run.hid.refuses e payload motion then ledger
  else if (run.hid.pending e.queue).getLast?.any entry.replaces then
    supersedeLast ledger ++ [⟨entry, false⟩]
  else ledger ++ [⟨entry, false⟩]

def QueueRun.call (run : QueueRun) : QueueCall → QueueRun
  | .queue e payload motion delayMs =>
    match run.hid.queueReport e payload motion delayMs with
    | (ok, hid) =>
      { hid
        ledger := Function.update run.ledger e.queue (run.enter e payload motion)
        ok := run.ok && ok }
  | .flush q =>
    match run.hid.flushReports q with
    | (ok, hid) => { run with hid, ok := run.ok && ok }
  | .expectPaste codepoint =>
    { run with
      hid := run.hid.setInput { run.hid.input with keyboardPasteCodepoint := codepoint } }

def QueueRun.calls (run : QueueRun) (calls : List QueueCall) : QueueRun := calls.foldl call run

def passedTo (q : QueueId) (calls : List QueueCall) : List Entry :=
  calls.filterMap fun
    | .queue e payload motion _ => if e.queue = q then some ⟨(e, payload.bytes), motion⟩ else none
    | _ => none

/-- `send_absolute` alone passes motion, always with `absolute_report_length`
bytes. -/
def Entry.Sized (n : Nat) (entry : Entry) : Prop := entry.motion = true → entry.report.2.length = n

def QueueCall.Sized (n : Nat) : QueueCall → Prop
  | .queue _ payload motion _ => motion = true → payload.bytes.length = n
  | _ => True

-- ---------------------------------------------------------------------------
-- The ledger
-- ---------------------------------------------------------------------------

@[simp] theorem supersedeLast_concat (ledger : List Accepted) (a : Accepted) :
    supersedeLast (ledger ++ [a]) = ledger ++ [{ a with superseded := true }] := by
  simp [supersedeLast]

@[simp] theorem map_entry_supersedeLast (ledger : List Accepted) :
    (supersedeLast ledger).map Accepted.entry = ledger.map Accepted.entry := by
  rcases List.eq_nil_or_concat ledger with rfl | ⟨ledger, a, rfl⟩
  · rfl
  · simp

@[simp] theorem kept_append (ledger ledger' : List Accepted) :
    kept (ledger ++ ledger') = kept ledger ++ kept ledger' := by simp [kept]

@[simp] theorem kept_nil : kept [] = [] := rfl

@[simp] theorem kept_cons_fresh (entry : Entry) (ledger : List Accepted) :
    kept (⟨entry, false⟩ :: ledger) = entry :: kept ledger := rfl

@[simp] theorem kept_fresh (entries : List Entry) :
    kept (entries.map fun entry => ⟨entry, false⟩) = entries := by
  induction entries with
  | nil => rfl
  | cons entry entries ih => simp [ih]

/-- The state of one queue against its ledger: after the reports that were
written before the run come those of the ledger, first the written ones. -/
structure Tracks (base : List Report) (n : Nat) (hid : HidState) (q : QueueId)
    (ledger : List Accepted) : Prop where
  written : ∃ front, hid.submitted q = base ++ front.map Entry.report ∧
    front ++ hid.pending q = kept ledger
  superseded : ∀ a ∈ ledger, a.superseded = true → a.entry.motion = true
  last : ∀ a ∈ ledger.getLast?, a.superseded = false
  sized : ∀ entry ∈ hid.pending q, entry.Sized n

theorem Tracks.log (h : Tracks base n hid q ledger) :
    hid.log q = base ++ (kept ledger).map Entry.report := by
  obtain ⟨front, hsubmitted, hkept⟩ := h.written
  rw [HidState.log, hsubmitted, ← hkept, List.map_append, List.append_assoc]

theorem Tracks.flushed (h : Tracks base n hid q ledger) (hf : hid.Flushed hid') :
    Tracks base n hid' q ledger := by
  obtain ⟨front, hsubmitted, hkept⟩ := h.written
  obtain ⟨front', hpending, hsubmitted'⟩ := hf.written q
  refine ⟨⟨front ++ front', ?_, ?_⟩, h.superseded, h.last, fun entry hentry => ?_⟩
  · rw [hsubmitted', hsubmitted, List.map_append, List.append_assoc]
  · rw [List.append_assoc, ← hpending, hkept]
  · exact h.sized entry (hpending ▸ List.mem_append_right _ hentry)

theorem Tracks.pends_of_ne (h : Tracks base n hid q ledger) (hp : hid.Pends q' entries hid')
    (hq : q ≠ q') : Tracks base n hid' q ledger := by
  refine ⟨?_, h.superseded, h.last, ?_⟩
  · rw [hp.submitted, hp.other q hq]
    exact h.written
  · rw [hp.other q hq]
    exact h.sized

theorem Tracks.append (h : Tracks base n hid q ledger)
    (hp : hid.Pends q (hid.pending q ++ [entry]) hid') (hsized : entry.Sized n) :
    Tracks base n hid' q (ledger ++ [⟨entry, false⟩]) := by
  obtain ⟨front, hsubmitted, hkept⟩ := h.written
  refine ⟨⟨front, ?_, ?_⟩, ?_, ?_, ?_⟩
  · rw [hp.submitted, hsubmitted]
  · simp [hp.pending, ← List.append_assoc, hkept]
  · intro a ha hsuperseded
    rcases List.mem_append.mp ha with ha | ha
    · exact h.superseded a ha hsuperseded
    · rw [List.mem_singleton.mp ha] at hsuperseded
      cases hsuperseded
  · intro a ha
    rw [List.getLast?_concat] at ha
    cases ha
    rfl
  · intro entry' hentry'
    rw [hp.pending] at hentry'
    rcases List.mem_append.mp hentry' with hold | hnew
    · exact h.sized entry' hold
    · rw [List.mem_singleton.mp hnew]
      exact hsized

/-- A report that overwrites the last pending one supersedes the last one of the
ledger: they are the same report. -/
theorem Tracks.overwrite (h : Tracks base n hid q ledger)
    (hpending : hid.pending q = front ++ [old]) (hmotion : old.motion = true)
    (hp : hid.Pends q (front ++ [entry]) hid') (hsized : entry.Sized n) :
    Tracks base n hid' q (supersedeLast ledger ++ [⟨entry, false⟩]) := by
  obtain ⟨written, hsubmitted, hkept⟩ := h.written
  rw [hpending, ← List.append_assoc] at hkept
  obtain ⟨ledger, a, rfl⟩ : ∃ ledger' a, ledger = ledger' ++ [a] := by
    rcases List.eq_nil_or_concat ledger with rfl | h
    · simp at hkept
    · simpa using h
  obtain ⟨last, superseded⟩ := a
  obtain rfl : superseded = false := h.last _ (List.getLast?_concat ..)
  rw [kept_append, kept_cons_fresh, kept_nil] at hkept
  obtain ⟨hfront, rfl⟩ : written ++ front = kept ledger ∧ old = last := by
    simpa using List.append_inj' hkept rfl
  refine ⟨⟨written, ?_, ?_⟩, ?_, ?_, ?_⟩
  · rw [hp.submitted, hsubmitted]
  · rw [hp.pending, ← List.append_assoc, hfront, supersedeLast_concat, List.append_assoc, kept_append]
    rfl
  · intro a ha hsuperseded
    simp only [supersedeLast_concat, List.append_assoc, List.mem_append, List.mem_cons,
      List.not_mem_nil, or_false] at ha
    rcases ha with ha | rfl | rfl
    · exact h.superseded a (List.mem_append_left _ ha) hsuperseded
    · exact hmotion
    · cases hsuperseded
  · intro a ha
    rw [List.getLast?_concat] at ha
    cases ha
    rfl
  · intro entry' hentry'
    rw [hp.pending] at hentry'
    rcases List.mem_append.mp hentry' with hold | hnew
    · exact h.sized entry' (hpending ▸ List.mem_append_left _ hold)
    · rw [List.mem_singleton.mp hnew]
      exact hsized

-- ---------------------------------------------------------------------------
-- Runs
-- ---------------------------------------------------------------------------

def QueueRun.Tracked (base : QueueId → List Report) (n : Nat) (run : QueueRun) : Prop :=
  ∀ q, Tracks (base q) n run.hid q (run.ledger q)

theorem QueueRun.start_tracked (hid : HidState)
    (h : ∀ q, ∀ entry ∈ hid.pending q, entry.Sized n)
    (hbase : ∀ q, hid.submitted q = base q) : (start hid).Tracked base n := by
  intro q
  refine ⟨⟨[], ?_, ?_⟩, ?_, ?_, h q⟩
  · simp [start, hbase]
  · simp [start]
  · intro a ha hsuperseded
    obtain ⟨entry, -, rfl⟩ := List.mem_map.mp ha
    cases hsuperseded
  · intro a ha
    obtain ⟨entry, -, rfl⟩ := List.mem_map.mp (List.mem_of_getLast? ha)
    rfl

theorem QueueRun.enter_tracks (run : QueueRun) (e : Endpoint) (payload : Payload) (motion : Bool)
    (h : Tracks base n run.hid e.queue (run.ledger e.queue))
    (hsized : motion = true → payload.bytes.length = n)
    (hqueued : run.hid.Queued e payload motion result) :
    Tracks base n result.2 e.queue (run.enter e payload motion) := by
  have hentry : (Entry.mk (e, payload.bytes) motion).Sized n := hsized
  simp only [enter, ← HidState.coalesces_eq]
  cases hqueued with
  | coalesced front old bytes hcoalesces hpending hreplaces hpends _ hbytes hflushed =>
    simp only [Entry.replaces, Bool.and_eq_true] at hreplaces
    obtain ⟨⟨⟨hmotion, hold⟩, -⟩, -⟩ := hreplaces
    obtain rfl : bytes = payload.bytes :=
      hbytes ((h.sized old (by simp [hpending]) hold).trans (hsized hmotion).symm)
    subst hmotion
    simp only [HidState.refuses, hcoalesces, Bool.not_true, Bool.false_and, Bool.false_eq_true,
      if_false, if_true]
    exact (h.overwrite hpending hold hpends hentry).flushed hflushed
  | appended hcoalesces hrefuses hroom hpends hflushed =>
    simp only [hrefuses, hcoalesces, Bool.false_eq_true, if_false]
    exact ((h.flushed hroom).append hpends hentry).flushed hflushed
  | refused hrefuses _ hflushed =>
    simp only [hrefuses, if_true]
    exact h.flushed hflushed

theorem Tracks.queued_of_ne (h : Tracks base n hid q ledger)
    (hqueued : hid.Queued e payload motion result) (hq : q ≠ e.queue) :
    Tracks base n result.2 q ledger := by
  cases hqueued with
  | coalesced _ _ _ _ _ _ hpends _ _ hflushed => exact (h.pends_of_ne hpends hq).flushed hflushed
  | appended _ _ hroom hpends hflushed =>
    exact ((h.flushed hroom).pends_of_ne hpends hq).flushed hflushed
  | refused _ _ hflushed => exact h.flushed hflushed

theorem QueueRun.call_tracked (run : QueueRun) (call : QueueCall) (h : run.Tracked base n)
    (hsized : call.Sized n) : (run.call call).Tracked base n := by
  intro q
  cases call with
  | queue e payload motion delayMs =>
    have hqueued := HidState.queueReport_queued run.hid e payload motion delayMs
    simp only [QueueRun.call]
    by_cases hq : q = e.queue
    · subst hq
      rw [Function.update_self]
      exact run.enter_tracks e payload motion (h _) hsized hqueued
    · rw [Function.update_of_ne hq]
      exact (h q).queued_of_ne hqueued hq
  | flush q' => exact (h q).flushed (HidState.flushReports_flushed run.hid q')
  | expectPaste codepoint => exact ⟨(h q).written, (h q).superseded, (h q).last, (h q).sized⟩

theorem QueueRun.calls_tracked (run : QueueRun) (calls : List QueueCall) (h : run.Tracked base n)
    (hsized : ∀ call ∈ calls, call.Sized n) : (run.calls calls).Tracked base n := by
  induction calls generalizing run with
  | nil => exact h
  | cons call calls ih =>
    have hfirst := run.call_tracked call h (hsized call (by simp))
    exact ih (run.call call) hfirst fun call' hmem => hsized call' (List.mem_cons_of_mem _ hmem)

-- ---------------------------------------------------------------------------
-- Which reports the ledger holds
-- ---------------------------------------------------------------------------

theorem QueueRun.start_entries (hid : HidState) (q : QueueId) :
    ((start hid).ledger q).map Accepted.entry = hid.pending q := by
  simp [start, Function.comp_def]

theorem passedTo_cons (q : QueueId) (call : QueueCall) (calls : List QueueCall) :
    passedTo q (call :: calls) = passedTo q [call] ++ passedTo q calls := by
  simp only [passedTo, ← List.filterMap_append, List.singleton_append]

theorem QueueRun.call_entries (run : QueueRun) (call : QueueCall) (q : QueueId) :
    ((run.call call).ledger q).map Accepted.entry =
        (run.ledger q).map Accepted.entry ++ passedTo q [call] ∨
      (run.call call).ok = false ∧
        ((run.call call).ledger q).map Accepted.entry = (run.ledger q).map Accepted.entry := by
  cases call with
  | queue e payload motion delayMs =>
    by_cases hq : q = e.queue
    · subst hq
      simp only [QueueRun.call, Function.update_self, enter, passedTo]
      split
      · rename_i hrefuses
        exact .inr ⟨by simp [HidState.queueReport_refuses hrefuses], rfl⟩
      · refine .inl ?_
        split <;> simp
    · refine .inl ?_
      simp [QueueRun.call, Function.update_of_ne hq, passedTo, Ne.symm hq]
  | flush q' => exact .inl (by simp [QueueRun.call, passedTo])
  | expectPaste codepoint => exact .inl (by simp [QueueRun.call, passedTo])

theorem QueueRun.ok_of_call (run : QueueRun) (call : QueueCall) (h : (run.call call).ok = true) :
    run.ok = true := by
  cases call with
  | queue e payload motion delayMs => exact (Bool.and_eq_true _ _ ▸ h).1
  | flush q => exact (Bool.and_eq_true _ _ ▸ h).1
  | expectPaste codepoint => exact h

theorem QueueRun.ok_of_calls (run : QueueRun) (calls : List QueueCall)
    (h : (run.calls calls).ok = true) : run.ok = true := by
  induction calls generalizing run with
  | nil => exact h
  | cons call calls ih => exact run.ok_of_call call (ih (run.call call) h)

theorem QueueRun.calls_entries (run : QueueRun) (calls : List QueueCall) (q : QueueId)
    (h : (run.calls calls).ok = true) :
    ((run.calls calls).ledger q).map Accepted.entry =
      (run.ledger q).map Accepted.entry ++ passedTo q calls := by
  induction calls generalizing run with
  | nil => simp [QueueRun.calls, passedTo]
  | cons call calls ih =>
    rcases run.call_entries call q with hentries | ⟨hfailed, -⟩
    · rw [passedTo_cons, ← List.append_assoc, ← hentries]
      exact ih (run.call call) h
    · rw [(run.call call).ok_of_calls calls h] at hfailed
      cases hfailed

/-- Whether or not calls fail, the ledger has no report from elsewhere. -/
theorem QueueRun.calls_entries_sublist (run : QueueRun) (calls : List QueueCall) (q : QueueId) :
    ((run.calls calls).ledger q).map Accepted.entry <+
      (run.ledger q).map Accepted.entry ++ passedTo q calls := by
  induction calls generalizing run with
  | nil => simp [QueueRun.calls, passedTo]
  | cons call calls ih =>
    refine (ih (run.call call)).trans ?_
    rw [passedTo_cons, ← List.append_assoc]
    refine List.Sublist.append ?_ (List.Sublist.refl _)
    rcases run.call_entries call q with hentries | ⟨-, hentries⟩
    · rw [hentries]
    · rw [hentries]
      exact List.sublist_append_left _ _

theorem kept_sublist (ledger : List Accepted) : kept ledger <+ ledger.map Accepted.entry :=
  List.Sublist.map _ List.filter_sublist

/-- From a state whose log is `base ++ first`, the reports written after `base`
are of `first` or are passed later. -/
theorem submitted_prefix_of_log (hid : HidState) (calls : List QueueCall)
    (hpending : ∀ q, ∀ entry ∈ hid.pending q, entry.Sized n)
    (hsized : ∀ call ∈ calls, call.Sized n) (hsubmitted : base <+: hid.submitted q)
    (hlog : hid.log q = base ++ first) :
    ∃ later, later <+ first ++ (passedTo q calls).map Entry.report ∧
      ((QueueRun.start hid).calls calls).hid.submitted q <+: base ++ later := by
  have htracked := (QueueRun.start hid).calls_tracked calls
    (QueueRun.start_tracked _ hpending fun _ => rfl) hsized q
  have hkept := (kept_sublist _).trans ((QueueRun.start hid).calls_entries_sublist calls q)
  rw [QueueRun.start_entries] at hkept
  obtain ⟨written, hwritten⟩ := hsubmitted
  have hfirst : written ++ (hid.pending q).map Entry.report = first := by
    rw [HidState.log, ← hwritten, List.append_assoc] at hlog
    exact List.append_cancel_left hlog
  refine ⟨written ++ (kept (((QueueRun.start hid).calls calls).ledger q)).map Entry.report, ?_, ?_⟩
  · rw [← hfirst, List.append_assoc, ← List.map_append]
    exact List.Sublist.append (List.Sublist.refl _) (List.Sublist.map _ hkept)
  · rw [← List.append_assoc, hwritten, ← htracked.log]
    exact List.prefix_append _ _

theorem sized_of_hidReleaseAll (hid : HidState) (n : Nat) :
    ∀ q, ∀ entry ∈ hid.hidReleaseAll.pending q, entry.Sized n := by
  intro q entry hmem hmotion
  rw [HidState.not_motion_of_hidReleaseAll hmem] at hmotion
  cases hmotion

/-- The contract of the queues, for any state of the rings and any kernel. As
long as no call fails, the log is the ledger without its superseded reports,
the ledger is what was passed, and only motion is superseded; a synchronize
cancels nothing; after a release nothing older is written. -/
theorem reports_in_order_exactly_once (hid : HidState) (calls : List QueueCall) (n : Nat)
    (hpending : ∀ q, ∀ entry ∈ hid.pending q, entry.Sized n)
    (hsized : ∀ call ∈ calls, call.Sized n) (q : QueueId) :
    (((QueueRun.start hid).calls calls).ok = true →
      ((QueueRun.start hid).calls calls).hid.log q =
          hid.submitted q ++ (kept (((QueueRun.start hid).calls calls).ledger q)).map Entry.report ∧
        (((QueueRun.start hid).calls calls).ledger q).map Accepted.entry =
          hid.pending q ++ passedTo q calls ∧
        ∀ a ∈ ((QueueRun.start hid).calls calls).ledger q,
          a.superseded = true → a.entry.motion = true) ∧
      hid.log q <+: hid.hidSynchronize.2.log q ∧
      ∃ later, later <+ HidState.neutralReports hid.input q ++ (passedTo q calls).map Entry.report ∧
        ((QueueRun.start hid.hidReleaseAll).calls calls).hid.submitted q <+:
          hid.submitted q ++ later := by
  have htracked := (QueueRun.start hid).calls_tracked calls
    (QueueRun.start_tracked _ hpending fun _ => rfl) hsized q
  refine ⟨fun hok => ⟨htracked.log, ?_, htracked.superseded⟩, hid.hidSynchronize_log_grows q,
    submitted_prefix_of_log hid.hidReleaseAll calls (sized_of_hidReleaseAll hid n) hsized
      (hid.clearQueues.hidSynchronize_submitted_grows q) (hid.hidReleaseAll_log q)⟩
  rw [(QueueRun.start hid).calls_entries calls q hok, QueueRun.start_entries]

theorem blocked_motion_superseded :
    let hid := hidInit {} fun _ => { wrote := .again }
    let calls : List QueueCall := [
      .queue .touch ⟨[0, 1, 0, 1, 0, 0], by decide, by decide⟩ true 0,
      .queue .touch ⟨[0, 2, 0, 2, 0, 0], by decide, by decide⟩ true 0,
      .queue .mouse ⟨[1, 0, 0, 0], by decide, by decide⟩ false 0]
    ((QueueRun.start hid).calls calls).hid.log .pointer =
      [(.touch, [0, 2, 0, 2, 0, 0]), (.mouse, [1, 0, 0, 0])] := by
  intro hid calls
  have hpending : ∀ q, ∀ entry ∈ hid.pending q, entry.Sized 6 := fun q entry hmem =>
    absurd (show entry ∈ [] from hmem) List.not_mem_nil
  have hsized : ∀ call ∈ calls, call.Sized 6 := by
    simp [calls, QueueCall.Sized]
  have hok : ((QueueRun.start hid).calls calls).ok = true := by decide +kernel
  refine ((reports_in_order_exactly_once hid calls 6 hpending hsized .pointer).1 hok).1.trans ?_
  decide +kernel

end NanokvmRdp.Hid
