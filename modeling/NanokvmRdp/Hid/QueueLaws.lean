import NanokvmRdp.Hid.Queue

/-!
# Laws of the report queues

A turn of `flush_reports` either ends the loop with no report written or
writes the oldest report. What callers need is said by `Flushed` and `Queued`,
in terms of the reports written so far and the reports still pending.
-/

namespace NanokvmRdp.Hid

abbrev Report := Endpoint × List UInt8

structure Entry where
  report : Report
  motion : Bool
  deriving DecidableEq, Repr

def UsbEvent.report? (q : QueueId) : UsbEvent → Option Report
  | .wrote (.endpoint e) bytes => if e.queue = q then some (e, bytes) else none
  | _ => none

def HidReport.entry (r : HidReport q) : Entry := ⟨(r.endpoint, r.bytes), r.motion⟩

namespace HidState

def submitted (hid : HidState) (q : QueueId) : List Report :=
  hid.usb.trace.filterMap (UsbEvent.report? q)

def pending (hid : HidState) (q : QueueId) : List Entry :=
  (hid.queues q).reports.toList.map HidReport.entry

/-- Submitted reports followed by pending reports. -/
def log (hid : HidState) (q : QueueId) : List Report :=
  hid.submitted q ++ (hid.pending q).map Entry.report

@[simp] theorem length_pending (hid : HidState) (q : QueueId) :
    (hid.pending q).length = hid.count q := by simp [pending, count]

structure Idle (hid hid' : HidState) : Prop where
  input : hid'.input = hid.input
  pending : ∀ q, hid'.pending q = hid.pending q
  submitted : ∀ q, hid'.submitted q = hid.submitted q

/-- From each queue some of the oldest reports were written, in order. -/
structure Flushed (hid hid' : HidState) : Prop where
  input : hid'.input = hid.input
  written : ∀ q, ∃ front, hid.pending q = front ++ hid'.pending q ∧
    hid'.submitted q = hid.submitted q ++ front.map Entry.report

structure Pends (hid : HidState) (q : QueueId) (entries : List Entry) (hid' : HidState) : Prop where
  input : hid'.input = hid.input
  pending : hid'.pending q = entries
  other : ∀ q', q' ≠ q → hid'.pending q' = hid.pending q'
  submitted : ∀ q', hid'.submitted q' = hid.submitted q'

theorem Idle.refl (hid : HidState) : Idle hid hid := ⟨rfl, fun _ => rfl, fun _ => rfl⟩

theorem Idle.trans (h : Idle a b) (h' : Idle b c) : Idle a c :=
  ⟨h'.input.trans h.input, fun q => (h'.pending q).trans (h.pending q),
    fun q => (h'.submitted q).trans (h.submitted q)⟩

theorem Idle.count (h : Idle hid hid') (q : QueueId) : hid'.count q = hid.count q := by
  rw [← length_pending, h.pending, length_pending]

theorem Idle.flushed (h : Idle hid hid') : Flushed hid hid' :=
  ⟨h.input, fun q => ⟨[], by simp [h.pending], by simp [h.submitted]⟩⟩

theorem Flushed.refl (hid : HidState) : Flushed hid hid := (Idle.refl hid).flushed

theorem Flushed.trans (h : Flushed a b) (h' : Flushed b c) : Flushed a c := by
  refine ⟨h'.input.trans h.input, fun q => ?_⟩
  obtain ⟨front, hpending, hsubmitted⟩ := h.written q
  obtain ⟨front', hpending', hsubmitted'⟩ := h'.written q
  exact ⟨front ++ front', by simp [hpending, hpending'], by simp [hsubmitted, hsubmitted']⟩

theorem Flushed.log (h : Flushed hid hid') (q : QueueId) : hid'.log q = hid.log q := by
  obtain ⟨front, hpending, hsubmitted⟩ := h.written q
  simp [HidState.log, hpending, hsubmitted]

theorem Flushed.count_le (h : Flushed hid hid') (q : QueueId) : hid'.count q ≤ hid.count q := by
  obtain ⟨front, hpending, -⟩ := h.written q
  rw [← length_pending, ← length_pending, hpending]
  simp

theorem idle_setQueue (h : queue.reports.toList.map HidReport.entry = hid.pending q) :
    Idle hid (hid.setQueue q queue) := by
  refine ⟨rfl, fun q' => ?_, fun _ => rfl⟩
  by_cases hq : q' = q
  · subst hq
    simpa [HidState.pending] using h
  · simp [HidState.pending, hq]

-- ---------------------------------------------------------------------------
-- What the system calls do
-- ---------------------------------------------------------------------------

/-- A call that leaves the queues alone and gives the host the `reports`. -/
structure Calls (hid : HidState) (reports : QueueId → List Report) (hid' : HidState) : Prop where
  input : hid'.input = hid.input
  queues : hid'.queues = hid.queues
  submitted : ∀ q, hid'.submitted q = hid.submitted q ++ reports q

theorem Calls.trans (h : Calls a f b) (h' : Calls b g c) : Calls a (fun q => f q ++ g q) c :=
  ⟨h'.input.trans h.input, h'.queues.trans h.queues, fun q => by
    rw [h'.submitted, h.submitted, List.append_assoc]⟩

theorem Calls.idle (h : Calls hid (fun _ => []) hid') : Idle hid hid' :=
  ⟨h.input, fun q => by rw [HidState.pending, h.queues, HidState.pending], fun q => by
    rw [h.submitted, List.append_nil]⟩

theorem calls_ask (hid : HidState) : Calls hid (fun _ => []) hid.ask.2 :=
  ⟨rfl, rfl, fun _ => (List.append_nil _).symm⟩

theorem calls_setOpen (hid : HidState) (device : Device) (isOpen : Bool) :
    Calls hid (fun _ => []) (hid.setOpen device isOpen) :=
  ⟨rfl, rfl, fun _ => (List.append_nil _).symm⟩

theorem calls_record (hid : HidState) (event : UsbEvent) :
    Calls hid (fun q => (event.report? q).toList) (hid.record event) := by
  refine ⟨rfl, rfl, fun q => ?_⟩
  simp only [HidState.submitted, record, List.filterMap_append]
  cases h : event.report? q <;> simp [h]

theorem calls_poll (hid : HidState) (device : Device) :
    Calls hid (fun _ => []) (hid.poll device).2 := by
  unfold poll
  simp only
  split
  · exact (calls_ask hid).trans (calls_record _ (.writable device))
  · exact calls_ask hid

theorem calls_openHidFd (hid : HidState) (device : Device) :
    Calls hid (fun _ => []) (hid.openHidFd device).2 :=
  (calls_ask hid).trans (calls_setOpen _ _ _)

theorem calls_hidFd (hid : HidState) (device : Device) :
    Calls hid (fun _ => []) (hid.hidFd device).2 := by
  have hpoll := calls_poll hid device
  unfold hidFd
  split
  · split <;> rename_i heq <;> rw [heq] at hpoll
    · exact hpoll
    · exact hpoll
    · exact hpoll.trans ((calls_setOpen _ _ _).trans (calls_openHidFd _ _))
  · exact calls_openHidFd hid device

def written (device : Device) (bytes : List UInt8) (q : QueueId) : IoAnswer → List Report
  | .complete => ((UsbEvent.wrote device bytes).report? q).toList
  | _ => []

theorem calls_write (hid : HidState) (device : Device) (bytes : List UInt8) :
    Calls hid (fun q => written device bytes q (hid.write device bytes).1)
      (hid.write device bytes).2 := by
  have hask := calls_ask hid
  unfold write
  generalize hid.ask = asked at hask ⊢
  obtain ⟨⟨_, _, _, wrote, _⟩, hid'⟩ := asked
  cases wrote with
  | complete => exact hask.trans (calls_record _ _)
  | again => exact hask
  | failed => exact hask

theorem calls_writeHidReport (hid : HidState) (device : Device) (report : List UInt8) :
    Calls hid (fun q => written device report q (hid.writeHidReport device report).1)
      (hid.writeHidReport device report).2 := by
  have hfd := calls_hidFd hid device
  unfold writeHidReport
  generalize hid.hidFd device = opened at hfd ⊢
  obtain ⟨answer, hid'⟩ := opened
  cases answer with
  | complete =>
    have hwrite := hfd.trans (calls_write hid' device report)
    dsimp only
    generalize hid'.write device report = wrote at hwrite ⊢
    obtain ⟨answer, hid''⟩ := wrote
    cases answer with
    | complete => exact hwrite
    | again => exact hwrite
    | failed => exact hwrite.trans (calls_setOpen _ _ _)
  | again => exact hfd
  | failed => exact hfd

-- ---------------------------------------------------------------------------
-- One turn
-- ---------------------------------------------------------------------------

end HidState

def Turn.Ends (P Q : HidState → Prop) : Turn → Prop
  | .stop _ hid => P hid
  | .next hid => Q hid

theorem Turn.Ends.andThen {t : Turn} (h : t.Ends P Q) (hf : ∀ hid, Q hid → (f hid).Ends P R) :
    (t.andThen f).Ends P R := by
  cases t with
  | stop result hid => exact h
  | next hid => exact hf hid h

theorem Turn.Ends.imp {t : Turn} (h : t.Ends P Q) (hP : ∀ hid, P hid → P' hid)
    (hQ : ∀ hid, Q hid → Q' hid) : t.Ends P' Q' := by
  cases t with
  | stop result hid => exact hP hid h
  | next hid => exact hQ hid h

namespace HidState

theorem idle_countWriteError (hid : HidState) : Idle hid hid.countWriteError :=
  ⟨rfl, fun _ => rfl, fun _ => rfl⟩

theorem idle_block (hid : HidState) (q : QueueId) (now : UInt64) : Idle hid (hid.block q now) := by
  unfold block
  split
  · exact idle_setQueue rfl
  · exact Idle.refl hid

theorem idle_pollPrevious (hid : HidState) (previous : Endpoint) :
    Idle hid (hid.pollPrevious previous).2 := by
  unfold pollPrevious
  split
  · exact (calls_poll hid _).idle
  · exact (calls_ask hid).idle

theorem idle_writePasteCodepoint (hid : HidState) (codepoint : UInt32) :
    Calls hid (fun _ => []) (hid.writePasteCodepoint codepoint).2 := by
  unfold writePasteCodepoint
  split
  · rename_i payload _ _
    have hwrite := calls_writeHidReport hid .paste payload
    generalize hid.writeHidReport .paste payload = wrote at hwrite ⊢
    obtain ⟨answer, hid'⟩ := wrote
    cases answer <;> exact hwrite
  · exact ⟨rfl, rfl, fun _ => (List.append_nil _).symm⟩

theorem checkPace_ends (hid : HidState) (q : QueueId) (now : UInt64) :
    (hid.checkPace q now).Ends (Idle hid) (Idle hid) := by
  unfold checkPace
  split
  · exact Idle.refl hid
  · split
    · exact idle_countWriteError hid
    · exact Idle.refl hid

theorem awaitPrevious_ends (hid : HidState) (q : QueueId) (now : UInt64) :
    (hid.awaitPrevious q now).Ends (Idle hid) (Idle hid) := by
  unfold awaitPrevious
  split
  · exact Idle.refl hid
  · rename_i previous _
    split
    · exact Idle.refl hid
    · have hpoll := idle_pollPrevious hid previous
      split <;> rename_i heq <;> rw [heq] at hpoll
      · exact hpoll.trans (idle_block _ _ _)
      · exact hpoll.trans (idle_block _ _ _)
      · exact hpoll.trans (idle_setQueue rfl)
      · exact hpoll.trans (idle_countWriteError _)

theorem pasteFront_ends (hid : HidState) (q : QueueId) (now : UInt64) (h : 0 < hid.count q) :
    (hid.pasteFront q now).Ends (Idle hid) (Idle hid) := by
  unfold pasteFront
  simp only
  split
  · exact Idle.refl hid
  · have hwrite := idle_writePasteCodepoint hid (hid.queues q).reports.front.pasteCodepoint
    split <;> rename_i heq <;> rw [heq] at hwrite
    · exact hwrite.idle.trans (idle_countWriteError _)
    · refine hwrite.idle.trans (idle_setQueue ?_)
      -- Only the mark of the oldest report is cleared.
      rw [pending, hwrite.queues, RingBuffer.toList_set_front _ _ h,
        RingBuffer.toList_eq_front_cons _ h]
      rfl

theorem flushed_popFront (hid : HidState) (q : QueueId) (now : UInt64) (h : 0 < hid.count q)
    (hwrite : Calls hid (fun q' => written (.endpoint (hid.queues q).reports.front.endpoint)
      (hid.queues q).reports.front.bytes q' .complete) hid') :
    Flushed hid (hid'.popFront q now) ∧ hid.count q = (hid'.popFront q now).count q + 1 := by
  have hentries : hid.pending q =
      (hid.queues q).reports.front.entry :: (hid'.popFront q now).pending q := by
    simp [pending, popFront, hwrite.queues, RingBuffer.toList_eq_front_cons _ h]
  have hqueue : (hid.queues q).reports.front.endpoint.queue = q :=
    (hid.queues q).reports.front.queue_endpoint
  refine ⟨⟨hwrite.input, fun q' => ?_⟩, ?_⟩
  · by_cases hq : q' = q
    · subst hq
      refine ⟨[_], hentries, (hwrite.submitted q').trans ?_⟩
      simp [written, UsbEvent.report?, hqueue, HidReport.entry]
    · refine ⟨[], ?_, (hwrite.submitted q').trans ?_⟩
      · simp [pending, popFront, hwrite.queues, hq]
      · simp [written, UsbEvent.report?, hqueue, Ne.symm hq]
  · rw [← length_pending, hentries, List.length_cons, length_pending]

theorem submitFront_ends (hid : HidState) (q : QueueId) (now : UInt64) (h : 0 < hid.count q) :
    (hid.submitFront q now).Ends (Idle hid)
      fun hid' => Flushed hid hid' ∧ hid.count q = hid'.count q + 1 := by
  have hwrite := calls_writeHidReport hid (.endpoint (hid.queues q).reports.front.endpoint)
    (hid.queues q).reports.front.bytes
  unfold submitFront
  simp only
  split <;> rename_i heq <;> rw [heq] at hwrite
  · exact flushed_popFront hid q now h hwrite
  · exact hwrite.idle.trans ((idle_block _ _ _).trans ⟨rfl, fun _ => rfl, fun _ => rfl⟩)
  · exact hwrite.idle.trans ((idle_block _ _ _).trans
      ((idle_countWriteError _).trans (idle_setQueue rfl)))

theorem flushTurn_ends (hid : HidState) (q : QueueId) (h : 0 < hid.count q) :
    (hid.flushTurn q).Ends (Idle hid)
      fun hid' => Flushed hid hid' ∧ hid.count q = hid'.count q + 1 := by
  have hnow : Idle hid hid.now.2 := (calls_ask hid).idle
  unfold flushTurn
  generalize hid.now = asked at hnow ⊢
  obtain ⟨now, hid₀⟩ := asked
  have hstage : ∀ {t : Turn} {hid₁ : HidState}, Idle hid hid₁ → t.Ends (Idle hid₁) (Idle hid₁) →
      t.Ends (Idle hid) (Idle hid) := fun h₁ ht => ht.imp (fun _ => h₁.trans) (fun _ => h₁.trans)
  refine (hstage hnow (checkPace_ends hid₀ q now)).andThen fun hid₁ h₁ => ?_
  refine (hstage h₁ (awaitPrevious_ends hid₁ q now)).andThen fun hid₂ h₂ => ?_
  refine (hstage h₂ (pasteFront_ends hid₂ q now (by rwa [h₂.count]))).andThen fun hid₃ h₃ => ?_
  refine (submitFront_ends hid₃ q now (by rwa [h₃.count])).imp (fun _ => h₃.trans) ?_
  rintro hid' ⟨hflushed, hcount⟩
  exact ⟨h₃.flushed.trans hflushed, by rw [← h₃.count, hcount]⟩

-- ---------------------------------------------------------------------------
-- The loop
-- ---------------------------------------------------------------------------

/-- `flushReports` is the `while` loop of the source. -/
theorem flushReports_eq (hid : HidState) (q : QueueId) :
    hid.flushReports q =
      if hid.count q = 0 then (true, hid)
      else
        match hid.flushTurn q with
        | .stop result hid => (result, hid)
        | .next hid => hid.flushReports q := by
  split
  · rename_i h
    simp [flushReports, h, flushLoop]
  · rename_i h
    obtain ⟨k, hk⟩ := Nat.exists_eq_succ_of_ne_zero h
    have hturn := hid.flushTurn_ends q (Nat.pos_of_ne_zero h)
    rw [flushReports, hk, flushLoop]
    cases ht : hid.flushTurn q with
    | stop result hid' => rfl
    | next hid' =>
      rw [ht] at hturn
      have hcount : hid.count q = hid'.count q + 1 := hturn.2
      have : hid'.count q = k := by omega
      simp only [flushReports, this]

/-- What holds of the state and is kept by every turn holds after the loop. -/
theorem flushReports_induction {P : HidState → Prop} (q : QueueId)
    (hstep : ∀ hid, 0 < hid.count q → P hid → (hid.flushTurn q).Ends P P) (h : P hid) :
    P (hid.flushReports q).2 := by
  induction hk : hid.count q generalizing hid with
  | zero => simpa [flushReports_eq, hk] using h
  | succ k ih =>
    have hpos : 0 < hid.count q := by omega
    have hturn := hid.flushTurn_ends q hpos
    have hP := hstep hid hpos h
    rw [flushReports_eq, if_neg hpos.ne']
    cases ht : hid.flushTurn q with
    | stop result hid' =>
      rw [ht] at hP
      exact hP
    | next hid' =>
      rw [ht] at hturn hP
      have hcount : hid.count q = hid'.count q + 1 := hturn.2
      exact ih hP (by omega)

theorem flushReports_flushed (hid : HidState) (q : QueueId) : Flushed hid (hid.flushReports q).2 :=
  flushReports_induction (P := Flushed hid) q
    (fun hid' hpos h => (hid'.flushTurn_ends q hpos).imp (fun _ hi => h.trans hi.flushed)
      fun _ hf => h.trans hf.1) (Flushed.refl hid)

-- ---------------------------------------------------------------------------
-- Queueing
-- ---------------------------------------------------------------------------

end HidState

def Entry.replaces (new old : Entry) : Bool :=
  new.motion && old.motion && decide (old.report.1 = new.report.1) &&
    decide (old.report.2.head? = new.report.2.head?)

namespace HidState

theorem pending_eq_append_back (hid : HidState) (q : QueueId) (h : 0 < hid.count q) :
    hid.pending q = (hid.pending q).dropLast ++ [(hid.queues q).reports.back.entry] := by
  simp only [pending, List.map_dropLast.symm]
  conv_lhs => rw [RingBuffer.toList_eq_append_back _ h]
  simp

theorem coalesces_eq (hid : HidState) (e : Endpoint) (payload : Payload) (motion : Bool) :
    hid.coalesces e payload motion =
      (hid.pending e.queue).getLast?.any (Entry.replaces ⟨(e, payload.bytes), motion⟩) := by
  by_cases h : 0 < hid.count e.queue
  · have hlength := (hid.queues e.queue).reports.back.length_pos
    rw [pending_eq_append_back hid _ h, List.getLast?_concat]
    simp [coalesces, h, Entry.replaces, HidReport.entry, HidReport.bytes, List.head?_take,
      hlength.ne']
  · have hnil : hid.pending e.queue = [] := by
      rw [← List.length_eq_zero_iff, length_pending]
      omega
    simp [coalesces, h, hnil]

theorem Pends.log (h : Pends hid q entries hid') :
    hid'.log q = hid.submitted q ++ entries.map Entry.report := by
  rw [HidState.log, h.pending, h.submitted]

theorem Pends.log_of_ne (h : Pends hid q entries hid') (hq : q' ≠ q) :
    hid'.log q' = hid.log q' := by
  rw [HidState.log, h.other q' hq, h.submitted, HidState.log]

theorem pends_pushBack (hid : HidState) (e : Endpoint) (payload : Payload) (motion : Bool)
    (delayMs : UInt16) (room : hid.count e.queue < hidReportQueueCapacity) :
    Pends hid e.queue (hid.pending e.queue ++ [⟨(e, payload.bytes), motion⟩])
      (hid.pushBack e payload motion delayMs room) := by
  refine ⟨rfl, ?_, fun q' hq => ?_, fun _ => rfl⟩
  · simp only [pushBack, pending, queues_setQueue_self]
    rw [RingBuffer.toList_push _ _ room]
    simp [newReport, HidReport.entry, HidReport.bytes]
  · simp only [pushBack, pending, queues_setQueue_of_ne _ _ hq]
    rfl

theorem bytes_overwrite_head (r : HidReport q) (payload : Payload) :
    (r.overwrite payload).bytes.head? = payload.bytes.head? := by
  obtain ⟨bytes, hpos, hle⟩ := payload
  obtain ⟨byte, bytes, rfl⟩ := List.exists_cons_of_length_pos hpos
  simp [HidReport.overwrite, HidReport.bytes, List.head?_take, r.length_pos.ne']

theorem bytes_overwrite (r : HidReport q) (payload : Payload)
    (h : r.bytes.length = payload.bytes.length) : (r.overwrite payload).bytes = payload.bytes := by
  have hlength : r.length = payload.bytes.length := by
    have := r.length_le
    have := r.length_data
    simp only [HidReport.bytes, List.length_take] at h
    omega
  simp [HidReport.overwrite, HidReport.bytes, hlength]

theorem pends_overwriteBack (hid : HidState) (q : QueueId) (payload : Payload)
    (h : 0 < hid.count q) :
    Pends hid q ((hid.pending q).dropLast ++ [((hid.queues q).reports.back.overwrite payload).entry])
      (hid.overwriteBack q payload) := by
  have hset : ((hid.queues q).reports.set (hid.count q - 1)
      ((hid.queues q).reports.back.overwrite payload)).toList =
        (hid.queues q).reports.toList.dropLast ++ [(hid.queues q).reports.back.overwrite payload] :=
    RingBuffer.toList_set_back _ _ h
  refine ⟨rfl, ?_, fun q' hq => ?_, fun _ => rfl⟩
  · simp [overwriteBack, pending, hset, List.map_dropLast]
  · simp [overwriteBack, pending, hq]

def refuses (hid : HidState) (e : Endpoint) (payload : Payload) (motion : Bool) : Bool :=
  !hid.coalesces e payload motion &&
    decide ((hid.makeRoom e.queue).count e.queue = hidReportQueueCapacity)

/-- What a call of `queue_report` can do: overwrite the last pending report,
store a new one at the end, or find the queue full. A flush follows the first
two and precedes the last two. -/
inductive Queued (hid : HidState) (e : Endpoint) (payload : Payload) (motion : Bool) :
    Bool × HidState → Prop
  | coalesced (front : List Entry) (old : Entry) (bytes : List UInt8)
      (hcoalesces : hid.coalesces e payload motion = true)
      (hpending : hid.pending e.queue = front ++ [old])
      (hreplaces : Entry.replaces ⟨(e, payload.bytes), motion⟩ old = true)
      (hpends : Pends hid e.queue (front ++ [⟨(e, bytes), true⟩]) mid)
      (hhead : bytes.head? = payload.bytes.head?)
      (hbytes : old.report.2.length = payload.bytes.length → bytes = payload.bytes)
      (hflushed : Flushed mid hid') : Queued hid e payload motion (ok, hid')
  | appended (hcoalesces : hid.coalesces e payload motion = false)
      (hrefuses : hid.refuses e payload motion = false) (hroom : Flushed hid mid)
      (hpends : Pends mid e.queue (mid.pending e.queue ++ [⟨(e, payload.bytes), motion⟩]) mid')
      (hflushed : Flushed mid' hid') : Queued hid e payload motion (ok, hid')
  | refused (hrefuses : hid.refuses e payload motion = true)
      (hfull : hid.count e.queue = hidReportQueueCapacity) (hflushed : Flushed hid hid') :
      Queued hid e payload motion (false, hid')

theorem makeRoom_flushed (hid : HidState) (q : QueueId) : Flushed hid (hid.makeRoom q) := by
  unfold makeRoom
  split
  · exact flushReports_flushed hid q
  · exact Flushed.refl hid

theorem count_eq_of_makeRoom_full {hid : HidState}
    (h : (hid.makeRoom q).count q = hidReportQueueCapacity) :
    hid.count q = hidReportQueueCapacity := by
  by_contra hne
  rw [makeRoom, if_neg hne] at h
  exact hne h

theorem queueReport_queued (hid : HidState) (e : Endpoint) (payload : Payload) (motion : Bool)
    (delayMs : UInt16) : Queued hid e payload motion (hid.queueReport e payload motion delayMs) := by
  unfold queueReport
  split
  · rename_i hcoalesces
    have hparts := hcoalesces
    simp only [coalesces, Bool.and_eq_true, decide_eq_true_eq] at hparts
    obtain ⟨⟨⟨⟨-, hpos⟩, hmotion⟩, hendpoint⟩, -⟩ := hparts
    have hpends := pends_overwriteBack hid e.queue payload hpos
    have hentry : ((hid.queues e.queue).reports.back.overwrite payload).entry =
        ⟨(e, ((hid.queues e.queue).reports.back.overwrite payload).bytes), true⟩ := by
      simp [HidReport.entry, HidReport.overwrite, hmotion, hendpoint]
    rw [hentry] at hpends
    have hpending := pending_eq_append_back hid _ hpos
    have hreplaces := hcoalesces
    rw [coalesces_eq, hpending, List.getLast?_concat, Option.any_some] at hreplaces
    exact .coalesced _ _ _ hcoalesces hpending hreplaces hpends
      (bytes_overwrite_head _ _) (bytes_overwrite _ _) (flushReports_flushed _ _)
  · rename_i hcoalesces
    have hcoalesces : hid.coalesces e payload motion = false := by simpa using hcoalesces
    have hle : (hid.makeRoom e.queue).count e.queue ≤ hidReportQueueCapacity :=
      ((hid.makeRoom e.queue).queues e.queue).reports.count_le
    simp only
    split
    · rename_i room
      exact .appended hcoalesces (by simp [refuses, room.ne]) (makeRoom_flushed hid e.queue)
        (pends_pushBack _ e payload motion delayMs room) (flushReports_flushed _ _)
    · rename_i hfull
      have hfull : (hid.makeRoom e.queue).count e.queue = hidReportQueueCapacity := by omega
      exact .refused (by simp [refuses, hcoalesces, hfull]) (count_eq_of_makeRoom_full hfull)
        ((makeRoom_flushed hid e.queue).trans (Idle.flushed ⟨rfl, fun _ => rfl, fun _ => rfl⟩))

theorem queueReport_refuses {hid : HidState} (h : hid.refuses e payload motion = true) :
    (hid.queueReport e payload motion delayMs).1 = false := by
  have hqueued := queueReport_queued hid e payload motion delayMs
  generalize hid.queueReport e payload motion delayMs = result at hqueued ⊢
  cases hqueued with
  | coalesced _ _ _ hcoalesces => simp [refuses, hcoalesces] at h
  | appended _ hrefuses => simp [hrefuses] at h
  | refused => rfl

theorem Flushed.submitted_grows (h : Flushed hid hid') (q : QueueId) :
    hid.submitted q <+: hid'.submitted q := by
  obtain ⟨front, -, hsubmitted⟩ := h.written q
  exact hsubmitted ▸ List.prefix_append _ _

theorem Flushed.mem_pending (h : Flushed hid hid') (hmem : entry ∈ hid'.pending q) :
    entry ∈ hid.pending q := by
  obtain ⟨front, hpending, -⟩ := h.written q
  exact hpending ▸ List.mem_append_right _ hmem

theorem mem_pending_of_queueReport (hid : HidState)
    (hmem : entry ∈ (hid.queueReport e payload false delayMs).2.pending q)
    (hmotion : entry.motion = true) : entry ∈ hid.pending q := by
  have hqueued := queueReport_queued hid e payload false delayMs
  generalize hid.queueReport e payload false delayMs = result at hqueued hmem
  cases hqueued with
  | coalesced _ _ _ hcoalesces => cases hcoalesces
  | appended _ _ hroom hpends hflushed =>
    refine hroom.mem_pending ?_
    have hmid := hflushed.mem_pending hmem
    by_cases hq : q = e.queue
    · subst hq
      rw [hpends.pending] at hmid
      rcases List.mem_append.mp hmid with hold | hnew
      · exact hold
      · rw [List.mem_singleton.mp hnew] at hmotion
        cases hmotion
    · rwa [hpends.other q hq] at hmid
  | refused _ _ hflushed => exact hflushed.mem_pending hmem

theorem queueReport_submitted_grows (hid : HidState) (e : Endpoint) (payload : Payload)
    (motion : Bool) (delayMs : UInt16) (q : QueueId) :
    hid.submitted q <+: (hid.queueReport e payload motion delayMs).2.submitted q := by
  have hqueued := queueReport_queued hid e payload motion delayMs
  generalize hid.queueReport e payload motion delayMs = result at hqueued ⊢
  cases hqueued with
  | coalesced _ _ _ _ _ _ hpends _ _ hflushed => exact hpends.submitted q ▸ hflushed.submitted_grows q
  | appended _ _ hroom hpends hflushed =>
    exact (hroom.submitted_grows q).trans (hpends.submitted q ▸ hflushed.submitted_grows q)
  | refused _ _ hflushed => exact hflushed.submitted_grows q

/-- The log after a call: the report is its new end, behind the old log or in
the place of a motion report of the same endpoint, or the queue was full. -/
theorem queueReport_log (hid : HidState) (e : Endpoint) (payload : Payload) (motion : Bool)
    (delayMs : UInt16) :
    (∀ q, q ≠ e.queue → (hid.queueReport e payload motion delayMs).2.log q = hid.log q) ∧
      ((∃ reports bytes,
          (hid.queueReport e payload motion delayMs).2.log e.queue = reports ++ [(e, bytes)] ∧
          (bytes = payload.bytes ∧ hid.log e.queue = reports ∨
            motion = true ∧ bytes.head? = payload.bytes.head? ∧
              ∃ old, hid.log e.queue = reports ++ [(e, old)])) ∨
        (hid.queueReport e payload motion delayMs).1 = false ∧
          hid.count e.queue = hidReportQueueCapacity ∧
          (hid.queueReport e payload motion delayMs).2.log e.queue = hid.log e.queue) := by
  have hqueued := queueReport_queued hid e payload motion delayMs
  generalize hid.queueReport e payload motion delayMs = result at hqueued ⊢
  cases hqueued with
  | coalesced front old bytes _ hpending hreplaces hpends hhead _ hflushed =>
    simp only [Entry.replaces, Bool.and_eq_true, decide_eq_true_eq] at hreplaces
    obtain ⟨⟨⟨hmotion, -⟩, hendpoint⟩, -⟩ := hreplaces
    refine ⟨fun q hq => ?_, .inl ⟨hid.submitted e.queue ++ front.map Entry.report, bytes, ?_,
      .inr ⟨hmotion, hhead, old.report.2, ?_⟩⟩⟩
    · rw [hflushed.log, hpends.log_of_ne hq]
    · rw [hflushed.log, hpends.log, List.map_append, ← List.append_assoc]
      rfl
    · obtain ⟨⟨e', old⟩, _⟩ := old
      obtain rfl : e' = e := hendpoint
      simp [log, hpending]
  | appended _ _ hroom hpends hflushed =>
    refine ⟨fun q hq => ?_, .inl ⟨_, _, ?_, .inl ⟨rfl, rfl⟩⟩⟩
    · rw [hflushed.log, hpends.log_of_ne hq, hroom.log]
    · rw [hflushed.log, hpends.log, List.map_append, ← List.append_assoc, ← hroom.log]
      rfl
  | refused _ hfull hflushed => exact ⟨fun q _ => hflushed.log q, .inr ⟨rfl, hfull, hflushed.log _⟩⟩

end HidState

end NanokvmRdp.Hid
