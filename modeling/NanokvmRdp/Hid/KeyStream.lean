import NanokvmRdp.Hid.DeviceLaws

/-!
# The keyboard stream

A pending keyboard report stands for the writes it will cause: the clipboard
payload first, if it is marked with a character, and then the report. What was
written and what is pending are together the stream of the keyboard. A flush
moves writes from the second part to the first and changes the stream in no
other way, whatever the kernel answers.
-/

namespace NanokvmRdp.Hid

/-- A keyboard report and the character it is marked with; 0 is no mark. -/
structure KeyEntry where
  paste : UInt32
  bytes : List UInt8
  deriving DecidableEq, Repr

def KeyEntry.events (entry : KeyEntry) : List UsbEvent :=
  (if entry.paste = 0 then [] else [.wrote .paste ((pastePayload entry.paste).getD [])]) ++
    [.wrote (.endpoint .keyboard) entry.bytes]

def HidReport.keyEntry (r : HidReport .keyboard) : KeyEntry := ⟨r.pasteCodepoint, r.bytes⟩

def UsbEvent.types : UsbEvent → Bool
  | .wrote (.endpoint .keyboard) _ => true
  | .wrote .paste _ => true
  | _ => false

/-- `P` holds where the loop ends, with its result, and `Q` where it goes on. -/
def Turn.Yields (P : Bool → HidState → Prop) (Q : HidState → Prop) : Turn → Prop
  | .stop result hid => P result hid
  | .next hid => Q hid

theorem Turn.Yields.andThen {t : Turn} (h : t.Yields P Q) (hf : ∀ hid, Q hid → (f hid).Yields P R) :
    (t.andThen f).Yields P R := by
  cases t with
  | stop result hid => exact h
  | next hid => exact hf hid h

theorem Turn.Yields.imp {t : Turn} (h : t.Yields P Q) (hP : ∀ result hid, P result hid → P' result hid)
    (hQ : ∀ hid, Q hid → Q' hid) : t.Yields P' Q' := by
  cases t with
  | stop result hid => exact hP result hid h
  | next hid => exact hQ hid h

namespace HidState

/-- What the host was told about the keyboard, oldest first. -/
def typedTrace (hid : HidState) : List UsbEvent := hid.usb.trace.filter UsbEvent.types

def keyEntries (hid : HidState) : List KeyEntry :=
  (hid.queues .keyboard).reports.toList.map HidReport.keyEntry

def stream (hid : HidState) : List UsbEvent := hid.typedTrace ++ hid.keyEntries.flatMap KeyEntry.events

theorem flushReports_yields {I : HidState → Prop} {P : Bool → HidState → Prop} (q : QueueId)
    (hdone : ∀ hid, I hid → P true hid)
    (hstep : ∀ hid, 0 < hid.count q → I hid → (hid.flushTurn q).Yields P I) (h : I hid) :
    P (hid.flushReports q).1 (hid.flushReports q).2 := by
  induction hk : hid.count q generalizing hid with
  | zero =>
    rw [flushReports_eq, if_pos hk]
    exact hdone hid h
  | succ k ih =>
    have hpos : 0 < hid.count q := by omega
    have hends := hid.flushTurn_ends q hpos
    have hturn := hstep hid hpos h
    rw [flushReports_eq, if_neg hpos.ne']
    cases ht : hid.flushTurn q with
    | stop result hid' =>
      rw [ht] at hturn
      exact hturn
    | next hid' =>
      rw [ht] at hends hturn
      have hcount : hid.count q = hid'.count q + 1 := hends.2
      exact ih hturn (by omega)

-- ---------------------------------------------------------------------------
-- System calls
-- ---------------------------------------------------------------------------

structure Traces (hid : HidState) (events : List UsbEvent) (hid' : HidState) : Prop where
  queues : hid'.queues = hid.queues
  stats : hid'.stats = hid.stats
  kernel : hid'.usb.kernel = hid.usb.kernel
  calls : hid.usb.calls ≤ hid'.usb.calls
  trace : hid'.usb.trace = hid.usb.trace ++ events

theorem Traces.trans (h : Traces a f b) (h' : Traces b g c) : Traces a (f ++ g) c :=
  ⟨h'.queues.trans h.queues, h'.stats.trans h.stats, h'.kernel.trans h.kernel,
    h.calls.trans h'.calls, by rw [h'.trace, h.trace, List.append_assoc]⟩

theorem traces_ask (hid : HidState) : Traces hid [] hid.ask.2 :=
  ⟨rfl, rfl, rfl, Nat.le_succ _, (List.append_nil _).symm⟩

theorem traces_setOpen (hid : HidState) (device : Device) (isOpen : Bool) :
    Traces hid [] (hid.setOpen device isOpen) :=
  ⟨rfl, rfl, rfl, Nat.le_refl _, (List.append_nil _).symm⟩

theorem traces_record (hid : HidState) (event : UsbEvent) : Traces hid [event] (hid.record event) :=
  ⟨rfl, rfl, rfl, Nat.le_refl _, rfl⟩

def Polls (hid hid' : HidState) : Prop :=
  ∃ events : List UsbEvent, events.filter UsbEvent.types = [] ∧ Traces hid events hid'

theorem Traces.polls (h : Traces hid [] hid') : Polls hid hid' := ⟨[], rfl, h⟩

theorem Polls.trans (h : Polls a b) (h' : Polls b c) : Polls a c := by
  obtain ⟨events, hevents, htraces⟩ := h
  obtain ⟨more, hmore, htraces'⟩ := h'
  exact ⟨events ++ more, by simp [hevents, hmore], htraces.trans htraces'⟩

theorem polls_poll (hid : HidState) (device : Device) : Polls hid (hid.poll device).2 := by
  unfold poll
  simp only
  split
  · exact ⟨[.writable device], rfl, (traces_ask hid).trans (traces_record _ _)⟩
  · exact (traces_ask hid).polls

theorem polls_openHidFd (hid : HidState) (device : Device) : Polls hid (hid.openHidFd device).2 :=
  ((traces_ask hid).trans (traces_setOpen _ _ _)).polls

theorem polls_hidFd (hid : HidState) (device : Device) : Polls hid (hid.hidFd device).2 := by
  have hpoll := polls_poll hid device
  unfold hidFd
  split
  · split <;> rename_i heq <;> rw [heq] at hpoll
    · exact hpoll
    · exact hpoll
    · exact hpoll.trans ((traces_setOpen _ _ _).polls.trans (polls_openHidFd _ _))
  · exact polls_openHidFd hid device

theorem polls_pollPrevious (hid : HidState) (previous : Endpoint) :
    Polls hid (hid.pollPrevious previous).2 := by
  unfold pollPrevious
  split
  · exact polls_poll hid _
  · exact (traces_ask hid).polls

/-- A write that completes is the last event of its call, any other leaves no event. -/
theorem writeHidReport_polls (hid : HidState) (device : Device) (bytes : List UInt8) :
    ∃ mid, Polls hid mid ∧
      ((hid.writeHidReport device bytes).1 = .complete ∧
          (hid.writeHidReport device bytes).2 = mid.record (.wrote device bytes) ∨
        (hid.writeHidReport device bytes).1 ≠ .complete ∧
          (hid.writeHidReport device bytes).2 = mid) := by
  have hfd := polls_hidFd hid device
  unfold writeHidReport
  generalize hid.hidFd device = opened at hfd ⊢
  obtain ⟨answer, hid₁⟩ := opened
  cases answer with
  | complete =>
    have hask : Polls hid hid₁.ask.2 := hfd.trans (traces_ask hid₁).polls
    simp only [write]
    cases hwrote : hid₁.ask.1.wrote with
    | complete => exact ⟨_, hask, .inl ⟨rfl, rfl⟩⟩
    | again => exact ⟨_, hask, .inr ⟨by simp, rfl⟩⟩
    | failed => exact ⟨_, hask.trans (traces_setOpen _ _ _).polls, .inr ⟨by simp, rfl⟩⟩
  | again => exact ⟨_, hfd, .inr ⟨by simp, rfl⟩⟩
  | failed => exact ⟨_, hfd, .inr ⟨by simp, rfl⟩⟩

theorem writePasteCodepoint_polls (hid : HidState) (codepoint : UInt32) :
    ∃ mid, Polls hid mid ∧ (hid.writePasteCodepoint codepoint = (false, mid) ∨
      ∃ payload, pastePayload codepoint = some payload ∧
        hid.writePasteCodepoint codepoint = (true, mid.record (.wrote .paste payload))) := by
  have hnone : Polls hid hid := Traces.polls ⟨rfl, rfl, rfl, Nat.le_refl _, (List.append_nil _).symm⟩
  unfold writePasteCodepoint
  cases hid.isOpen .paste with
  | false => exact ⟨hid, hnone, .inl rfl⟩
  | true =>
    cases pastePayload codepoint with
    | none => exact ⟨hid, hnone, .inl rfl⟩
    | some payload =>
      obtain ⟨mid, hpolls, hwrite⟩ := writeHidReport_polls hid .paste payload
      refine ⟨mid, hpolls, ?_⟩
      simp only
      generalize hid.writeHidReport .paste payload = wrote at hwrite ⊢
      obtain ⟨answer, hid'⟩ := wrote
      rcases hwrite with ⟨rfl, rfl⟩ | ⟨hnot, rfl⟩
      · exact .inr ⟨payload, rfl, rfl⟩
      · cases answer with
        | complete => exact absurd rfl hnot
        | again => exact .inl rfl
        | failed => exact .inl rfl

-- ---------------------------------------------------------------------------
-- One turn
-- ---------------------------------------------------------------------------

structure Keeps (hid hid' : HidState) : Prop where
  typed : hid'.typedTrace = hid.typedTrace
  reports : ∀ q, (hid'.queues q).reports = (hid.queues q).reports
  errors : hid'.stats.writeErrors = hid.stats.writeErrors

theorem Keeps.refl (hid : HidState) : Keeps hid hid := ⟨rfl, fun _ => rfl, rfl⟩

theorem Keeps.trans (h : Keeps a b) (h' : Keeps b c) : Keeps a c :=
  ⟨h'.typed.trans h.typed, fun q => (h'.reports q).trans (h.reports q), h'.errors.trans h.errors⟩

theorem Keeps.count (h : Keeps hid hid') (q : QueueId) : hid'.count q = hid.count q :=
  congrArg RingBuffer.count (h.reports q)

theorem Keeps.entries (h : Keeps hid hid') : hid'.keyEntries = hid.keyEntries := by
  rw [keyEntries, h.reports, keyEntries]

theorem Polls.keeps (h : Polls hid hid') : Keeps hid hid' := by
  obtain ⟨events, hevents, htraces⟩ := h
  refine ⟨?_, fun q => by rw [htraces.queues], by rw [htraces.stats]⟩
  rw [typedTrace, htraces.trace, List.filter_append, hevents, List.append_nil, typedTrace]

theorem keeps_setQueue {queue : HidReportQueue q} (h : queue.reports = (hid.queues q).reports) :
    Keeps hid (hid.setQueue q queue) := by
  refine ⟨rfl, fun q' => ?_, rfl⟩
  by_cases hq : q' = q
  · subst hq
    simpa using h
  · simp [hq]

theorem keeps_block (hid : HidState) (q : QueueId) (now : UInt64) : Keeps hid (hid.block q now) := by
  unfold block
  split
  · exact keeps_setQueue rfl
  · exact Keeps.refl hid

/-- Part of a flush: the stream is as it was, and an error was counted if the flush failed. -/
structure Passes (hid : HidState) (ok : Bool) (hid' : HidState) : Prop where
  stream : hid'.stream = hid.stream
  pointer : (hid'.queues .pointer).reports.toList <:+ (hid.queues .pointer).reports.toList
  errors : hid'.stats.writeErrors = hid.stats.writeErrors + if ok then 0 else 1

theorem Passes.trans (h : Passes a true b) (h' : Passes b ok c) : Passes a ok c := by
  refine ⟨h'.stream.trans h.stream, h'.pointer.trans h.pointer, h'.errors.trans ?_⟩
  rw [h.errors, if_pos rfl, UInt64.add_zero]

theorem Keeps.passes (h : Keeps hid hid') : Passes hid true hid' := by
  refine ⟨?_, ?_, ?_⟩
  · rw [HidState.stream, h.typed, h.entries, HidState.stream]
  · exact h.reports .pointer ▸ List.suffix_rfl
  · rw [h.errors, if_pos rfl, UInt64.add_zero]

theorem Keeps.failed (h : Keeps hid hid') : Passes hid false hid'.countWriteError :=
  ⟨h.passes.stream, h.passes.pointer, congrArg (· + 1) h.errors⟩

theorem Passes.keeps (h : Passes a ok b) (h' : Keeps b c) : Passes a ok c :=
  ⟨h'.passes.stream.trans h.stream, h'.passes.pointer.trans h.pointer, h'.errors.trans h.errors⟩

theorem checkPace_yields (hid : HidState) (q : QueueId) (now : UInt64) :
    (hid.checkPace q now).Yields (Passes hid) (· = hid) := by
  unfold checkPace
  split
  · exact (Keeps.refl hid).passes
  · split
    · exact (Keeps.refl hid).failed
    · exact rfl

theorem awaitPrevious_yields (hid : HidState) (q : QueueId) (now : UInt64) :
    (hid.awaitPrevious q now).Yields (Passes hid) (Keeps hid) := by
  unfold awaitPrevious
  split
  · exact Keeps.refl hid
  · rename_i previous _
    split
    · exact Keeps.refl hid
    · have hpoll := polls_pollPrevious hid previous
      split <;> rename_i heq <;> rw [heq] at hpoll
      · exact (hpoll.keeps.trans (keeps_block _ _ _)).passes
      · exact (hpoll.keeps.trans (keeps_block _ _ _)).passes
      · exact hpoll.keeps.trans (keeps_setQueue rfl)
      · exact hpoll.keeps.failed

theorem keyEntries_eq_cons (hid : HidState) (h : 0 < hid.count .keyboard) :
    hid.keyEntries = (hid.queues .keyboard).reports.front.keyEntry ::
      (hid.queues .keyboard).reports.pop.toList.map HidReport.keyEntry := by
  rw [keyEntries, RingBuffer.toList_eq_front_cons _ h, List.map_cons]

theorem typedTrace_record {event : UsbEvent} (hid : HidState) (h : event.types = true) :
    (hid.record event).typedTrace = hid.typedTrace ++ [event] := by
  simp [typedTrace, record, List.filter_append, h]

/-- The clipboard is written for a marked report, which loses its mark. -/
theorem pasteFront_yields (hid : HidState) (now : UInt64) (h : 0 < hid.count .keyboard) :
    (hid.pasteFront .keyboard now).Yields (Passes hid) fun hid' =>
      hid' = hid ∧ (hid.queues .keyboard).reports.front.pasteCodepoint = 0 := by
  unfold pasteFront
  simp only
  split
  · rename_i hmark
    exact ⟨rfl, hmark⟩
  · rename_i hmark
    obtain ⟨mid, hpolls, hfailed | ⟨payload, hpayload, hwrite⟩⟩ :=
      writePasteCodepoint_polls hid (hid.queues .keyboard).reports.front.pasteCodepoint
    · rw [hfailed]
      exact hpolls.keeps.failed
    · rw [hwrite]
      have hkeeps := hpolls.keeps
      refine ⟨?_, ?_, hkeeps.passes.errors⟩
      · have hset := fun report => RingBuffer.toList_set_front (hid.queues .keyboard).reports report h
        have htyped : ∀ queue, ((mid.record (.wrote .paste payload)).setQueue .keyboard
            queue).typedTrace = hid.typedTrace ++ [.wrote .paste payload] := fun queue => by
          rw [← hkeeps.typed, ← typedTrace_record mid rfl]
          rfl
        rw [HidState.stream, HidState.stream, htyped, keyEntries_eq_cons hid h, keyEntries,
          queues_setQueue_self]
        simp [record, hkeeps.reports, hset, KeyEntry.events, HidReport.keyEntry, hmark, hpayload,
          HidReport.bytes]
      · rw [queues_setQueue_of_ne _ _ (by simp), ← hkeeps.reports .pointer]
        exact List.suffix_rfl

theorem submitFront_passes (hid : HidState) (q : QueueId) (now : UInt64)
    (hwritten : ∀ mid, Keeps hid mid → Passes hid true
      ((mid.record (.wrote (.endpoint (hid.queues q).reports.front.endpoint)
        (hid.queues q).reports.front.bytes)).popFront q now)) :
    (hid.submitFront q now).Yields (Passes hid) (Passes hid true) := by
  obtain ⟨mid, hpolls, hwrite⟩ := writeHidReport_polls hid
    (.endpoint (hid.queues q).reports.front.endpoint) (hid.queues q).reports.front.bytes
  have hkeeps := hpolls.keeps
  unfold submitFront
  simp only
  generalize hid.writeHidReport _ _ = wrote at hwrite ⊢
  obtain ⟨answer, hid'⟩ := wrote
  rcases hwrite with ⟨rfl, rfl⟩ | ⟨hnot, rfl⟩
  · exact hwritten mid hkeeps
  · cases answer with
    | complete => exact absurd rfl hnot
    | again => exact (hkeeps.trans (keeps_block _ _ _)).passes.keeps ⟨rfl, fun _ => rfl, rfl⟩
    | failed => exact (hkeeps.trans (keeps_block _ _ _)).failed.keeps (keeps_setQueue rfl)

theorem flushTurn_passes (hid : HidState) (q : QueueId) (h : 0 < hid.count q)
    (hlast : ∀ hid' now, Keeps hid hid' → 0 < hid'.count q →
      ((hid'.pasteFront q now).andThen fun hid => hid.submitFront q now).Yields
        (Passes hid') (Passes hid' true)) :
    (hid.flushTurn q).Yields (Passes hid) (Passes hid true) := by
  have hnow : Keeps hid hid.now.2 := (traces_ask hid).polls.keeps
  unfold flushTurn
  generalize hid.now = asked at hnow ⊢
  obtain ⟨now, hid₀⟩ := asked
  refine ((checkPace_yields hid₀ q now).imp (fun _ _ => hnow.passes.trans) fun _ => id).andThen ?_
  rintro hid₁ rfl
  refine ((awaitPrevious_yields hid₁ q now).imp (fun _ _ => hnow.passes.trans)
    fun _ => hnow.trans).andThen fun hid₂ hkeeps => ?_
  exact (hlast hid₂ now hkeeps (by rwa [hkeeps.count])).imp (fun _ _ => hkeeps.passes.trans)
    fun _ => hkeeps.passes.trans

-- ---------------------------------------------------------------------------
-- The keyboard queue
-- ---------------------------------------------------------------------------

theorem endpoint_keyboard (report : HidReport .keyboard) : report.endpoint = .keyboard := by
  have hqueue := report.queue_endpoint
  cases hendpoint : report.endpoint with
  | keyboard => rfl
  | mouse => rw [hendpoint] at hqueue; cases hqueue
  | touch => rw [hendpoint] at hqueue; cases hqueue

theorem passes_popFront_keyboard {hid mid : HidState} (h : 0 < hid.count .keyboard)
    (hmark : (hid.queues .keyboard).reports.front.pasteCodepoint = 0) (hkeeps : Keeps hid mid)
    (now : UInt64) :
    Passes hid true ((mid.record (.wrote (.endpoint (hid.queues .keyboard).reports.front.endpoint)
      (hid.queues .keyboard).reports.front.bytes)).popFront .keyboard now) := by
  refine ⟨?_, ?_, hkeeps.passes.errors⟩
  · have htyped : ((mid.record (.wrote (.endpoint (hid.queues .keyboard).reports.front.endpoint)
        (hid.queues .keyboard).reports.front.bytes)).popFront .keyboard now).typedTrace =
          hid.typedTrace ++
            [.wrote (.endpoint .keyboard) (hid.queues .keyboard).reports.front.bytes] := by
      rw [← hkeeps.typed, ← typedTrace_record mid rfl, endpoint_keyboard]
      rfl
    rw [HidState.stream, HidState.stream, htyped, keyEntries_eq_cons hid h]
    simp [keyEntries, popFront, record, hkeeps.reports, KeyEntry.events, HidReport.keyEntry, hmark]
  · rw [popFront, queues_setQueue_of_ne _ _ (by simp), ← hkeeps.reports .pointer]
    exact List.suffix_rfl

/-- A flush of the keyboard queue leaves the stream as it is. -/
theorem flushReports_passes (hid : HidState) :
    Passes hid (hid.flushReports .keyboard).1 (hid.flushReports .keyboard).2 := by
  refine flushReports_yields (I := Passes hid true) (P := Passes hid) .keyboard (fun _ => id)
    (fun hid' hpos h => (flushTurn_passes hid' .keyboard hpos ?_).imp (fun _ _ => h.trans)
      fun _ => h.trans) (Keeps.refl hid).passes
  intro hid₂ now _ hpos₂
  refine (pasteFront_yields hid₂ now hpos₂).andThen ?_
  rintro hid₃ ⟨rfl, hmark⟩
  exact submitFront_passes hid₃ .keyboard now fun mid hkeeps =>
    passes_popFront_keyboard hpos₂ hmark hkeeps now

-- ---------------------------------------------------------------------------
-- The pointer queue
-- ---------------------------------------------------------------------------

def PointerUnmarked (hid : HidState) : Prop :=
  ∀ report ∈ (hid.queues .pointer).reports.toList, report.pasteCodepoint = 0

theorem PointerUnmarked.passes (h : hid.PointerUnmarked) (hpasses : Passes hid ok hid') :
    hid'.PointerUnmarked := fun report hreport => h report (hpasses.pointer.subset hreport)

theorem types_pointer {e : Endpoint} (h : e.queue = .pointer) (bytes : List UInt8) :
    (UsbEvent.wrote (.endpoint e) bytes).types = false := by
  cases e with
  | keyboard => cases h
  | mouse => rfl
  | touch => rfl

theorem keeps_record {event : UsbEvent} (hid : HidState) (h : event.types = false) :
    Keeps hid (hid.record event) :=
  Polls.keeps ⟨[event], by simp [h], traces_record hid event⟩

theorem passes_popFront_pointer (hid : HidState) (now : UInt64) (h : 0 < hid.count .pointer) :
    Passes hid true (hid.popFront .pointer now) := by
  refine ⟨?_, ?_, (UInt64.add_zero _).symm⟩
  · rw [HidState.stream, HidState.stream, keyEntries, keyEntries, popFront,
      queues_setQueue_of_ne _ _ (by simp)]
    rfl
  · rw [RingBuffer.toList_eq_front_cons _ h, popFront, queues_setQueue_self]
    exact List.suffix_cons _ _

/-- So does a flush of the pointer queue, whose reports are not marked. -/
theorem flushReports_pointer_passes (hid : HidState) (hmark : hid.PointerUnmarked) :
    Passes hid (hid.flushReports .pointer).1 (hid.flushReports .pointer).2 := by
  refine flushReports_yields (I := Passes hid true) (P := Passes hid) .pointer (fun _ => id)
    (fun hid' hpos h => (flushTurn_passes hid' .pointer hpos ?_).imp (fun _ _ => h.trans)
      fun _ => h.trans) (Keeps.refl hid).passes
  intro hid₂ now hkept hpos₂
  have hfront : (hid₂.queues .pointer).reports.front.pasteCodepoint = 0 := by
    refine (hmark.passes h).passes hkept.passes _ ?_
    rw [RingBuffer.toList_eq_front_cons _ hpos₂]
    exact List.mem_cons_self
  rw [pasteFront, if_pos hfront]
  refine submitFront_passes hid₂ .pointer now fun mid hkeeps => ?_
  have hrecord := hkeeps.trans (keeps_record mid
    (types_pointer (hid₂.queues .pointer).reports.front.queue_endpoint
      (hid₂.queues .pointer).reports.front.bytes))
  refine hrecord.passes.trans (passes_popFront_pointer _ now ?_)
  rwa [hrecord.count]

-- ---------------------------------------------------------------------------
-- The reports of the stream
-- ---------------------------------------------------------------------------

end HidState

def KeyEntry.report (entry : KeyEntry) : Report := (.keyboard, entry.bytes)

theorem KeyEntry.filterMap_events (entry : KeyEntry) :
    entry.events.filterMap (UsbEvent.report? .keyboard) = [entry.report] := by
  unfold KeyEntry.events
  split <;> rfl

theorem UsbEvent.report?_of_types (event : UsbEvent) :
    (if event.types then event.report? .keyboard else none) = event.report? .keyboard := by
  cases event with
  | writable device => rfl
  | wrote device bytes =>
    cases device with
    | endpoint e => cases e <;> rfl
    | paste => rfl
    | feedback => rfl

namespace HidState

theorem filterMap_flatMap_events (entries : List KeyEntry) :
    (entries.flatMap KeyEntry.events).filterMap (UsbEvent.report? .keyboard) =
      entries.map KeyEntry.report := by
  induction entries with
  | nil => rfl
  | cons entry entries ih =>
    rw [List.flatMap_cons, List.filterMap_append, ih, KeyEntry.filterMap_events, List.map_cons,
      List.singleton_append]

/-- The log of the keyboard is the stream without the clipboard. -/
theorem log_eq_filterMap_stream (hid : HidState) :
    hid.log .keyboard = hid.stream.filterMap (UsbEvent.report? .keyboard) := by
  have htrace : hid.typedTrace.filterMap (UsbEvent.report? .keyboard) = hid.submitted .keyboard := by
    rw [typedTrace, List.filterMap_filter, funext UsbEvent.report?_of_types, submitted]
  have hentries : hid.keyEntries.map KeyEntry.report = (hid.pending .keyboard).map Entry.report := by
    rw [keyEntries, pending, List.map_map, List.map_map]
    refine List.map_congr_left fun report _ => ?_
    simp only [Function.comp, KeyEntry.report, HidReport.keyEntry, HidReport.entry, endpoint_keyboard]
  rw [HidState.stream, List.filterMap_append, htrace, filterMap_flatMap_events, hentries]
  rfl

end HidState

end NanokvmRdp.Hid
