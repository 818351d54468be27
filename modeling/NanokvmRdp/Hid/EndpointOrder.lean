import NanokvmRdp.Hid.DeviceLaws
import NanokvmRdp.Lib.Log
import NanokvmRdp.Lib.Machine

/-!
# Order across the pointer endpoints

USB keeps the order of reports on one endpoint only, so before a report goes
to the other pointer endpoint the queue waits until the endpoint of the
report before it was seen writable. `write_absolute_now` writes without
leaving the endpoint behind for that wait. The order holds in every run in
which no relative report comes directly behind such a write.
-/

namespace NanokvmRdp.Hid

def UsbEvent.pointer? (event : UsbEvent) : Option Endpoint := (event.report? .pointer).map Prod.fst

/-- The pointer report written last before `e` was on `e` as well, or its
endpoint was seen writable after it. -/
def Follows (trace : List UsbEvent) (e : Endpoint) : Prop :=
  ∀ front last between previous, trace = front ++ last :: between → last.pointer? = some previous →
    (∀ event ∈ between, event.pointer? = none) →
    previous = e ∨ .writable (.endpoint previous) ∈ between

/-- No pointer report overtakes the one before it. -/
def NoOvertaking (trace : List UsbEvent) : Prop :=
  Log.Always (fun before event => ∀ e, event.pointer? = some e → Follows before e) trace

/-- The endpoint of the last pointer report, until it is seen writable. -/
def settle (last : Option Endpoint) (event : UsbEvent) : Option Endpoint :=
  match event.pointer? with
  | some e => some e
  | none => last.filter fun e => decide (event ≠ .writable (.endpoint e))

def unsettled (trace : List UsbEvent) : Option Endpoint := trace.foldl settle none

theorem settle_of_quiet {event : UsbEvent} (hquiet : event.pointer? = none)
    (h : settle last event = some e) : last = some e := by
  simp only [settle, hquiet, Option.filter_eq_some_iff] at h
  exact h.1

theorem unsettled_concat (trace : List UsbEvent) (event : UsbEvent) :
    unsettled (trace ++ [event]) = settle (unsettled trace) event := by
  simp [unsettled]

theorem unsettled_append {events : List UsbEvent} (hquiet : ∀ event ∈ events, event.pointer? = none)
    (h : unsettled (trace ++ events) = some e) : unsettled trace = some e := by
  rw [unsettled, List.foldl_append] at h
  change events.foldl settle (unsettled trace) = some e at h
  generalize unsettled trace = last at h
  induction events generalizing last with
  | nil => exact h
  | cons event events ih =>
    have hlast := ih (fun e he => hquiet e (List.mem_cons_of_mem _ he)) (settle last event) h
    exact settle_of_quiet (hquiet event List.mem_cons_self) hlast

/-- What the fold says about the reports themselves. -/
theorem follows_of_unsettled (h : unsettled trace = none ∨ unsettled trace = some e) :
    Follows trace e := by
  rintro front last between previous rfl hlast hbetween
  by_cases hwritable : UsbEvent.writable (.endpoint previous) ∈ between
  · exact .inr hwritable
  · have hstart : settle (unsettled front) last = some previous := by simp [settle, hlast]
    have hkept : between.foldl settle (some previous) = some previous := by
      clear h
      induction between with
      | nil => rfl
      | cons event between ih =>
        simp only [List.mem_cons, not_or] at hwritable
        have hsame : settle (some previous) event = some previous := by
          simp [settle, hbetween event List.mem_cons_self, Option.filter, Ne.symm hwritable.1]
        rw [List.foldl_cons, hsame]
        exact ih (fun e he => hbetween e (List.mem_cons_of_mem _ he)) hwritable.2
    have hsettled : unsettled (front ++ last :: between) = some previous := by
      rw [unsettled, List.foldl_append, List.foldl_cons]
      change between.foldl settle (settle (unsettled front) last) = some previous
      rw [hstart, hkept]
    rw [hsettled] at h
    left
    simpa using h

theorem NoOvertaking.append {trace events : List UsbEvent} (h : NoOvertaking trace)
    (hquiet : ∀ event ∈ events, event.pointer? = none) : NoOvertaking (trace ++ events) := by
  induction events generalizing trace with
  | nil => simpa using h
  | cons event events ih =>
    rw [List.append_cons]
    refine ih (h.concat fun e he => ?_) fun e he => hquiet e (List.mem_cons_of_mem _ he)
    rw [hquiet event List.mem_cons_self] at he
    cases he

-- ---------------------------------------------------------------------------
-- Calls that write no pointer report
-- ---------------------------------------------------------------------------

namespace HidState

structure Calm (hid hid' : HidState) : Prop where
  trace : ∃ events, hid'.usb.trace = hid.usb.trace ++ events ∧
    ∀ event ∈ events, event.pointer? = none
  inflight : (hid'.queues .pointer).inflightEndpoint = (hid.queues .pointer).inflightEndpoint
  pending : hid'.pending .pointer = hid.pending .pointer

theorem Calm.refl (hid : HidState) : Calm hid hid := ⟨⟨[], by simp⟩, rfl, rfl⟩

theorem Calm.trans (h : Calm a b) (h' : Calm b c) : Calm a c := by
  obtain ⟨events, htrace, hquiet⟩ := h.trace
  obtain ⟨more, htrace', hquiet'⟩ := h'.trace
  refine ⟨⟨events ++ more, by rw [htrace', htrace, List.append_assoc], ?_⟩,
    h'.inflight.trans h.inflight, h'.pending.trans h.pending⟩
  intro event hevent
  rcases List.mem_append.mp hevent with hevent | hevent
  · exact hquiet event hevent
  · exact hquiet' event hevent

theorem Calm.count (h : Calm hid hid') : hid'.count .pointer = hid.count .pointer := by
  rw [← length_pending, h.pending, length_pending]

theorem calm_of_eq (htrace : hid'.usb.trace = hid.usb.trace) (hqueues : hid'.queues = hid.queues) :
    Calm hid hid' := by
  refine ⟨⟨[], by simp [htrace]⟩, by rw [hqueues], ?_⟩
  rw [HidState.pending, hqueues, HidState.pending]

theorem calm_record {event : UsbEvent} (hid : HidState) (hquiet : event.pointer? = none) :
    Calm hid (hid.record event) :=
  ⟨⟨[event], rfl, by simpa using hquiet⟩, rfl, rfl⟩

theorem calm_ask (hid : HidState) : Calm hid hid.ask.2 := calm_of_eq rfl rfl

theorem calm_setOpen (hid : HidState) (device : Device) (isOpen : Bool) :
    Calm hid (hid.setOpen device isOpen) := calm_of_eq rfl rfl

theorem calm_poll (hid : HidState) (device : Device) : Calm hid (hid.poll device).2 := by
  unfold poll
  simp only
  split
  · exact (calm_ask hid).trans (calm_record _ rfl)
  · exact calm_ask hid

theorem calm_openHidFd (hid : HidState) (device : Device) : Calm hid (hid.openHidFd device).2 :=
  (calm_ask hid).trans (calm_setOpen _ _ _)

theorem calm_hidFd (hid : HidState) (device : Device) : Calm hid (hid.hidFd device).2 := by
  have hpoll := calm_poll hid device
  unfold hidFd
  split
  · split <;> rename_i heq <;> rw [heq] at hpoll
    · exact hpoll
    · exact hpoll
    · exact hpoll.trans ((calm_setOpen _ _ _).trans (calm_openHidFd _ _))
  · exact calm_openHidFd hid device

/-- A write is the last event of its call, or writes nothing. -/
theorem write_cases (hid : HidState) (device : Device) (bytes : List UInt8) :
    Calm hid (hid.write device bytes).2 ∧ (hid.write device bytes).1 ≠ .complete ∨
      (hid.write device bytes).1 = .complete ∧
        (hid.write device bytes).2 = hid.ask.2.record (.wrote device bytes) := by
  unfold write
  simp only
  cases hwrote : hid.ask.1.wrote with
  | complete => exact .inr ⟨rfl, rfl⟩
  | again => exact .inl ⟨calm_ask hid, by simp⟩
  | failed => exact .inl ⟨calm_ask hid, by simp⟩

theorem writeHidReport_cases (hid : HidState) (device : Device) (bytes : List UInt8) :
    Calm hid (hid.writeHidReport device bytes).2 ∧ (hid.writeHidReport device bytes).1 ≠ .complete ∨
      (hid.writeHidReport device bytes).1 = .complete ∧
        ∃ mid, Calm hid mid ∧ (hid.writeHidReport device bytes).2 = mid.record (.wrote device bytes) := by
  have hfd := calm_hidFd hid device
  unfold writeHidReport
  generalize hid.hidFd device = opened at hfd ⊢
  obtain ⟨answer, hid₁⟩ := opened
  cases answer with
  | complete =>
    dsimp only
    rcases write_cases hid₁ device bytes with ⟨hcalm, hne⟩ | ⟨hcomplete, hwrite⟩
    · generalize hid₁.write device bytes = wrote at hcalm hne ⊢
      obtain ⟨answer, hid₂⟩ := wrote
      cases answer with
      | complete => exact absurd rfl hne
      | again => exact .inl ⟨hfd.trans hcalm, by simp⟩
      | failed => exact .inl ⟨hfd.trans (hcalm.trans (calm_setOpen _ _ _)), by simp⟩
    · rw [show hid₁.write device bytes = (.complete, hid₁.ask.2.record (.wrote device bytes)) from
        Prod.ext hcomplete hwrite]
      exact .inr ⟨rfl, hid₁.ask.2, hfd.trans (calm_ask hid₁), rfl⟩
  | again => exact .inl ⟨hfd, by simp⟩
  | failed => exact .inl ⟨hfd, by simp⟩

theorem calm_countWriteError (hid : HidState) : Calm hid hid.countWriteError := calm_of_eq rfl rfl

theorem calm_setQueue {queue : HidReportQueue q}
    (hinflight : queue.inflightEndpoint = (hid.queues q).inflightEndpoint)
    (hpending : queue.reports.toList.map HidReport.entry = hid.pending q) :
    Calm hid (hid.setQueue q queue) := by
  refine ⟨⟨[], by simp⟩, ?_, (idle_setQueue hpending).pending .pointer⟩
  by_cases hq : QueueId.pointer = q
  · subst hq
    simpa using hinflight
  · simp [hq]

theorem calm_block (hid : HidState) (q : QueueId) (now : UInt64) : Calm hid (hid.block q now) := by
  unfold block
  split
  · exact calm_setQueue rfl rfl
  · exact Calm.refl hid

theorem calm_pollPrevious (hid : HidState) (previous : Endpoint) :
    Calm hid (hid.pollPrevious previous).2 := by
  unfold pollPrevious
  split
  · exact calm_poll hid _
  · exact calm_ask hid

theorem calm_writePasteCodepoint (hid : HidState) (codepoint : UInt32) :
    Calm hid (hid.writePasteCodepoint codepoint).2 := by
  unfold writePasteCodepoint
  split
  · rename_i payload _ _
    rcases writeHidReport_cases hid .paste payload with ⟨hcalm, -⟩ | ⟨hcomplete, mid, hcalm, hwrite⟩
    · generalize hid.writeHidReport .paste payload = wrote at hcalm ⊢
      obtain ⟨answer, hid'⟩ := wrote
      cases answer <;> exact hcalm
    · have hwrote : hid.writeHidReport .paste payload = (.complete, _) := Prod.ext hcomplete hwrite
      rw [hwrote]
      exact hcalm.trans (calm_record mid rfl)
  · exact Calm.refl hid

end HidState

theorem Turn.Ends.and {t : Turn} (h : t.Ends P Q) (h' : t.Ends P' Q') :
    t.Ends P fun hid => Q hid ∧ Q' hid := by
  cases t with
  | stop result hid => exact h
  | next hid => exact ⟨h, h'⟩

namespace HidState

theorem checkPace_calm (hid : HidState) (q : QueueId) (now : UInt64) :
    (hid.checkPace q now).Ends (Calm hid) (· = hid) := by
  unfold checkPace
  split
  · exact Calm.refl hid
  · split
    · exact calm_countWriteError hid
    · exact rfl

theorem pasteFront_calm (hid : HidState) (q : QueueId) (now : UInt64) (h : 0 < hid.count q) :
    (hid.pasteFront q now).Ends (Calm hid) (· = hid) := by
  unfold pasteFront
  simp only
  split
  · exact rfl
  · have hwrite := calm_writePasteCodepoint hid (hid.queues q).reports.front.pasteCodepoint
    have hcalls := idle_writePasteCodepoint hid (hid.queues q).reports.front.pasteCodepoint
    split <;> rename_i heq <;> rw [heq] at hwrite hcalls
    · exact hwrite.trans (calm_countWriteError _)
    · refine hwrite.trans (calm_setQueue rfl ?_)
      rw [HidState.pending, hcalls.queues, RingBuffer.toList_set_front _ _ h,
        RingBuffer.toList_eq_front_cons _ h]
      rfl

-- ---------------------------------------------------------------------------
-- The keyboard queue
-- ---------------------------------------------------------------------------

theorem calm_setQueue_keyboard (hid : HidState) (queue : HidReportQueue .keyboard) :
    Calm hid (hid.setQueue .keyboard queue) := by
  have hne : QueueId.pointer ≠ QueueId.keyboard := by simp
  exact ⟨⟨[], by simp⟩, by simp [hne], by simp [HidState.pending, hne]⟩

theorem pointer_of_queue {e : Endpoint} (h : e.queue = .keyboard) (bytes : List UInt8) :
    (UsbEvent.wrote (.endpoint e) bytes).pointer? = none := by
  simp [UsbEvent.pointer?, UsbEvent.report?, h]

theorem awaitPrevious_keyboard (hid : HidState) (now : UInt64) :
    (hid.awaitPrevious .keyboard now).Ends (Calm hid) (Calm hid) := by
  unfold awaitPrevious
  split
  · exact Calm.refl hid
  · rename_i previous _
    split
    · exact Calm.refl hid
    · have hpoll := calm_pollPrevious hid previous
      split <;> rename_i heq <;> rw [heq] at hpoll
      · exact hpoll.trans (calm_block _ _ _)
      · exact hpoll.trans (calm_block _ _ _)
      · exact hpoll.trans (calm_setQueue_keyboard _ _)
      · exact hpoll.trans (calm_countWriteError _)

theorem calm_popFront_keyboard (hid : HidState) (now : UInt64) : Calm hid (hid.popFront .keyboard now) :=
  (calm_setQueue_keyboard hid _).trans (calm_of_eq rfl rfl)

theorem submitFront_keyboard (hid : HidState) (now : UInt64) :
    (hid.submitFront .keyboard now).Ends (Calm hid) (Calm hid) := by
  have hquiet := pointer_of_queue (hid.queues .keyboard).reports.front.queue_endpoint
    (hid.queues .keyboard).reports.front.bytes
  unfold submitFront
  simp only
  rcases writeHidReport_cases hid (.endpoint (hid.queues .keyboard).reports.front.endpoint)
    (hid.queues .keyboard).reports.front.bytes with ⟨hcalm, hne⟩ | ⟨hcomplete, mid, hcalm, hwrite⟩
  · split <;> rename_i heq <;> rw [heq] at hcalm hne
    · exact absurd rfl hne
    · exact hcalm.trans ((calm_block _ _ _).trans (calm_of_eq rfl rfl))
    · exact hcalm.trans ((calm_block _ _ _).trans
        ((calm_countWriteError _).trans (calm_setQueue_keyboard _ _)))
  · rw [Prod.ext hcomplete hwrite (y := (.complete, mid.record _))]
    exact hcalm.trans ((calm_record mid hquiet).trans (calm_popFront_keyboard _ _))

theorem flushTurn_stages (hid : HidState) (q : QueueId) (h : 0 < hid.count q)
    (hcalm : ∀ hid', Calm hid hid' → P hid')
    (hawait : ∀ hid' now, Calm hid hid' → 0 < hid'.count q → (hid'.awaitPrevious q now).Ends P Q)
    (hpaste : ∀ hid' hid'', Q hid' → Calm hid' hid'' → P hid'')
    (hsubmit : ∀ hid' now, Q hid' → (hid'.submitFront q now).Ends P R) :
    (hid.flushTurn q).Ends P R := by
  have hidle : Idle hid hid.now.2 := (calls_ask hid).idle
  have hstart : Calm hid hid.now.2 := calm_ask hid
  unfold flushTurn
  generalize hid.now = asked at hidle hstart ⊢
  obtain ⟨now, hid₀⟩ := asked
  have hpos₀ : 0 < hid₀.count q := by rwa [hidle.count]
  refine ((checkPace_calm hid₀ q now).imp (fun _ hc => hcalm _ (hstart.trans hc)) fun _ => id).andThen ?_
  rintro hid₁ rfl
  refine ((hawait hid₁ now hstart hpos₀).and (awaitPrevious_ends hid₁ q now)).andThen ?_
  rintro hid₂ ⟨hQ, hidle₂⟩
  have hpos₂ : 0 < hid₂.count q := by rwa [hidle₂.count]
  refine ((pasteFront_calm hid₂ q now hpos₂).imp (fun _ hc => hpaste _ _ hQ hc) fun _ => id).andThen ?_
  rintro hid₃ rfl
  exact hsubmit hid₃ now hQ

theorem flushTurn_keyboard (hid : HidState) (h : 0 < hid.count .keyboard) :
    (hid.flushTurn .keyboard).Ends (Calm hid) (Calm hid) := by
  refine flushTurn_stages hid .keyboard h (fun _ hc => hc) ?_ (fun _ _ => Calm.trans) ?_
  · intro hid' now hcalm _
    exact (awaitPrevious_keyboard hid' now).imp (fun _ => hcalm.trans) fun _ => hcalm.trans
  · intro hid' now hcalm
    exact (submitFront_keyboard hid' now).imp (fun _ => hcalm.trans) fun _ => hcalm.trans

theorem calm_flushReports_keyboard (hid : HidState) : Calm hid (hid.flushReports .keyboard).2 :=
  flushReports_induction (P := Calm hid) .keyboard
    (fun hid' hpos h => (flushTurn_keyboard hid' hpos).imp (fun _ => h.trans) fun _ => h.trans)
    (Calm.refl hid)

-- ---------------------------------------------------------------------------
-- The pointer queue
-- ---------------------------------------------------------------------------

/-- The endpoint of the last report is remembered in the queue as long as it is
not settled. Behind a direct write it is not, and then the oldest report of
the queue is an absolute one too. -/
structure Ordered (hid : HidState) : Prop where
  trace : NoOvertaking hid.usb.trace
  inflight : ∀ e, unsettled hid.usb.trace = some e →
    (hid.queues .pointer).inflightEndpoint = some e ∨
      (hid.queues .pointer).inflightEndpoint = none ∧ e = .touch ∧
        ∀ entry ∈ (hid.pending .pointer).head?, entry.report.1 = .touch

def Clear (hid : HidState) (e : Endpoint) : Prop :=
  unsettled hid.usb.trace = none ∨ unsettled hid.usb.trace = some e

theorem Ordered.calm (h : Ordered hid) (hcalm : Calm hid hid') : Ordered hid' := by
  obtain ⟨events, htrace, hquiet⟩ := hcalm.trace
  refine ⟨htrace ▸ h.trace.append hquiet, fun e he => ?_⟩
  rw [htrace] at he
  rw [hcalm.inflight, hcalm.pending]
  exact h.inflight e (unsettled_append hquiet he)

theorem Clear.calm (h : Clear hid e) (hcalm : Calm hid hid') : Clear hid' e := by
  obtain ⟨events, htrace, hquiet⟩ := hcalm.trace
  rw [Clear, htrace]
  cases hlast : unsettled (hid.usb.trace ++ events) with
  | none => exact .inl rfl
  | some e' =>
    rcases h with h | h
    · rw [unsettled_append hquiet hlast] at h
      cases h
    · rw [unsettled_append hquiet hlast] at h
      exact .inr h

theorem noOvertaking_record (h : NoOvertaking hid.usb.trace) (hclear : Clear hid e)
    (bytes : List UInt8) : NoOvertaking (hid.record (.wrote (.endpoint e) bytes)).usb.trace := by
  refine h.concat fun e' he' => ?_
  have hsame : e' = e := by
    simp only [UsbEvent.pointer?, UsbEvent.report?] at he'
    split at he'
    · exact (Option.some.inj he').symm
    · cases he'
  exact hsame ▸ follows_of_unsettled hclear

theorem unsettled_record (hid : HidState) (hqueue : e.queue = .pointer) (bytes : List UInt8) :
    unsettled (hid.record (.wrote (.endpoint e) bytes)).usb.trace = some e := by
  have hpointer : (UsbEvent.wrote (.endpoint e) bytes).pointer? = some e := by
    simp [UsbEvent.pointer?, UsbEvent.report?, hqueue]
  simp [record, unsettled_concat, settle, hpointer]

theorem head_pending (hid : HidState) (q : QueueId) (h : 0 < hid.count q) :
    (hid.pending q).head? = some (hid.queues q).reports.front.entry := by
  rw [pending, RingBuffer.toList_eq_front_cons _ h]
  rfl

theorem pollPrevious_ready {hid hid' : HidState} (heq : hid.pollPrevious previous = (.ready, hid')) :
    hid' = hid.ask.2.record (.writable (.endpoint previous)) := by
  unfold pollPrevious at heq
  split at heq
  · unfold poll at heq
    simp only [Prod.mk.injEq] at heq
    obtain ⟨hready, rfl⟩ := heq
    rw [if_pos hready]
  · simp only [Prod.mk.injEq] at heq
    split at heq <;> cases heq.1

theorem settle_writable (h : ∀ e, last = some e → e = previous) :
    settle last (.writable (.endpoint previous)) = none := by
  cases last with
  | none => rfl
  | some e =>
    obtain rfl := h e rfl
    simp [settle, UsbEvent.pointer?, UsbEvent.report?, Option.filter]

theorem awaitPrevious_pointer (h : Ordered hid) (hpos : 0 < hid.count .pointer) (now : UInt64) :
    (hid.awaitPrevious .pointer now).Ends Ordered fun hid' =>
      Ordered hid' ∧ Clear hid' (hid'.queues .pointer).reports.front.endpoint := by
  unfold awaitPrevious
  split
  · rename_i hnone
    refine ⟨h, ?_⟩
    cases hlast : unsettled hid.usb.trace with
    | none => exact .inl hlast
    | some e =>
      rcases h.inflight e hlast with hsome | ⟨-, rfl, hfront⟩
      · rw [hnone] at hsome
        cases hsome
      · right
        rw [hlast, ← hfront _ (head_pending hid .pointer hpos)]
        rfl
  · rename_i previous hprevious
    have hlast : ∀ e, unsettled hid.usb.trace = some e → e = previous := by
      intro e he
      rcases h.inflight e he with hsome | ⟨hnone, -⟩
      · rw [hprevious] at hsome
        exact (Option.some.inj hsome).symm
      · rw [hprevious] at hnone
        cases hnone
    split
    · rename_i hfront
      refine ⟨h, ?_⟩
      cases hsettled : unsettled hid.usb.trace with
      | none => exact .inl hsettled
      | some e => exact .inr (by rw [hsettled, hlast e hsettled, hfront])
    · have hpoll := calm_pollPrevious hid previous
      split <;> rename_i heq
      · rw [heq] at hpoll
        exact h.calm (hpoll.trans (calm_block _ _ _))
      · rw [heq] at hpoll
        exact h.calm (hpoll.trans (calm_block _ _ _))
      · -- the endpoint before was seen writable, so nothing is left to wait for
        rename_i hid'
        have hsettled : unsettled hid'.usb.trace = none := by
          rw [pollPrevious_ready heq]
          exact (unsettled_concat _ _).trans (settle_writable hlast)
        rw [heq] at hpoll
        refine ⟨⟨(h.calm hpoll).trace, fun e he => ?_⟩, .inl hsettled⟩
        exact absurd (hsettled.symm.trans he) (by simp)
      · rw [heq] at hpoll
        exact h.calm (hpoll.trans (calm_countWriteError _))

def Busy (hid : HidState) : Prop :=
  0 < hid.count .pointer ∨ (hid.queues .pointer).inflightEndpoint ≠ none

theorem submitFront_pointer (h : Ordered hid)
    (hclear : Clear hid (hid.queues .pointer).reports.front.endpoint) (now : UInt64) :
    (hid.submitFront .pointer now).Ends Ordered fun hid' => Ordered hid' ∧ Busy hid' := by
  have hqueue := (hid.queues .pointer).reports.front.queue_endpoint
  unfold submitFront
  simp only
  rcases writeHidReport_cases hid (.endpoint (hid.queues .pointer).reports.front.endpoint)
    (hid.queues .pointer).reports.front.bytes with ⟨hcalm, hne⟩ | ⟨hcomplete, mid, hcalm, hwrite⟩
  · split <;> rename_i heq <;> rw [heq] at hcalm hne
    · exact absurd rfl hne
    · exact h.calm (hcalm.trans ((calm_block _ _ _).trans (calm_of_eq rfl rfl)))
    · exact h.calm (hcalm.trans ((calm_block _ _ _).trans
        ((calm_countWriteError _).trans (calm_setQueue rfl rfl))))
  · have hcalls := calls_writeHidReport hid (.endpoint (hid.queues .pointer).reports.front.endpoint)
      (hid.queues .pointer).reports.front.bytes
    rw [Prod.ext hcomplete hwrite (y := (.complete, mid.record _))] at hcalls ⊢
    have hinflight : (((mid.record (.wrote (.endpoint (hid.queues .pointer).reports.front.endpoint)
        (hid.queues .pointer).reports.front.bytes)).popFront .pointer now).queues
          .pointer).inflightEndpoint = some (hid.queues .pointer).reports.front.endpoint := by
      simp only [popFront, queues_setQueue_self]
      rw [hcalls.queues]
    refine ⟨⟨noOvertaking_record (h.calm hcalm).trace (hclear.calm hcalm) _, fun e he => .inl ?_⟩, ?_⟩
    · rw [hinflight, ← he]
      exact (unsettled_record mid hqueue _).symm
    · exact .inr (by rw [hinflight]; simp)

theorem flushTurn_pointer (h : Ordered hid) (hpos : 0 < hid.count .pointer) :
    (hid.flushTurn .pointer).Ends Ordered fun hid' => Ordered hid' ∧ Busy hid' := by
  refine flushTurn_stages (Q := fun hid' =>
      Ordered hid' ∧ Clear hid' (hid'.queues .pointer).reports.front.endpoint) hid .pointer hpos
    (fun _ => h.calm) ?_ (fun _ _ hQ => hQ.1.calm) ?_
  · intro hid' now hcalm hpos'
    exact awaitPrevious_pointer (h.calm hcalm) hpos' now
  · rintro hid' now ⟨hordered, hclear⟩
    exact submitFront_pointer hordered hclear now

theorem ordered_flushReports (h : Ordered hid) (q : QueueId) : Ordered (hid.flushReports q).2 := by
  cases q with
  | keyboard => exact h.calm (calm_flushReports_keyboard hid)
  | pointer =>
    exact flushReports_induction .pointer
      (fun _ hpos h => (flushTurn_pointer h hpos).imp (fun _ => id) fun _ => And.left) h

/-- A flush that begins with a report leaves one, or the endpoint of the last. -/
theorem busy_flushReports (h : Ordered hid) (hpos : 0 < hid.count .pointer) :
    Busy (hid.flushReports .pointer).2 := by
  refine (flushReports_induction (P := fun hid => Ordered hid ∧ Busy hid) .pointer ?_ ⟨h, .inl hpos⟩).2
  rintro hid hpos ⟨h, -⟩
  have hends := (flushTurn_pointer h hpos)
  have hidle := hid.flushTurn_ends .pointer hpos
  cases hturn : hid.flushTurn .pointer with
  | stop result hid' =>
    rw [hturn] at hends hidle
    exact ⟨hends, .inl (by rw [Idle.count hidle]; exact hpos)⟩
  | next hid' =>
    rw [hturn] at hends
    exact hends

/-- The last pointer report was written directly and is not settled, and the
queue is empty. -/
def Direct (hid : HidState) : Prop :=
  unsettled hid.usb.trace = some .touch ∧ (hid.queues .pointer).inflightEndpoint = none ∧
    hid.count .pointer = 0

theorem Busy.not_direct (h : Busy hid) : ¬ hid.Direct := by
  rintro ⟨-, hnone, hzero⟩
  rcases h with hpos | hsome
  · omega
  · exact hsome hnone

/-- Without a write, the order asks only for the head of the queue behind a direct touch. -/
theorem Ordered.of_head (h : Ordered hid) (htrace : hid'.usb.trace = hid.usb.trace)
    (hinflight : (hid'.queues .pointer).inflightEndpoint = (hid.queues .pointer).inflightEndpoint)
    (hhead : unsettled hid.usb.trace = some .touch →
      (hid.queues .pointer).inflightEndpoint = none →
      (∀ entry ∈ (hid.pending .pointer).head?, entry.report.1 = .touch) →
      ∀ entry ∈ (hid'.pending .pointer).head?, entry.report.1 = .touch) : Ordered hid' := by
  refine ⟨htrace ▸ h.trace, fun e he => ?_⟩
  rw [htrace] at he
  rw [hinflight]
  rcases h.inflight e he with hsome | ⟨hnone, rfl, hold⟩
  · exact .inl hsome
  · exact .inr ⟨hnone, rfl, hhead he hnone hold⟩

theorem Ordered.append (h : Ordered hid) (htrace : hid'.usb.trace = hid.usb.trace)
    (hinflight : (hid'.queues .pointer).inflightEndpoint = (hid.queues .pointer).inflightEndpoint)
    (hpending : hid'.pending .pointer = hid.pending .pointer ++ [new])
    (hdirect : new.report.1 = .touch ∨ ¬ hid.Direct) : Ordered hid' := by
  refine h.of_head htrace hinflight fun htouch hnone hhead entry hentry => ?_
  rw [hpending] at hentry
  cases hold : hid.pending .pointer with
  | nil =>
    rw [hold] at hentry
    obtain rfl : new = entry := by simpa using hentry
    have hzero : hid.count .pointer = 0 := by rw [← length_pending, hold]; rfl
    exact hdirect.resolve_right fun hno => hno ⟨htouch, hnone, hzero⟩
  | cons first rest =>
    rw [hold] at hentry hhead
    exact hhead entry hentry

theorem Ordered.overwrite (h : Ordered hid) (htrace : hid'.usb.trace = hid.usb.trace)
    (hinflight : (hid'.queues .pointer).inflightEndpoint = (hid.queues .pointer).inflightEndpoint)
    (hold : hid.pending .pointer = front ++ [old]) (hpending : hid'.pending .pointer = front ++ [new])
    (hsame : new.report.1 = old.report.1) : Ordered hid' := by
  refine h.of_head htrace hinflight fun _ _ hhead entry hentry => ?_
  rw [hpending] at hentry
  rw [hold] at hhead
  cases front with
  | nil =>
    obtain rfl : new = entry := by simpa using hentry
    rw [hsame]
    exact hhead old rfl
  | cons first front => exact hhead entry hentry

theorem overwriteBack_pointer (h : Ordered hid) (hpos : 0 < hid.count .pointer) (payload : Payload) :
    Ordered (hid.overwriteBack .pointer payload) ∧
      0 < (hid.overwriteBack .pointer payload).count .pointer := by
  have hpends := pends_overwriteBack hid .pointer payload hpos
  have hinflight : ((hid.overwriteBack .pointer payload).queues .pointer).inflightEndpoint =
      (hid.queues .pointer).inflightEndpoint := by simp [overwriteBack]
  refine ⟨h.overwrite rfl hinflight (pending_eq_append_back hid .pointer hpos) hpends.pending rfl, ?_⟩
  rw [← length_pending, hpends.pending]
  simp

theorem pushBack_pointer (h : Ordered hid) (hqueue : e.queue = .pointer)
    (hdirect : e = .touch ∨ ¬ hid.Direct) (payload : Payload) (motion : Bool) (delayMs : UInt16)
    (room : hid.count e.queue < hidReportQueueCapacity) :
    Ordered (hid.pushBack e payload motion delayMs room) ∧
      0 < (hid.pushBack e payload motion delayMs room).count .pointer := by
  have hpends := (pends_pushBack hid e payload motion delayMs room).pending
  have hinflight : ((hid.pushBack e payload motion delayMs room).queues e.queue).inflightEndpoint =
      (hid.queues e.queue).inflightEndpoint := by simp [pushBack]
  rw [hqueue] at hpends hinflight
  refine ⟨h.append rfl hinflight hpends hdirect, ?_⟩
  rw [← length_pending, hpends]
  simp

theorem makeRoom_pointer (h : Ordered hid) :
    Ordered (hid.makeRoom .pointer) ∧ ((hid.makeRoom .pointer).Direct → hid.Direct) := by
  unfold makeRoom
  split
  · rename_i hfull
    have hpos : 0 < hid.count .pointer := by
      rw [hfull]
      decide
    exact ⟨ordered_flushReports h .pointer, fun hd => absurd hd (busy_flushReports h hpos).not_direct⟩
  · exact ⟨h, id⟩

theorem queueReport_pointer (h : Ordered hid) (hqueue : e.queue = .pointer)
    (hdirect : e = .touch ∨ ¬ hid.Direct) (payload : Payload) (motion : Bool) (delayMs : UInt16) :
    Ordered (hid.queueReport e payload motion delayMs).2 ∧
      Busy (hid.queueReport e payload motion delayMs).2 := by
  unfold queueReport
  split
  · rename_i hcoalesces
    simp only [coalesces, Bool.and_eq_true, decide_eq_true_eq] at hcoalesces
    obtain ⟨⟨⟨⟨-, hpos⟩, -⟩, -⟩, -⟩ := hcoalesces
    rw [hqueue] at hpos ⊢
    obtain ⟨hordered, hcount⟩ := overwriteBack_pointer h hpos payload
    exact ⟨ordered_flushReports hordered .pointer, busy_flushReports hordered hcount⟩
  · obtain ⟨hroom, hkept⟩ := makeRoom_pointer h
    rw [← hqueue] at hroom hkept
    simp only
    split
    · rename_i room
      obtain ⟨hordered, hcount⟩ := pushBack_pointer hroom hqueue
        (hdirect.imp_right fun hno hd => hno (hkept hd)) payload motion delayMs room
      refine ⟨ordered_flushReports hordered e.queue, ?_⟩
      generalize (hid.makeRoom e.queue).pushBack e payload motion delayMs room = pushed at hordered hcount ⊢
      rw [hqueue]
      exact busy_flushReports hordered hcount
    · rename_i hfull
      refine ⟨hroom.calm (calm_of_eq rfl rfl), .inl ?_⟩
      rw [hqueue] at hfull
      change 0 < (hid.makeRoom e.queue).count .pointer
      rw [hqueue]
      exact Nat.lt_of_lt_of_le (by decide) (Nat.le_of_not_lt hfull)

end HidState

end NanokvmRdp.Hid
