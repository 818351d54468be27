import NanokvmRdp.Hid.DeviceLaws

/-!
# Queues at rest

Between two calls a queue that has nothing to write is not blocked, the
endpoint it waits for is one of its own, and no character is left over for
the clipboard. Every operation keeps this, whatever the kernel answers, and any
other property of the queues that reports and flushes keep.
-/

namespace NanokvmRdp.Hid

namespace HidState

structure QueuesRest (hid : HidState) : Prop where
  unblocked : ∀ q, hid.count q = 0 → (hid.queues q).blockedAt = 0
  inflight : ∀ q, ∀ e ∈ (hid.queues q).inflightEndpoint, e.queue = q

theorem QueuesRest.congr (h : QueuesRest hid) (hqueues : hid'.queues = hid.queues) :
    QueuesRest hid' where
  unblocked q := by
    rw [HidState.count, hqueues]
    exact h.unblocked q
  inflight q := by
    rw [hqueues]
    exact h.inflight q

theorem QueuesRest.setQueue {hid : HidState} {queue : HidReportQueue q} (h : hid.QueuesRest)
    (hunblocked : queue.reports.count = 0 → queue.blockedAt = 0)
    (hinflight : ∀ e ∈ queue.inflightEndpoint, e.queue = q) : (hid.setQueue q queue).QueuesRest := by
  constructor <;> intro q' <;> by_cases hq : q' = q
  · subst hq
    simpa [HidState.count] using hunblocked
  · simpa [HidState.count, hq] using h.unblocked q'
  · subst hq
    simpa using hinflight
  · simpa [hq] using h.inflight q'

theorem QueuesRest.block {hid : HidState} (h : hid.QueuesRest) (hpos : 0 < hid.count q)
    (now : UInt64) : (hid.block q now).QueuesRest := by
  unfold HidState.block
  split
  · exact h.setQueue (fun hzero => absurd hzero hpos.ne') (h.inflight q)
  · exact h

-- ---------------------------------------------------------------------------
-- One turn
-- ---------------------------------------------------------------------------

def Waiting (q : QueueId) (hid : HidState) : Prop := hid.QueuesRest ∧ 0 < hid.count q

theorem Waiting.congr (h : Waiting q hid) (hqueues : hid'.queues = hid.queues) : Waiting q hid' :=
  ⟨h.1.congr hqueues, by rw [HidState.count, hqueues]; exact h.2⟩

theorem checkPace_rest {hid : HidState} (h : hid.Waiting q) (now : UInt64) :
    (hid.checkPace q now).Ends QueuesRest (Waiting q) := by
  unfold checkPace
  split
  · exact h.1
  · split
    · exact h.1.congr rfl
    · exact h

theorem awaitPrevious_rest {hid : HidState} (h : hid.Waiting q) (now : UInt64) :
    (hid.awaitPrevious q now).Ends QueuesRest (Waiting q) := by
  unfold awaitPrevious
  split
  · exact h
  · rename_i previous _
    split
    · exact h
    · have hpoll : (hid.pollPrevious previous).2.queues = hid.queues := by
        unfold pollPrevious
        split
        · exact (calls_poll hid _).queues
        · rfl
      split <;> rename_i heq <;> rw [heq] at hpoll
      · exact (h.congr hpoll).1.block (h.congr hpoll).2 now
      · exact (h.congr hpoll).1.block (h.congr hpoll).2 now
      · obtain ⟨hrest, hpos⟩ := h.congr hpoll
        refine ⟨hrest.setQueue (fun hzero => absurd hzero hpos.ne') (fun _ he => by cases he), ?_⟩
        simpa [HidState.count] using hpos
      · exact (h.congr hpoll).1.congr rfl

theorem pasteFront_rest {hid : HidState} (h : hid.Waiting q) (now : UInt64) :
    (hid.pasteFront q now).Ends QueuesRest (Waiting q) := by
  unfold pasteFront
  simp only
  split
  · exact h
  · have hwrite := (idle_writePasteCodepoint hid (hid.queues q).reports.front.pasteCodepoint).queues
    split <;> rename_i heq <;> rw [heq] at hwrite
    · exact (h.congr hwrite).1.congr rfl
    · obtain ⟨hrest, hpos⟩ := h.congr hwrite
      exact hrest.setQueue (fun hzero => absurd hzero hpos.ne') (hrest.inflight q)

theorem submitFront_rest {hid : HidState} (h : hid.Waiting q) (now : UInt64) :
    (hid.submitFront q now).Ends QueuesRest QueuesRest := by
  have hwrite := (calls_writeHidReport hid (.endpoint (hid.queues q).reports.front.endpoint)
    (hid.queues q).reports.front.bytes).queues
  unfold submitFront
  simp only
  split <;> rename_i heq <;> rw [heq] at hwrite
  · -- writing a report ends the time that the queue was blocked
    rename_i hid'
    have hfront := (hid'.queues q).reports.front.queue_endpoint
    refine @QueuesRest.congr (hid'.setQueue q _) _ ?_ rfl
    refine (h.congr hwrite).1.setQueue (fun _ => rfl) ?_
    rintro e ⟨⟩
    exact hfront
  · obtain ⟨hrest, hpos⟩ := h.congr hwrite
    exact (hrest.block hpos now).congr rfl
  · obtain ⟨hrest, hpos⟩ := h.congr hwrite
    have hblocked := hrest.block hpos now
    exact (@QueuesRest.congr _ (HidState.countWriteError _) hblocked rfl).setQueue
      (hblocked.unblocked q) (hblocked.inflight q)

theorem flushTurn_rest {hid : HidState} (h : hid.Waiting q) :
    (hid.flushTurn q).Ends QueuesRest QueuesRest := by
  have hnow : hid.now.2.Waiting q := h.congr rfl
  refine (checkPace_rest hnow hid.now.1).andThen fun _ h₁ => ?_
  refine (awaitPrevious_rest h₁ hid.now.1).andThen fun _ h₂ => ?_
  exact (pasteFront_rest h₂ hid.now.1).andThen fun _ h₃ => submitFront_rest h₃ hid.now.1

theorem QueuesRest.flushReports {hid : HidState} (h : hid.QueuesRest) (q : QueueId) :
    (hid.flushReports q).2.QueuesRest :=
  flushReports_induction q (fun _ hpos h => flushTurn_rest ⟨h, hpos⟩) h

theorem QueuesRest.queueReport {hid : HidState} (h : hid.QueuesRest) (e : Endpoint)
    (payload : Payload) (motion : Bool) (delayMs : UInt16) :
    (hid.queueReport e payload motion delayMs).2.QueuesRest := by
  have hroom : (hid.makeRoom e.queue).QueuesRest := by
    unfold makeRoom
    split
    · exact h.flushReports e.queue
    · exact h
  unfold HidState.queueReport
  split
  · refine QueuesRest.flushReports ?_ _
    exact h.setQueue (h.unblocked e.queue) (h.inflight e.queue)
  · simp only
    split
    · refine QueuesRest.flushReports ?_ _
      have hnow : (hid.makeRoom e.queue).now.2.QueuesRest := hroom.congr rfl
      refine hnow.setQueue (fun hzero => ?_) (hroom.inflight _)
      cases hzero
    · exact hroom.congr rfl

-- ---------------------------------------------------------------------------
-- The other queue
-- ---------------------------------------------------------------------------

/-- Neither the queue nor what was written from it changed. -/
structure Apart (q : QueueId) (hid hid' : HidState) : Prop where
  queue : hid'.queues q = hid.queues q
  submitted : hid'.submitted q = hid.submitted q
  input : hid'.input = hid.input

theorem Apart.refl (q : QueueId) (hid : HidState) : Apart q hid hid := ⟨rfl, rfl, rfl⟩

theorem Apart.trans (h : Apart q a b) (h' : Apart q b c) : Apart q a c :=
  ⟨h'.queue.trans h.queue, h'.submitted.trans h.submitted, h'.input.trans h.input⟩

theorem Calls.apart {reports : QueueId → List Report} (h : Calls hid reports hid')
    (hreports : reports q = []) : Apart q hid hid' :=
  ⟨congrFun h.queues q, by rw [h.submitted, hreports, List.append_nil], h.input⟩

theorem Quiet.apart (h : Quiet hid hid') (q : QueueId) : Apart q hid hid' :=
  ⟨congrFun h.queues q, h.submitted q, h.input⟩

structure Closed (P : HidState → Prop) : Prop where
  congr : ∀ {hid hid'}, P hid → hid'.queues = hid.queues → P hid'
  queueReport : ∀ {hid}, P hid → ∀ e payload motion delayMs,
    P (hid.queueReport e payload motion delayMs).2
  flushReports : ∀ {hid}, P hid → ∀ q, P (hid.flushReports q).2
  cleared : ∀ hid : HidState, P hid.clearQueues

/-- Between two calls such a `P` holds, and no character is left over. -/
structure Settled (hid : HidState) (P : HidState → Prop) : Prop where
  closed : Closed P
  queues : P hid
  unmarked : hid.input.keyboardPasteCodepoint = 0

theorem Settled.queue (h : Settled hid P) (hqueues : hid'.queues = hid.queues) : P hid' :=
  h.closed.congr h.queues hqueues

theorem Settled.queueReport {hid : HidState} (h : hid.Settled P) (e : Endpoint) (payload : Payload)
    (motion : Bool) (delayMs : UInt16) : (hid.queueReport e payload motion delayMs).2.Settled P :=
  ⟨h.closed, h.closed.queueReport h.queues e payload motion delayMs, by
    rw [input_queueReport]
    exact h.unmarked⟩

theorem Settled.setInput {hid : HidState} {input : HidInput} (h : hid.Settled P)
    (hunmarked : input.keyboardPasteCodepoint = 0) : (hid.setInput input).Settled P :=
  ⟨h.closed, h.queue rfl, hunmarked⟩

theorem Settled.calls (h : Settled hid P) (hqueues : hid'.queues = hid.queues)
    (hinput : hid'.input = hid.input) : Settled hid' P :=
  ⟨h.closed, h.queue hqueues, by rw [hinput]; exact h.unmarked⟩

theorem Settled.onSuccess {result : Bool × HidState} {rest : HidState → Bool × HidState}
    (h : result.2.Settled P) (hrest : ∀ hid : HidState, hid.Settled P → (rest hid).2.Settled P) :
    (onSuccess result rest).2.Settled P :=
  onSuccess_leaves (P := fun hid => hid.Settled P) h fun _ => hrest result.2 h

theorem Settled.sendKeyboard {hid : HidState} (h : hid.Settled P) : hid.sendKeyboard.2.Settled P :=
  (h.queueReport ..).calls rfl rfl

theorem Settled.sendRelative {hid : HidState} (h : hid.Settled P) (dx dy wheel : Int8) :
    (hid.sendRelative dx dy wheel).2.Settled P := h.queueReport ..

theorem Settled.queueAbsolute {hid : HidState} (h : hid.Settled P) (report : Payload) (motion : Bool) :
    (hid.queueAbsolute report motion).2.Settled P := (h.queueReport ..).setInput h.unmarked

theorem Settled.writeAbsoluteNow {hid : HidState} (h : hid.Settled P) (report : Payload) :
    (hid.writeAbsoluteNow report).2.Settled P := by
  have hwrite := calls_write hid (.endpoint .touch) report.bytes
  unfold HidState.writeAbsoluteNow
  split
  · exact h
  · split <;> rename_i heq <;> rw [heq] at hwrite
    · exact h.calls hwrite.queues hwrite.input
    · exact h.calls hwrite.queues hwrite.input

theorem Settled.sendAbsolute {hid : HidState} (h : hid.Settled P) (motion : Bool) :
    (hid.sendAbsolute motion).2.Settled P := by
  have hwritten := h.writeAbsoluteNow hid.input.absoluteReport
  unfold HidState.sendAbsolute
  simp only
  split
  · split <;> rename_i heq <;> rw [heq] at hwritten
    · exact hwritten
    · exact hwritten.queueAbsolute _ _
  · exact h.queueAbsolute _ _

theorem Settled.hidScancode {hid : HidState} (h : hid.Settled P) (code : UInt8) (extended release : Bool) :
    (hid.hidScancode code extended release).2.Settled P := by
  unfold HidState.hidScancode
  split
  · exact h
  · split
    · exact h
    · refine (h.setInput ?_).sendKeyboard
      unfold HidInput.setKey
      split <;> exact h.unmarked

theorem Settled.tapTextKey {hid : HidState} (h : hid.Settled P) (key : HidTextKey) :
    (hid.tapTextKey key).2.Settled P := by
  unfold HidState.tapTextKey
  refine Settled.onSuccess (Settled.sendKeyboard ?_) fun _ h => Settled.sendKeyboard ?_
  · exact h.setInput h.unmarked
  · exact h.setInput h.unmarked

theorem Settled.typeAsciiSequence {hid : HidState} (h : hid.Settled P) (text : List UInt8) :
    (hid.typeAsciiSequence text).2.Settled P := by
  induction text generalizing hid with
  | nil => exact h
  | cons character text ih =>
    rw [HidState.typeAsciiSequence]
    split
    · exact h
    · exact Settled.onSuccess (h.tapTextKey _) fun _ h => ih h

theorem Settled.typeCodepoint {hid : HidState} (h : hid.Settled P) (codepoint : UInt32) :
    (hid.typeCodepoint codepoint).2.Settled P := by
  unfold HidState.typeCodepoint
  split
  · exact h.tapTextKey _
  · split
    · refine Settled.onSuccess (h.typeAsciiSequence _) fun _ h => ?_
      exact Settled.onSuccess (h.typeAsciiSequence _) fun _ h => h.typeAsciiSequence _
    · split
      · exact h.typeAsciiSequence _
      · exact h

theorem Settled.pasteCodepoint {hid : HidState} (h : hid.Settled P) (codepoint : UInt32) :
    (hid.pasteCodepoint codepoint).2.Settled P := by
  unfold HidState.pasteCodepoint
  split
  · exact h
  · simp only
    generalize { hid.input with
      usages := Function.update (fun _ => false) 0x19 true
      modifiers := 0x08
      keyboardPasteCodepoint := codepoint } = marked
    have hmarked : P (hid.setInput marked) := h.queue rfl
    have hqueued : P (hid.setInput marked).sendKeyboard.2 :=
      h.closed.congr (h.closed.queueReport hmarked ..) rfl
    split
    · exact ⟨h.closed, h.closed.congr hqueued rfl, rfl⟩
    · exact Settled.sendKeyboard ⟨h.closed, h.closed.congr hqueued rfl, rfl⟩

theorem Settled.typeText {hid : HidState} (h : hid.Settled P) (fuel : Nat) (text : List UInt8) :
    (HidState.typeText fuel hid text).2.Settled P := by
  induction fuel generalizing hid text with
  | zero => cases text <;> exact h
  | succ fuel ih =>
    cases text with
    | nil => exact h
    | cons byte text =>
      rw [HidState.typeText]
      split
      · exact h
      · refine Settled.onSuccess ?_ fun _ h => ih h _
        unfold typeOrPaste
        split
        · exact h.typeCodepoint _
        · exact h.pasteCodepoint _
      · simp

theorem Settled.moveRelative {hid : HidState} (h : hid.Settled P) (fuel : Nat) (x y : Int) :
    (HidState.moveRelative fuel hid x y).2.Settled P := by
  induction fuel generalizing hid x y with
  | zero => exact h
  | succ fuel ih =>
    rw [HidState.moveRelative]
    split
    · exact h
    · exact Settled.onSuccess (h.sendRelative _ _ _) fun _ h => ih h _ _

theorem Settled.hidAbsolute {hid : HidState} (h : hid.Settled P) (x y : UInt16) (width height : UInt32)
    (flags : UInt16) : (hid.hidAbsolute x y width height flags).2.Settled P := by
  unfold HidState.hidAbsolute
  refine Settled.onSuccess (Settled.sendAbsolute ?_ _) fun _ h => ?_
  · exact h.setInput h.unmarked
  · split
    · exact h
    · exact h.sendRelative _ _ _

theorem Settled.hidRelative {hid : HidState} (h : hid.Settled P) (x y : Int16) (buttons : UInt8) :
    (hid.hidRelative x y buttons).2.Settled P := by
  unfold HidState.hidRelative
  have hheld : (hid.setInput { hid.input with
      buttons := buttons &&& hidTouchButtonsMask
      mouseButtons := buttons &&& hidTouchButtonsMask }).Settled P := h.setInput h.unmarked
  refine Settled.onSuccess ?_ fun _ h => ?_
  · split
    · exact hheld.sendAbsolute false
    · exact hheld
  · split
    · split
      · exact h
      · exact h.sendRelative _ _ _
    · exact h.moveRelative _ _ _

theorem Settled.hidWheel {hid : HidState} (h : hid.Settled P) (flags : UInt16) :
    (hid.hidWheel flags).2.Settled P := by
  unfold HidState.hidWheel
  simp only
  split
  · exact h
  · split
    · split
      · exact h
      · refine Settled.sendAbsolute ?_ _
        exact h.setInput h.unmarked
    · exact h.sendRelative _ _ _

theorem Settled.hidKeepalive {hid : HidState} (h : hid.Settled P) (nowMs : UInt64) :
    (hid.hidKeepalive nowMs).2.Settled P := by
  unfold HidState.hidKeepalive
  split
  · exact h
  · simp only
    generalize nowMs + hidKeepaliveIntervalMs = keepaliveAt
    refine Settled.onSuccess (Settled.sendRelative ?_ _ _ _) fun _ h => ?_
    · exact h.setInput h.unmarked
    · exact h.setInput h.unmarked

/-- A synchronisation needs no input to begin with: it takes any mark back. -/
theorem Closed.hidSynchronize {hid : HidState} (hP : Closed P) (h : P hid) :
    hid.hidSynchronize.2.Settled P := by
  have hreleased : ((hid.resetKeyboardState false).setInput hid.input.released).Settled P :=
    ⟨hP, hP.congr h rfl, rfl⟩
  exact (hreleased.sendKeyboard.queueReport ..).sendAbsolute false

theorem Closed.hidReleaseAll (hP : Closed P) (hid : HidState) : hid.hidReleaseAll.Settled P :=
  hP.hidSynchronize (hP.cleared hid)

theorem Settled.hidTypeUtf8 {hid : HidState} (h : hid.Settled P) (text : List UInt8) :
    (hid.hidTypeUtf8 text).2.Settled P := by
  have hend : ∀ result : Bool × HidState, result.2.Settled P → (endText result).2.Settled P := by
    rintro ⟨ok, hid⟩ h
    cases ok with
    | true => exact ⟨h.closed, h.queue rfl, h.unmarked⟩
    | false =>
      simp only [endText]
      exact h.closed.hidReleaseAll _
  have hpaced : (hid.setKeyboardDelay 20).Settled P := ⟨h.closed, h.queue rfl, h.unmarked⟩
  unfold HidState.hidTypeUtf8
  split
  · exact h
  · simp only
    split
    · exact hend _ (hpaced.tapTextKey _)
    · refine hend _ (Settled.onSuccess ?_ fun _ h => h.typeText _ _)
      exact Settled.sendKeyboard ⟨h.closed, hpaced.queue rfl, h.unmarked⟩

theorem Settled.drainKeyboardFeedback {hid : HidState} (h : hid.Settled P) :
    hid.drainKeyboardFeedback.Settled P :=
  h.calls (quiet_drainKeyboardFeedback hid).queues (quiet_drainKeyboardFeedback hid).input

theorem Settled.flushReports {hid : HidState} (h : hid.Settled P) (q : QueueId) :
    (hid.flushReports q).2.Settled P where
  closed := h.closed
  queues := h.closed.flushReports h.queues q
  unmarked := by
    rw [(flushReports_flushed hid q).input]
    exact h.unmarked

theorem Settled.hidFlush {hid : HidState} (h : hid.Settled P) : hid.hidFlush.2.Settled P :=
  have hpointer := (h.drainKeyboardFeedback.flushReports .keyboard).flushReports .pointer
  hpointer.calls (quiet_noteDesynced _).queues (quiet_noteDesynced _).input

end HidState

end NanokvmRdp.Hid
