import NanokvmRdp.Hid.Device
import NanokvmRdp.Hid.QueueLaws

/-!
# Laws of the HID operations

What the sending functions, `hid_synchronize` and `hid_release_all` do to the
reports written and pending. A release ends with the three neutral reports in
the log, whether or not the host takes them.
-/

namespace NanokvmRdp.Hid

/-- A property holds at the end if the first call leaves it, and the rest too
where it comes to that. -/
theorem onSuccess_leaves {P : HidState → Prop} {result : Bool × HidState}
    {rest : HidState → Bool × HidState} (h : P result.2)
    (hrest : result.1 = true → P (rest result.2).2) : P (onSuccess result rest).2 := by
  obtain ⟨ok, hid⟩ := result
  cases ok with
  | true => exact hrest rfl
  | false => exact h

namespace HidState

@[simp] theorem input_setInput (hid : HidState) (input : HidInput) :
    (hid.setInput input).input = input := rfl

@[simp] theorem log_setInput (hid : HidState) (input : HidInput) (q : QueueId) :
    (hid.setInput input).log q = hid.log q := rfl

@[simp] theorem count_setInput (hid : HidState) (input : HidInput) (q : QueueId) :
    (hid.setInput input).count q = hid.count q := rfl

@[simp] theorem submitted_setInput (hid : HidState) (input : HidInput) (q : QueueId) :
    (hid.setInput input).submitted q = hid.submitted q := rfl

@[simp] theorem pending_setInput (hid : HidState) (input : HidInput) (q : QueueId) :
    (hid.setInput input).pending q = hid.pending q := rfl

@[simp] theorem submitted_noteDesynced (hid : HidState) (q : QueueId) :
    hid.noteDesynced.submitted q = hid.submitted q := rfl

@[simp] theorem pending_noteDesynced (hid : HidState) (q : QueueId) :
    hid.noteDesynced.pending q = hid.pending q := rfl

@[simp] theorem input_noteDesynced (hid : HidState) : hid.noteDesynced.input = hid.input := rfl

@[simp] theorem log_noteDesynced (hid : HidState) (q : QueueId) :
    hid.noteDesynced.log q = hid.log q := rfl

@[simp] theorem input_queueReport (hid : HidState) (e : Endpoint) (payload : Payload)
    (motion : Bool) (delayMs : UInt16) :
    (hid.queueReport e payload motion delayMs).2.input = hid.input := by
  have hqueued := queueReport_queued hid e payload motion delayMs
  generalize hid.queueReport e payload motion delayMs = result at hqueued ⊢
  cases hqueued with
  | coalesced _ _ _ _ _ _ hpends _ _ hflushed => exact hflushed.input.trans hpends.input
  | appended _ _ hroom hpends hflushed =>
    exact hflushed.input.trans (hpends.input.trans hroom.input)
  | refused _ _ hflushed => exact hflushed.input

theorem count_queueReport_le (hid : HidState) (e : Endpoint) (payload : Payload) (motion : Bool)
    (delayMs : UInt16) (q : QueueId) :
    (hid.queueReport e payload motion delayMs).2.count q ≤ hid.count q + 1 := by
  have hpends : ∀ {hid hid' : HidState} {entries : List Entry}, hid.Pends e.queue entries hid' →
      entries.length ≤ hid.count e.queue + 1 → hid'.count q ≤ hid.count q + 1 := by
    intro hid hid' entries hpends hlength
    by_cases hq : q = e.queue
    · rw [hq, ← length_pending, hpends.pending]
      exact hlength
    · rw [← length_pending, hpends.other q hq, length_pending]
      exact Nat.le_succ _
  have hqueued := queueReport_queued hid e payload motion delayMs
  generalize hid.queueReport e payload motion delayMs = result at hqueued ⊢
  cases hqueued with
  | coalesced _ _ _ _ hpending _ hp _ _ hflushed =>
    refine (hflushed.count_le q).trans (hpends hp ?_)
    rw [← length_pending, hpending]
    simp
  | appended _ _ hroom hp hflushed =>
    refine (hflushed.count_le q).trans ((hpends hp (by simp)).trans ?_)
    exact Nat.succ_le_succ (hroom.count_le q)
  | refused _ _ hflushed => exact (hflushed.count_le q).trans (Nat.le_succ _)

theorem queueReport_log_grows (hid : HidState) (e : Endpoint) (payload : Payload)
    (delayMs : UInt16) (q : QueueId) :
    hid.log q <+: (hid.queueReport e payload false delayMs).2.log q := by
  obtain ⟨hother, hsame⟩ := queueReport_log hid e payload false delayMs
  by_cases hq : q = e.queue
  · subst hq
    rcases hsame with ⟨_, _, hlog, ⟨-, rfl⟩ | ⟨hmotion, -⟩⟩ | ⟨-, -, hrefused⟩
    · rw [hlog]
      exact List.prefix_append _ _
    · cases hmotion
    · exact ⟨[], by simp [hrefused]⟩
  · exact ⟨[], by simp [hother q hq]⟩

theorem queueReport_log_of_room (hid : HidState) (e : Endpoint) (payload : Payload)
    (delayMs : UInt16) (h : hid.count e.queue < hidReportQueueCapacity) (q : QueueId) :
    (hid.queueReport e payload false delayMs).2.log q =
      hid.log q ++ if q = e.queue then [(e, payload.bytes)] else [] := by
  obtain ⟨hother, hsame⟩ := queueReport_log hid e payload false delayMs
  split
  · rename_i hq
    subst hq
    rcases hsame with ⟨_, _, hlog, ⟨rfl, rfl⟩ | ⟨hmotion, -⟩⟩ | ⟨-, hfull, -⟩
    · exact hlog
    · cases hmotion
    · exact absurd hfull h.ne
  · rename_i hq
    rw [hother q hq, List.append_nil]

-- ---------------------------------------------------------------------------
-- Synchronize and release
-- ---------------------------------------------------------------------------

@[simp] theorem input_sendKeyboard (hid : HidState) : hid.sendKeyboard.2.input = hid.input := by
  simp [sendKeyboard]

theorem sendAbsolute_false (hid : HidState) :
    hid.sendAbsolute false = hid.queueAbsolute hid.input.absoluteReport false := by
  simp only [sendAbsolute, Bool.false_and, Bool.false_eq_true, if_false]

def keyboardReleased (hid : HidState) : HidState :=
  ((hid.resetKeyboardState false).setInput hid.input.released).sendKeyboard.2

def mouseReleased (hid : HidState) : HidState :=
  (hid.keyboardReleased.queueReport .mouse neutralMouseReport false 0).2

theorem hidSynchronize_snd (hid : HidState) :
    hid.hidSynchronize.2 =
      (hid.mouseReleased.queueReport .touch hid.mouseReleased.input.absoluteReport false 0).2.setInput
        { hid.mouseReleased.input with wheel := 0, pan := 0 } := by
  simp only [hidSynchronize, mouseReleased, keyboardReleased, sendAbsolute_false, queueAbsolute]

theorem input_mouseReleased (hid : HidState) : hid.mouseReleased.input = hid.input.released := by
  simp [mouseReleased, keyboardReleased]

theorem input_hidSynchronize (hid : HidState) : hid.hidSynchronize.2.input = hid.input.released := by
  rw [hidSynchronize_snd, input_setInput, input_mouseReleased]
  rfl

theorem hidSynchronize_log_grows (hid : HidState) (q : QueueId) :
    hid.log q <+: hid.hidSynchronize.2.log q := by
  have hkeyboard : hid.log q <+: hid.keyboardReleased.log q := by
    simp only [keyboardReleased, sendKeyboard, log_noteDesynced]
    exact queueReport_log_grows ((hid.resetKeyboardState false).setInput hid.input.released) ..
  have hmouse : hid.keyboardReleased.log q <+: hid.mouseReleased.log q :=
    queueReport_log_grows hid.keyboardReleased ..
  rw [hidSynchronize_snd, log_setInput]
  exact hkeyboard.trans (hmouse.trans (queueReport_log_grows hid.mouseReleased ..))

theorem hidSynchronize_submitted_grows (hid : HidState) (q : QueueId) :
    hid.submitted q <+: hid.hidSynchronize.2.submitted q := by
  have hkeyboard : hid.submitted q <+: hid.keyboardReleased.submitted q := by
    simp only [keyboardReleased, sendKeyboard, submitted_noteDesynced]
    exact queueReport_submitted_grows
      ((hid.resetKeyboardState false).setInput hid.input.released) ..
  have hmouse : hid.keyboardReleased.submitted q <+: hid.mouseReleased.submitted q :=
    queueReport_submitted_grows hid.keyboardReleased ..
  rw [hidSynchronize_snd, submitted_setInput]
  exact hkeyboard.trans (hmouse.trans (queueReport_submitted_grows hid.mouseReleased ..))

theorem mem_pending_of_hidSynchronize (hmem : entry ∈ (hidSynchronize hid).2.pending q)
    (hmotion : entry.motion = true) : entry ∈ hid.pending q := by
  rw [hidSynchronize_snd, pending_setInput] at hmem
  have hmouse : entry ∈ hid.mouseReleased.pending q := mem_pending_of_queueReport _ hmem hmotion
  have hkeyboard : entry ∈ hid.keyboardReleased.pending q :=
    mem_pending_of_queueReport _ hmouse hmotion
  simp only [keyboardReleased, sendKeyboard, pending_noteDesynced] at hkeyboard
  exact mem_pending_of_queueReport ((hid.resetKeyboardState false).setInput hid.input.released)
    hkeyboard hmotion

def neutralReports (input : HidInput) : QueueId → List Report
  | .keyboard => [(.keyboard, input.released.keyboardReport.bytes)]
  | .pointer => [(.mouse, neutralMouseReport.bytes), (.touch, input.released.absoluteReport.bytes)]

theorem count_keyboardReleased_le (hid : HidState) (q : QueueId) :
    hid.keyboardReleased.count q ≤ hid.count q + 1 := by
  simp only [keyboardReleased, sendKeyboard]
  exact count_queueReport_le ((hid.resetKeyboardState false).setInput hid.input.released) ..

theorem count_mouseReleased_le (hid : HidState) (q : QueueId) :
    hid.mouseReleased.count q ≤ hid.count q + 2 :=
  (count_queueReport_le hid.keyboardReleased ..).trans
    (Nat.succ_le_succ (hid.count_keyboardReleased_le q))

/-- With a little room in both queues, `hid_synchronize` appends the three
neutral reports. -/
theorem hidSynchronize_log (hid : HidState) (h : ∀ q, hid.count q + 2 < hidReportQueueCapacity)
    (q : QueueId) :
    hid.hidSynchronize.2.log q = hid.log q ++ neutralReports hid.input q := by
  have hkeyboard : hid.keyboardReleased.log q = hid.log q ++
      if q = .keyboard then [(.keyboard, hid.input.released.keyboardReport.bytes)] else [] := by
    simp only [keyboardReleased, sendKeyboard, log_noteDesynced]
    exact queueReport_log_of_room ((hid.resetKeyboardState false).setInput hid.input.released)
      .keyboard _ _ ((Nat.le_add_right _ 2).trans_lt (h .keyboard)) q
  have hmouse : hid.mouseReleased.log q = hid.keyboardReleased.log q ++
      if q = .pointer then [(.mouse, neutralMouseReport.bytes)] else [] :=
    queueReport_log_of_room hid.keyboardReleased .mouse _ _
      ((hid.count_keyboardReleased_le .pointer).trans_lt ((Nat.le_succ _).trans_lt (h .pointer))) q
  rw [hidSynchronize_snd, log_setInput, queueReport_log_of_room hid.mouseReleased .touch _ _
    ((hid.count_mouseReleased_le .pointer).trans_lt (h .pointer)), hmouse, hkeyboard,
    input_mouseReleased]
  cases q <;> simp [neutralReports, Endpoint.queue]

@[simp] theorem log_clearQueues (hid : HidState) (q : QueueId) :
    hid.clearQueues.log q = hid.submitted q := by
  simp [log, pending, clearQueues, HidReportQueue.zero, submitted]

@[simp] theorem pending_clearQueues (hid : HidState) (q : QueueId) :
    hid.clearQueues.pending q = [] := by
  simp [pending, clearQueues, HidReportQueue.zero]

theorem not_motion_of_hidReleaseAll (hmem : entry ∈ (hidReleaseAll hid).pending q) :
    entry.motion = false := by
  by_contra hmotion
  have := mem_pending_of_hidSynchronize hmem (by simpa using hmotion)
  simp at this

/-- What was pending is gone for good. -/
theorem hidReleaseAll_log (hid : HidState) (q : QueueId) :
    hid.hidReleaseAll.log q = hid.submitted q ++ neutralReports hid.input q := by
  have hroom : ∀ q, hid.clearQueues.count q + 2 < hidReportQueueCapacity := fun q =>
    show 0 + 2 < 256 by decide
  rw [hidReleaseAll, hidSynchronize_log _ hroom, log_clearQueues]
  rfl

-- ---------------------------------------------------------------------------
-- Keyboard feedback
-- ---------------------------------------------------------------------------

/-- Nothing was written and no poll answered, and the queues are as they were. -/
structure Quiet (hid hid' : HidState) : Prop where
  input : hid'.input = hid.input
  queues : hid'.queues = hid.queues
  trace : hid'.usb.trace = hid.usb.trace
  kernel : hid'.usb.kernel = hid.usb.kernel

theorem Quiet.refl (hid : HidState) : Quiet hid hid := ⟨rfl, rfl, rfl, rfl⟩

theorem Quiet.trans (h : Quiet a b) (h' : Quiet b c) : Quiet a c :=
  ⟨h'.input.trans h.input, h'.queues.trans h.queues, h'.trace.trans h.trace, h'.kernel.trans h.kernel⟩

theorem Quiet.submitted (h : Quiet hid hid') (q : QueueId) : hid'.submitted q = hid.submitted q := by
  rw [HidState.submitted, h.trace, HidState.submitted]

theorem Quiet.idle (h : Quiet hid hid') : Idle hid hid' :=
  ⟨h.input, fun q => by rw [HidState.pending, h.queues, HidState.pending], h.submitted⟩

theorem quiet_ask (hid : HidState) : Quiet hid hid.ask.2 := ⟨rfl, rfl, rfl, rfl⟩

theorem quiet_noteDesynced (hid : HidState) : Quiet hid hid.noteDesynced := ⟨rfl, rfl, rfl, rfl⟩

theorem quiet_readFeedback (batch : Nat) (hid : HidState) (now : UInt64) :
    Quiet hid (readFeedback batch hid now) := by
  induction batch generalizing hid with
  | zero => exact Quiet.refl hid
  | succ batch ih =>
    have hasked := quiet_ask hid
    rw [readFeedback]
    generalize hid.ask = asked at hasked ⊢
    obtain ⟨answer, hid'⟩ := asked
    simp only
    split
    · refine hasked.trans (Quiet.trans ?_ (ih _))
      exact ⟨rfl, rfl, rfl, rfl⟩
    · exact hasked.trans (ih hid')
    · exact hasked
    · exact hasked.trans ⟨rfl, rfl, rfl, rfl⟩

theorem quiet_feedbackRetryAt (hid : HidState) (feedbackRetryAt : UInt64) :
    Quiet hid { hid with feedbackRetryAt } := ⟨rfl, rfl, rfl, rfl⟩

theorem quiet_openKeyboardFeedback (hid : HidState) : Quiet hid hid.openKeyboardFeedback := by
  unfold openKeyboardFeedback
  split <;> exact ⟨rfl, rfl, rfl, rfl⟩

theorem quiet_drainKeyboardFeedback (hid : HidState) : Quiet hid hid.drainKeyboardFeedback := by
  have hasked : Quiet hid hid.now.2 := quiet_ask hid
  unfold drainKeyboardFeedback
  generalize hid.now = asked at hasked ⊢
  obtain ⟨now, hid₁⟩ := asked
  have hretried : Quiet hid (hid₁.retryFeedback now) := by
    unfold retryFeedback
    split
    · exact hasked.trans ((quiet_openKeyboardFeedback hid₁).trans (quiet_feedbackRetryAt _ _))
    · exact hasked
  simp only
  split
  · exact hretried
  · exact hretried.trans (quiet_readFeedback _ _ _)

end HidState

end NanokvmRdp.Hid
