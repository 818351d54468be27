import NanokvmRdp.Hid.Strokes

/-!
# Text on the keyboard

A text whose characters all have keys becomes the taps of these keys. The call
fails only after a write error: a write that fails, a queue that has been
blocked for the stall timeout, or a clipboard that does not take a character
queued before. A keyboard that takes reports or puts them off causes none.
-/

namespace NanokvmRdp.Hid

namespace HidState

-- ---------------------------------------------------------------------------
-- A keyboard that takes reports or puts them off
-- ---------------------------------------------------------------------------

/-- From now on no `open` or `write` fails, no two clock readings lie a stall timeout apart,
and the keyboard queue, blocked for less than that, waits for nothing but the keyboard. -/
structure TakesOrBlocks (hid : HidState) : Prop where
  opened : ∀ n, (hid.usb.kernel n).opened ≠ .failed
  wrote : ∀ n, (hid.usb.kernel n).wrote ≠ .failed
  prompt : ∀ m n, m ≤ n →
    (hid.usb.kernel n).clock - (hid.usb.kernel m).clock < hidReportStallTimeoutMs
  unstalled : (hid.queues .keyboard).blockedAt ≠ 0 → ∀ n, hid.usb.calls ≤ n →
    (hid.usb.kernel n).clock - (hid.queues .keyboard).blockedAt < hidReportStallTimeoutMs
  inflight : ∀ e ∈ (hid.queues .keyboard).inflightEndpoint, e = .keyboard
  unmarked : ∀ report ∈ (hid.queues .keyboard).reports.toList, report.pasteCodepoint = 0

theorem TakesOrBlocks.congr (h : TakesOrBlocks hid) (husb : hid'.usb = hid.usb)
    (hqueues : hid'.queues = hid.queues) : TakesOrBlocks hid' := by
  obtain ⟨hopened, hwrote, hprompt, hunstalled, hinflight, hunmarked⟩ := h
  rw [← husb] at hopened hwrote hprompt hunstalled
  rw [← hqueues] at hunstalled hinflight hunmarked
  exact ⟨hopened, hwrote, hprompt, hunstalled, hinflight, hunmarked⟩

theorem TakesOrBlocks.traces (h : TakesOrBlocks hid) (htraces : Traces hid events hid') :
    TakesOrBlocks hid' := by
  constructor
  · rw [htraces.kernel]
    exact h.opened
  · rw [htraces.kernel]
    exact h.wrote
  · rw [htraces.kernel]
    exact h.prompt
  · rw [htraces.kernel, htraces.queues]
    exact fun hblocked n hn => h.unstalled hblocked n (htraces.calls.trans hn)
  · rw [htraces.queues]
    exact h.inflight
  · rw [htraces.queues]
    exact h.unmarked

theorem TakesOrBlocks.polls (h : TakesOrBlocks hid) (hpolls : Polls hid hid') : TakesOrBlocks hid' := by
  obtain ⟨events, -, htraces⟩ := hpolls
  exact h.traces htraces

theorem openHidFd_ne_failed {hid : HidState} (h : ∀ n, (hid.usb.kernel n).opened ≠ .failed)
    (device : Device) : (hid.openHidFd device).1 ≠ .failed := h _

theorem hidFd_ne_failed {hid : HidState} (h : ∀ n, (hid.usb.kernel n).opened ≠ .failed)
    (device : Device) : (hid.hidFd device).1 ≠ .failed := by
  have hkernel := kernel_poll hid device
  unfold hidFd
  split
  · split <;> rename_i heq <;> rw [heq] at hkernel
    · simp
    · simp
    · exact openHidFd_ne_failed (fun n => by rw [setOpen, hkernel]; exact h n) device
  · exact openHidFd_ne_failed h device

theorem writeHidReport_ne_failed {hid : HidState} (h : hid.TakesOrBlocks) (device : Device)
    (bytes : List UInt8) : (hid.writeHidReport device bytes).1 ≠ .failed := by
  have hfd := hidFd_ne_failed h.opened device
  have hopened := h.polls (polls_hidFd hid device)
  unfold writeHidReport
  generalize hid.hidFd device = opened at hfd hopened ⊢
  obtain ⟨answer, hid'⟩ := opened
  cases answer with
  | complete =>
    have hwrote : hid'.ask.1.wrote ≠ .failed := hopened.wrote _
    simp only [write]
    generalize hid'.ask.1.wrote = wrote at hwrote ⊢
    cases wrote with
    | complete => simp
    | again => simp
    | failed => exact absurd rfl hwrote
  | again => simp
  | failed => exact absurd rfl hfd

def Read (now : UInt64) (hid : HidState) : Prop :=
  ∀ n, hid.usb.calls ≤ n → (hid.usb.kernel n).clock - now < hidReportStallTimeoutMs

theorem Read.polls {now : UInt64} (h : Read now hid) (hpolls : Polls hid hid') : Read now hid' := by
  obtain ⟨events, -, htraces⟩ := hpolls
  intro n hn
  rw [htraces.kernel]
  exact h n (htraces.calls.trans hn)

theorem TakesOrBlocks.block {hid : HidState} {now : UInt64} (h : hid.TakesOrBlocks) (hread : Read now hid) :
    (hid.block .keyboard now).TakesOrBlocks := by
  unfold HidState.block
  split
  · refine ⟨h.opened, h.wrote, h.prompt, fun _ => ?_, ?_, ?_⟩
    · rw [queues_setQueue_self]
      exact hread
    · rw [queues_setQueue_self]
      exact h.inflight
    · rw [queues_setQueue_self]
      exact h.unmarked
  · exact h

theorem TakesOrBlocks.popFront {hid : HidState} (h : hid.TakesOrBlocks) (hpos : 0 < hid.count .keyboard)
    (now : UInt64) : (hid.popFront .keyboard now).TakesOrBlocks := by
  refine ⟨h.opened, h.wrote, h.prompt, ?_, ?_, ?_⟩ <;> simp only [HidState.popFront, queues_setQueue_self]
  · exact fun hblocked => absurd rfl hblocked
  · rintro e ⟨⟩
    exact endpoint_keyboard _
  · intro report hreport
    refine h.unmarked report ?_
    rw [RingBuffer.toList_eq_front_cons _ hpos]
    exact List.mem_cons_of_mem _ hreport

/-- A turn waits, writes the oldest report, or is put off; it never fails. -/
theorem flushTurn_takesOrBlocks {hid : HidState} (h : hid.TakesOrBlocks) (hpos : 0 < hid.count .keyboard) :
    (hid.flushTurn .keyboard).Yields (fun ok hid' => ok = true ∧ hid'.TakesOrBlocks) TakesOrBlocks := by
  have hnow : hid.now.2.TakesOrBlocks := h.polls (traces_ask hid).polls
  have hread : Read hid.now.1 hid.now.2 := fun n hn => h.prompt _ n (Nat.le_of_succ_le hn)
  have hpace : hid.now.2.checkPace .keyboard hid.now.1 = .stop true hid.now.2 ∨
      hid.now.2.checkPace .keyboard hid.now.1 = .next hid.now.2 := by
    unfold checkPace
    split
    · exact .inl rfl
    · refine .inr (if_neg fun hstalled => ?_)
      exact absurd (h.unstalled hstalled.1 _ (Nat.le_refl _)) (UInt64.not_lt.mpr hstalled.2)
  have hfront : (hid.now.2.queues .keyboard).reports.front.pasteCodepoint = 0 := by
    have hmem := RingBuffer.toList_eq_front_cons (hid.now.2.queues .keyboard).reports hpos
    exact hnow.unmarked _ (hmem ▸ List.mem_cons_self)
  have hawait : hid.now.2.awaitPrevious .keyboard hid.now.1 = .next hid.now.2 := by
    unfold awaitPrevious
    split
    · rfl
    · rename_i previous hprevious
      rw [if_pos ((hnow.inflight previous hprevious).trans (endpoint_keyboard _).symm)]
  have hne := writeHidReport_ne_failed hnow
    (.endpoint (hid.now.2.queues .keyboard).reports.front.endpoint)
    (hid.now.2.queues .keyboard).reports.front.bytes
  obtain ⟨mid, hpolls, hwrite⟩ := writeHidReport_polls hid.now.2
    (.endpoint (hid.now.2.queues .keyboard).reports.front.endpoint)
    (hid.now.2.queues .keyboard).reports.front.bytes
  have hmid := hnow.polls hpolls
  rcases hpace with hstop | hgo
  · simp only [flushTurn, hstop, Turn.andThen]
    exact ⟨rfl, hnow⟩
  · simp only [flushTurn, hgo, Turn.andThen, hawait, pasteFront, if_pos hfront, submitFront]
    generalize hid.now.2.writeHidReport _ _ = wrote at hne hwrite ⊢
    obtain ⟨answer, hid'⟩ := wrote
    rcases hwrite with ⟨rfl, rfl⟩ | ⟨hnot, rfl⟩
    · refine (hmid.traces (traces_record _ _)).popFront ?_ _
      have hcount := hpolls.keeps.count .keyboard
      exact hcount.symm ▸ hpos
    · cases answer with
      | complete => exact absurd rfl hnot
      | again =>
        exact ⟨rfl, (hmid.block (hread.polls hpolls)).congr rfl rfl⟩
      | failed => exact absurd rfl hne

theorem flushReports_takesOrBlocks {hid : HidState} (h : hid.TakesOrBlocks) :
    (hid.flushReports .keyboard).1 = true ∧ (hid.flushReports .keyboard).2.TakesOrBlocks :=
  flushReports_yields (I := TakesOrBlocks) (P := fun ok hid' => ok = true ∧ hid'.TakesOrBlocks)
    .keyboard (fun _ h => ⟨rfl, h⟩) (fun _ hpos h => flushTurn_takesOrBlocks h hpos) h

theorem unmarked_pushBack (hid : HidState) (e : Endpoint)
    (h : ∀ report ∈ (hid.queues e.queue).reports.toList, report.pasteCodepoint = 0)
    (hmark : e.queue = .keyboard → hid.input.keyboardPasteCodepoint = 0) (payload : Payload)
    (motion : Bool) (delayMs : UInt16) (room : hid.count e.queue < hidReportQueueCapacity) :
    ∀ report ∈ ((hid.pushBack e payload motion delayMs room).queues e.queue).reports.toList,
      report.pasteCodepoint = 0 := by
  rw [toList_pushBack]
  intro report hreport
  rcases List.mem_append.mp hreport with hold | hnew
  · exact h report hold
  · rw [List.mem_singleton.mp hnew, newReport]
    simp only
    split
    · rename_i hq
      exact hmark hq
    · rfl

theorem TakesOrBlocks.pushBack {hid : HidState} (h : hid.TakesOrBlocks)
    (hmark : hid.input.keyboardPasteCodepoint = 0) (payload : Payload) (delayMs : UInt16)
    (room : hid.count Endpoint.keyboard.queue < hidReportQueueCapacity) :
    (hid.pushBack .keyboard payload false delayMs room).TakesOrBlocks := by
  have hnow : hid.now.2.TakesOrBlocks := h.polls (traces_ask hid).polls
  refine ⟨hnow.opened, hnow.wrote, hnow.prompt, hnow.unstalled, hnow.inflight, fun report hreport => ?_⟩
  exact unmarked_pushBack hid .keyboard h.unmarked (fun _ => hmark) payload false delayMs room report
    hreport

theorem steady_takesOrBlocks : Steady TakesOrBlocks where
  congr := TakesOrBlocks.congr
  send := by
    intro hid h hmark room
    have hqueue := queueReport_of_room hid .keyboard hid.input.keyboardReport
      hid.input.keyboardDelayMs room
    obtain ⟨hok, hafter⟩ := flushReports_takesOrBlocks (h.pushBack hmark hid.input.keyboardReport
      hid.input.keyboardDelayMs room)
    rw [sendKeyboard, hqueue]
    exact ⟨hok, hafter.congr rfl rfl⟩

-- ---------------------------------------------------------------------------
-- The errors of a release
-- ---------------------------------------------------------------------------

def ErrorsWithin (n : Nat) (hid hid' : HidState) : Prop :=
  ∃ k ≤ n, hid'.stats.writeErrors = hid.stats.writeErrors + UInt64.ofNat k

theorem ErrorsWithin.trans (h : ErrorsWithin m a b) (h' : ErrorsWithin n b c) :
    ErrorsWithin (m + n) a c := by
  obtain ⟨j, hj, hab⟩ := h
  obtain ⟨k, hk, hbc⟩ := h'
  refine ⟨j + k, Nat.add_le_add hj hk, ?_⟩
  rw [hbc, hab, UInt64.ofNat_add, UInt64.add_assoc]

theorem Passes.errorsWithin (h : Passes hid ok hid') : ErrorsWithin 1 hid hid' := by
  cases ok with
  | true => exact ⟨0, Nat.zero_le _, h.errors⟩
  | false => exact ⟨1, Nat.le_refl _, h.errors⟩

theorem exists_passes (hid : HidState) (hmark : hid.PointerUnmarked) (q : QueueId) :
    ∃ ok, Passes hid ok (hid.flushReports q).2 := by
  cases q with
  | keyboard => exact ⟨_, flushReports_passes hid⟩
  | pointer => exact ⟨_, flushReports_pointer_passes hid hmark⟩

theorem PointerUnmarked.pushBack {hid : HidState} (h : hid.PointerUnmarked) (e : Endpoint)
    (payload : Payload) (motion : Bool) (delayMs : UInt16)
    (room : hid.count e.queue < hidReportQueueCapacity) :
    (hid.pushBack e payload motion delayMs room).PointerUnmarked := by
  cases e with
  | keyboard => exact h
  | mouse => exact unmarked_pushBack hid .mouse h (fun hq => by cases hq) payload motion delayMs room
  | touch => exact unmarked_pushBack hid .touch h (fun hq => by cases hq) payload motion delayMs room

theorem PointerUnmarked.overwriteBack {hid : HidState} (h : hid.PointerUnmarked) {q : QueueId}
    (hpos : 0 < hid.count q) (payload : Payload) :
    (hid.overwriteBack q payload).PointerUnmarked := by
  cases q with
  | keyboard => exact h
  | pointer =>
    have hset := (hid.queues .pointer).reports.toList_set_back
      ((hid.queues .pointer).reports.back.overwrite payload) hpos
    have hold := (hid.queues .pointer).reports.toList_eq_append_back hpos
    rw [PointerUnmarked, hold] at h
    intro report hreport
    have hmem : report ∈ (hid.queues .pointer).reports.toList.dropLast ++
        [(hid.queues .pointer).reports.back.overwrite payload] := hset ▸ hreport
    rcases List.mem_append.mp hmem with hearlier | hlast
    · exact h report (List.mem_append_left _ hearlier)
    · rw [List.mem_singleton.mp hlast]
      exact h (hid.queues .pointer).reports.back (List.mem_append_right _ (List.mem_singleton_self _))

theorem queueReport_errors (hid : HidState) (h : hid.PointerUnmarked) (e : Endpoint)
    (payload : Payload) (motion : Bool) (delayMs : UInt16) :
    (hid.queueReport e payload motion delayMs).2.PointerUnmarked ∧
      ErrorsWithin 2 hid (hid.queueReport e payload motion delayMs).2 := by
  have hmade : (hid.makeRoom e.queue).PointerUnmarked ∧ ErrorsWithin 1 hid (hid.makeRoom e.queue) := by
    unfold makeRoom
    split
    · obtain ⟨ok, hpasses⟩ := exists_passes hid h e.queue
      exact ⟨h.passes hpasses, hpasses.errorsWithin⟩
    · exact ⟨h, (Keeps.refl hid).passes.errorsWithin⟩
  unfold queueReport
  split
  · rename_i hcoalesces
    simp only [coalesces, Bool.and_eq_true, decide_eq_true_eq] at hcoalesces
    have hoverwritten := h.overwriteBack hcoalesces.1.1.1.2 payload
    obtain ⟨ok, hpasses⟩ := exists_passes _ hoverwritten e.queue
    obtain ⟨k, hk, herrors⟩ := hpasses.errorsWithin
    exact ⟨hoverwritten.passes hpasses, k, Nat.le_succ_of_le hk, herrors⟩
  · simp only
    split
    · rename_i room
      have hpushed := hmade.1.pushBack e payload motion delayMs room
      obtain ⟨ok, hpasses⟩ := exists_passes _ hpushed e.queue
      exact ⟨hpushed.passes hpasses, hmade.2.trans hpasses.errorsWithin⟩
    · obtain ⟨hunmarked, k, hk, herrors⟩ := hmade
      exact ⟨hunmarked, k, Nat.le_succ_of_le hk, herrors⟩

theorem stats_setInput (hid : HidState) (input : HidInput) :
    (hid.setInput input).stats = hid.stats := rfl

theorem keyboardReleased_errors (hid : HidState) (h : hid.PointerUnmarked) :
    hid.keyboardReleased.PointerUnmarked ∧ ErrorsWithin 2 hid hid.keyboardReleased :=
  queueReport_errors ((hid.resetKeyboardState false).setInput hid.input.released) h .keyboard _ false _

theorem mouseReleased_errors (hid : HidState) (h : hid.PointerUnmarked) :
    hid.mouseReleased.PointerUnmarked ∧ ErrorsWithin 4 hid hid.mouseReleased := by
  obtain ⟨hkeyboard, herrors⟩ := keyboardReleased_errors hid h
  have hmouse := queueReport_errors hid.keyboardReleased hkeyboard .mouse neutralMouseReport false 0
  rw [← mouseReleased] at hmouse
  exact ⟨hmouse.1, herrors.trans hmouse.2⟩

theorem errorsWithin_hidSynchronize (hid : HidState) (h : hid.PointerUnmarked) :
    ErrorsWithin 6 hid hid.hidSynchronize.2 := by
  obtain ⟨hmouse, herrors⟩ := mouseReleased_errors hid h
  obtain ⟨k, hk, hsum⟩ := herrors.trans (queueReport_errors hid.mouseReleased hmouse .touch
    hid.mouseReleased.input.absoluteReport false 0).2
  refine ⟨k, hk, ?_⟩
  rw [hidSynchronize_snd, stats_setInput]
  exact hsum

/-- Cancelling everything leaves no marked report behind. -/
theorem errorsWithin_hidReleaseAll (hid : HidState) : ErrorsWithin 6 hid hid.hidReleaseAll :=
  errorsWithin_hidSynchronize hid.clearQueues fun report hreport => by cases hreport

/-- A text that could not be typed has left a write error behind. -/
theorem Sends.endText (h : Sends P plain quiet hid entries result) (hplain : plain)
    (room : hid.count .keyboard + entries.length ≤ hidReportQueueCapacity) :
    (quiet → P hid → (endText result).2.stats.writeErrors = hid.stats.writeErrors) ∧
      ((HidState.endText result).2.stats.writeErrors = hid.stats.writeErrors → result.1 = true) := by
  have herrors := h.errors hplain room
  have hsteady := h.steady
  obtain ⟨ok, mid⟩ := result
  cases ok with
  | true =>
    rw [if_pos rfl, UInt64.add_zero] at herrors
    exact ⟨fun _ _ => herrors, fun _ => rfl⟩
  | false =>
    refine ⟨fun hquiet hP => absurd (hsteady hquiet room hP).1 Bool.false_ne_true, fun hsame => ?_⟩
    obtain ⟨k, hk, hrelease⟩ := errorsWithin_hidReleaseAll (mid.setKeyboardDelay 0)
    have hcount : mid.stats.writeErrors = hid.stats.writeErrors + 1 := herrors
    have hsum : hid.stats.writeErrors + 1 + UInt64.ofNat k = hid.stats.writeErrors := by
      rw [← hcount]
      exact hrelease.symm.trans hsame
    rw [UInt64.add_assoc] at hsum
    have hzero : (1 + UInt64.ofNat k).toNat = 0 := by
      rw [UInt64.add_eq_left.mp hsum]
      rfl
    rw [UInt64.toNat_add, UInt64.toNat_ofNat', UInt64.toNat_one] at hzero
    omega

-- ---------------------------------------------------------------------------
-- The whole text
-- ---------------------------------------------------------------------------

theorem Sends.log (h : Sends P plain quiet hid entries result) (hok : result.1 = true) :
    result.2.log .keyboard = hid.log .keyboard ++ entries.map KeyEntry.report := by
  rw [log_eq_filterMap_stream, log_eq_filterMap_stream, h.stream hok, List.filterMap_append,
    filterMap_flatMap_events]

end HidState

/-- The keys of a character, in the order they are struck. -/
def characterKeys (c : Char) : List HidTextKey := (codepointKeys c.val).getD []

def keyReports (key : HidTextKey) : List Report :=
  [(.keyboard, keyBytes key.modifier key.usage), (.keyboard, releasedBytes)]

/-- The reports of a text: a neutral one and the taps of its keys, or the one tap of a shortcut. -/
def HidInput.textReports (input : HidInput) (chars : List Char) : List Report :=
  match input.shortcut (chars.flatMap String.utf8EncodeChar) with
  | some key => input.tap key
  | none => (.keyboard, releasedBytes) :: (chars.flatMap characterKeys).flatMap keyReports

theorem map_report_characterEntries {c : Char} (h : HasKeys c.val) (mark : UInt32) :
    (characterEntries mark c.val).map KeyEntry.report = (characterKeys c).flatMap keyReports := by
  obtain ⟨found, hfound⟩ := Option.isSome_iff_exists.mp ((isSome_codepointKeys_iff c.val).mpr h)
  rw [characterEntries, characterKeys, hfound, Option.getD_some, List.map_flatMap]
  rfl

theorem map_report_textEntries {chars : List Char} (h : ∀ c ∈ chars, HasKeys c.val) (mark : UInt32) :
    (chars.flatMap fun c => characterEntries mark c.val).map KeyEntry.report =
      (chars.flatMap characterKeys).flatMap keyReports := by
  induction chars with
  | nil => rfl
  | cons c chars ih =>
    rw [List.forall_mem_cons] at h
    rw [List.flatMap_cons, List.map_append, ih h.2, map_report_characterEntries h.1,
      List.flatMap_cons, List.flatMap_append]

namespace HidState

/-- The text was typed: its reports are at the end of the log, and nothing is held afterwards, or
what was held before if it is a shortcut. -/
structure Typed (hid : HidState) (chars : List Char) (result : Bool × HidState) : Prop where
  ok : result.1 = true
  log : result.2.log .keyboard = hid.log .keyboard ++ hid.input.textReports chars
  released : hid.input.shortcut (chars.flatMap String.utf8EncodeChar) = none →
    result.2.input.modifiers = 0 ∧ ∀ usage, result.2.input.usages usage = false
  kept : hid.input.shortcut (chars.flatMap String.utf8EncodeChar) ≠ none →
    result.2.input.modifiers = hid.input.modifiers ∧ result.2.input.usages = hid.input.usages

theorem typed_of_sends {entries : List KeyEntry} {result : Bool × HidState} {chars : List Char}
    (h : Sends TakesOrBlocks True (hid.input.keyboardPasteCodepoint = 0) hid entries result)
    (hroom : hid.count .keyboard + (hid.input.textReports chars).length ≤ hidReportQueueCapacity)
    (hentries : entries.map KeyEntry.report = hid.input.textReports chars)
    (hreleased : hid.input.shortcut (chars.flatMap String.utf8EncodeChar) = none →
      result.1 = true → result.2.input.Neutral)
    (hkept : hid.input.shortcut (chars.flatMap String.utf8EncodeChar) ≠ none →
      result.1 = true → result.2.input.modifiers = hid.input.modifiers ∧
        result.2.input.usages = hid.input.usages) :
    (hid.TakesOrBlocks → hid.input.keyboardPasteCodepoint = 0 →
      (endText result).2.stats.writeErrors = hid.stats.writeErrors) ∧
    ((HidState.endText result).2.stats.writeErrors = hid.stats.writeErrors →
      hid.Typed chars (HidState.endText result)) := by
  have hlength : entries.length = (hid.input.textReports chars).length := by
    rw [← hentries, List.length_map]
  obtain ⟨hquiet, hsound⟩ := h.endText trivial (hlength ▸ hroom)
  refine ⟨fun hsteady hmark => hquiet hmark hsteady, fun hsame => ?_⟩
  have hok := hsound hsame
  have hlog := h.log hok
  rw [hentries] at hlog
  obtain ⟨ok, mid⟩ := result
  obtain rfl : ok = true := hok
  refine ⟨rfl, hlog, fun hnone => ?_, fun hsome => hkept hsome rfl⟩
  have hneutral := hreleased hnone rfl
  exact ⟨hneutral.modifiers, fun usage => congrFun hneutral.usages usage⟩

theorem encode_ne_nil {chars : List Char} (h : chars ≠ []) :
    chars.flatMap String.utf8EncodeChar ≠ [] := by
  obtain ⟨c, rest, rfl⟩ := List.exists_cons_of_ne_nil h
  rw [List.flatMap_cons]
  exact List.append_ne_nil_of_left_ne_nil String.utf8EncodeChar_ne_nil _

theorem typed_shortcut (hid : HidState) {chars : List Char}
    (hshortcut : hid.input.shortcut (chars.flatMap String.utf8EncodeChar) = some key)
    (hroom : hid.count .keyboard + (hid.input.textReports chars).length ≤ hidReportQueueCapacity) :
    (hid.TakesOrBlocks → hid.input.keyboardPasteCodepoint = 0 →
      (endText ((hid.setKeyboardDelay 20).tapTextKey key)).2.stats.writeErrors =
        hid.stats.writeErrors) ∧
    ((endText ((hid.setKeyboardDelay 20).tapTextKey key)).2.stats.writeErrors =
        hid.stats.writeErrors →
      hid.Typed chars (endText ((hid.setKeyboardDelay 20).tapTextKey key))) := by
  have htap := strokes_tapTextKey steady_takesOrBlocks (hid.setKeyboardDelay 20) key
  refine typed_of_sends (htap.toSends.setInput steady_takesOrBlocks) hroom ?_ ?_ ?_
  · rw [HidInput.textReports, hshortcut]
    rfl
  · intro hnone
    rw [hshortcut] at hnone
    cases hnone
  · intro _ hok
    rw [htap.input hok]
    exact ⟨rfl, rfl⟩

theorem typed_fresh (hid : HidState) {chars : List Char} (hkeys : ∀ c ∈ chars, HasKeys c.val)
    (hshortcut : hid.input.shortcut (chars.flatMap String.utf8EncodeChar) = none)
    (hroom : hid.count .keyboard + (hid.input.textReports chars).length ≤ hidReportQueueCapacity)
    (result : Bool × HidState)
    (hresult : result = onSuccess ((hid.setKeyboardDelay 20).resetKeyboardState false).sendKeyboard
      fun hid => typeText (chars.flatMap String.utf8EncodeChar).length hid
        (chars.flatMap String.utf8EncodeChar)) :
    (hid.TakesOrBlocks → hid.input.keyboardPasteCodepoint = 0 →
      (endText result).2.stats.writeErrors = hid.stats.writeErrors) ∧
    ((endText result).2.stats.writeErrors = hid.stats.writeErrors →
      hid.Typed chars (endText result)) := by
  have hneutral : ((hid.setKeyboardDelay 20).resetKeyboardState false).input.Neutral := ⟨rfl, rfl⟩
  have hfresh := strokes_freshText steady_takesOrBlocks hneutral (.inl hkeys) (Nat.le_refl _)
  rw [← hresult] at hfresh
  have hsends : Sends TakesOrBlocks True (hid.input.keyboardPasteCodepoint = 0) hid _ result :=
    ⟨hfresh.stream, hfresh.pointer, hfresh.count_le, fun _ => hfresh.errors hkeys,
      fun hmark room hsteady => hfresh.steady ⟨hkeys, hmark⟩ room (hsteady.congr rfl rfl)⟩
  refine typed_of_sends hsends hroom ?_ ?_ ?_
  · rw [HidInput.textReports, hshortcut, List.map_cons, map_report_textEntries hkeys]
    rfl
  · intro _ hok
    rw [hfresh.input hok]
    exact hneutral
  · intro hsome
    exact absurd hshortcut hsome

/-- A text whose characters all have keys, with room for its reports, is typed unless a write
error is counted; a keyboard that takes reports or puts them off causes none. -/
theorem typed_text_becomes_taps (hid : HidState) (chars : List Char) (hne : chars ≠ [])
    (hkeys : ∀ c ∈ chars, HasKeys c.val)
    (hroom : hid.count .keyboard + (hid.input.textReports chars).length ≤ hidReportQueueCapacity) :
    (hid.TakesOrBlocks → hid.input.keyboardPasteCodepoint = 0 →
      (hid.hidTypeUtf8 (chars.flatMap String.utf8EncodeChar)).2.stats.writeErrors =
        hid.stats.writeErrors) ∧
    ((hid.hidTypeUtf8 (chars.flatMap String.utf8EncodeChar)).2.stats.writeErrors =
        hid.stats.writeErrors →
      hid.Typed chars (hid.hidTypeUtf8 (chars.flatMap String.utf8EncodeChar))) ∧
    ∀ c ∈ chars, 0xac00 ≤ c.toNat → c.toNat ≤ 0xd7a3 →
      ∃ l v t, l < 19 ∧ v < 21 ∧ t < 28 ∧ (l * 21 + v) * 28 + t = c.toNat - 0xac00 ∧
        characterKeys c = strokes (leadKeys.getD l "") ++ (strokes (vowelKeys.getD v "") ++
          strokes (trailKeys.getD t "")) := by
  rw [hidTypeUtf8_eq hid (encode_ne_nil hne), ← and_assoc]
  refine ⟨?_, fun c _ hlow hhigh => ?_⟩
  · cases hshortcut : hid.input.shortcut (chars.flatMap String.utf8EncodeChar) with
    | some key => exact typed_shortcut hid hshortcut hroom
    | none => exact typed_fresh hid hkeys hshortcut hroom _ rfl
  · obtain ⟨l, v, t, hl, hv, ht, hsum, hfound⟩ :=
      codepointKeys_syllable (UInt32.le_iff_toNat_le.mpr hlow) (UInt32.le_iff_toNat_le.mpr hhigh)
    exact ⟨l, v, t, hl, hv, ht, hsum, by rw [characterKeys, hfound, Option.getD_some]⟩

theorem takesOrBlocks_init : (hidInit {} fun _ => {}).TakesOrBlocks where
  opened _ := IoAnswer.noConfusion
  wrote _ := IoAnswer.noConfusion
  prompt _ _ _ := show (0 : UInt64) - 0 < hidReportStallTimeoutMs by decide
  unstalled hblocked := absurd rfl hblocked
  inflight _ he := by cases he
  unmarked _ hreport := by cases hreport

theorem typed_text_becomes_taps_init :
    (hidInit {} fun _ => {}).Typed ['a', '가']
      ((hidInit {} fun _ => {}).hidTypeUtf8 (['a', '가'].flatMap String.utf8EncodeChar)) := by
  obtain ⟨hquiet, htyped, -⟩ := typed_text_becomes_taps (hidInit {} fun _ => {}) ['a', '가'] (by simp)
    (by simp [HasKeys]; decide) (by decide +kernel)
  exact htyped (hquiet takesOrBlocks_init rfl)

/-- A report was put off at 1000 ms. From call 10 on, at 2000 ms, every call succeeds. -/
def stallingKernel (n : Nat) : Answer :=
  if n < 10 then { clock := 1000, wrote := .again } else { clock := 2000 }

def stalledKeyboard : HidState := ((hidInit {} stallingKernel).hidScancode 0x1e false false).2

/-- An empty text is refused, and so is any text once a report has been put off for a second,
even if all writes would succeed from then on. -/
theorem text_refused_by_writable_keyboard :
    ((hidInit {} fun _ => {}).hidTypeUtf8 []).1 = false ∧
      stalledKeyboard.count .keyboard = 1 ∧ stalledKeyboard.usb.calls = 10 ∧
      (∀ n, 10 ≤ n → stallingKernel n = { clock := 2000 }) ∧
      (stalledKeyboard.hidTypeUtf8 [0x62]).1 = false := by
  refine ⟨rfl, by decide +kernel, by decide +kernel, ?_, by decide +kernel⟩
  intro n hn
  exact if_neg (Nat.not_lt.mpr hn)

end HidState

end NanokvmRdp.Hid
