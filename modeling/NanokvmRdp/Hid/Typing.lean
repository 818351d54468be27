import NanokvmRdp.Hid.DeviceLaws

/-!
# Typed text

The keys of a text and the reports that type them. On a keyboard that takes
every report, and with room in the queue, `hid_type_utf8` returns true and
queues just these reports.
-/

namespace NanokvmRdp.Hid

-- ---------------------------------------------------------------------------
-- Keys and their reports
-- ---------------------------------------------------------------------------

def codepointKeys (codepoint : UInt32) : Option (List HidTextKey) :=
  match if codepoint ≤ 0x7f then asciiToHid codepoint.toUInt8 else none with
  | some key => some [key]
  | none =>
    match codepointToHangulSequences codepoint with
    | some (lead, vowel, trail) => (lead ++ (vowel ++ trail)).mapM asciiToHid
    | none => (hangulJamoSequence codepoint).bind fun text => text.mapM asciiToHid

def textKeys : Nat → List UInt8 → Option (List HidTextKey)
  | _, [] => some []
  | 0, _ => some []
  | fuel + 1, text => do
    let (codepoint, rest) ← utf8Decode text
    let keys ← codepointKeys codepoint
    let more ← textKeys fuel rest
    return keys ++ more

def Typable (text : List UInt8) : Prop := text ≠ [] ∧ (textKeys text.length text).isSome

instance (text : List UInt8) : Decidable (Typable text) := inferInstanceAs (Decidable (_ ∧ _))

def HidInput.press (input : HidInput) (key : HidTextKey) : HidInput :=
  { input with
    modifiers := input.modifiers ||| key.modifier
    usages := Function.update input.usages key.usage true }

def HidInput.state (input : HidInput) : Report := (.keyboard, input.keyboardReport.bytes)

def HidInput.tap (input : HidInput) (key : HidTextKey) : List Report :=
  [(input.press key).state, input.state]

/-- The key of a text that is typed with the held modifiers. -/
def HidInput.shortcut (input : HidInput) (text : List UInt8) : Option HidTextKey :=
  if input.modifiers ≠ 0 then HidState.shortcutKey text else none

/-- The reports of a text: all keys are let go first unless it is a shortcut. -/
def HidInput.typed (input : HidInput) (text : List UInt8) : List Report :=
  match input.shortcut text with
  | some key => input.tap key
  | none =>
    input.resetKeyboardState.state ::
      ((textKeys text.length text).getD []).flatMap input.resetKeyboardState.tap

def HidInput.afterText (input : HidInput) (text : List UInt8) : HidInput :=
  match input.shortcut text with
  | some _ => { input with keyboardDelayMs := 0 }
  | none => { input.resetKeyboardState with keyboardDelayMs := 0 }

theorem HidInput.release_press (input : HidInput) (key : HidTextKey) :
    { input.press key with
      modifiers := input.modifiers
      usages := Function.update (input.press key).usages key.usage (input.usages key.usage) } =
        input := by
  simp [press]

theorem fillUsages_none (rest : List UInt8) (room : Nat) :
    fillUsages (fun _ => false) rest room = [] := by
  induction rest generalizing room with
  | nil => rfl
  | cons usage rest ih =>
    cases room with
    | zero => rfl
    | succ room => exact ih (room + 1)

theorem HidInput.keyboardReport_reset (input : HidInput) :
    input.resetKeyboardState.keyboardReport.bytes = List.replicate 8 0 := by
  simp only [keyboardReport, resetKeyboardState, fillUsages_none]
  rfl

namespace HidState

-- ---------------------------------------------------------------------------
-- A keyboard that takes every report
-- ---------------------------------------------------------------------------

/-- The kernel opens and writes whatever is asked for, the keyboard queue was
not blocked, and no report of it waits for the clipboard. -/
structure Flows (hid : HidState) : Prop where
  opened : ∀ n, (hid.usb.kernel n).opened = .complete
  wrote : ∀ n, (hid.usb.kernel n).wrote = .complete
  unblocked : (hid.queues .keyboard).blockedAt = 0
  inflight : ∀ e ∈ (hid.queues .keyboard).inflightEndpoint, e = .keyboard
  unmarked : ∀ report ∈ (hid.queues .keyboard).reports.toList, report.pasteCodepoint = 0

theorem Flows.congr (h : Flows hid) (hkernel : hid'.usb.kernel = hid.usb.kernel)
    (hqueue : hid'.queues .keyboard = hid.queues .keyboard) : Flows hid' where
  opened := hkernel ▸ h.opened
  wrote := hkernel ▸ h.wrote
  unblocked := hqueue ▸ h.unblocked
  inflight := hqueue ▸ h.inflight
  unmarked := hqueue ▸ h.unmarked

theorem Flows.noteDesynced (h : Flows hid) : hid.noteDesynced.Flows := h.congr rfl rfl

theorem kernel_poll (hid : HidState) (device : Device) :
    (hid.poll device).2.usb.kernel = hid.usb.kernel := by
  unfold poll
  simp only
  split <;> rfl

theorem openHidFd_complete {hid : HidState} (h : ∀ n, (hid.usb.kernel n).opened = .complete)
    (device : Device) : (hid.openHidFd device).1 = .complete := h _

theorem hidFd_complete {hid : HidState} (h : ∀ n, (hid.usb.kernel n).opened = .complete)
    (device : Device) :
    (hid.hidFd device).1 = .complete ∧ (hid.hidFd device).2.usb.kernel = hid.usb.kernel := by
  have hkernel := kernel_poll hid device
  unfold hidFd
  split
  · split <;> rename_i heq <;> rw [heq] at hkernel
    · exact ⟨rfl, hkernel⟩
    · exact ⟨rfl, hkernel⟩
    · exact ⟨openHidFd_complete (fun n => by rw [setOpen, hkernel]; exact h n) device, hkernel⟩
  · exact ⟨openHidFd_complete h device, rfl⟩

theorem write_complete {hid : HidState} (h : ∀ n, (hid.usb.kernel n).wrote = .complete)
    (device : Device) (bytes : List UInt8) :
    hid.write device bytes = (.complete, hid.ask.2.record (.wrote device bytes)) := by
  have hwrote : hid.ask.1.wrote = .complete := h _
  simp [write, hwrote]

theorem writeHidReport_complete (h : Flows hid) (device : Device) (bytes : List UInt8) :
    ∃ hid', hid.writeHidReport device bytes = (.complete, hid') ∧
      hid'.usb.kernel = hid.usb.kernel := by
  obtain ⟨hfd, hkernel⟩ := hidFd_complete h.opened device
  unfold writeHidReport
  generalize hid.hidFd device = opened at hfd hkernel ⊢
  obtain ⟨answer, hid'⟩ := opened
  obtain rfl : answer = .complete := hfd
  have hwrote : ∀ n, (hid'.usb.kernel n).wrote = .complete := fun n => by
    rw [show hid'.usb.kernel = hid.usb.kernel from hkernel]
    exact h.wrote n
  simp only [write_complete hwrote]
  exact ⟨_, rfl, hkernel⟩

theorem endpoint_of_queue {e : Endpoint} (h : e.queue = .keyboard) : e = .keyboard := by
  cases e with
  | keyboard => rfl
  | mouse => cases h
  | touch => cases h

theorem Flows.popFront {hid : HidState} (h : hid.Flows) (hpos : 0 < hid.count .keyboard)
    (now : UInt64) : (hid.popFront .keyboard now).Flows := by
  refine ⟨h.opened, h.wrote, ?_, ?_, ?_⟩ <;> simp only [HidState.popFront, queues_setQueue_self]
  · rintro e ⟨⟩
    exact endpoint_of_queue (hid.queues .keyboard).reports.front.queue_endpoint
  · intro report hreport
    refine h.unmarked report ?_
    rw [RingBuffer.toList_eq_front_cons _ hpos]
    exact List.mem_cons_of_mem _ hreport

/-- A turn waits for the pace of the queue or writes its oldest report. -/
theorem flushTurn_flows {hid : HidState} (h : hid.Flows) (hpos : 0 < hid.count .keyboard) :
    hid.now.1 < (hid.queues .keyboard).readyAt ∧ hid.flushTurn .keyboard = .stop true hid.now.2 ∨
      (hid.queues .keyboard).readyAt ≤ hid.now.1 ∧
        ∃ hid', hid.flushTurn .keyboard = .next hid' ∧ hid'.Flows := by
  have hnow : hid.now.2.Flows := h.congr rfl rfl
  have hfront := endpoint_of_queue (hid.now.2.queues .keyboard).reports.front.queue_endpoint
  have hunmarked : (hid.now.2.queues .keyboard).reports.front.pasteCodepoint = 0 := by
    have hmem := RingBuffer.toList_eq_front_cons (hid.now.2.queues .keyboard).reports hpos
    exact hnow.unmarked _ (hmem ▸ List.mem_cons_self)
  have hcalls := calls_writeHidReport hid.now.2
    (.endpoint (hid.now.2.queues .keyboard).reports.front.endpoint)
    (hid.now.2.queues .keyboard).reports.front.bytes
  obtain ⟨hid', hwrite, hkernel⟩ := writeHidReport_complete hnow
    (.endpoint (hid.now.2.queues .keyboard).reports.front.endpoint)
    (hid.now.2.queues .keyboard).reports.front.bytes
  rw [hwrite] at hcalls
  have hawait : hid.now.2.awaitPrevious .keyboard hid.now.1 = .next hid.now.2 := by
    unfold awaitPrevious
    split
    · rfl
    · rename_i previous hprevious
      rw [if_pos ((hnow.inflight previous hprevious).trans hfront.symm)]
  by_cases hpace : hid.now.1 < (hid.queues .keyboard).readyAt
  · refine .inl ⟨hpace, ?_⟩
    have hstop : hid.now.2.checkPace .keyboard hid.now.1 = .stop true hid.now.2 := if_pos hpace
    simp only [flushTurn, hstop, Turn.andThen]
  · refine .inr ⟨UInt64.not_lt.mp hpace, hid'.popFront .keyboard hid.now.1, ?_, ?_⟩
    · have hgo : hid.now.2.checkPace .keyboard hid.now.1 = .next hid.now.2 :=
        (if_neg hpace).trans (if_neg fun hblocked => hblocked.1 hnow.unblocked)
      simp only [flushTurn, hgo, Turn.andThen, hawait, pasteFront, if_pos hunmarked, submitFront,
        hwrite]
    · refine (hnow.congr hkernel (congrFun hcalls.queues _)).popFront ?_ _
      rw [HidState.count, hcalls.queues]
      exact hpos

theorem flushReports_flows {hid : HidState} (h : hid.Flows) :
    (hid.flushReports .keyboard).1 = true ∧ (hid.flushReports .keyboard).2.Flows := by
  induction hk : hid.count .keyboard generalizing hid with
  | zero =>
    rw [flushReports_eq, if_pos hk]
    exact ⟨rfl, h⟩
  | succ k ih =>
    have hpos : 0 < hid.count .keyboard := by omega
    have hends := hid.flushTurn_ends .keyboard hpos
    rw [flushReports_eq, if_neg hpos.ne']
    rcases flushTurn_flows h hpos with ⟨-, hturn⟩ | ⟨-, hid', hturn, hflows⟩
    · rw [hturn]
      exact ⟨rfl, h.congr rfl rfl⟩
    · rw [hturn] at hends ⊢
      have hcount : hid.count .keyboard = hid'.count .keyboard + 1 := hends.2
      exact ih hflows (by omega)

structure Takes (hid : HidState) (reports : List Report) (result : Bool × HidState) : Prop where
  ok : result.1 = true
  log : result.2.log .keyboard = hid.log .keyboard ++ reports
  count_le : result.2.count .keyboard ≤ hid.count .keyboard + reports.length
  flows : result.2.Flows

theorem Takes.onSuccess {rest : HidState → Bool × HidState} (h : Takes hid reports result)
    (hrest : Takes result.2 more (rest result.2)) :
    Takes hid (reports ++ more) (onSuccess result rest) := by
  obtain ⟨ok, hid'⟩ := result
  obtain rfl : ok = true := h.ok
  refine ⟨hrest.ok, ?_, ?_, hrest.flows⟩
  · rw [← List.append_assoc, ← h.log]
    exact hrest.log
  · have hfirst : hid'.count .keyboard ≤ hid.count .keyboard + reports.length := h.count_le
    have hsecond : (rest hid').2.count .keyboard ≤ hid'.count .keyboard + more.length := hrest.count_le
    rw [List.length_append]
    exact hsecond.trans (by omega)

theorem queueReport_of_room (hid : HidState) (e : Endpoint) (payload : Payload) (delayMs : UInt16)
    (room : hid.count e.queue < hidReportQueueCapacity) :
    hid.queueReport e payload false delayMs =
      (hid.pushBack e payload false delayMs room).flushReports e.queue := by
  have hroom : hid.makeRoom e.queue = hid := if_neg room.ne
  simp only [queueReport, coalesces, Bool.false_and, Bool.false_eq_true, if_false, hroom, dif_pos room]

theorem toList_pushBack (hid : HidState) (e : Endpoint) (payload : Payload) (motion : Bool)
    (delayMs : UInt16) (room : hid.count e.queue < hidReportQueueCapacity) :
    ((hid.pushBack e payload motion delayMs room).queues e.queue).reports.toList =
      (hid.queues e.queue).reports.toList ++ [hid.newReport e payload motion delayMs hid.now.1] := by
  simp only [pushBack, queues_setQueue_self]
  exact RingBuffer.toList_push _ _ room

theorem Flows.pushBack {hid : HidState} (h : hid.Flows) (hpaste : hid.input.keyboardPasteCodepoint = 0)
    (payload : Payload) (delayMs : UInt16)
    (room : hid.count Endpoint.keyboard.queue < hidReportQueueCapacity) :
    (hid.pushBack .keyboard payload false delayMs room).Flows := by
  refine ⟨h.opened, h.wrote, h.unblocked, h.inflight, fun report hreport => ?_⟩
  have hlist := toList_pushBack hid .keyboard payload false delayMs room
  rcases List.mem_append.mp (hlist ▸ hreport) with hold | hnew
  · exact h.unmarked report hold
  · rw [List.mem_singleton.mp hnew]
    exact hpaste

theorem takes_sendKeyboard {hid : HidState} (h : hid.Flows)
    (hpaste : hid.input.keyboardPasteCodepoint = 0)
    (room : hid.count .keyboard < hidReportQueueCapacity) :
    Takes hid [hid.input.state] hid.sendKeyboard := by
  have hqueue := queueReport_of_room hid .keyboard hid.input.keyboardReport
    hid.input.keyboardDelayMs room
  obtain ⟨hok, hflows⟩ := flushReports_flows (h.pushBack hpaste hid.input.keyboardReport
    hid.input.keyboardDelayMs room)
  refine ⟨(congrArg Prod.fst hqueue).trans hok, ?_, ?_, ?_⟩
  · rw [sendKeyboard, log_noteDesynced]
    exact queueReport_log_of_room hid .keyboard _ _ room .keyboard
  · exact count_queueReport_le hid .keyboard _ _ _ .keyboard
  · simp only [sendKeyboard, hqueue]
    exact hflows.noteDesynced

theorem Takes.setInput {input : HidInput} (h : Takes (hid.setInput input) reports result) :
    Takes hid reports result := ⟨h.ok, h.log, h.count_le, h.flows⟩

structure Types (hid : HidState) (reports : List Report) (result : Bool × HidState) : Prop
    extends Takes hid reports result where
  input : result.2.input = hid.input

theorem Types.refl {hid : HidState} (h : hid.Flows) : Types hid [] (true, hid) where
  ok := rfl
  log := (List.append_nil _).symm
  count_le := Nat.le_refl _
  flows := h
  input := rfl

theorem Types.onSuccess {rest : HidState → Bool × HidState} (h : Types hid reports result)
    (hrest : Types result.2 more (rest result.2)) :
    Types hid (reports ++ more) (onSuccess result rest) where
  toTakes := h.toTakes.onSuccess hrest.toTakes
  input := by
    obtain ⟨ok, mid⟩ := result
    obtain rfl : ok = true := h.ok
    exact hrest.input.trans h.input

theorem tapTextKey_eq (hid : HidState) (key : HidTextKey) :
    hid.tapTextKey key = onSuccess (hid.setInput (hid.input.press key)).sendKeyboard
      fun mid => (mid.setInput hid.input).sendKeyboard := by
  have hinput := input_sendKeyboard (hid.setInput (hid.input.press key))
  have htap : hid.tapTextKey key = onSuccess (hid.setInput (hid.input.press key)).sendKeyboard
      fun mid => (mid.setInput { mid.input with
        modifiers := hid.input.modifiers
        usages := Function.update mid.input.usages key.usage
          (hid.input.usages key.usage) }).sendKeyboard := rfl
  rw [htap]
  generalize (hid.setInput (hid.input.press key)).sendKeyboard = pressed at hinput ⊢
  obtain ⟨ok, mid⟩ := pressed
  have hmid : mid.input = hid.input.press key := hinput
  cases ok with
  | false => rfl
  | true => simp only [onSuccess, hmid, hid.input.release_press key]

theorem input_tapTextKey {hid : HidState} {key : HidTextKey} (h : (hid.tapTextKey key).1 = true) :
    (hid.tapTextKey key).2.input = hid.input := by
  rw [tapTextKey_eq] at h ⊢
  generalize (hid.setInput (hid.input.press key)).sendKeyboard = pressed at h ⊢
  obtain ⟨ok, mid⟩ := pressed
  cases ok with
  | false => cases h
  | true => exact input_sendKeyboard (mid.setInput hid.input)

theorem typeAsciiSequence_append (hid : HidState) (text more : List UInt8) :
    hid.typeAsciiSequence (text ++ more) =
      onSuccess (hid.typeAsciiSequence text) fun hid => hid.typeAsciiSequence more := by
  induction text generalizing hid with
  | nil => rfl
  | cons character text ih =>
    simp only [List.cons_append, typeAsciiSequence]
    split
    · rfl
    · rename_i key _
      generalize hid.tapTextKey key = tapped
      obtain ⟨ok, hid'⟩ := tapped
      cases ok with
      | false => rfl
      | true => exact ih hid'

theorem typeOrPaste_of_keys (hid : HidState) (hstrokes : codepointKeys codepoint = some strokes) :
    hid.typeOrPaste codepoint = hid.typeCodepoint codepoint := by
  refine if_pos ?_
  by_cases hascii : codepoint ≤ 0x7f
  · exact .inl hascii
  · simp only [codepointKeys, if_neg hascii] at hstrokes
    split at hstrokes
    · rename_i hsequences
      refine .inr (.inl ?_)
      unfold codepointToHangulSequences at hsequences
      split at hsequences
      · cases hsequences
      · rename_i hrange
        exact ⟨UInt32.not_lt.mp fun hlt => hrange (.inl hlt),
          UInt32.not_lt.mp fun hlt => hrange (.inr hlt)⟩
    · obtain ⟨text, htext, -⟩ := Option.bind_eq_some_iff.mp hstrokes
      exact .inr (.inr (by simp [htext]))

-- ---------------------------------------------------------------------------
-- Accounts
-- ---------------------------------------------------------------------------

/-- `Q hid entries result` is an account of calls in which a key has the entries `tap`; a text then
has those of its keys. -/
structure Accounts {ε : Type} (Q : HidState → List ε → Bool × HidState → Prop)
    (tap : HidInput → HidTextKey → List ε) : Prop where
  refl : ∀ hid, Q hid [] (true, hid)
  onSuccess : ∀ {hid : HidState} {entries more : List ε} {result : Bool × HidState}
    {rest : HidState → Bool × HidState}, Q hid entries result →
    (result.1 = true → Q result.2 more (rest result.2)) →
    Q hid (entries ++ more) (onSuccess result rest)
  tapTextKey : ∀ hid key, Q hid (tap hid.input key) (hid.tapTextKey key)

section

variable {ε : Type} {Q : HidState → List ε → Bool × HidState → Prop}
  {tap : HidInput → HidTextKey → List ε} (hQ : Accounts Q tap) (hid : HidState)
  {strokes : List HidTextKey}

include hQ

theorem Accounts.typeAsciiSequence {text : List UInt8}
    (hstrokes : text.mapM asciiToHid = some strokes) :
    Q hid (strokes.flatMap (tap hid.input)) (hid.typeAsciiSequence text) := by
  induction text generalizing hid strokes with
  | nil =>
    cases hstrokes
    exact hQ.refl hid
  | cons character text ih =>
    simp only [List.mapM_cons, Option.bind_eq_bind, Option.bind_eq_some_iff] at hstrokes
    obtain ⟨key, hkey, more, hmore, hcons⟩ := hstrokes
    cases hcons
    simp only [HidState.typeAsciiSequence, hkey, List.flatMap_cons]
    refine hQ.onSuccess (hQ.tapTextKey hid key) fun hok => ?_
    rw [← input_tapTextKey hok]
    exact ih _ hmore

theorem Accounts.typeCodepoint (hstrokes : codepointKeys codepoint = some strokes) :
    Q hid (strokes.flatMap (tap hid.input)) (hid.typeCodepoint codepoint) := by
  unfold codepointKeys at hstrokes
  unfold HidState.typeCodepoint
  generalize (if codepoint ≤ 0x7f then asciiToHid codepoint.toUInt8 else none) = ascii
    at hstrokes ⊢
  cases ascii with
  | some key =>
    cases hstrokes
    rw [List.flatMap_singleton]
    exact hQ.tapTextKey hid key
  | none =>
    generalize codepointToHangulSequences codepoint = sequences at hstrokes ⊢
    rcases sequences with _ | ⟨lead, vowel, trail⟩
    · obtain ⟨text, htext, hstrokes⟩ := Option.bind_eq_some_iff.mp hstrokes
      simpa only [htext] using hQ.typeAsciiSequence hid hstrokes
    · have htyped := hQ.typeAsciiSequence hid hstrokes
      simpa only [typeAsciiSequence_append] using htyped

end

theorem accounts_held : Accounts (fun hid (_ : List Unit) result =>
    result.1 = true → result.2.input = hid.input) fun _ _ => [] where
  refl _ _ := rfl
  onSuccess {hid _ _ result rest} hfirst hrest hok := by
    obtain ⟨ok, mid⟩ := result
    cases ok with
    | false => cases hok
    | true => exact (hrest rfl hok).trans (hfirst rfl)
  tapTextKey _ _ := input_tapTextKey

theorem Accounts.typeText {ε : Type} {Q : HidState → List ε → Bool × HidState → Prop}
    {tap : HidInput → HidTextKey → List ε} (hQ : Accounts Q tap) (hid : HidState)
    {strokes : List HidTextKey} (hstrokes : textKeys fuel text = some strokes) :
    Q hid (strokes.flatMap (tap hid.input)) (HidState.typeText fuel hid text) := by
  induction fuel generalizing hid text strokes with
  | zero =>
    obtain rfl : strokes = [] := by
      cases text <;> exact (Option.some.inj hstrokes).symm
    cases text <;> exact hQ.refl hid
  | succ fuel ih =>
    cases text with
    | nil =>
      cases hstrokes
      exact hQ.refl hid
    | cons byte text =>
      simp only [textKeys, Option.bind_eq_bind, Option.bind_eq_some_iff] at hstrokes
      obtain ⟨⟨codepoint, rest⟩, hdecode, first, hfirst, more, hmore, hcons⟩ := hstrokes
      cases hcons
      simp only [HidState.typeText, hdecode, typeOrPaste_of_keys hid hfirst, List.flatMap_append]
      refine hQ.onSuccess (hQ.typeCodepoint hid hfirst) fun hok => ?_
      rw [← accounts_held.typeCodepoint hid hfirst hok]
      exact ih _ hmore

-- ---------------------------------------------------------------------------
-- Keys with room
-- ---------------------------------------------------------------------------

theorem types_tapTextKey {hid : HidState} (h : hid.Flows)
    (hpaste : hid.input.keyboardPasteCodepoint = 0)
    (room : hid.count .keyboard + 2 ≤ hidReportQueueCapacity) (key : HidTextKey) :
    Types hid (hid.input.tap key) (hid.tapTextKey key) := by
  have hpress : Takes hid [(hid.input.press key).state]
      (hid.setInput (hid.input.press key)).sendKeyboard :=
    Takes.setInput (takes_sendKeyboard (h.congr rfl rfl) hpaste (Nat.lt_of_succ_lt room))
  have htakes : Takes hid (hid.input.tap key) (hid.tapTextKey key) := by
    rw [tapTextKey_eq]
    generalize (hid.setInput (hid.input.press key)).sendKeyboard = pressed at hpress ⊢
    have hrelease : Takes pressed.2 [hid.input.state] (pressed.2.setInput hid.input).sendKeyboard :=
      Takes.setInput (takes_sendKeyboard (hpress.flows.congr rfl rfl) hpaste
        (hpress.count_le.trans_lt room))
    exact hpress.onSuccess hrelease
  exact ⟨htakes, input_tapTextKey htakes.ok⟩

theorem accounts_types : Accounts (fun hid reports result => hid.Flows →
    hid.input.keyboardPasteCodepoint = 0 →
    hid.count .keyboard + reports.length ≤ hidReportQueueCapacity → Types hid reports result)
    HidInput.tap where
  refl hid h _ _ := Types.refl h
  onSuccess hfirst hrest h hpaste room := by
    rw [List.length_append] at room
    have hdone := hfirst h hpaste (by omega)
    have hcount := hdone.count_le
    have hpaste' := (congrArg HidInput.keyboardPasteCodepoint hdone.input).trans hpaste
    exact hdone.onSuccess (hrest hdone.ok hdone.flows hpaste' (by omega))
  tapTextKey hid key h hpaste room := types_tapTextKey h hpaste room key

theorem length_taps (input : HidInput) (strokes : List HidTextKey) :
    (strokes.flatMap input.tap).length = 2 * strokes.length := by
  simp [HidInput.tap, List.length_flatMap]
  omega

-- ---------------------------------------------------------------------------
-- The whole text
-- ---------------------------------------------------------------------------

theorem Takes.endText (h : Takes hid reports result) :
    Takes hid reports (endText result) ∧
      (HidState.endText result).2.input = { result.2.input with keyboardDelayMs := 0 } := by
  obtain ⟨ok, hid'⟩ := result
  obtain rfl : ok = true := h.ok
  exact ⟨⟨rfl, h.log, h.count_le, h.flows.congr rfl rfl⟩, rfl⟩

theorem hidTypeUtf8_eq (hid : HidState) (h : text ≠ []) :
    hid.hidTypeUtf8 text =
      match hid.input.shortcut text with
      | some key => endText ((hid.setKeyboardDelay 20).tapTextKey key)
      | none =>
        endText (onSuccess ((hid.setKeyboardDelay 20).resetKeyboardState false).sendKeyboard
          fun hid => typeText text.length hid text) := by
  rw [hidTypeUtf8, if_neg h]
  rfl

/-- With room for all of its reports, a text is taken as a whole. -/
theorem takes_hidTypeUtf8 {hid : HidState} (h : hid.Flows)
    (hpaste : hid.input.keyboardPasteCodepoint = 0) (htypable : Typable text)
    (room : hid.count .keyboard + (hid.input.typed text).length ≤ hidReportQueueCapacity) :
    Takes hid (hid.input.typed text) (hid.hidTypeUtf8 text) ∧
      (hid.hidTypeUtf8 text).2.input = hid.input.afterText text := by
  obtain ⟨hne, htext⟩ := htypable
  obtain ⟨strokes, hstrokes⟩ := Option.isSome_iff_exists.mp htext
  have hpaced : (hid.setKeyboardDelay 20).Flows := h.congr rfl rfl
  rw [hidTypeUtf8_eq hid hne, HidInput.afterText]
  rw [HidInput.typed] at room ⊢
  cases hshortcut : hid.input.shortcut text with
  | some key =>
    rw [hshortcut] at room
    have htap := types_tapTextKey hpaced hpaste room key
    obtain ⟨htakes, hinput⟩ := htap.toTakes.endText
    refine ⟨htakes.setInput, hinput.trans ?_⟩
    rw [htap.input]
    rfl
  | none =>
    simp only [hshortcut, hstrokes, Option.getD_some, List.length_cons, length_taps] at room ⊢
    have hneutral : Takes ((hid.setKeyboardDelay 20).resetKeyboardState false)
        [hid.input.resetKeyboardState.state]
        ((hid.setKeyboardDelay 20).resetKeyboardState false).sendKeyboard :=
      takes_sendKeyboard (hpaced.congr rfl rfl) hpaste
        (show hid.count .keyboard < hidReportQueueCapacity by omega)
    have hinput := input_sendKeyboard ((hid.setKeyboardDelay 20).resetKeyboardState false)
    generalize ((hid.setKeyboardDelay 20).resetKeyboardState false).sendKeyboard = sent
      at hneutral hinput ⊢
    have hcount : sent.2.count .keyboard ≤ hid.count .keyboard + 1 := hneutral.count_le
    have hkeys := accounts_types.typeText _ hstrokes hneutral.flows (by rw [hinput]; exact hpaste)
      (by rw [length_taps]; omega)
    rw [hinput] at hkeys
    have hall : Takes _ _ (onSuccess sent fun hid => typeText text.length hid text) :=
      hneutral.onSuccess hkeys.toTakes
    obtain ⟨htakes, hend⟩ := hall.endText
    refine ⟨⟨htakes.ok, htakes.log, htakes.count_le, htakes.flows⟩, hend.trans ?_⟩
    obtain ⟨ok, mid⟩ := sent
    obtain rfl : ok = true := hneutral.ok
    have hmid : mid.input = ((hid.setKeyboardDelay 20).resetKeyboardState false).input := hinput
    simp only [onSuccess, hkeys.input, hmid]
    rfl

end HidState

end NanokvmRdp.Hid
