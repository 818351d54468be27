import NanokvmRdp.Agent.Settled
import NanokvmRdp.Gateway.HttpText
import NanokvmRdp.Hid.Typing
import NanokvmRdp.Lib.Machine

/-!
# Delivery of a text

A text accepted over HTTP reaches the agent as one message a character, at
any times. The reports of a character go out 20 ms apart, so what comes
faster gathers in the keyboard queue, and a report that finds the queue full
cancels the text. The text is typed in full as long as each message finds
room for its reports.
-/

namespace NanokvmRdp

open Hid Protocol

-- ---------------------------------------------------------------------------
-- The run
-- ---------------------------------------------------------------------------

def AlwaysWritable (kernel : Nat → Answer) : Prop :=
  ∀ n, (kernel n).opened = .complete ∧ (kernel n).wrote = .complete

def Hid.HidState.answeredBy (hid : HidState) (kernel : Nat → Answer) : HidState :=
  { hid with usb.kernel := kernel }

/-- A message is handled, the keyboard queue is flushed, or something else
happens that is no business of the keyboard. The answers of the kernel come
with the call they belong to. -/
inductive TextEvent where
  | message (kernel : Nat → Answer)
  | flush (kernel : Nat → Answer)
  | other (hid : HidState)

/-- The texts still to come and those handed to `hid_type_utf8`; `ok` holds as
long as no call returned false. -/
structure TextDelivery where
  hid : HidState
  coming : List (List UInt8)
  typed : List (List UInt8) := []
  ok : Bool := true

namespace TextDelivery

def step (s : TextDelivery) : TextEvent → Option TextDelivery
  | .message kernel =>
    match s.coming with
    | [] => none
    | text :: coming =>
      let result := (s.hid.answeredBy kernel).hidTypeUtf8 text
      some { hid := result.2, coming, typed := s.typed ++ [text], ok := s.ok && result.1 }
  | .flush kernel =>
    let result := (s.hid.answeredBy kernel).flushReports .keyboard
    some { s with hid := result.2, ok := s.ok && result.1 }
  | .other hid => some { s with hid }

/-- The keyboard is writable in the calls that use it, and the others leave it
alone: its queue, what was written and what is held. -/
def Allowed (s : TextDelivery) : TextEvent → Prop
  | .message kernel => AlwaysWritable kernel
  | .flush kernel => AlwaysWritable kernel
  | .other hid =>
    hid.queues .keyboard = s.hid.queues .keyboard ∧
      hid.submitted .keyboard = s.hid.submitted .keyboard ∧
      hid.input.modifiers = s.hid.input.modifiers ∧ hid.input.usages = s.hid.input.usages ∧
      hid.input.keyboardPasteCodepoint = s.hid.input.keyboardPasteCodepoint

end TextDelivery

def Hid.HidInput.typedAll (input : HidInput) : List (List UInt8) → List Report
  | [] => []
  | text :: texts => input.typed text ++ (input.afterText text).typedAll texts

theorem Hid.HidInput.typedAll_concat (input : HidInput) (texts : List (List UInt8))
    (text : List UInt8) :
    input.typedAll (texts ++ [text]) =
      input.typedAll texts ++ (texts.foldl HidInput.afterText input).typed text := by
  induction texts generalizing input with
  | nil => simp [typedAll]
  | cons first texts ih => simp [typedAll, ih]

theorem Hid.HidInput.typed_congr {input input' : HidInput} (hmodifiers : input'.modifiers = input.modifiers)
    (husages : input'.usages = input.usages) (text : List UInt8) :
    input'.typed text = input.typed text ∧
      (input'.afterText text).modifiers = (input.afterText text).modifiers ∧
      (input'.afterText text).usages = (input.afterText text).usages := by
  have hstate : ∀ {a b : HidInput}, a.modifiers = b.modifiers → a.usages = b.usages →
      a.state = b.state := by
    intro a b hm hu
    simp only [HidInput.state, HidInput.keyboardReport, hm, hu]
  have htap : ∀ {a b : HidInput}, a.modifiers = b.modifiers → a.usages = b.usages →
      a.tap = b.tap := by
    intro a b hm hu
    funext key
    simp only [HidInput.tap, hstate hm hu,
      hstate (a := a.press key) (b := b.press key) (by simp [HidInput.press, hm])
        (by simp [HidInput.press, hu])]
  have hshortcut : input'.shortcut text = input.shortcut text := by
    rw [HidInput.shortcut, hmodifiers, HidInput.shortcut]
  simp only [HidInput.typed, HidInput.afterText, hshortcut]
  cases input.shortcut text with
  | some key => exact ⟨congrFun (htap hmodifiers husages) key, hmodifiers, husages⟩
  | none =>
    have hreset := hstate (a := input'.resetKeyboardState) (b := input.resetKeyboardState) rfl rfl
    have hresetTap := htap (a := input'.resetKeyboardState) (b := input.resetKeyboardState) rfl rfl
    exact ⟨by rw [hreset, hresetTap], rfl, rfl⟩

namespace TextDelivery

structure Complete (start : HidState) (texts : List (List UInt8)) (s : TextDelivery) : Prop where
  ok : s.ok = true
  order : s.typed ++ s.coming = texts
  log : s.hid.log .keyboard = start.log .keyboard ++ start.input.typedAll s.typed
  modifiers : s.hid.input.modifiers = (s.typed.foldl HidInput.afterText start.input).modifiers
  usages : s.hid.input.usages = (s.typed.foldl HidInput.afterText start.input).usages
  unmarked : s.hid.input.keyboardPasteCodepoint = 0
  flows : ∀ kernel, AlwaysWritable kernel → (s.hid.answeredBy kernel).Flows

theorem flows_answeredBy {hid : HidState} (h : hid.Flows) {kernel : Nat → Answer}
    (hkernel : AlwaysWritable kernel) : (hid.answeredBy kernel).Flows where
  opened n := (hkernel n).1
  wrote n := (hkernel n).2
  unblocked := h.unblocked
  inflight := h.inflight
  unmarked := h.unmarked

theorem Complete.message {s : TextDelivery} {coming : List (List UInt8)} (h : Complete start texts s)
    (htypable : ∀ text ∈ texts, Typable text) (hkernel : AlwaysWritable kernel)
    (hcoming : s.coming = text :: coming)
    (hroom : s.hid.count .keyboard + (s.hid.input.typed text).length ≤ hidReportQueueCapacity) :
    Complete start texts
      { hid := ((s.hid.answeredBy kernel).hidTypeUtf8 text).2
        coming
        typed := s.typed ++ [text]
        ok := s.ok && ((s.hid.answeredBy kernel).hidTypeUtf8 text).1 } := by
  have hmem : text ∈ texts := by
    rw [← h.order, hcoming]
    simp
  obtain ⟨htakes, hinput⟩ := HidState.takes_hidTypeUtf8 (h.flows kernel hkernel) h.unmarked
    (htypable text hmem) hroom
  obtain ⟨htyped, hmodifiers, husages⟩ := HidInput.typed_congr h.modifiers h.usages text
  have hafter : (s.hid.input.afterText text).keyboardPasteCodepoint = 0 := by
    unfold HidInput.afterText
    split <;> exact h.unmarked
  refine ⟨by simp [h.ok, htakes.ok], by simp [← h.order, hcoming], ?_, ?_, ?_, ?_, ?_⟩
  · have hlog := htakes.log
    change _ = s.hid.log .keyboard ++ s.hid.input.typed text at hlog
    rw [hlog, h.log, htyped, HidInput.typedAll_concat, List.append_assoc]
  · rw [hinput, List.foldl_concat]
    exact hmodifiers
  · rw [hinput, List.foldl_concat]
    exact husages
  · rw [hinput]
    exact hafter
  · intro kernel' hkernel'
    exact flows_answeredBy htakes.flows hkernel'

def start (hid : HidState) (messages : List ControlMessage) : TextDelivery where
  hid := hid
  coming := messages.map ControlMessage.payload

def promptly (clock : UInt64) : Nat → Answer := fun _ => { clock }

def fresh : HidState := ((Agent.start {} (promptly 1000)).run []).hid

end TextDelivery

-- ---------------------------------------------------------------------------
-- A burst
-- ---------------------------------------------------------------------------

namespace Hid.HidState

def Paced (hid : HidState) : Prop :=
  ∀ n, (hid.usb.kernel n).clock < (hid.queues .keyboard).readyAt

theorem flushReports_paced {hid : HidState} (h : hid.Paced) :
    ∃ hid', hid.flushReports .keyboard = (true, hid') ∧ hid'.queues = hid.queues ∧
      hid'.usb.kernel = hid.usb.kernel ∧ hid'.submitted = hid.submitted ∧ hid'.input = hid.input := by
  rw [flushReports_eq]
  split
  · exact ⟨hid, rfl, rfl, rfl, rfl, rfl⟩
  · have hstop : hid.now.2.checkPace .keyboard hid.now.1 = .stop true hid.now.2 := if_pos (h _)
    have hturn : hid.flushTurn .keyboard = .stop true hid.now.2 := by
      simp only [flushTurn, hstop, Turn.andThen]
    rw [hturn]
    exact ⟨hid.now.2, rfl, rfl, rfl, rfl, rfl⟩

structure Gathers (hid : HidState) (n : Nat) (result : Bool × HidState) : Prop where
  ok : result.1 = true
  count : result.2.count .keyboard = hid.count .keyboard + n
  submitted : result.2.submitted .keyboard = hid.submitted .keyboard
  kernel : result.2.usb.kernel = hid.usb.kernel
  readyAt : (result.2.queues .keyboard).readyAt = (hid.queues .keyboard).readyAt

theorem Gathers.paced (h : Gathers hid n result) (hpaced : hid.Paced) : result.2.Paced := by
  intro k
  rw [h.kernel, h.readyAt]
  exact hpaced k

theorem Gathers.onSuccess {rest : HidState → Bool × HidState} (h : Gathers hid n result)
    (hrest : Gathers result.2 m (rest result.2)) : Gathers hid (n + m) (onSuccess result rest) := by
  obtain ⟨ok, mid⟩ := result
  obtain rfl : ok = true := h.ok
  exact ⟨hrest.ok, by rw [← Nat.add_assoc, ← h.count]; exact hrest.count,
    hrest.submitted.trans h.submitted, hrest.kernel.trans h.kernel, hrest.readyAt.trans h.readyAt⟩

def Refuses (hid : HidState) (result : Bool × HidState) : Prop :=
  result.1 = false ∧ result.2.submitted .keyboard = hid.submitted .keyboard

theorem Refuses.onSuccess {rest : HidState → Bool × HidState} (h : Refuses hid result) :
    Refuses hid (onSuccess result rest) := by
  obtain ⟨ok, mid⟩ := result
  obtain rfl : ok = false := h.1
  exact h

theorem Gathers.refuses {rest : HidState → Bool × HidState} (h : Gathers hid n result)
    (hrest : Refuses result.2 (rest result.2)) : Refuses hid (Hid.onSuccess result rest) := by
  obtain ⟨ok, mid⟩ := result
  obtain rfl : ok = true := h.ok
  exact ⟨hrest.1, hrest.2.trans h.submitted⟩

theorem gathers_sendKeyboard {hid : HidState} (h : hid.Paced)
    (room : hid.count .keyboard < hidReportQueueCapacity) (input : HidInput) :
    Gathers hid 1 (hid.setInput input).sendKeyboard := by
  have hqueue := queueReport_of_room (hid.setInput input) .keyboard input.keyboardReport
    input.keyboardDelayMs room
  obtain ⟨hid', hflush, hqueues, hkernel, hsubmitted, -⟩ := @flushReports_paced
    ((hid.setInput input).pushBack .keyboard input.keyboardReport false input.keyboardDelayMs room) h
  have hsent : (hid.setInput input).sendKeyboard = (true, hid'.noteDesynced) := by
    rw [sendKeyboard, input_setInput, hqueue]
    exact congrArg (fun r : Bool × HidState => (r.1, r.2.noteDesynced)) hflush
  have hnoted : hid'.noteDesynced.queues = hid'.queues := rfl
  rw [hsent]
  refine ⟨rfl, ?_, congrFun hsubmitted _, hkernel, ?_⟩
  · rw [HidState.count, hnoted, hqueues]
    rfl
  · rw [hnoted, hqueues]
    rfl

theorem gathers_tapTextKey {hid : HidState} (h : hid.Paced)
    (room : hid.count .keyboard + 2 ≤ hidReportQueueCapacity) (key : HidTextKey) :
    Gathers hid 2 (hid.tapTextKey key) := by
  have hpress := gathers_sendKeyboard h (Nat.lt_of_succ_lt room) (hid.input.press key)
  refine hpress.onSuccess (m := 1) (gathers_sendKeyboard (hpress.paced h) ?_ _)
  rw [hpress.count]
  exact room

theorem hidTypeUtf8_letter {hid : HidState} (h : hid.input.modifiers = 0) :
    hid.hidTypeUtf8 [0x61] =
      endText (onSuccess ((hid.setKeyboardDelay 20).resetKeyboardState false).sendKeyboard fun hid =>
        onSuccess (hid.tapTextKey ⟨0, 0x04⟩) fun hid => (true, hid)) := by
  have hshortcut : hid.input.shortcut [0x61] = none := by simp [HidInput.shortcut, h]
  rw [hidTypeUtf8_eq hid (by simp), hshortcut]
  rfl

theorem Gathers.modifiers_tapTextKey {hid : HidState} (h : Gathers hid n (hid.tapTextKey key)) :
    (hid.tapTextKey key).2.input.modifiers = hid.input.modifiers := by
  have hok := h.ok
  unfold tapTextKey at hok ⊢
  simp only at hok ⊢
  generalize sendKeyboard (hid.setInput _) = pressed at hok ⊢
  obtain ⟨ok, mid⟩ := pressed
  cases ok with
  | true => simp [Hid.onSuccess]
  | false => cases hok

theorem gathers_neutral {hid : HidState} (h : hid.Paced)
    (room : hid.count .keyboard < hidReportQueueCapacity) :
    Gathers hid 1 ((hid.setKeyboardDelay 20).resetKeyboardState false).sendKeyboard := by
  obtain ⟨hok, hcount, hsubmitted, hkernel, hready⟩ := @gathers_sendKeyboard
    { hid with keyboardDesynced := false } h room
    { hid.input.resetKeyboardState with keyboardDelayMs := 20 }
  exact ⟨hok, hcount, hsubmitted, hkernel, hready⟩

theorem gathers_letter {hid : HidState} (h : hid.Paced) (hmodifiers : hid.input.modifiers = 0)
    (room : hid.count .keyboard + 3 ≤ hidReportQueueCapacity) :
    Gathers hid 3 (hid.hidTypeUtf8 [0x61]) ∧ (hid.hidTypeUtf8 [0x61]).2.input.modifiers = 0 := by
  have hneutral := gathers_neutral h (by omega)
  have hinput := input_sendKeyboard ((hid.setKeyboardDelay 20).resetKeyboardState false)
  rw [hidTypeUtf8_letter hmodifiers]
  generalize sendKeyboard _ = sent at hneutral hinput ⊢
  have htap := gathers_tapTextKey (hneutral.paced h) (by rw [hneutral.count]; exact room) ⟨0, 0x04⟩
  have hkept := htap.modifiers_tapTextKey
  rw [hinput] at hkept
  obtain ⟨ok, mid⟩ := sent
  obtain rfl : ok = true := hneutral.ok
  have hall : Gathers hid (1 + 2) (onSuccess (true, mid) fun hid => hid.tapTextKey ⟨0, 0x04⟩) :=
    hneutral.onSuccess htap
  simp only [onSuccess] at hall ⊢
  generalize mid.tapTextKey ⟨0, 0x04⟩ = tapped at hall hkept ⊢
  obtain ⟨ok, last⟩ := tapped
  obtain rfl : ok = true := hall.ok
  exact ⟨⟨rfl, hall.count, hall.submitted, hall.kernel, hall.readyAt⟩, hkept⟩

end Hid.HidState

namespace TextDelivery

structure Gathered (n : Nat) (s : TextDelivery) : Prop where
  ok : s.ok = true
  coming : s.coming = List.replicate (86 - n) [0x61]
  count : s.hid.count .keyboard + 1 = 3 * n
  modifiers : s.hid.input.modifiers = 0
  readyAt : (s.hid.queues .keyboard).readyAt = 1020
  submitted : s.hid.submitted .keyboard =
    fresh.submitted .keyboard ++ [(.keyboard, List.replicate 8 0)]

theorem Gathered.paced {s : TextDelivery} (h : Gathered n s) :
    (s.hid.answeredBy (promptly 1000)).Paced := by
  intro k
  change (1000 : UInt64) < (s.hid.queues .keyboard).readyAt
  rw [h.readyAt]
  decide

theorem Gathered.step {s : TextDelivery} (h : Gathered n s) (hn : n < 85) :
    ∃ s', s.step (.message (promptly 1000)) = some s' ∧ Gathered (n + 1) s' := by
  have hcoming : s.coming = [0x61] :: List.replicate (86 - (n + 1)) [0x61] := by
    rw [h.coming, show 86 - n = 86 - (n + 1) + 1 by omega]
    rfl
  have hcount := h.count
  obtain ⟨hletter, hmodifiers⟩ := HidState.gathers_letter h.paced h.modifiers
    (show s.hid.count .keyboard + 3 ≤ 256 by omega)
  refine ⟨_, by simp only [TextDelivery.step, hcoming]; rfl, ?_⟩
  refine ⟨by simp [h.ok, hletter.ok], rfl, ?_, hmodifiers, hletter.readyAt.trans h.readyAt,
    hletter.submitted.trans h.submitted⟩
  rw [hletter.count]
  change s.hid.count .keyboard + 3 + 1 = 3 * (n + 1)
  omega

theorem Gathered.run {s : TextDelivery} (h : Gathered n s) (hn : n + m ≤ 85)
    (events : List TextEvent) :
    ∃ s', Gathered (n + m) s' ∧
      Machine.run TextDelivery.step s (List.replicate m (.message (promptly 1000)) ++ events) =
        Machine.run TextDelivery.step s' events := by
  induction m generalizing n s with
  | zero => exact ⟨s, h, rfl⟩
  | succ m ih =>
    obtain ⟨next, hstep, hnext⟩ := h.step (by omega)
    obtain ⟨s', hs', hrun⟩ := ih hnext (by omega)
    refine ⟨s', by rwa [Nat.add_right_comm] at hs', ?_⟩
    rw [List.replicate_succ, List.cons_append, Machine.run, hstep, Option.bind_some, hrun]

end TextDelivery

end NanokvmRdp
