import NanokvmRdp.Hid.DeviceLaws

/-!
# What the host is told

`Held` is what the user holds down. An endpoint is told about it when the
last report of that endpoint, written or still pending, encodes it. Every
operation that succeeds leaves all three endpoints told, and a release does
so even where an operation before it failed half-way.
-/

namespace NanokvmRdp.Hid

structure Held where
  modifiers : UInt8
  usages : UInt8 → Bool
  buttons : UInt8

def Held.none : Held := ⟨0, fun _ => false, 0⟩

def Held.pressed (held : Held) : List UInt8 := allUsages.filter held.usages

def HidInput.held (input : HidInput) : Held := ⟨input.modifiers, input.usages, input.buttons⟩

/-- Keyboard: the modifiers and the six lowest keys. Pointer: the buttons of the
endpoint. -/
def Encodes (held : Held) : Endpoint → List UInt8 → Prop
  | .keyboard, bytes =>
    bytes.head? = some held.modifiers ∧ bytes.drop 2 = zeroPadded 6 (held.pressed.take 6)
  | .mouse, bytes => bytes.head? = some (held.buttons &&& 0x07)
  | .touch, bytes => bytes.head? = some (held.buttons &&& 0x18)

def lastOn (e : Endpoint) (reports : List Report) : Option (List UInt8) :=
  (reports.reverse.find? fun report => report.1 = e).map Prod.snd

theorem lastOn_concat (e : Endpoint) (reports : List Report) (report : Report) :
    lastOn e (reports ++ [report]) =
      if report.1 = e then some report.2 else lastOn e reports := by
  by_cases h : report.1 = e <;> simp [lastOn, h]

theorem fillUsages_eq (usages : UInt8 → Bool) (rest : List UInt8) (room : Nat) :
    fillUsages usages rest room = (rest.filter usages).take room := by
  induction rest generalizing room with
  | nil => simp [fillUsages]
  | cons usage rest ih =>
    cases room with
    | zero => simp [fillUsages]
    | succ room =>
      rw [fillUsages]
      split
      · rename_i h
        simp [h, ih]
      · rename_i h
        simp [h, ih]

theorem encodes_keyboardReport (input : HidInput) :
    Encodes input.held .keyboard input.keyboardReport.bytes := by
  refine ⟨rfl, ?_⟩
  simp [HidInput.keyboardReport, fillUsages_eq, Held.pressed, HidInput.held]

theorem head_absoluteReport (input : HidInput) :
    input.absoluteReport.bytes.head? = some (input.buttons &&& 0x18) := by
  simp only [HidInput.absoluteReport]
  split <;> rfl

theorem Encodes.of_head (h : Encodes held e bytes) (he : e ≠ .keyboard)
    (hhead : bytes'.head? = bytes.head?) : Encodes held e bytes' := by
  cases e with
  | keyboard => exact absurd rfl he
  | mouse => exact hhead.trans h
  | touch => exact hhead.trans h

namespace HidState

def latest (hid : HidState) (e : Endpoint) : Option (List UInt8) := lastOn e (hid.log e.queue)

def Told (hid : HidState) (held : Held) (e : Endpoint) : Prop :=
  ∃ bytes, hid.latest e = some bytes ∧ Encodes held e bytes

/-- Every endpoint is told what is held now. -/
def Converged (hid : HidState) : Prop := ∀ e, hid.Told hid.input.held e

theorem latest_of_log {hid hid' : HidState} (h : ∀ q, hid'.log q = hid.log q) (e : Endpoint) :
    hid'.latest e = hid.latest e := by rw [latest, h, latest]

/-- What a sending function does: if it succeeds its endpoint is told, and the
other endpoints are left alone in any case. -/
structure Sent (e : Endpoint) (hid : HidState) (result : Bool × HidState) : Prop where
  held : result.2.input.held = hid.input.held
  told : result.1 = true → result.2.Told hid.input.held e
  others : ∀ e', e' ≠ e → result.2.latest e' = hid.latest e'

theorem Told.congr (h : Told hid held e) (hlatest : hid'.latest e = hid.latest e) :
    Told hid' held e := by
  obtain ⟨bytes, hbytes, hencodes⟩ := h
  exact ⟨bytes, hlatest.trans hbytes, hencodes⟩

theorem Sent.converged (h : Sent e hid result) (hok : result.1 = true)
    (hothers : ∀ e', e' ≠ e → hid.Told hid.input.held e') : result.2.Converged := by
  intro e'
  rw [h.held]
  by_cases he : e' = e
  · rw [he]
    exact h.told hok
  · exact (hothers e' he).congr (h.others e' he)

theorem queueReport_sent (hid : HidState) (e : Endpoint) (payload : Payload) (motion : Bool)
    (delayMs : UInt16) (hencodes : Encodes hid.input.held e payload.bytes)
    (hmotion : motion = true → e ≠ .keyboard) :
    Sent e hid (hid.queueReport e payload motion delayMs) := by
  have hinput := input_queueReport hid e payload motion delayMs
  obtain ⟨hother, hlog⟩ := queueReport_log hid e payload motion delayMs
  generalize hid.queueReport e payload motion delayMs = result at hinput hother hlog ⊢
  refine ⟨by rw [hinput], fun hok => ?_, fun e' he => ?_⟩
  · rcases hlog with ⟨reports, bytes, hlog, hbytes⟩ | ⟨hfailed, -⟩
    · refine ⟨bytes, by rw [latest, hlog, lastOn_concat, if_pos rfl], ?_⟩
      rcases hbytes with ⟨rfl, -⟩ | ⟨htrue, hhead, -⟩
      · exact hencodes
      · exact hencodes.of_head (hmotion htrue) hhead
    · rw [hfailed] at hok
      cases hok
  · by_cases hq : e'.queue = e.queue
    · -- The end of the log that changes is a report of `e`.
      simp only [latest, hq]
      rcases hlog with ⟨reports, bytes, hlog, ⟨-, hold⟩ | ⟨-, -, old, hold⟩⟩ | ⟨-, -, hsame⟩
      · rw [hlog, hold, lastOn_concat, if_neg (Ne.symm he)]
      · rw [hlog, hold, lastOn_concat, lastOn_concat, if_neg (Ne.symm he), if_neg (Ne.symm he)]
      · rw [hsame]
    · rw [latest, latest, hother _ hq]

-- ---------------------------------------------------------------------------
-- Sending
-- ---------------------------------------------------------------------------

theorem sendKeyboard_sent (hid : HidState) : Sent .keyboard hid hid.sendKeyboard := by
  have hsent := queueReport_sent hid .keyboard hid.input.keyboardReport false
    hid.input.keyboardDelayMs (encodes_keyboardReport hid.input) (fun h => by cases h)
  exact ⟨hsent.held, hsent.told, hsent.others⟩

theorem sendRelative_sent (hid : HidState) (dx dy wheel : Int8) :
    Sent .mouse hid (hid.sendRelative dx dy wheel) :=
  queueReport_sent hid .mouse _ false 0 rfl (fun h => by cases h)

theorem queueAbsolute_sent (hid : HidState) (motion : Bool) :
    Sent .touch hid (hid.queueAbsolute hid.input.absoluteReport motion) := by
  have hsent := queueReport_sent hid .touch hid.input.absoluteReport motion 0
    (head_absoluteReport hid.input) (fun _ h => by cases h)
  exact ⟨rfl, hsent.told, hsent.others⟩

/-- The direct write succeeds and adds a report to the log, which has nothing
pending, or it leaves the log alone. -/
theorem writeAbsoluteNow_log (hid : HidState) (report : Payload) :
    (hid.writeAbsoluteNow report).2.input = hid.input ∧
      ∀ q, (hid.writeAbsoluteNow report).2.log q = hid.log q ++
        if (hid.writeAbsoluteNow report).1 = true ∧ q = .pointer then [(.touch, report.bytes)] else [] := by
  unfold writeAbsoluteNow
  split
  · simp
  · rename_i hidle
    have hwrite := calls_write hid (.endpoint .touch) report.bytes
    generalize hid.write (.endpoint .touch) report.bytes = wrote at hwrite ⊢
    obtain ⟨answer, hid'⟩ := wrote
    have hpending : ∀ q, hid'.pending q = hid.pending q := fun q => by
      rw [pending, hwrite.queues, pending]
    cases answer with
    | complete =>
      refine ⟨hwrite.input, fun q => ?_⟩
      have hempty : hid.pending .pointer = [] := by
        rw [← List.length_eq_zero_iff, length_pending]
        by_contra hbusy
        exact hidle (.inl hbusy)
      show hid'.log q = _
      rw [log, hwrite.submitted, hpending, log]
      cases q with
      | keyboard => simp [written, UsbEvent.report?, Endpoint.queue]
      | pointer => simp [written, UsbEvent.report?, Endpoint.queue, hempty]
    | again => exact ⟨hwrite.input, fun q => by simp [log, hpending, hwrite.submitted, written]⟩
    | failed => exact ⟨hwrite.input, fun q => by simp [log, hpending, hwrite.submitted, written]⟩

theorem sendAbsolute_sent (hid : HidState) (motion : Bool) :
    Sent .touch hid (hid.sendAbsolute motion) := by
  unfold sendAbsolute
  simp only
  split
  · obtain ⟨hinput, hlog⟩ := writeAbsoluteNow_log hid hid.input.absoluteReport
    generalize hid.writeAbsoluteNow hid.input.absoluteReport = wrote at hinput hlog ⊢
    obtain ⟨ok, hid'⟩ := wrote
    simp only at hinput hlog
    cases ok with
    | true =>
      refine ⟨by rw [hinput], fun _ => ⟨_, ?_, head_absoluteReport hid.input⟩, fun e he => ?_⟩
      · rw [latest, hlog]
        simp [Endpoint.queue, lastOn_concat]
      · rw [latest, hlog, latest]
        cases e with
        | keyboard => simp [Endpoint.queue]
        | mouse => simp [Endpoint.queue, lastOn_concat]
        | touch => exact absurd rfl he
    | false =>
      have hsent := queueAbsolute_sent hid' true
      have hlatest : ∀ e, hid'.latest e = hid.latest e := latest_of_log (by simpa using hlog)
      rw [hinput] at hsent
      exact ⟨hsent.held.trans (by rw [hinput]), fun h => hinput ▸ hsent.told h,
        fun e he => (hsent.others e he).trans (hlatest e)⟩
  · exact queueAbsolute_sent hid false

end HidState

end NanokvmRdp.Hid
