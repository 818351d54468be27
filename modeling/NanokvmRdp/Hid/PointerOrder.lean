import NanokvmRdp.Hid.Buttons
import NanokvmRdp.Hid.EndpointOrder

/-!
# Clicks do not overtake positions

Runs of pointer operations. `write_absolute_now` leaves no endpoint behind for
the queue to wait for, so a relative report right behind it goes out at once.
Every run without such a report keeps the order across the two endpoints.
-/

namespace NanokvmRdp.Hid

inductive PointerOp where
  | absolute (x y : UInt16) (width height : UInt32) (flags : UInt16)
  | relative (x y : Int16) (buttons : UInt8)
  | wheel (flags : UInt16)
  | keepalive (nowMs : UInt64)
  | synchronize
  | flush
  deriving DecidableEq, Repr

namespace PointerOp

def apply (hid : HidState) : PointerOp → HidState
  | absolute x y width height flags => (hid.hidAbsolute x y width height flags).2
  | relative x y buttons => (hid.hidRelative x y buttons).2
  | wheel flags => (hid.hidWheel flags).2
  | keepalive nowMs => (hid.hidKeepalive nowMs).2
  | synchronize => hid.hidSynchronize.2
  | flush => hid.hidFlush.2

/-- The first pointer report of the operation is a relative one. -/
def leadsRelative (hid : HidState) : PointerOp → Bool
  | absolute .. => false
  | relative x y buttons =>
    let changed := hid.input.buttons ^^^ (buttons &&& hidTouchButtonsMask)
    changed &&& 0x18 == 0 && (x != 0 || y != 0 || changed &&& hidMouseButtonsMask != 0)
  | wheel flags => flags &&& ptrFlagsWheel != 0
  | keepalive nowMs =>
    decide ¬(nowMs < hid.input.keepaliveAt ∨ hid.hidPending ∨ hid.input.buttons ≠ 0 ∨
      hid.input.modifiers ≠ 0 ∨ allUsages.any hid.input.usages)
  | synchronize => true
  | flush => false

/-- No relative report comes directly behind a direct write. -/
def Orderly (hid : HidState) (op : PointerOp) : Prop := hid.Direct → op.leadsRelative hid = false

def step (hid : HidState) (op : PointerOp) : Option HidState := some (op.apply hid)

end PointerOp

namespace HidState

-- ---------------------------------------------------------------------------
-- Keyboard reports
-- ---------------------------------------------------------------------------

theorem calm_setInput (hid : HidState) (input : HidInput) : Calm hid (hid.setInput input) :=
  calm_of_eq rfl rfl

theorem calm_queueReport_keyboard (hid : HidState) (payload : Payload) (motion : Bool)
    (delayMs : UInt16) : Calm hid (hid.queueReport .keyboard payload motion delayMs).2 := by
  unfold queueReport
  split
  · exact (calm_setQueue_keyboard hid _).trans (calm_flushReports_keyboard _)
  · have hroom : Calm hid (hid.makeRoom .keyboard) := by
      unfold makeRoom
      split
      · exact calm_flushReports_keyboard hid
      · exact Calm.refl hid
    simp only
    split
    · refine hroom.trans (Calm.trans ?_ (calm_flushReports_keyboard _))
      exact (calm_ask _).trans (calm_setQueue_keyboard _ _)
    · exact hroom.trans (calm_of_eq rfl rfl)

theorem calm_sendKeyboard (hid : HidState) : Calm hid hid.sendKeyboard.2 :=
  (calm_queueReport_keyboard hid _ _ _).trans (calm_of_eq rfl rfl)

theorem Direct.of_calm (hcalm : Calm hid hid') (h : hid'.Direct) : hid.Direct := by
  obtain ⟨hlast, hnone, hzero⟩ := h
  obtain ⟨events, htrace, hquiet⟩ := hcalm.trace
  rw [htrace] at hlast
  exact ⟨unsettled_append hquiet hlast, hcalm.inflight ▸ hnone, hcalm.count ▸ hzero⟩

-- ---------------------------------------------------------------------------
-- Pointer reports
-- ---------------------------------------------------------------------------

theorem sendRelative_ordered (h : Ordered hid) (hdirect : ¬ hid.Direct) (dx dy wheel : Int8) :
    Ordered (hid.sendRelative dx dy wheel).2 ∧ Busy (hid.sendRelative dx dy wheel).2 :=
  queueReport_pointer h rfl (.inr hdirect) _ _ _

theorem writeAbsoluteNow_ordered (h : Ordered hid) (report : Payload) :
    Ordered (hid.writeAbsoluteNow report).2 := by
  unfold writeAbsoluteNow
  split
  · exact h
  · rename_i hidle
    simp only [not_or, ne_eq, Decidable.not_not] at hidle
    obtain ⟨hzero, hnone, -⟩ := hidle
    rcases write_cases hid (.endpoint .touch) report.bytes with ⟨hcalm, hne⟩ | ⟨hcomplete, hwrite⟩
    · generalize hid.write (.endpoint .touch) report.bytes = wrote at hcalm hne ⊢
      obtain ⟨answer, hid'⟩ := wrote
      cases answer with
      | complete => exact absurd rfl hne
      | again => exact h.calm hcalm
      | failed => exact h.calm hcalm
    · rw [Prod.ext hcomplete hwrite (y := (.complete, hid.ask.2.record _))]
      -- nothing of the pointer was on its way, so only a direct write can be unsettled
      have hclear : Clear hid .touch := by
        cases hlast : unsettled hid.usb.trace with
        | none => exact .inl hlast
        | some e =>
          rcases h.inflight e hlast with hsome | ⟨-, rfl, -⟩
          · rw [hnone] at hsome
            cases hsome
          · exact .inr hlast
      have hasked := calm_ask hid
      refine ⟨noOvertaking_record (h.calm hasked).trace (hclear.calm hasked) _, fun e he => .inr ?_⟩
      have he : some Endpoint.touch = some e := (unsettled_record hid.ask.2 rfl report.bytes).symm.trans he
      refine ⟨hnone, (Option.some.inj he).symm, fun entry hentry => ?_⟩
      have hnil : hid.pending .pointer = [] := by
        rw [← List.length_eq_zero_iff, length_pending, hzero]
      have hentry : entry ∈ (hid.pending .pointer).head? := hentry
      rw [hnil] at hentry
      cases hentry

theorem queueAbsolute_ordered (h : Ordered hid) (report : Payload) (motion : Bool) :
    Ordered (hid.queueAbsolute report motion).2 ∧ Busy (hid.queueAbsolute report motion).2 := by
  obtain ⟨hordered, hbusy⟩ := queueReport_pointer h rfl (.inl rfl) report motion 0 (e := .touch)
  exact ⟨hordered.calm (calm_setInput _ _), hbusy⟩

theorem sendAbsolute_ordered (h : Ordered hid) (motion : Bool) :
    Ordered (hid.sendAbsolute motion).2 ∧ (motion = false → Busy (hid.sendAbsolute motion).2) := by
  unfold sendAbsolute
  simp only
  split
  · rename_i hmotion
    have hwritten := writeAbsoluteNow_ordered h hid.input.absoluteReport
    refine ⟨?_, fun hfalse => by simp [hfalse] at hmotion⟩
    split <;> rename_i heq <;> rw [heq] at hwritten
    · exact hwritten
    · exact (queueAbsolute_ordered hwritten _ _).1
  · obtain ⟨hordered, hbusy⟩ := queueAbsolute_ordered h hid.input.absoluteReport false
    exact ⟨hordered, fun _ => hbusy⟩

theorem hidAbsolute_ordered (h : Ordered hid) (x y : UInt16) (width height : UInt32)
    (flags : UInt16) : Ordered (hid.hidAbsolute x y width height flags).2 := by
  unfold hidAbsolute
  simp only
  generalize hmoved : hid.setInput _ = moved
  have hordered : Ordered moved := hmoved ▸ h.calm (calm_setInput hid _)
  have hbuttons : moved.input.buttons = hidPointerButtons hid.input.buttons flags := by
    rw [← hmoved]
    rfl
  generalize hmotion : (flags &&& _ == 0) = motion
  obtain ⟨hsent, hbusy⟩ := sendAbsolute_ordered hordered motion
  refine onSuccess_leaves hsent fun _ => ?_
  split
  · exact hsent
  · rename_i hclick
    -- pure motion leaves the buttons alone, so a click was queued and not written directly
    have hfalse : motion = false := by
      cases motion with
      | false => rfl
      | true =>
        have hsame : (moved.sendAbsolute true).2.input.buttons = moved.input.buttons :=
          congrArg Held.buttons (held_sendAbsolute moved true)
        rw [hsame, hbuttons, buttons_of_motion (by simpa using hmotion)] at hclick
        simp at hclick
    exact (sendRelative_ordered hsent (hbusy hfalse).not_direct 0 0 0).1

theorem moveRelative_ordered (h : Ordered hid) (hdirect : ¬ hid.Direct) (fuel : Nat) (x y : Int) :
    Ordered (moveRelative fuel hid x y).2 := by
  induction fuel generalizing hid x y with
  | zero => exact h
  | succ fuel ih =>
    rw [moveRelative]
    split
    · exact h
    · obtain ⟨hsent, hbusy⟩ := sendRelative_ordered h hdirect
        (Int8.ofInt (clampDelta x)) (Int8.ofInt (clampDelta y)) 0
      exact onSuccess_leaves hsent fun _ => ih hsent hbusy.not_direct _ _

theorem hidRelative_ordered (h : Ordered hid)
    (horderly : PointerOp.Orderly hid (.relative x y buttons)) :
    Ordered (hid.hidRelative x y buttons).2 := by
  unfold hidRelative
  simp only [PointerOp.Orderly, PointerOp.leadsRelative] at horderly
  simp only
  have hcalm := calm_setInput hid { hid.input with
    buttons := buttons &&& hidTouchButtonsMask, mouseButtons := buttons &&& hidTouchButtonsMask }
  generalize hid.setInput _ = held at hcalm ⊢
  generalize hid.input.buttons ^^^ (buttons &&& hidTouchButtonsMask) = changed at horderly ⊢
  by_cases hextra : changed &&& 0x18 = 0
  · rw [if_neg (by simpa using hextra)]
    have hordered := h.calm hcalm
    refine onSuccess_leaves hordered fun _ => ?_
    simp only
    split
    · split
      · exact hordered
      · rename_i hclick
        refine (sendRelative_ordered hordered (fun hdirect => ?_) 0 0 0).1
        simpa [hextra, hclick] using horderly (hdirect.of_calm hcalm)
    · rename_i hmove
      refine moveRelative_ordered hordered (fun hdirect => ?_) _ _ _
      have hstill := horderly (hdirect.of_calm hcalm)
      simp only [hextra, beq_self_eq_true, Bool.true_and, Bool.or_eq_false_iff, bne_eq_false_iff_eq] at hstill
      exact hmove hstill.1
  · rw [if_pos (by simpa using hextra)]
    obtain ⟨hsent, hbusy⟩ := sendAbsolute_ordered (h.calm hcalm) false
    have hbusy := (hbusy rfl).not_direct
    refine onSuccess_leaves hsent fun _ => ?_
    split
    · split
      · exact hsent
      · exact (sendRelative_ordered hsent hbusy 0 0 0).1
    · exact moveRelative_ordered hsent hbusy _ _ _

theorem hidWheel_ordered (h : Ordered hid) (horderly : PointerOp.Orderly hid (.wheel flags)) :
    Ordered (hid.hidWheel flags).2 := by
  unfold hidWheel
  simp only
  split
  · exact h
  · rename_i hwheel
    split
    · split
      · exact h
      · exact (sendAbsolute_ordered (h.calm (calm_setInput hid _)) false).1
    · rename_i hvertical
      refine (sendRelative_ordered h (fun hdirect => ?_) _ _ _).1
      have hnone : (flags &&& ptrFlagsWheel != 0) = false := horderly hdirect
      simp [hnone] at hwheel hvertical
      exact hwheel hvertical

theorem hidKeepalive_ordered (h : Ordered hid) (horderly : PointerOp.Orderly hid (.keepalive nowMs)) :
    Ordered (hid.hidKeepalive nowMs).2 := by
  unfold hidKeepalive
  split
  · exact h
  · rename_i hidle
    have hcalm := calm_setInput hid { hid.input with keepaliveAt := nowMs + hidKeepaliveIntervalMs }
    simp only
    generalize hid.setInput _ = noted at hcalm ⊢
    have hdirect : ¬ noted.Direct := by
      intro hdirect
      exact absurd hidle (of_decide_eq_false (horderly (hdirect.of_calm hcalm)))
    obtain ⟨hsent, -⟩ := sendRelative_ordered (h.calm hcalm) hdirect noted.input.keepaliveDx 0 0
    exact onSuccess_leaves hsent fun _ => hsent.calm (calm_setInput _ _)

theorem hidSynchronize_ordered (h : Ordered hid) (horderly : PointerOp.Orderly hid .synchronize) :
    Ordered hid.hidSynchronize.2 := by
  have hreset : Calm hid ((hid.resetKeyboardState false).setInput hid.input.released) :=
    calm_of_eq rfl rfl
  have hkeyboard : Calm hid hid.keyboardReleased := hreset.trans (calm_sendKeyboard _)
  have hmouse : Ordered hid.mouseReleased := by
    refine (queueReport_pointer (h.calm hkeyboard) rfl (.inr fun hdirect => ?_) _ _ _).1
    exact absurd (horderly (hdirect.of_calm hkeyboard)) (by simp [PointerOp.leadsRelative])
  rw [hidSynchronize_snd]
  exact (queueReport_pointer hmouse rfl (.inl rfl) _ _ _).1.calm (calm_setInput _ _)

theorem hidFlush_ordered (h : Ordered hid) : Ordered hid.hidFlush.2 := by
  have hquiet := quiet_drainKeyboardFeedback hid
  have hdrained := h.calm (calm_of_eq hquiet.trace hquiet.queues)
  have hkeyboard := ordered_flushReports hdrained .keyboard
  exact (ordered_flushReports hkeyboard .pointer).calm (calm_of_eq rfl rfl)

end HidState

-- ---------------------------------------------------------------------------
-- Runs
-- ---------------------------------------------------------------------------

theorem ordered_hidInit (config : HidConfig) (kernel : Nat → Answer) :
    (hidInit config kernel).Ordered := by
  unfold hidInit
  simp only
  generalize hzero : HidState.mk _ _ _ _ _ _ _ _ _ _ = zero
  have hordered : zero.Ordered := by
    rw [← hzero]
    exact ⟨Log.always_nil, fun e he => by cases he⟩
  generalize hstarted : zero.now.2.setInput _ = started
  have hcalm : zero.Calm started := by
    rw [← hstarted]
    exact (HidState.calm_ask zero).trans (HidState.calm_setInput _ _)
  have hkeyboard := started.calm_openHidFd (.endpoint .keyboard)
  generalize (started.openHidFd (.endpoint .keyboard)).2 = opened at hkeyboard ⊢
  have hfeedback := opened.quiet_openKeyboardFeedback
  refine hordered.calm (hcalm.trans (hkeyboard.trans ?_))
  exact (HidState.calm_of_eq hfeedback.trace hfeedback.queues).trans ((HidState.calm_openHidFd _ _).trans
    ((HidState.calm_openHidFd _ _).trans (HidState.calm_openHidFd _ _)))

namespace PointerOp

theorem step_ordered (hid : HidState) (op : PointerOp) (hid' : HidState) (h : hid.Ordered)
    (horderly : Orderly hid op) (hstep : step hid op = some hid') : hid'.Ordered := by
  cases hstep
  cases op with
  | absolute x y width height flags => exact HidState.hidAbsolute_ordered h x y width height flags
  | relative x y buttons => exact HidState.hidRelative_ordered h horderly
  | wheel flags => exact HidState.hidWheel_ordered h horderly
  | keepalive nowMs => exact HidState.hidKeepalive_ordered h horderly
  | synchronize => exact HidState.hidSynchronize_ordered h horderly
  | flush => exact HidState.hidFlush_ordered h

/-- In every run from `hid_init` in which no relative report comes directly
behind a direct write, no pointer report overtakes the one before it. -/
theorem pointer_reports_in_order (config : HidConfig) (kernel : Nat → Answer) (ops : List PointerOp)
    (hid : HidState) (horderly : Machine.Along step Orderly (hidInit config kernel) ops)
    (hrun : Machine.run step (hidInit config kernel) ops = some hid) :
    NoOvertaking hid.usb.trace := by
  have hordered : hid.Ordered :=
    Machine.run_invariant step_ordered (ordered_hidInit config kernel) horderly hrun
  exact hordered.trace

instance (hid : HidState) : Decidable hid.Direct := inferInstanceAs (Decidable (_ ∧ _ ∧ _))

instance (hid : HidState) (op : PointerOp) : Decidable (Orderly hid op) :=
  inferInstanceAs (Decidable (_ → _))

def clickRun : List PointerOp :=
  [.absolute 10 10 100 100 0, .absolute 10 10 100 100 (ptrFlagsDown ||| ptrFlagsButton1),
    .absolute 10 10 100 100 ptrFlagsButton1]

def readyKernel : Nat → Answer := fun _ => {}

theorem clickRun_in_order :
    ∃ hid, Machine.run step (hidInit {} readyKernel) clickRun = some hid ∧
      hid.usb.trace.filterMap UsbEvent.pointer? = [.touch, .touch, .mouse, .touch, .mouse] ∧
      NoOvertaking hid.usb.trace := by
  refine ⟨_, rfl, by decide, ?_⟩
  exact pointer_reports_in_order {} readyKernel clickRun _ (by decide) rfl

/-- The pointer moves, and the wheel report goes out before the position was
seen to be taken. -/
theorem wheel_overtakes_position :
    ∃ hid, Machine.run step (hidInit {} readyKernel)
        [.absolute 10 10 100 100 0, .wheel (ptrFlagsWheel ||| 120)] = some hid ∧
      hid.usb.trace = [.wrote (.endpoint .touch) [0, 0xed, 0x0c, 0xed, 0x0c, 0],
        .writable (.endpoint .mouse), .wrote (.endpoint .mouse) [0, 0, 0, 1]] ∧
      ¬ NoOvertaking hid.usb.trace := by
  obtain ⟨hid, hrun, htrace⟩ : ∃ hid, Machine.run step (hidInit {} readyKernel)
        [.absolute 10 10 100 100 0, .wheel (ptrFlagsWheel ||| 120)] = some hid ∧
      hid.usb.trace = [.wrote (.endpoint .touch) [0, 0xed, 0x0c, 0xed, 0x0c, 0],
        .writable (.endpoint .mouse), .wrote (.endpoint .mouse) [0, 0, 0, 1]] :=
    ⟨_, rfl, by decide⟩
  refine ⟨hid, hrun, htrace, fun h => ?_⟩
  rw [htrace] at h
  have hfollows := h [_, _] _ [] rfl .mouse rfl [] _ [_] .touch rfl rfl
    (by simp [UsbEvent.pointer?, UsbEvent.report?])
  simp at hfollows

end PointerOp

end NanokvmRdp.Hid
