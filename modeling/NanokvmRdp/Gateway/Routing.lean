import Mathlib.Data.Nat.Bitwise
import NanokvmRdp.Agent.Buttons
import NanokvmRdp.Gateway.InputRouter

/-!
# Buttons across the wire

The router and the agent keep their own account of the buttons. An event and
the message made from it change both in the same way (`handle_routes`), and a
button goes up only for an event that releases one.
-/

namespace NanokvmRdp

open Hid Protocol

-- ---------------------------------------------------------------------------
-- Presses and releases
-- ---------------------------------------------------------------------------

namespace Hid

def Keeps (before after : UInt8) : Prop := before ||| after = after

instance (before after : UInt8) : Decidable (Keeps before after) :=
  inferInstanceAs (Decidable (_ = _))

theorem keeps_refl (buttons : UInt8) : Keeps buttons buttons := UInt8.or_self

def goesUp (flags : UInt16) : Bool :=
  flags &&& ptrFlagsDown == 0 && buttonFlags.any fun flag => flags &&& flag.1 != 0

theorem hidPointerButtons_of_down {flags : UInt16} (h : flags &&& ptrFlagsDown ≠ 0)
    (buttons : UInt8) : Keeps buttons (hidPointerButtons buttons flags) := by
  suffices hfold : ∀ (list : List (UInt16 × UInt8)) (after : UInt8), Keeps buttons after →
      Keeps buttons (list.foldl (fun buttons button =>
        if flags &&& button.1 ≠ 0 then
          if flags &&& ptrFlagsDown ≠ 0 then buttons ||| button.2 else buttons &&& ~~~button.2
        else buttons) after) from hfold buttonFlags buttons (keeps_refl buttons)
  intro list
  induction list with
  | nil => exact fun _ hkeeps => hkeeps
  | cons button list ih =>
    intro after hkeeps
    refine ih _ ?_
    simp only [if_pos h]
    split
    · rw [Keeps, ← UInt8.or_assoc, hkeeps]
    · exact hkeeps

theorem hidPointerButtons_keeps {flags : UInt16} (h : goesUp flags = false) (buttons : UInt8) :
    Keeps buttons (hidPointerButtons buttons flags) := by
  by_cases hdown : flags &&& ptrFlagsDown = 0
  · have hnone : ∀ flag ∈ buttonFlags, flags &&& flag.1 = 0 := by
      simpa [goesUp, hdown] using h
    rw [hidPointerButtons_of_none hnone]
    exact keeps_refl buttons
  · exact hidPointerButtons_of_down hdown buttons

def goesDown (flags : UInt16) : Bool :=
  flags &&& ptrFlagsDown != 0 && buttonFlags.any fun flag => flags &&& flag.1 != 0

theorem hidPointerButtons_of_up {flags : UInt16} (h : flags &&& ptrFlagsDown = 0) :
    hidPointerButtons 0 flags = 0 := by
  unfold hidPointerButtons
  induction buttonFlags with
  | nil => rfl
  | cons button list ih =>
    rw [List.foldl_cons]
    convert ih using 2
    simp [h]

theorem hidPointerButtons_zero {flags : UInt16} (h : goesDown flags = false) :
    hidPointerButtons 0 flags = 0 := by
  by_cases hdown : flags &&& ptrFlagsDown = 0
  · exact hidPointerButtons_of_up hdown
  · refine hidPointerButtons_of_none ?_ 0
    simpa [goesDown, hdown] using h

/-- Only the five buttons of the absolute endpoint. -/
def FiveButtons (buttons : UInt8) : Prop := buttons &&& hidTouchButtonsMask = buttons

instance (buttons : UInt8) : Decidable (FiveButtons buttons) :=
  inferInstanceAs (Decidable (_ = _))

theorem FiveButtons.or {a b : UInt8} (ha : FiveButtons a) (hb : FiveButtons b) :
    FiveButtons (a ||| b) := by
  have hdistrib : (a ||| b) &&& hidTouchButtonsMask =
      (a &&& hidTouchButtonsMask) ||| (b &&& hidTouchButtonsMask) := by
    apply UInt8.toNat_inj.mp
    simp only [UInt8.toNat_and, UInt8.toNat_or, Nat.and_or_distrib_right]
  rw [FiveButtons, hdistrib, ha, hb]

theorem FiveButtons.and {a : UInt8} (ha : FiveButtons a) (b : UInt8) : FiveButtons (a &&& b) := by
  rw [FiveButtons, UInt8.and_assoc, UInt8.and_comm b, ← UInt8.and_assoc, ha]

theorem hidPointerButtons_five {buttons : UInt8} (h : FiveButtons buttons) (flags : UInt16) :
    FiveButtons (hidPointerButtons buttons flags) := by
  have hbits : ∀ flag ∈ buttonFlags, FiveButtons flag.2 := by
    simp only [buttonFlags, List.forall_mem_cons]
    exact ⟨rfl, rfl, rfl, rfl, rfl, List.forall_mem_nil _⟩
  unfold hidPointerButtons
  revert hbits
  generalize buttonFlags = list
  intro hbits
  induction list generalizing buttons with
  | nil => exact h
  | cons button list ih =>
    refine ih ?_ fun flag hflag => hbits flag (List.mem_cons_of_mem _ hflag)
    simp only
    split
    · split
      · exact h.or (hbits button List.mem_cons_self)
      · exact h.and _
    · exact h

end Hid

namespace Gateway

-- ---------------------------------------------------------------------------
-- Events and their messages
-- ---------------------------------------------------------------------------

def ClientEvent.releases : ClientEvent → Bool
  | .keyboard .. | .unicode .. => false
  | .mouse flags _ _ => !hasWheel flags && goesUp flags
  | .extendedMouse flags _ _ => goesUp (hidPointerFlagsFromExtended flags)
  | .relativeMouse flags _ _ => !hasWheel flags && goesUp flags
  | .synchronize | .releaseAll => true

def ClientEvent.presses : ClientEvent → Bool
  | .keyboard .. | .unicode .. | .synchronize | .releaseAll => false
  | .mouse flags _ _ => !hasWheel flags && goesDown flags
  | .extendedMouse flags _ _ => goesDown (hidPointerFlagsFromExtended flags)
  | .relativeMouse flags _ _ => !hasWheel flags && goesDown flags

/-- An event and its message change the buttons in the same way. -/
structure Routes (buttons : UInt8) (event : ClientEvent)
    (result : InputRouter × Option ControlMessage) : Prop where
  five : FiveButtons result.1.pointerButtons
  keeps : Keeps buttons result.1.pointerButtons ∨ event.releases = true
  silent : result.2 = none → result.1.pointerButtons = buttons
  message : ∀ message, result.2 = some message →
    Agent.pressedAfter message buttons = result.1.pointerButtons

variable {router : InputRouter} {event : ClientEvent}

theorem routes_same (h : FiveButtons router.pointerButtons) {router' : InputRouter}
    (hsame : router'.pointerButtons = router.pointerButtons) {message : Option ControlMessage}
    (hmessage : ∀ m, message = some m →
      Agent.pressedAfter m router.pointerButtons = router.pointerButtons) :
    Routes router.pointerButtons event (router', message) where
  five := by rw [hsame]; exact h
  keeps := .inl (by rw [hsame]; exact keeps_refl _)
  silent _ := hsame
  message m hm := (hmessage m hm).trans hsame.symm

theorem routes_press (h : FiveButtons router.pointerButtons) (flags : UInt16)
    (hup : goesUp flags = true → event.releases = true) {message : ControlMessage}
    (hmessage : Agent.pressedAfter message router.pointerButtons =
      hidPointerButtons router.pointerButtons flags) :
    Routes router.pointerButtons event (router.press flags, some message) where
  five := hidPointerButtons_five h flags
  keeps := by
    cases hflags : goesUp flags with
    | true => exact .inr (hup hflags)
    | false => exact .inl (hidPointerButtons_keeps hflags _)
  silent hnone := by cases hnone
  message m hm := by
    cases hm
    exact hmessage

theorem routes_released (buttons : UInt8) (hevent : event.releases = true)
    {message : ControlMessage} (hmessage : Agent.pressedAfter message buttons = 0) :
    Routes buttons event (router.released, some message) where
  five := by
    show FiveButtons 0
    decide
  keeps := .inr hevent
  silent hnone := by cases hnone
  message m hm := by
    cases hm
    exact hmessage

theorem absolutePointer_routes (h : FiveButtons router.pointerButtons) (x y flags : UInt16)
    (wheel : Bool) (hup : wheel = false → goesUp flags = true → event.releases = true) :
    Routes router.pointerButtons event ((router.absolutePointer x y flags wheel).map id some) := by
  cases wheel with
  | true =>
    refine routes_same h rfl fun m hm => ?_
    cases hm
    rfl
  | false =>
    refine routes_press h flags (hup rfl) ?_
    exact congrArg (hidPointerButtons _) (protocolReadU16_write flags [0, 0])

theorem relativePointer_routes (h : FiveButtons router.pointerButtons) (x y : Int16)
    (flags : UInt16) (wheel : Bool)
    (hup : wheel = false → goesUp flags = true → event.releases = true) :
    Routes router.pointerButtons event ((router.relativePointer x y flags wheel).map id some) := by
  cases wheel with
  | true =>
    refine routes_same h rfl fun m hm => ?_
    cases hm
    rfl
  | false =>
    refine routes_press h flags (hup rfl) ?_
    exact hidPointerButtons_five h flags

theorem hasWheel_scrollFlags {flags : UInt16} {x y : Int16}
    (h : hasWheel (scrollFlags flags x y) = false) :
    hasWheel flags = false ∧ scrollFlags flags x y = flags := by
  have hsame : scrollFlags flags x y = flags := by
    unfold scrollFlags at h ⊢
    split
    · rename_i hscroll
      rw [if_pos hscroll, hasWheel, bne_eq_false_iff_eq] at h
      -- the horizontal wheel bit is set
      have hbit := congrArg (fun flags : UInt16 => flags.toBitVec.getLsbD 10) h
      split at hbit <;>
        simp [ptrFlagsWheel, ptrFlagsHwheel, ptrFlagsWheelNegative, wheelRotationMask] at hbit
    · rfl
  exact ⟨hsame ▸ h, hsame⟩

theorem type_unicode {code : UInt16} {release : Bool} {message : ControlMessage}
    (h : (InputRouter.unicode code release).join = some message) :
    message.type = ControlType.textUtf8.code := by
  unfold InputRouter.unicode at h
  split at h
  · cases h
  · split at h
    · cases h
    · split at h
      · cases h
        rfl
      · split at h <;>
        · cases h
          rfl

theorem pressedAfter_unicode {code : UInt16} {release : Bool} {message : ControlMessage}
    (h : (InputRouter.unicode code release).join = some message) (buttons : UInt8) :
    Agent.pressedAfter message buttons = buttons := by
  rw [Agent.pressedAfter, type_unicode h, ControlType.ofCode?_code]

theorem handle_routes (h : FiveButtons router.pointerButtons) (event : ClientEvent) :
    Routes router.pointerButtons event (router.handle event) := by
  cases event with
  | keyboard code extended release =>
    refine routes_same h ?_ fun m hm => ?_
    · rfl
    · cases hm
      rfl
  | unicode code release => exact routes_same h rfl fun m hm => pressedAfter_unicode hm _
  | mouse flags x y =>
    refine absolutePointer_routes h x y flags _ fun hwheel hup => ?_
    simp [ClientEvent.releases, hwheel, hup]
  | extendedMouse flags x y => exact absolutePointer_routes h x y _ _ fun _ hup => hup
  | relativeMouse flags x y =>
    refine relativePointer_routes h x y _ _ fun hwheel hup => ?_
    obtain ⟨hnone, hsame⟩ := hasWheel_scrollFlags hwheel
    rw [hsame] at hup
    simp [ClientEvent.releases, hnone, hup]
  | synchronize => exact routes_released _ rfl rfl
  | releaseAll => exact routes_released _ rfl rfl

theorem press_unpressed {flags : UInt16} {wheel : Bool} (hnone : router.pointerButtons = 0)
    (hflags : wheel = false → goesDown flags = false) :
    (if wheel then router else router.press flags).pointerButtons = 0 := by
  cases wheel with
  | true => exact hnone
  | false =>
    show hidPointerButtons router.pointerButtons flags = 0
    rw [hnone]
    exact hidPointerButtons_zero (hflags rfl)

theorem absolutePointer_unpressed {x y flags : UInt16} {wheel : Bool} (hnone : router.pointerButtons = 0)
    (hflags : wheel = false → goesDown flags = false) :
    (router.absolutePointer x y flags wheel).1.pointerButtons = 0 := by
  refine Eq.trans ?_ (press_unpressed hnone hflags)
  cases wheel <;> rfl

theorem relativePointer_unpressed {x y : Int16} {flags : UInt16} {wheel : Bool}
    (hnone : router.pointerButtons = 0) (hflags : wheel = false → goesDown flags = false) :
    (router.relativePointer x y flags wheel).1.pointerButtons = 0 := by
  refine Eq.trans ?_ (press_unpressed hnone hflags)
  cases wheel <;> rfl

/-- Only an event that presses a button makes the router hold one. -/
theorem handle_unpressed (hnone : router.pointerButtons = 0) (hevent : event.presses = false) :
    (router.handle event).1.pointerButtons = 0 := by
  cases event with
  | keyboard code extended release => exact hnone
  | unicode code release => exact hnone
  | mouse flags x y =>
    refine absolutePointer_unpressed hnone fun hwheel => ?_
    simpa [ClientEvent.presses, hwheel] using hevent
  | extendedMouse flags x y => exact absolutePointer_unpressed hnone fun _ => hevent
  | relativeMouse flags x y =>
    refine relativePointer_unpressed hnone fun hwheel => ?_
    obtain ⟨hplain, hsame⟩ := hasWheel_scrollFlags hwheel
    rw [hsame]
    simpa [ClientEvent.presses, hplain] using hevent
  | synchronize => rfl
  | releaseAll => rfl

end Gateway

end NanokvmRdp
