import NanokvmRdp.Agent.Modifiers
import NanokvmRdp.Gateway.Routing

/-!
# Held input across the wire

The router and the agent keep their own account of the buttons and modifiers.
The agent never holds more than the router knows of, whatever fails; it holds
the same as long as every message is delivered, but for the modifiers that a
text drops.
-/

namespace NanokvmRdp

open Hid Protocol

-- ---------------------------------------------------------------------------
-- Bits that are held
-- ---------------------------------------------------------------------------

namespace Hid

theorem keeps_iff {a b : UInt8} :
    Keeps a b ↔ ∀ i, a.toBitVec.getLsbD i = true → b.toBitVec.getLsbD i = true := by
  rw [Keeps, ← UInt8.toBitVec_inj, UInt8.toBitVec_or]
  constructor
  · intro h i ha
    rw [← h, BitVec.getLsbD_or, ha, Bool.true_or]
  · intro h
    refine BitVec.eq_of_getLsbD_eq fun i _ => ?_
    rw [BitVec.getLsbD_or]
    cases ha : a.toBitVec.getLsbD i with
    | false => rfl
    | true => rw [h i ha, Bool.true_or]

theorem keeps_zero (buttons : UInt8) : Keeps 0 buttons := UInt8.zero_or

theorem eq_zero_of_keeps {held : UInt8} (h : Keeps held 0) : held = 0 := by
  rwa [Keeps, UInt8.or_zero] at h

variable {a b : UInt8}

theorem Keeps.or (h : Keeps a b) (bits : UInt8) : Keeps (a ||| bits) (b ||| bits) := by
  rw [keeps_iff] at h ⊢
  intro i
  simp only [UInt8.toBitVec_or, BitVec.getLsbD_or, Bool.or_eq_true]
  exact Or.imp_left (h i)

theorem Keeps.and (h : Keeps a b) (bits : UInt8) : Keeps (a &&& bits) (b &&& bits) := by
  rw [keeps_iff] at h ⊢
  intro i
  simp only [UInt8.toBitVec_and, BitVec.getLsbD_and, Bool.and_eq_true]
  exact And.imp_left (h i)

theorem Keeps.or_right (h : Keeps a b) (bits : UInt8) : Keeps a (b ||| bits) := by
  rw [keeps_iff] at h ⊢
  intro i ha
  rw [UInt8.toBitVec_or, BitVec.getLsbD_or, h i ha, Bool.true_or]

theorem and_not_of_and_eq_zero {bits : UInt8} (h : a &&& bits = 0) : a &&& ~~~bits = a := by
  rw [← UInt8.toBitVec_inj, UInt8.toBitVec_and] at h
  rw [← UInt8.toBitVec_inj, UInt8.toBitVec_and, UInt8.toBitVec_not]
  refine BitVec.eq_of_getLsbD_eq fun i hi => ?_
  have hbit := congrArg (fun bits => bits.getLsbD i) h
  simp only [BitVec.getLsbD_and] at hbit
  rw [BitVec.getLsbD_and, BitVec.getLsbD_not]
  cases ha : a.toBitVec.getLsbD i with
  | false => rfl
  | true =>
    have hnone : bits.toBitVec.getLsbD i = false := by simpa [ha] using hbit
    rw [hnone, decide_eq_true hi]
    rfl

theorem or_of_and_eq {bits : UInt8} (h : a &&& bits = bits) : a ||| bits = a := by
  have hkeeps : Keeps bits a := by
    rw [keeps_iff]
    intro i hbit
    rw [← h, UInt8.toBitVec_and, BitVec.getLsbD_and, Bool.and_eq_true] at hbit
    exact hbit.1
  rw [UInt8.or_comm]
  exact hkeeps

theorem hidPointerButtons_mono (h : Keeps a b) (flags : UInt16) :
    Keeps (hidPointerButtons a flags) (hidPointerButtons b flags) := by
  unfold hidPointerButtons
  generalize buttonFlags = list
  induction list generalizing a b with
  | nil => exact h
  | cons button list ih =>
    refine ih ?_
    simp only
    split
    · split
      · exact h.or _
      · exact h.and _
    · exact h

-- ---------------------------------------------------------------------------
-- Modifier keys
-- ---------------------------------------------------------------------------

def OneBit (bits : UInt8) : Prop := ∀ held : UInt8, held &&& bits = 0 ∨ held &&& bits = bits

theorem oneBit_of_twoPow {bits : UInt8} {k : Nat} (h : bits.toBitVec = BitVec.twoPow 8 k) :
    OneBit bits := by
  intro held
  rw [← UInt8.toBitVec_inj, ← UInt8.toBitVec_inj, UInt8.toBitVec_and, h, BitVec.and_twoPow]
  split
  · exact .inr rfl
  · exact .inl rfl

theorem oneBit_modifier {code : UInt8} {extended : Bool} {key : ScanKey}
    (h : hidTranslateScancode code extended = some key) (hmodifier : key.modifier ≠ 0) :
    OneBit key.modifier := by
  have hpower : ∃ k, key.modifier.toBitVec = BitVec.twoPow 8 k := by
    unfold hidTranslateScancode at h
    split at h
    · unfold extendedKey at h
      split at h <;> cases h <;> first
        | exact absurd rfl hmodifier
        | exact ⟨4, rfl⟩
        | exact ⟨6, rfl⟩
        | exact ⟨3, rfl⟩
        | exact ⟨7, rfl⟩
    · unfold normalKey at h
      split at h
      · cases h
        exact ⟨0, rfl⟩
      · cases h
        exact ⟨1, rfl⟩
      · cases h
        exact ⟨5, rfl⟩
      · cases h
        exact ⟨2, rfl⟩
      · simp only at h
        split at h
        · cases h
        · cases h
          exact absurd rfl hmodifier
  obtain ⟨k, hk⟩ := hpower
  exact oneBit_of_twoPow hk

def routedModifiers (code : UInt8) (extended release : Bool) (modifiers : UInt8) : UInt8 :=
  let modifier := (hidTranslateScancode code extended).elim 0 ScanKey.modifier
  if release then modifiers &&& ~~~modifier else modifiers ||| modifier

theorem scannedModifiers_keeps (code : UInt8) (extended release : Bool) (h : Keeps a b) :
    Keeps (HidState.scannedModifiers code extended release a)
      (routedModifiers code extended release b) := by
  unfold HidState.scannedModifiers routedModifiers
  cases hidTranslateScancode code extended with
  | none =>
    cases release
    · exact h.or_right 0
    · simpa using h
  | some key =>
    simp only [Option.elim_some]
    by_cases hmodifier : key.modifier = 0
    · rw [if_pos hmodifier, hmodifier]
      cases release
      · exact h.or_right 0
      · simpa using h
    · rw [if_neg hmodifier]
      cases release with
      | false =>
        simp only [Bool.not_false, decide_eq_true_eq, Bool.false_eq_true, if_false]
        split
        · exact h.or_right _
        · exact h.or _
      | true =>
        simp only [Bool.not_true, decide_eq_false_iff_not, not_not, if_true]
        split
        · rename_i hup
          -- a key that is up already
          have hkeeps := h.and (~~~key.modifier)
          rwa [and_not_of_and_eq_zero hup] at hkeeps
        · exact h.and _

theorem scannedModifiers_eq (code : UInt8) (extended release : Bool) (modifiers : UInt8) :
    HidState.scannedModifiers code extended release modifiers =
      routedModifiers code extended release modifiers := by
  unfold HidState.scannedModifiers routedModifiers
  cases htranslate : hidTranslateScancode code extended with
  | none => cases release <;> simp
  | some key =>
    simp only [Option.elim_some]
    by_cases hmodifier : key.modifier = 0
    · rw [if_pos hmodifier, hmodifier]
      cases release <;> simp
    · rw [if_neg hmodifier]
      cases release with
      | false =>
        simp only [Bool.not_false, decide_eq_true_eq, Bool.false_eq_true, if_false]
        split
        · rename_i hdown
          have hall := (oneBit_modifier htranslate hmodifier modifiers).resolve_left hdown
          exact (or_of_and_eq hall).symm
        · rfl
      | true =>
        simp only [Bool.not_true, decide_eq_false_iff_not, not_not, if_true]
        split
        · rename_i hup
          exact (and_not_of_and_eq_zero hup).symm
        · rfl

end Hid

-- ---------------------------------------------------------------------------
-- Operations of the router
-- ---------------------------------------------------------------------------

namespace Gateway

inductive RouterOperation where
  | keyboard (code : UInt8) (extended release : Bool)
  | unicode (code : UInt16) (release : Bool)
  | absolute (x y flags : UInt16) (wheel : Bool)
  | relative (xDelta yDelta : Int16) (flags : UInt16) (wheel : Bool)
  | synchronize
  | releaseAll
  deriving DecidableEq, Repr

def InputRouter.operate (router : InputRouter) :
    RouterOperation → InputRouter × Option ControlMessage
  | .keyboard code extended release => (router.keyboard code extended release).map id some
  | .unicode code release => (router, (InputRouter.unicode code release).join)
  | .absolute x y flags wheel => (router.absolutePointer x y flags wheel).map id some
  | .relative xDelta yDelta flags wheel =>
    (router.relativePointer xDelta yDelta flags wheel).map id some
  | .synchronize => router.synchronize.map id some
  | .releaseAll => router.releaseAll.map id some

def isText (message : ControlMessage) : Bool :=
  ControlType.ofCode? message.type == some .textUtf8

/-- What a message does to an agent that holds `buttons` and `modifiers`, by what
the router holds before and after: an agent that holds less still does, and one
that holds the same still does. -/
structure Carries (router router' : InputRouter) (message : ControlMessage) : Prop where
  notText : isText message = false
  five : FiveButtons router'.pointerButtons
  buttons : ∀ held, Keeps held router.pointerButtons →
    Keeps (Agent.pressedAfter message held) router'.pointerButtons
  buttons_eq : Agent.pressedAfter message router.pointerButtons = router'.pointerButtons
  modifiers : ∀ held, Keeps held router.keyboardModifiers →
    Keeps (Agent.modifiersAfter message held) router'.keyboardModifiers
  modifiers_eq : Agent.modifiersAfter message router.keyboardModifiers = router'.keyboardModifiers

variable {router : InputRouter}

theorem carries_keyboard (h : FiveButtons router.pointerButtons) (code : UInt8)
    (extended release : Bool) :
    Carries router (router.keyboard code extended release).1
      (router.keyboard code extended release).2 := by
  have hbit : ∀ b : Bool, (b.toUInt8 != 0) = b := by decide
  have hmessage : ∀ held, Agent.modifiersAfter (router.keyboard code extended release).2 held =
      HidState.scannedModifiers (hidMapScancode code extended router.swapAltCommand).1
        (hidMapScancode code extended router.swapAltCommand).2 release held := by
    intro held
    show HidState.scannedModifiers _ (Bool.toUInt8 _ != 0) (Bool.toUInt8 _ != 0) held = _
    rw [hbit, hbit]
  refine ⟨rfl, h, fun _ hheld => hheld, rfl, fun held hheld => ?_, ?_⟩
  · rw [hmessage]
    exact scannedModifiers_keeps _ _ _ hheld
  · rw [hmessage]
    exact scannedModifiers_eq _ _ _ _

theorem carries_wheel (h : FiveButtons router.pointerButtons) (flags : UInt16) :
    Carries router router (InputRouter.wheelMessage flags) :=
  ⟨rfl, h, fun _ hheld => hheld, rfl, fun _ hheld => hheld, rfl⟩

theorem carries_absolute (h : FiveButtons router.pointerButtons) (x y flags : UInt16)
    (wheel : Bool) :
    Carries router (router.absolutePointer x y flags wheel).1
      (router.absolutePointer x y flags wheel).2 := by
  cases wheel with
  | true => exact carries_wheel h flags
  | false =>
    have hmessage : ∀ held, Agent.pressedAfter (router.absolutePointer x y flags false).2 held =
        hidPointerButtons held flags := fun held =>
      congrArg (hidPointerButtons held) (protocolReadU16_write flags [0, 0])
    refine ⟨rfl, hidPointerButtons_five h flags, fun held hheld => ?_, hmessage _,
      fun _ hheld => hheld, rfl⟩
    rw [hmessage]
    exact hidPointerButtons_mono hheld flags

/-- A relative message has all the buttons, so it also mends what was lost. -/
theorem carries_relative (h : FiveButtons router.pointerButtons) (x y : Int16) (flags : UInt16)
    (wheel : Bool) :
    Carries router (router.relativePointer x y flags wheel).1
      (router.relativePointer x y flags wheel).2 := by
  cases wheel with
  | true => exact carries_wheel h flags
  | false =>
    have hfive := hidPointerButtons_five h flags
    have hmessage : ∀ held, Agent.pressedAfter (router.relativePointer x y flags false).2 held =
        hidPointerButtons router.pointerButtons flags := fun _ => hfive
    refine ⟨rfl, hfive, fun held _ => ?_, hmessage _, fun _ hheld => hheld, rfl⟩
    rw [hmessage]
    exact keeps_refl _

theorem carries_released {message : ControlMessage} (htext : isText message = false)
    (hbuttons : ∀ held, Agent.pressedAfter message held = 0)
    (hmodifiers : ∀ held, Agent.modifiersAfter message held = 0) :
    Carries router router.released message where
  notText := htext
  five := by
    show FiveButtons 0
    decide
  buttons held _ := by
    rw [hbuttons]
    exact keeps_zero _
  buttons_eq := hbuttons _
  modifiers held _ := by
    rw [hmodifiers]
    exact keeps_zero _
  modifiers_eq := hmodifiers _

theorem isText_unicode {code : UInt16} {release : Bool} {message : ControlMessage}
    (h : (InputRouter.unicode code release).join = some message) : isText message = true := by
  rw [isText, type_unicode h, ControlType.ofCode?_code]
  exact beq_self_eq_true _

theorem operate_silent {operation : RouterOperation} (h : (router.operate operation).2 = none) :
    (router.operate operation).1 = router := by
  cases operation with
  | unicode code release => rfl
  | keyboard code extended release => cases h
  | absolute x y flags wheel => cases h
  | relative x y flags wheel => cases h
  | synchronize => cases h
  | releaseAll => cases h

theorem operate_carries (h : FiveButtons router.pointerButtons) {operation : RouterOperation}
    {message : ControlMessage} (hmessage : (router.operate operation).2 = some message) :
    Carries router (router.operate operation).1 message ∨
      (isText message = true ∧ (router.operate operation).1 = router) := by
  cases operation with
  | keyboard code extended release =>
    cases hmessage
    exact .inl (carries_keyboard h code extended release)
  | unicode code release => exact .inr ⟨isText_unicode hmessage, rfl⟩
  | absolute x y flags wheel =>
    cases hmessage
    exact .inl (carries_absolute h x y flags wheel)
  | relative x y flags wheel =>
    cases hmessage
    exact .inl (carries_relative h x y flags wheel)
  | synchronize =>
    cases hmessage
    exact .inl (carries_released rfl (fun _ => rfl) fun _ => rfl)
  | releaseAll =>
    cases hmessage
    exact .inl (carries_released rfl (fun _ => rfl) fun _ => rfl)

-- ---------------------------------------------------------------------------
-- The router and the agent together
-- ---------------------------------------------------------------------------

/-- `failed` says that a delivery failed so far, `typed` that a text was sent. -/
structure InputLink where
  router : InputRouter
  agent : Agent
  failed : Bool := false
  typed : Bool := false

inductive LinkEvent where
  | operate (operation : RouterOperation)
  | pump
  deriving DecidableEq, Repr

namespace InputLink

def deliver (s : InputLink) (router : InputRouter) (message : ControlMessage) : InputLink where
  router := router
  agent := s.agent.handleControl message
  failed := s.failed || !s.agent.delivers message
  typed := s.typed || isText message

def operate (s : InputLink) (operation : RouterOperation) : InputLink :=
  match s.router.operate operation with
  | (router, none) => { s with router }
  | (router, some message) => s.deliver router message

def pump (s : InputLink) : InputLink :=
  { s with agent := s.agent.pumpHid, failed := s.failed || !s.agent.pumps }

def step (s : InputLink) : LinkEvent → InputLink
  | .operate operation => s.operate operation
  | .pump => s.pump

def run (s : InputLink) (events : List LinkEvent) : InputLink := events.foldl step s

/-- The agent holds no more than the router, and the same where nothing failed;
a text may have dropped modifiers. -/
structure Agrees (s : InputLink) : Prop where
  five : FiveButtons s.router.pointerButtons
  buttons : Keeps s.agent.hid.input.buttons s.router.pointerButtons
  modifiers : Keeps s.agent.hid.input.modifiers s.router.keyboardModifiers
  buttons_eq : s.failed = false → s.agent.hid.input.buttons = s.router.pointerButtons
  modifiers_eq : s.failed = false → s.typed = false →
    s.agent.hid.input.modifiers = s.router.keyboardModifiers

theorem agrees_atRest {s : InputLink} (hfive : FiveButtons s.router.pointerButtons)
    (hrest : s.agent.AtRest) (hfailed : s.failed = true) : s.Agrees where
  five := hfive
  buttons := by
    rw [hrest.1]
    exact keeps_zero _
  modifiers := by
    rw [hrest.2]
    exact keeps_zero _
  buttons_eq hok := by
    rw [hfailed] at hok
    cases hok
  modifiers_eq hok := by
    rw [hfailed] at hok
    cases hok

theorem Agrees.deliver {s : InputLink} (h : s.Agrees) {router : InputRouter}
    {message : ControlMessage} (hcarries : Carries s.router router message) :
    (s.deliver router message).Agrees := by
  cases hdelivers : s.agent.delivers message with
  | false =>
    refine agrees_atRest hcarries.five (Agent.atRest_handleControl hdelivers) ?_
    simp [InputLink.deliver, hdelivers]
  | true =>
    have htext : ControlType.ofCode? message.type ≠ some .textUtf8 := by
      simpa [isText] using hcarries.notText
    have hbuttons := Agent.buttons_handleControl hdelivers
    have hmodifiers := Agent.modifiers_handleControl hdelivers htext
    have hfailed : (s.deliver router message).failed = s.failed := by
      simp [InputLink.deliver, hdelivers]
    have htyped : (s.deliver router message).typed = s.typed := by
      simp [InputLink.deliver, hcarries.notText]
    refine ⟨hcarries.five, ?_, ?_, fun hok => ?_, fun hok hnone => ?_⟩
    · exact hbuttons ▸ hcarries.buttons _ h.buttons
    · exact hmodifiers ▸ hcarries.modifiers _ h.modifiers
    · have hsame := h.buttons_eq (hfailed ▸ hok)
      exact hbuttons.trans (hsame ▸ hcarries.buttons_eq)
    · have hsame := h.modifiers_eq (hfailed ▸ hok) (htyped ▸ hnone)
      exact hmodifiers.trans (hsame ▸ hcarries.modifiers_eq)

theorem Agrees.deliverText {s : InputLink} (h : s.Agrees) {message : ControlMessage}
    (htext : isText message = true) : (s.deliver s.router message).Agrees := by
  have htype : ControlType.ofCode? message.type = some .textUtf8 := by
    simpa [isText] using htext
  cases hdelivers : s.agent.delivers message with
  | false =>
    refine agrees_atRest h.five (Agent.atRest_handleControl hdelivers) ?_
    simp [InputLink.deliver, hdelivers]
  | true =>
    have hbuttons : (s.agent.handleControl message).hid.input.buttons =
        s.agent.hid.input.buttons := by
      rw [Agent.buttons_handleControl hdelivers, Agent.pressedAfter, htype]
    refine ⟨h.five, ?_, ?_, fun hok => ?_, fun _ hnone => ?_⟩
    · exact hbuttons ▸ h.buttons
    · obtain hsame | hdropped := Agent.modifiers_handleControl_text hdelivers htype
      · exact hsame ▸ h.modifiers
      · show Keeps (s.agent.handleControl message).hid.input.modifiers _
        rw [hdropped]
        exact keeps_zero _
    · refine hbuttons.trans (h.buttons_eq ?_)
      simpa [InputLink.deliver, hdelivers] using hok
    · simp [InputLink.deliver, htext] at hnone

theorem Agrees.operate {s : InputLink} (h : s.Agrees) (operation : RouterOperation) :
    (s.operate operation).Agrees := by
  have hcarries := @operate_carries s.router h.five operation
  have hsilent := @operate_silent s.router operation
  unfold InputLink.operate
  generalize s.router.operate operation = result at hcarries hsilent ⊢
  obtain ⟨router, message⟩ := result
  cases message with
  | none =>
    obtain rfl : router = s.router := hsilent rfl
    exact h
  | some message =>
    obtain hcarried | ⟨htext, hsame⟩ := hcarries rfl
    · exact h.deliver hcarried
    · obtain rfl : router = s.router := hsame
      exact h.deliverText htext

theorem Agrees.pump {s : InputLink} (h : s.Agrees) : s.pump.Agrees := by
  cases hpumps : s.agent.pumps with
  | false =>
    refine agrees_atRest h.five (Agent.atRest_pumpHid hpumps) ?_
    simp [InputLink.pump, hpumps]
  | true =>
    have hbuttons := Agent.buttons_pumpHid hpumps
    have hmodifiers := Agent.modifiers_pumpHid hpumps
    have hfailed : s.pump.failed = s.failed := by simp [InputLink.pump, hpumps]
    refine ⟨h.five, hbuttons ▸ h.buttons, hmodifiers ▸ h.modifiers, fun hok => ?_,
      fun hok hnone => ?_⟩
    · exact hbuttons.trans (h.buttons_eq (hfailed ▸ hok))
    · exact hmodifiers.trans (h.modifiers_eq (hfailed ▸ hok) hnone)

theorem Agrees.step {s : InputLink} (h : s.Agrees) (event : LinkEvent) : (s.step event).Agrees := by
  cases event with
  | operate operation => exact h.operate operation
  | pump => exact h.pump

theorem Agrees.run {s : InputLink} (h : s.Agrees) (events : List LinkEvent) :
    (s.run events).Agrees := by
  induction events generalizing s with
  | nil => exact h
  | cons event events ih => exact ih (h.step event)

def start (width height : UInt16) (swapAltCommand : Bool) (agent : Agent) : InputLink where
  router := { width, height, swapAltCommand }
  agent := agent

theorem agrees_start (width height : UInt16) (swapAltCommand : Bool) {agent : Agent}
    (hrest : agent.AtRest) : (start width height swapAltCommand agent).Agrees where
  five := by
    show FiveButtons 0
    decide
  buttons := by
    rw [start, hrest.1]
    exact keeps_zero _
  modifiers := by
    rw [start, hrest.2]
    exact keeps_zero _
  buttons_eq _ := hrest.1
  modifiers_eq _ _ := hrest.2

/-- After any operations the agent holds no more than the router; the same
buttons if nothing failed, and the same modifiers if no text was sent either. -/
theorem held_input_agrees (width height : UInt16) (swapAltCommand : Bool) (agent : Agent)
    (hrest : agent.AtRest) (events : List LinkEvent) :
    let s := (start width height swapAltCommand agent).run events
    Keeps s.agent.hid.input.buttons s.router.pointerButtons ∧
    Keeps s.agent.hid.input.modifiers s.router.keyboardModifiers ∧
    (s.failed = false → s.agent.hid.input.buttons = s.router.pointerButtons) ∧
    (s.failed = false → s.typed = false →
      s.agent.hid.input.modifiers = s.router.keyboardModifiers) ∧
    (s.router.pointerButtons = 0 → s.agent.hid.input.buttons = 0) ∧
    (s.router.keyboardModifiers = 0 → s.agent.hid.input.modifiers = 0) := by
  intro s
  have hagrees : s.Agrees := (agrees_start width height swapAltCommand hrest).run events
  refine ⟨hagrees.buttons, hagrees.modifiers, hagrees.buttons_eq, hagrees.modifiers_eq,
    fun hnone => ?_, fun hnone => ?_⟩
  · have hbuttons := hagrees.buttons
    rw [hnone] at hbuttons
    exact eq_zero_of_keeps hbuttons
  · have hmodifiers := hagrees.modifiers
    rw [hnone] at hmodifiers
    exact eq_zero_of_keeps hmodifiers

def controlClick : List LinkEvent :=
  [.operate (.keyboard 0x1d false false), .operate (.absolute 10 10 0x9000 false), .pump]

theorem control_click_agrees :
    let link := start 1920 1080 false (Agent.start {} fun _ => {})
    Keeps (link.run controlClick).agent.hid.input.buttons 0x01 ∧
    Keeps (link.run controlClick).agent.hid.input.modifiers 0x01 ∧
    (link.run (controlClick ++ [.operate .releaseAll])).agent.AtRest := by
  have hrest := Agent.atRest_start {} fun _ => {}
  -- the agent stays a variable where the router is evaluated
  generalize Agent.start {} (fun _ => {}) = agent at hrest ⊢
  have hbuttons : ((start 1920 1080 false agent).run controlClick).router.pointerButtons = 0x01 := by
    with_unfolding_all rfl
  have hmodifiers :
      ((start 1920 1080 false agent).run controlClick).router.keyboardModifiers = 0x01 := by
    with_unfolding_all rfl
  have hheld := held_input_agrees 1920 1080 false agent hrest controlClick
  have hreleased :=
    held_input_agrees 1920 1080 false agent hrest (controlClick ++ [.operate .releaseAll])
  exact ⟨hbuttons ▸ hheld.1, hmodifiers ▸ hheld.2.1, hreleased.2.2.2.2.1 rfl, hreleased.2.2.2.2.2 rfl⟩

end InputLink

end Gateway

end NanokvmRdp
