import NanokvmRdp.Gateway.HttpInput
import NanokvmRdp.Gateway.Keepalive

/-!
# Several sources of input

The RDP clients, the HTTP API and the keepalive send to one agent, and each keeps
an account of its own. Their messages reach the agent in any order that keeps
the order of each source. Once they all have, every bit that the agent holds is
held by one of the routers, so nothing is held if all of them are idle.
`server_keepalive` goes by less: it asks the router of `server->active` and the
HTTP API only, and messages may still be under way.
-/

namespace NanokvmRdp.System

open Gateway Hid Protocol

-- ---------------------------------------------------------------------------
-- Maps of bits
-- ---------------------------------------------------------------------------

/-- What becomes of a bit does not depend on the others. -/
def Bitwise (f : UInt8 → UInt8) : Prop := ∃ keep add, ∀ held, f held = held &&& keep ||| add

theorem bitwise_id : Bitwise fun held => held := ⟨-1, 0, fun held => by simp⟩

theorem bitwise_const (add : UInt8) : Bitwise fun _ => add := ⟨0, add, fun held => by simp⟩

theorem bitwise_or (add : UInt8) : Bitwise (· ||| add) := ⟨-1, add, fun held => by simp⟩

theorem bitwise_and (keep : UInt8) : Bitwise (· &&& keep) := ⟨keep, 0, fun held => by simp⟩

theorem Bitwise.comp {f g : UInt8 → UInt8} (hf : Bitwise f) (hg : Bitwise g) :
    Bitwise fun held => f (g held) := by
  obtain ⟨keep, add, hf⟩ := hf
  obtain ⟨keep', add', hg⟩ := hg
  refine ⟨keep' &&& keep, add' &&& keep ||| add, fun held => ?_⟩
  beta_reduce
  rw [hf, hg, ← UInt8.toBitVec_inj]
  simp only [UInt8.toBitVec_or, UInt8.toBitVec_and, BitVec.and_or_distrib_right, BitVec.and_assoc,
    BitVec.or_assoc]

theorem bitwise_hidPointerButtons (flags : UInt16) : Bitwise (hidPointerButtons · flags) := by
  unfold hidPointerButtons
  induction buttonFlags with
  | nil => exact bitwise_id
  | cons button list ih =>
    simp only [List.foldl_cons]
    refine ih.comp ?_
    split
    · split
      · exact bitwise_or _
      · exact bitwise_and _
    · exact bitwise_id

theorem bitwise_pressedAfter (message : ControlMessage) : Bitwise (Agent.pressedAfter message) := by
  unfold Agent.pressedAfter
  split
  · split
    · exact bitwise_hidPointerButtons _
    · exact bitwise_id
  · split
    · exact bitwise_const _
    · exact bitwise_id
  all_goals first | exact bitwise_const 0 | exact bitwise_id

theorem bitwise_scannedModifiers (code : UInt8) (extended release : Bool) :
    Bitwise (HidState.scannedModifiers code extended release) := by
  have heq : HidState.scannedModifiers code extended release = routedModifiers code extended release :=
    funext (scannedModifiers_eq code extended release)
  rw [heq]
  unfold routedModifiers
  cases release
  · exact bitwise_or _
  · exact bitwise_and _

theorem bitwise_modifiersAfter (message : ControlMessage) :
    Bitwise (Agent.modifiersAfter message) := by
  unfold Agent.modifiersAfter
  split
  · unfold Agent.keyModifiers
    split
    · exact bitwise_scannedModifiers _ _ _
    · exact bitwise_scannedModifiers _ _ _
    · exact bitwise_id
  all_goals first | exact bitwise_const 0 | exact bitwise_id

def HeldBySome {ι : Type} (held : UInt8) (own : ι → UInt8) : Prop :=
  ∀ k, held.toBitVec.getLsbD k = true → ∃ i, (own i).toBitVec.getLsbD k = true

section

variable {ι : Type} {held : UInt8} {own own' : ι → UInt8} {f : UInt8 → UInt8}

theorem heldBySome_zero (own : ι → UInt8) : HeldBySome 0 own := by
  intro k hk
  simp at hk

theorem HeldBySome.update (h : HeldBySome held own) (hf : Bitwise f) (source : ι)
    (hsource : own' source = f (own source)) (hother : ∀ i, i ≠ source → own' i = own i) :
    HeldBySome (f held) own' := by
  obtain ⟨keep, add, hf⟩ := hf
  intro k hk
  simp only [hf, UInt8.toBitVec_or, UInt8.toBitVec_and, BitVec.getLsbD_or, BitVec.getLsbD_and,
    Bool.or_eq_true, Bool.and_eq_true] at hk
  obtain ⟨hheld, hkeep⟩ | hadd := hk
  · obtain ⟨i, hi⟩ := h k hheld
    refine ⟨i, ?_⟩
    by_cases hsame : i = source
    · subst hsame
      simp [hsource, hf, hi, hkeep]
    · rw [hother i hsame]
      exact hi
  · exact ⟨source, by simp [hsource, hf, hadd]⟩

theorem eq_zero_of_heldBySome (h : HeldBySome held own) (hown : ∀ i, own i = 0) : held = 0 := by
  rw [← UInt8.toBitVec_inj]
  refine BitVec.eq_of_getLsbD_eq fun k _ => ?_
  cases hk : held.toBitVec.getLsbD k with
  | false => simp
  | true =>
    obtain ⟨i, hi⟩ := h k hk
    simp [hown i] at hi

end

-- ---------------------------------------------------------------------------
-- Sources
-- ---------------------------------------------------------------------------

inductive InputSource where
  | client (number : Nat)
  | http
  | keepalive
  deriving DecidableEq, Repr

/-- What happens to a message in the order the agent sees it. One that is lost is behind the end
of its connection, at which the agent releases everything. -/
inductive SourceTurn where
  | handled (source : InputSource) (message : ControlMessage)
  | lost (source : InputSource) (message : ControlMessage)
  | pump
  deriving DecidableEq, Repr

def SourceTurn.sentBy (source : InputSource) : SourceTurn → Option ControlMessage
  | .handled other message | .lost other message => if other = source then some message else none
  | .pump => none

def sentBy (source : InputSource) (turns : List SourceTurn) : List ControlMessage :=
  turns.filterMap (SourceTurn.sentBy source)

def SourceTurn.event : SourceTurn → AgentEvent
  | .handled _ message => .control message
  | .lost _ _ => .disconnect
  | .pump => .pump

variable {agent : Agent} {turns : List SourceTurn}

theorem sentBy_concat (source : InputSource) (turns : List SourceTurn) (turn : SourceTurn) :
    sentBy source (turns ++ [turn]) = sentBy source turns ++ (turn.sentBy source).toList := by
  rw [sentBy, List.filterMap_append]
  cases hsent : turn.sentBy source <;> simp [sentBy, hsent]

def SourceTurn.Follows (after : ControlMessage → UInt8 → UInt8) (held held' : UInt8) :
    SourceTurn → Prop
  | .handled _ message => held' = 0 ∨ held' = after message held
  | .lost _ _ => held' = 0
  | .pump => held' = 0 ∨ held' = held

/-- The step: a message is entered into one account, and what is held follows. -/
theorem HeldBySome.turn {after : ControlMessage → UInt8 → UInt8} {held held' : UInt8}
    {turn : SourceTurn} (hafter : ∀ message, Bitwise (after message))
    (h : HeldBySome held fun source => accounted after (sentBy source turns))
    (hfollows : turn.Follows after held held') :
    HeldBySome held' fun source => accounted after (sentBy source (turns ++ [turn])) := by
  cases turn with
  | handled sender message =>
    obtain rfl | rfl := hfollows
    · exact heldBySome_zero _
    · refine h.update (hafter message) sender ?_ ?_
      · simp [sentBy_concat, SourceTurn.sentBy, accounted_concat]
      · intro source hne
        simp [sentBy_concat, SourceTurn.sentBy, hne.symm]
  | lost sender message =>
    cases hfollows
    exact heldBySome_zero _
  | pump =>
    obtain rfl | rfl := hfollows
    · exact heldBySome_zero _
    · intro k hk
      simpa [sentBy_concat, SourceTurn.sentBy] using h k hk

theorem buttons_follow (agent : Agent) (turn : SourceTurn) :
    turn.Follows Agent.pressedAfter agent.hid.input.buttons
      (agent.step turn.event).hid.input.buttons := by
  cases turn with
  | handled sender message =>
    cases hdelivers : agent.delivers message with
    | true => exact .inr (Agent.buttons_handleControl hdelivers)
    | false => exact .inl (Agent.atRest_handleControl hdelivers).1
  | lost sender message => exact HidState.buttons_hidReleaseAll agent.hid
  | pump =>
    cases hpumps : agent.pumps with
    | true => exact .inr (Agent.buttons_pumpHid hpumps)
    | false => exact .inl (Agent.atRest_pumpHid hpumps).1

theorem modifiers_follow (agent : Agent) (turn : SourceTurn) :
    turn.Follows Agent.modifiersAfter agent.hid.input.modifiers
      (agent.step turn.event).hid.input.modifiers := by
  cases turn with
  | handled sender message =>
    cases hdelivers : agent.delivers message with
    | true =>
      by_cases htext : ControlType.ofCode? message.type = some .textUtf8
      · obtain hsame | hdropped := Agent.modifiers_handleControl_text hdelivers htext
        · refine .inr (hsame.trans ?_)
          rw [Agent.modifiersAfter, htext]
        · exact .inl hdropped
      · exact .inr (Agent.modifiers_handleControl hdelivers htext)
    | false => exact .inl (Agent.atRest_handleControl hdelivers).2
  | lost sender message => exact HidState.modifiers_hidReleaseAll agent.hid
  | pump =>
    cases hpumps : agent.pumps with
    | true => exact .inr (Agent.modifiers_pumpHid hpumps)
    | false => exact .inl (Agent.atRest_pumpHid hpumps).2

theorem held_run (hrest : agent.AtRest) (turns : List SourceTurn) :
    HeldBySome (agent.run (turns.map SourceTurn.event)).hid.input.buttons
        (fun source => accounted Agent.pressedAfter (sentBy source turns)) ∧
      HeldBySome (agent.run (turns.map SourceTurn.event)).hid.input.modifiers
        (fun source => accounted Agent.modifiersAfter (sentBy source turns)) := by
  induction turns using List.reverseRecOn with
  | nil =>
    obtain ⟨hbuttons, hmodifiers⟩ := hrest
    rw [List.map_nil, Agent.run, List.foldl_nil, hbuttons, hmodifiers]
    exact ⟨heldBySome_zero _, heldBySome_zero _⟩
  | append_singleton turns turn ih =>
    rw [List.map_append, List.map_singleton, Agent.run, List.foldl_concat, ← Agent.run]
    exact ⟨ih.1.turn bitwise_pressedAfter (buttons_follow _ turn),
      ih.2.turn bitwise_modifiersAfter (modifiers_follow _ turn)⟩

-- ---------------------------------------------------------------------------
-- Idle sources
-- ---------------------------------------------------------------------------

def freshRouter (width height : UInt16) (swapAltCommand : Bool) : InputRouter :=
  { width, height, swapAltCommand }

/-- The messages are those of the HTTP API, of the routers of the clients after `operations`, and
of the keepalive. -/
structure Sends (http : HttpInput) (clients : Nat → InputRouter)
    (operations : Nat → List RouterOperation) (turns : List SourceTurn) : Prop where
  http : sentBy .http turns = http.sent
  client : ∀ i, sentBy (.client i) turns = ((clients i).operateAll (operations i)).2
  keepalive : ∀ message ∈ sentBy .keepalive turns, ∃ dx, message = InputPath.keepaliveMessage dx

variable {http : HttpInput} {clients : Nat → InputRouter} {operations : Nat → List RouterOperation}

theorem accounted_keepalives {messages : List ControlMessage}
    (h : ∀ message ∈ messages, ∃ dx, message = InputPath.keepaliveMessage dx) :
    accounted Agent.pressedAfter messages = 0 ∧ accounted Agent.modifiersAfter messages = 0 := by
  induction messages using List.reverseRecOn with
  | nil => exact ⟨rfl, rfl⟩
  | append_singleton messages message ih =>
    obtain ⟨hmessages, hlast⟩ := List.forall_mem_append.mp h
    obtain ⟨dx, rfl⟩ := hlast message (List.mem_singleton_self message)
    obtain ⟨-, hmodifiers⟩ := ih hmessages
    rw [accounted_concat, accounted_concat, hmodifiers]
    exact ⟨InputPath.pressedAfter_keepaliveMessage dx _, rfl⟩

def routerOf (http : HttpInput) (clients : Nat → InputRouter) : InputSource → Option InputRouter
  | .client i => some (clients i)
  | .http => some http.router
  | .keepalive => none

/-- The accounts of the sources are those of their routers. -/
theorem Sends.accounts (h : Sends http clients operations turns) (haccount : http.Accounted)
    (hclients : ∀ i, Account (clients i) []) (source : InputSource) :
    let router := routerOf http (fun i => ((clients i).operateAll (operations i)).1) source
    accounted Agent.pressedAfter (sentBy source turns) = router.elim 0 InputRouter.pointerButtons ∧
      accounted Agent.modifiersAfter (sentBy source turns) =
        router.elim 0 InputRouter.keyboardModifiers := by
  cases source with
  | client i =>
    have hclient := (hclients i).operateAll (operations i)
    rw [List.nil_append, ← h.client i] at hclient
    exact ⟨hclient.buttons, hclient.modifiers⟩
  | http =>
    rw [h.http]
    exact ⟨haccount.account.buttons, haccount.account.modifiers⟩
  | keepalive => exact accounted_keepalives h.keepalive

variable {held : UInt8} {field : InputRouter → UInt8}

theorem HeldBySome.router
    (h : HeldBySome held fun source => (routerOf http clients source).elim 0 field) (k : Nat)
    (hk : held.toBitVec.getLsbD k = true) :
    (field http.router).toBitVec.getLsbD k = true ∨
      ∃ i, (field (clients i)).toBitVec.getLsbD k = true := by
  obtain ⟨source, hsource⟩ := h k hk
  cases source with
  | client i => exact .inr ⟨i, hsource⟩
  | http => exact .inl hsource
  | keepalive => simp [routerOf] at hsource

theorem HeldBySome.idle
    (h : HeldBySome held fun source => (routerOf http clients source).elim 0 field)
    (hhttp : field http.router = 0) (hclients : ∀ i, field (clients i) = 0) : held = 0 := by
  refine eq_zero_of_heldBySome h fun source => ?_
  cases source with
  | client i => exact hclients i
  | http => exact hhttp
  | keepalive => rfl

theorem holding_eq_false {router : InputRouter} (h : router.holding = false) :
    router.pointerButtons = 0 ∧ router.keyboardModifiers = 0 := by
  simp only [InputRouter.holding, Bool.or_eq_false_iff, bne_eq_false_iff_eq] at h
  exact h.1

/-- Nothing but what the HTTP API or a client holds is held by the agent, whatever the requests
were and however the messages mixed; and if all of them are idle, nothing is. -/
theorem idle_sources_hold_nothing {width height : UInt16} {swapAltCommand : Bool}
    {events : List HttpInputEvent}
    (hrun : Machine.run HttpInput.step (HttpInput.start width height swapAltCommand) events = some http)
    (operations : Nat → List RouterOperation) (turns : List SourceTurn)
    (hsends : Sends http (fun _ => freshRouter width height swapAltCommand) operations turns)
    (agent : Agent) (hrest : agent.AtRest) :
    let held := (agent.run (turns.map SourceTurn.event)).hid.input
    let client := fun i => ((freshRouter width height swapAltCommand).operateAll (operations i)).1
    (∀ k, held.buttons.toBitVec.getLsbD k = true →
      http.router.pointerButtons.toBitVec.getLsbD k = true ∨
        ∃ i, (client i).pointerButtons.toBitVec.getLsbD k = true) ∧
    (∀ k, held.modifiers.toBitVec.getLsbD k = true →
      http.router.keyboardModifiers.toBitVec.getLsbD k = true ∨
        ∃ i, (client i).keyboardModifiers.toBitVec.getLsbD k = true) ∧
    (http.inputBusy = false → (∀ i, (client i).holding = false) →
      held.buttons = 0 ∧ held.modifiers = 0) := by
  intro held client
  have haccount := HttpInput.accounted_run hrun
  have haccounts := hsends.accounts haccount fun _ => Account.start width height swapAltCommand
  obtain ⟨hbuttons, hmodifiers⟩ := held_run hrest turns
  rw [funext fun source => (haccounts source).1] at hbuttons
  rw [funext fun source => (haccounts source).2] at hmodifiers
  refine ⟨hbuttons.router, hmodifiers.router, fun hidle hclients => ?_⟩
  have hhttp : http.router.holding = false := by
    cases hstarted : http.started with
    | true => rw [← haccount.busy hstarted, hidle]
    | false => exact haccount.rest hstarted
  obtain ⟨hhttpButtons, hhttpModifiers⟩ := holding_eq_false hhttp
  exact ⟨hbuttons.idle hhttpButtons fun i => (holding_eq_false (hclients i)).1,
    hmodifiers.idle hhttpModifiers fun i => (holding_eq_false (hclients i)).2⟩

def controlOverHttp (release : Bool) : HttpInputEvent :=
  .connection (.request (ascii "POST /api/key HTTP/1.1")
    (stringify [(JsonKey.code, .number 0x1d), (JsonKey.release, .flag release)] ++ [0])) fun _ => true

def controlRequests : List HttpInputEvent := [controlOverHttp false, controlOverHttp true]

def clickOperations : Nat → List RouterOperation
  | 0 => [.absolute 10 10 0x9000 false, .absolute 10 10 0x1000 false]
  | _ => []

/-- The key and the click mixed; the release of the button is lost with the connection. -/
def mixedTurns : List SourceTurn :=
  let router := freshRouter 1920 1080 false
  [.handled .http (router.keyboard 0x1d false false).2,
    .handled (.client 0) (router.absolutePointer 10 10 0x9000 false).2,
    .pump,
    .handled .http (router.keyboard 0x1d false true).2,
    .lost (.client 0) (router.absolutePointer 10 10 0x1000 false).2,
    .handled .keepalive (InputPath.keepaliveMessage 1)]

theorem controlRequests_isSome :
    (Machine.run HttpInput.step (HttpInput.start 1920 1080 false) controlRequests).isSome = true := by
  decide +kernel

theorem mixedTurns_hold_nothing :
    let agent := Agent.start {} fun _ => {}
    let held := (agent.run (mixedTurns.map SourceTurn.event)).hid.input
    held.buttons = 0 ∧ held.modifiers = 0 := by
  have hrest := Agent.atRest_start {} fun _ => {}
  have hrun := (Option.some_get controlRequests_isSome).symm
  have hsends : Sends (Option.get _ controlRequests_isSome)
      (fun _ => freshRouter 1920 1080 false) clickOperations mixedTurns := by
    refine ⟨by decide +kernel, fun i => ?_, ?_⟩
    · cases i with
      | zero => decide +kernel
      | succ i => rfl
    · intro message hmessage
      have hmessage : InputPath.keepaliveMessage 1 = message := by
        simpa [mixedTurns, sentBy, SourceTurn.sentBy] using hmessage
      exact ⟨1, hmessage.symm⟩
  have hidle : (Option.get _ controlRequests_isSome).inputBusy = false := by decide +kernel
  refine (idle_sources_hold_nothing hrun clickOperations mixedTurns hsends _ hrest).2.2 hidle ?_
  intro i
  cases i with
  | zero => decide +kernel
  | succ i => rfl

end NanokvmRdp.System
