import NanokvmRdp.Gateway.HeldInput

/-!
# The account of a router

What a router holds is what its messages add up to: it is what an agent holds
that was at rest and has handled them all, and nothing else.
-/

namespace NanokvmRdp.Gateway

open Hid Protocol

def accounted (after : ControlMessage → UInt8 → UInt8) (messages : List ControlMessage) : UInt8 :=
  messages.foldl (fun held message => after message held) 0

theorem accounted_concat (after : ControlMessage → UInt8 → UInt8) (messages : List ControlMessage)
    (message : ControlMessage) :
    accounted after (messages ++ [message]) = after message (accounted after messages) :=
  List.foldl_concat ..

structure Account (router : InputRouter) (sent : List ControlMessage) : Prop where
  five : FiveButtons router.pointerButtons
  buttons : accounted Agent.pressedAfter sent = router.pointerButtons
  modifiers : accounted Agent.modifiersAfter sent = router.keyboardModifiers

namespace Account

variable {router router' : InputRouter} {sent : List ControlMessage} {message : ControlMessage}

theorem start (width height : UInt16) (swapAltCommand : Bool) :
    Account { width, height, swapAltCommand } [] where
  five := by
    show FiveButtons 0
    decide
  buttons := rfl
  modifiers := rfl

theorem routed (h : Account router sent) (hcarries : Carries router router' message) :
    Account router' (sent ++ [message]) where
  five := hcarries.five
  buttons := by rw [accounted_concat, h.buttons, hcarries.buttons_eq]
  modifiers := by rw [accounted_concat, h.modifiers, hcarries.modifiers_eq]

theorem text (h : Account router sent) (htext : isText message = true) :
    Account router (sent ++ [message]) := by
  have htype : ControlType.ofCode? message.type = some .textUtf8 := by simpa [isText] using htext
  refine ⟨h.five, ?_, ?_⟩
  · rw [accounted_concat, h.buttons, Agent.pressedAfter, htype]
  · rw [accounted_concat, h.modifiers, Agent.modifiersAfter, htype]

theorem texts (h : Account router sent) {messages : List ControlMessage}
    (htexts : ∀ message ∈ messages, isText message = true) : Account router (sent ++ messages) := by
  induction messages generalizing sent with
  | nil =>
    rw [List.append_nil]
    exact h
  | cons message messages ih =>
    rw [List.append_cons]
    obtain ⟨hfirst, hrest⟩ := List.forall_mem_cons.mp htexts
    exact ih (h.text hfirst) hrest

end Account

-- ---------------------------------------------------------------------------
-- Operations
-- ---------------------------------------------------------------------------

/-- The router after these operations, and the messages it made. -/
def InputRouter.operateAll (router : InputRouter) :
    List RouterOperation → InputRouter × List ControlMessage
  | [] => (router, [])
  | operation :: operations =>
    let (router, message) := router.operate operation
    let (router, messages) := router.operateAll operations
    (router, message.toList ++ messages)

theorem Account.operate {router : InputRouter} {sent : List ControlMessage} (h : Account router sent)
    (operation : RouterOperation) :
    Account (router.operate operation).1 (sent ++ (router.operate operation).2.toList) := by
  cases hmessage : (router.operate operation).2 with
  | none =>
    rw [operate_silent hmessage, Option.toList_none, List.append_nil]
    exact h
  | some message =>
    obtain hcarries | ⟨htext, hsame⟩ := operate_carries h.five hmessage
    · exact h.routed hcarries
    · rw [hsame]
      exact h.text htext

theorem Account.operateAll {router : InputRouter} {sent : List ControlMessage}
    (h : Account router sent) (operations : List RouterOperation) :
    Account (router.operateAll operations).1 (sent ++ (router.operateAll operations).2) := by
  induction operations generalizing router sent with
  | nil =>
    rw [InputRouter.operateAll, List.append_nil]
    exact h
  | cons operation operations ih =>
    have hrest := ih (h.operate operation)
    rw [List.append_assoc] at hrest
    exact hrest

end NanokvmRdp.Gateway
