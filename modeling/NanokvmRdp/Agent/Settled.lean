import NanokvmRdp.Agent.Control
import NanokvmRdp.Hid.Rest

/-!
# The agent between messages

What reports and flushes keep of the queues holds in every state of the agent,
after any messages, flushes and disconnects.
-/

namespace NanokvmRdp.Agent

open Hid Protocol

theorem settled_handleKey {agent : Agent} (h : agent.hid.Settled P) (payload : List UInt8) :
    (agent.handleKey payload).2.hid.Settled P := by
  unfold handleKey
  split
  · exact h.hidScancode _ _ _
  · exact h.hidScancode _ _ _
  · exact h

theorem settled_handleText {agent : Agent} (h : agent.hid.Settled P) (payload : List UInt8) :
    (agent.handleText payload).hid.Settled P := by
  have htyped := h.hidTypeUtf8 payload
  unfold handleText
  split
  · exact h
  · split <;> rename_i heq <;> rw [heq] at htyped
    · exact htyped
    · rw [hid_setHid]
      exact h.closed.hidReleaseAll _

theorem settled_dispatch {agent : Agent} (h : agent.hid.Settled P) (message : ControlMessage) :
    (agent.dispatch message).2.hid.Settled P := by
  unfold dispatch
  split
  · exact h
  · exact h.closed.hidReleaseAll agent.hid
  · exact h
  · exact settled_handleKey h _
  · exact settled_handleText h _
  · unfold handlePointerAbs
    split
    · exact h.hidAbsolute _ _ _ _ _
    · exact h
  · unfold handlePointerRel
    split
    · exact h.hidRelative _ _ _
    · exact h
  · unfold handleWheel
    split
    · exact h.hidWheel _
    · exact h
  · exact h.closed.hidReleaseAll agent.hid
  · rw [hid_outcome]
    exact h.closed.hidSynchronize h.queues
  · exact h
  · exact h.calls rfl rfl
  · exact h

theorem settled_handleControl {agent : Agent} (h : agent.hid.Settled P) (message : ControlMessage) :
    (agent.handleControl message).hid.Settled P := by
  have hcount : ∀ {agent : Agent} (type : UInt8) (started : UInt64), agent.hid.Settled P →
      (agent.countInput type started).hid.Settled P := by
    intro agent type started h
    unfold countInput
    split
    · exact h.calls rfl rfl
    · exact h
  have hnow : (agent.setHid agent.hid.now.2).hid.Settled P := h.calls rfl rfl
  unfold handleControl
  refine hcount _ _ ?_
  split
  · exact settled_dispatch hnow message
  · rw [hid_setHid]
    exact h.closed.hidReleaseAll _

theorem settled_pumpHid {agent : Agent} (h : agent.hid.Settled P) : agent.pumpHid.hid.Settled P := by
  have hflushed := h.hidFlush
  unfold pumpHid
  split <;> rename_i heq <;> rw [heq] at hflushed
  · rw [hid_setHid]
    exact h.closed.hidReleaseAll _
  · rename_i hid
    have hnow : hid.now.2.Settled P := hflushed.calls rfl rfl
    have hkept := hnow.hidKeepalive hid.now.1
    split <;> rename_i heq <;> rw [heq] at hkept
    · rw [hid_setHid]
      exact h.closed.hidReleaseAll _
    · exact hkept

theorem settled_run (hP : HidState.Closed P) (config : HidConfig) (kernel : Nat → Answer) (events : List AgentEvent) :
    ((start config kernel).run events).hid.Settled P := by
  have hstep : ∀ {agent : Agent} (event : AgentEvent), agent.hid.Settled P →
      (agent.step event).hid.Settled P := by
    intro agent event h
    cases event with
    | control message => exact settled_handleControl h message
    | pump => exact settled_pumpHid h
    | disconnect =>
      simp only [step, disconnectControl]
      exact h.closed.hidReleaseAll agent.hid
  have hstart : (start config kernel).hid.Settled P :=
    hP.hidReleaseAll (hidInit config kernel)
  generalize start config kernel = agent at hstart ⊢
  induction events generalizing agent with
  | nil => exact hstart
  | cons event events ih => exact ih _ (hstep event hstart)

end NanokvmRdp.Agent
