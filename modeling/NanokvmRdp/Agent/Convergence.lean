import NanokvmRdp.Agent.Control
import NanokvmRdp.Hid.Convergence

/-!
# No key or button gets stuck

In every run of the agent the last report of each endpoint encodes what the
agent believes to be held. The step lemma splits a message by its type; a
message that fails is followed by a release, which converges from any state.
-/

namespace NanokvmRdp

open Hid Protocol

namespace Agent

theorem handleKey_converged {agent : Agent} (h : agent.hid.Converged)
    (hok : (agent.handleKey payload).1 = true) : (agent.handleKey payload).2.hid.Converged := by
  unfold handleKey at hok ⊢
  split at hok <;> simp only [outcome_fst, hid_outcome, hid_protocolSend] at hok ⊢
  · exact HidState.hidScancode_converged h hok
  · exact HidState.hidScancode_converged h hok
  · exact h

theorem handlePointerAbs_converged {agent : Agent} (h : agent.hid.Converged)
    (hok : (agent.handlePointerAbs payload).1 = true) :
    (agent.handlePointerAbs payload).2.hid.Converged := by
  unfold handlePointerAbs at hok ⊢
  split
  · rename_i hlength
    rw [if_pos hlength, outcome_fst] at hok
    rw [hid_outcome]
    exact HidState.hidAbsolute_converged h hok
  · exact h

theorem handlePointerRel_converged {agent : Agent} (h : agent.hid.Converged)
    (hok : (agent.handlePointerRel payload).1 = true) :
    (agent.handlePointerRel payload).2.hid.Converged := by
  unfold handlePointerRel at hok ⊢
  split
  · rename_i hlength
    rw [if_pos hlength, outcome_fst] at hok
    rw [hid_outcome]
    exact HidState.hidRelative_converged h hok
  · exact h

theorem handleWheel_converged {agent : Agent} (h : agent.hid.Converged)
    (hok : (agent.handleWheel payload).1 = true) :
    (agent.handleWheel payload).2.hid.Converged := by
  unfold handleWheel at hok ⊢
  split
  · rename_i hlength
    rw [if_pos hlength, outcome_fst] at hok
    rw [hid_outcome]
    exact HidState.hidWheel_converged h hok
  · exact h

theorem handleText_converged {agent : Agent} (h : agent.hid.Converged) :
    (agent.handleText payload).hid.Converged := by
  unfold handleText
  split
  · exact h
  · have htyped : (agent.hid.hidTypeUtf8 payload).2.Converged := HidState.hidTypeUtf8_converged h
    split
    · rename_i heq
      rw [heq] at htyped
      rw [hid_setHid]
      exact htyped
    · rw [hid_setHid]
      exact HidState.hidReleaseAll_converged _

theorem dispatch_converged {agent : Agent} (h : agent.hid.Converged)
    (hok : (agent.dispatch message).1 = true) : (agent.dispatch message).2.hid.Converged := by
  unfold dispatch at hok ⊢
  split <;> try (rename_i htype; simp only [htype] at hok)
  · exact h
  · simp only
    exact HidState.hidReleaseAll_converged agent.hid
  · exact h
  · exact handleKey_converged h hok
  · exact handleText_converged h
  · exact handlePointerAbs_converged h hok
  · exact handlePointerRel_converged h hok
  · exact handleWheel_converged h hok
  · rw [hid_setHid]
    exact HidState.hidReleaseAll_converged agent.hid
  · rw [outcome_fst] at hok
    rw [hid_outcome]
    exact HidState.hidSynchronize_converged hok
  · rw [hid_protocolSend]
    exact h
  · exact (HidState.calls_ask agent.hid).idle.flushed.converged h
  · exact h

theorem countInput_converged {agent : Agent} (h : agent.hid.Converged) (type : UInt8)
    (started : UInt64) : (agent.countInput type started).hid.Converged := by
  unfold countInput
  split
  · exact (HidState.calls_ask agent.hid).idle.flushed.converged h
  · exact h

theorem handleControl_converged {agent : Agent} (h : agent.hid.Converged)
    (message : ControlMessage) : (agent.handleControl message).hid.Converged := by
  have hnow : (agent.setHid agent.hid.now.2).hid.Converged :=
    (HidState.calls_ask agent.hid).idle.flushed.converged h
  unfold handleControl
  refine countInput_converged ?_ _ _
  split
  · rename_i hok
    exact dispatch_converged hnow hok
  · rw [hid_setHid]
    exact HidState.hidReleaseAll_converged _

theorem pumpHid_converged {agent : Agent} (h : agent.hid.Converged) :
    agent.pumpHid.hid.Converged := by
  have hflushed := (HidState.hidFlush_flushed agent.hid).converged h
  unfold pumpHid
  generalize agent.hid.hidFlush = flushed at hflushed ⊢
  obtain ⟨ok, hid⟩ := flushed
  cases ok with
  | false => exact HidState.hidReleaseAll_converged hid
  | true =>
    have hnow : hid.now.2.Converged := (HidState.calls_ask hid).idle.flushed.converged hflushed
    have hkept : (hid.now.2.hidKeepalive hid.now.1).1 = true →
        (hid.now.2.hidKeepalive hid.now.1).2.Converged := HidState.hidKeepalive_converged hnow
    simp only
    generalize hid.now.2.hidKeepalive hid.now.1 = kept at hkept ⊢
    obtain ⟨ok, hid⟩ := kept
    cases ok with
    | false => exact HidState.hidReleaseAll_converged hid
    | true => exact hkept rfl

theorem step_converged {agent : Agent} (h : agent.hid.Converged) (event : AgentEvent) :
    (agent.step event).hid.Converged := by
  cases event with
  | control message => exact handleControl_converged h message
  | pump => exact pumpHid_converged h
  | disconnect =>
    simp only [step, disconnectControl]
    exact HidState.hidReleaseAll_converged agent.hid

theorem run_converged {agent : Agent} (h : agent.hid.Converged) (events : List AgentEvent) :
    (agent.run events).hid.Converged := by
  induction events generalizing agent with
  | nil => exact h
  | cons event events ih => exact ih (step_converged h event)

-- ---------------------------------------------------------------------------
-- Nothing held
-- ---------------------------------------------------------------------------

end Agent

/-- The events after which nothing is held: `RELEASE_ALL`, `SYNCHRONIZE`,
`STOP_STREAM` and the end of the connection. -/
def AgentEvent.Releases : AgentEvent → Prop
  | .control message =>
    ControlType.ofCode? message.type ∈ [some .releaseAll, some .synchronize, some .stopStream]
  | .pump => False
  | .disconnect => True

namespace Agent

theorem held_hidReleaseAll (hid : HidState) : hid.hidReleaseAll.input.held = Held.none := by
  rw [HidState.input_hidReleaseAll, HidState.held_released]

theorem held_dispatch_of_releases {agent : Agent} {message : ControlMessage}
    (h : (AgentEvent.control message).Releases) :
    (agent.dispatch message).2.hid.input.held = Held.none := by
  simp only [AgentEvent.Releases, List.mem_cons, List.not_mem_nil, or_false] at h
  unfold dispatch
  rcases h with h | h | h
  · simp only [h, hid_setHid]
    exact held_hidReleaseAll _
  · simp only [h, outcome, hid_setHid]
    rw [HidState.input_hidSynchronize, HidState.held_released]
  · simp only [h]
    exact held_hidReleaseAll _

theorem held_step_of_releases {event : AgentEvent} (agent : Agent) (h : event.Releases) :
    (agent.step event).hid.input.held = Held.none := by
  cases event with
  | control message =>
    simp only [step, handleControl, input_countInput]
    split
    · exact held_dispatch_of_releases h
    · rw [hid_setHid]
      exact held_hidReleaseAll _
  | pump => exact absurd h id
  | disconnect =>
    simp only [step, disconnectControl]
    exact held_hidReleaseAll _

theorem encodes_none (h : Encodes Held.none e bytes) :
    bytes.head? = some 0 ∧ (e = .keyboard → bytes.drop 2 = List.replicate 6 0) := by
  cases e with
  | keyboard =>
    obtain ⟨hhead, hkeys⟩ := h
    refine ⟨hhead, fun _ => hkeys.trans ?_⟩
    have hpressed : Held.none.pressed = [] := by simp [Held.pressed, Held.none]
    rw [hpressed]
    rfl
  | mouse => exact ⟨h.trans (by decide), fun he => by cases he⟩
  | touch => exact ⟨h.trans (by decide), fun he => by cases he⟩

theorem log_of_not_pending {hid : HidState} (h : hid.hidPending = false) (q : QueueId) :
    hid.log q = hid.submitted q := by
  have hempty : hid.pending q = [] := by
    rw [← List.length_eq_zero_iff, HidState.length_pending]
    simp only [HidState.hidPending, Bool.or_eq_false_iff, decide_eq_false_iff_not, not_not] at h
    cases q with
    | keyboard => exact h.1
    | pointer => exact h.2
  simp [HidState.log, hempty]

/-- Whatever messages, flushes, disconnects and kernel answers there were: the
last report of each endpoint encodes what is held; with both queues empty the
host has it; and with nothing held, as after an event that releases, that
report is the neutral one. -/
theorem last_reports_encode_held (config : HidConfig) (kernel : Nat → Answer)
    (events : List AgentEvent) :
    ((start config kernel).run events).hid.Converged ∧
      (((start config kernel).run events).hid.hidPending = false →
        ∀ e, ∃ bytes, lastOn e (((start config kernel).run events).hid.submitted e.queue) = some bytes ∧
          Encodes ((start config kernel).run events).hid.input.held e bytes) ∧
      (((start config kernel).run events).hid.input.held = Held.none →
        ∀ e, ∃ bytes, ((start config kernel).run events).hid.latest e = some bytes ∧
          bytes.head? = some 0 ∧ (e = .keyboard → bytes.drop 2 = List.replicate 6 0)) ∧
      ∀ event, event.Releases →
        (((start config kernel).run events).step event).hid.input.held = Held.none ∧
        ∀ e, ∃ bytes, (((start config kernel).run events).step event).hid.latest e = some bytes ∧
          bytes.head? = some 0 ∧ (e = .keyboard → bytes.drop 2 = List.replicate 6 0) := by
  have hneutral : ∀ {hid : HidState}, hid.Converged → hid.input.held = Held.none →
      ∀ e, ∃ bytes, hid.latest e = some bytes ∧ bytes.head? = some 0 ∧
        (e = .keyboard → bytes.drop 2 = List.replicate 6 0) := by
    intro hid hconverged hheld e
    obtain ⟨bytes, hlatest, hencodes⟩ := hconverged e
    exact ⟨bytes, hlatest, encodes_none (hheld ▸ hencodes)⟩
  have hstart : (start config kernel).hid.Converged :=
    HidState.hidReleaseAll_converged (hidInit config kernel)
  have hconverged := run_converged hstart events
  refine ⟨hconverged, fun hempty e => ?_, hneutral hconverged, fun event hreleases => ?_⟩
  · obtain ⟨bytes, hlatest, hencodes⟩ := hconverged e
    rw [HidState.latest, log_of_not_pending hempty] at hlatest
    exact ⟨bytes, hlatest, hencodes⟩
  · have hheld := held_step_of_releases ((start config kernel).run events) hreleases
    exact ⟨hheld, hneutral (step_converged hconverged event) hheld⟩

end Agent

end NanokvmRdp
