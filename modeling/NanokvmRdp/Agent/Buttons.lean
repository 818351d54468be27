import NanokvmRdp.Agent.Control
import NanokvmRdp.Hid.Buttons

/-!
# The buttons the agent holds

What each control message does to `hid.buttons`. Only pointer messages and
releases touch them (`pressedAfter`), as long as nothing fails: a failed
delivery ends in `hid_release_all`.
-/

namespace NanokvmRdp

open Hid Protocol

namespace Agent

/-- The buttons held after a message that is delivered. -/
def pressedAfter (message : ControlMessage) (buttons : UInt8) : UInt8 :=
  match ControlType.ofCode? message.type with
  | some .pointerAbs =>
    if message.payload.length = 12 then
      hidPointerButtons buttons (protocolReadU16 (message.payload.drop 8))
    else buttons
  | some .pointerRel =>
    if message.payload.length = 5 then message.payload.getD 4 0 &&& hidTouchButtonsMask else buttons
  | some .releaseAll | some .synchronize | some .stopStream => 0
  | _ => buttons

/-- No HID operation of the message fails. -/
def delivers (agent : Agent) (message : ControlMessage) : Bool :=
  let agent := agent.setHid agent.hid.now.2
  (agent.dispatch message).1 &&
    (ControlType.ofCode? message.type ≠ some .textUtf8 || message.payload = [] ||
      (agent.hid.hidTypeUtf8 message.payload).1)

def pumps (agent : Agent) : Bool :=
  let flushed := agent.hid.hidFlush
  flushed.1 && (flushed.2.now.2.hidKeepalive flushed.2.now.1).1

theorem buttons_handleKey (agent : Agent) (payload : List UInt8) :
    (agent.handleKey payload).2.hid.input.buttons = agent.hid.input.buttons := by
  unfold handleKey
  split
  · rw [hid_outcome, HidState.buttons_hidScancode]
  · simp only [hid_protocolSend, hid_outcome, HidState.buttons_hidScancode]
  · rfl

theorem buttons_handleText {agent : Agent} {payload : List UInt8}
    (htext : payload ≠ [] → (agent.hid.hidTypeUtf8 payload).1 = true) :
    (agent.handleText payload).hid.input.buttons = agent.hid.input.buttons := by
  unfold handleText
  split
  · rfl
  · rename_i hnonempty
    have hok := htext hnonempty
    have hbuttons := HidState.buttons_hidTypeUtf8 hok
    generalize agent.hid.hidTypeUtf8 payload = typed at hok hbuttons ⊢
    obtain ⟨ok, hid⟩ := typed
    cases hok
    exact hbuttons

theorem buttons_dispatch {agent : Agent} {message : ControlMessage}
    (htext : ControlType.ofCode? message.type = some .textUtf8 → message.payload ≠ [] →
      (agent.hid.hidTypeUtf8 message.payload).1 = true) :
    (agent.dispatch message).2.hid.input.buttons = pressedAfter message agent.hid.input.buttons := by
  unfold dispatch pressedAfter
  split <;> try (rename_i htype; simp only [htype])
  · exact HidState.buttons_hidReleaseAll agent.hid
  · exact buttons_handleKey agent message.payload
  · exact buttons_handleText (htext htype)
  · unfold handlePointerAbs
    split
    · rw [hid_outcome, HidState.buttons_hidAbsolute]
    · rfl
  · unfold handlePointerRel
    split
    · rw [hid_outcome, HidState.buttons_hidRelative]
    · rfl
  · unfold handleWheel
    split
    · rw [hid_outcome, HidState.buttons_hidWheel]
    · rfl
  · rw [hid_setHid, HidState.buttons_hidReleaseAll]
  · rw [hid_outcome, HidState.buttons_hidSynchronize]
  · rfl
  · rfl

theorem buttons_handleControl {agent : Agent} {message : ControlMessage}
    (h : agent.delivers message = true) :
    (agent.handleControl message).hid.input.buttons =
      pressedAfter message agent.hid.input.buttons := by
  simp only [delivers, Bool.and_eq_true, Bool.or_eq_true, decide_eq_true_eq] at h
  obtain ⟨hok, htext⟩ := h
  simp only [handleControl, input_countInput, if_pos hok]
  refine buttons_dispatch fun htype hnonempty => ?_
  rcases htext with (hother | hempty) | htyped
  · exact absurd htype hother
  · exact absurd hempty hnonempty
  · exact htyped

theorem held_pumpHid {agent : Agent} (h : agent.pumps = true) :
    agent.pumpHid.hid.input.held = agent.hid.input.held := by
  have hflushed := congrArg HidInput.held (HidState.hidFlush_flushed agent.hid).input
  simp only [pumps, Bool.and_eq_true] at h
  unfold pumpHid
  generalize agent.hid.hidFlush = flushed at h hflushed ⊢
  obtain ⟨ok, hid⟩ := flushed
  obtain ⟨rfl, hkept⟩ := h
  have hheld := HidState.held_hidKeepalive hid.now.2 hid.now.1
  simp only at hkept ⊢
  generalize hid.now.2.hidKeepalive hid.now.1 = kept at hkept hheld ⊢
  obtain ⟨ok, hid'⟩ := kept
  cases hkept
  exact hheld.trans hflushed

theorem buttons_pumpHid {agent : Agent} (h : agent.pumps = true) :
    agent.pumpHid.hid.input.buttons = agent.hid.input.buttons :=
  congrArg Held.buttons (held_pumpHid h)

end Agent

end NanokvmRdp
