import NanokvmRdp.Agent.MainLoop

/-!
# What the main loop keeps

Over any number of connections, however their bytes are cut and whatever fails:
the messages handled on a connection are the frames of its own bytes, in order
and each once, and none is left out before a connection is found broken. With no
connection nothing is streamed and nothing is held.
-/

namespace NanokvmRdp.AgentLoop

open Hid Protocol

structure Reading (s : AgentLoop) : Prop where
  ok : s.reader.Ok
  consumed : Consumed s.link.arrived s.link.handled (pendingBytes s.reader s.socket)
  eof : s.socket.eof = s.link.closed

/-- A connection that ended. Only frames of its bytes were handled. When it was
found broken they were all handled, and the gateway had closed it or sent what is
not a frame; when it was given up for silence, the last PONG was too long ago. -/
structure Accounted (link : ControlLink) (reason : LinkEnd) : Prop where
  frames : link.handled <+: (parseAll link.arrived).1
  broken : reason = .broken →
    link.handled = (parseAll link.arrived).1 ∧
    ((parseAll link.arrived).2 = .invalid ∨ link.closed = true)
  silent : ∀ now lastPongAt, reason = .silent now lastPongAt →
    now - lastPongAt > Agent.heartbeatTimeoutMs

structure Away (agent : Agent) : Prop where
  streaming : agent.streaming = false
  held : agent.hid.input.held = Held.none

structure Sound (s : AgentLoop) : Prop where
  converged : s.agent.hid.Converged
  away : s.agent.connected = false → Away s.agent
  reading : s.agent.connected = true → s.Reading
  ended : ∀ link reason, (link, reason) ∈ s.ended → Accounted link reason

section Steps

variable {s : AgentLoop}

theorem Sound.setAgent {agent : Agent} (h : s.Sound) (hconverged : agent.hid.Converged)
    (hconnected : agent.connected = s.agent.connected)
    (haway : Away s.agent → Away agent) : Sound { s with agent := agent } where
  converged := hconverged
  away hnot := haway (h.away (hconnected ▸ hnot))
  reading hyes := { h.reading (hconnected ▸ hyes) with }
  ended := h.ended

theorem sound_clock (h : s.Sound) : s.clock.2.Sound := by
  refine h.setAgent ?_ rfl fun haway => ⟨haway.streaming, haway.held⟩
  exact (HidState.calls_ask s.agent.hid).idle.flushed.converged h.converged

theorem sound_pumpHid (h : s.Sound) : Sound { s with agent := s.agent.pumpHid } := by
  refine h.setAgent (Agent.pumpHid_converged h.converged) ?_ fun haway => ?_
  · rw [Agent.pumpHid_eq]
    rfl
  · refine ⟨?_, Agent.held_none_pumpHid haway.held⟩
    rw [Agent.pumpHid_eq]
    exact haway.streaming

theorem sound_disconnect (h : s.Sound) (hlink : Accounted s.link reason) : (s.disconnect reason).Sound where
  converged := HidState.hidReleaseAll_converged s.agent.hid
  away _ := ⟨rfl, Agent.held_hidReleaseAll s.agent.hid⟩
  reading hyes := by cases hyes
  ended link reason hmem := by
    rcases List.mem_append.mp hmem with hold | hnew
    · exact h.ended link reason hold
    · cases List.mem_singleton.mp hnew
      exact hlink

theorem Reading.frames (h : s.Reading) : s.link.handled <+: (parseAll s.link.arrived).1 := by
  rw [h.consumed.parseAll_eq]
  exact List.prefix_append _ _

theorem Reading.accounted_sendFailed (h : s.Reading) : Accounted s.link .sendFailed where
  frames := h.frames
  broken hreason := by cases hreason
  silent now lastPongAt hreason := by cases hreason

theorem Reading.accounted_silent (h : s.Reading) (hlate : now - lastPongAt > Agent.heartbeatTimeoutMs) :
    Accounted s.link (.silent now lastPongAt) where
  frames := h.frames
  broken hreason := by cases hreason
  silent now' lastPongAt' hreason := by
    cases hreason
    exact hlate

theorem Reading.accounted_broken (h : s.Reading)
    (hleft : parse (pendingBytes s.reader s.socket) = .short ∧ s.socket.eof = true ∨
      parse (pendingBytes s.reader s.socket) = .invalid) : Accounted s.link .broken where
  frames := h.frames
  broken _ := by
    rw [h.consumed.parseAll_eq]
    rcases hleft with ⟨hshort, heof⟩ | hinvalid
    · rw [parseAll_short hshort]
      exact ⟨(List.append_nil _).symm, .inr (h.eof ▸ heof)⟩
    · rw [parseAll_invalid hinvalid]
      exact ⟨(List.append_nil _).symm, .inl rfl⟩
  silent now lastPongAt hreason := by cases hreason

theorem sound_connectControl (h : s.Sound) (hnot : s.agent.connected = false) (config : AgentConfig)
    (answers : TurnAnswers) : (s.connectControl config answers).Sound := by
  unfold connectControl
  split
  · exact h
  · split
    · exact { h with reading := fun hyes => by simp [hnot] at hyes }
    · exact {
        converged := (sound_clock h).converged
        away := fun hnot => by cases hnot
        reading := fun _ => ⟨.inl (Nat.zero_le _), .done [], rfl⟩
        ended := h.ended }

theorem sound_reconnect (h : s.Sound) (hnot : s.agent.connected = false) (config : AgentConfig)
    (answers : TurnAnswers) : (s.reconnect config answers).Sound := by
  have hclock := sound_clock (sound_connectControl h hnot config answers)
  exact ⟨hclock.converged, hclock.away, fun hyes => ⟨(hclock.reading hyes).ok,
    (hclock.reading hyes).consumed, (hclock.reading hyes).eof⟩, hclock.ended⟩

theorem sound_connectIfDue (h : s.Sound) (config : AgentConfig) (now : UInt64) (answers : TurnAnswers) :
    (s.connectIfDue config now answers).Sound := by
  unfold connectIfDue
  split
  case isTrue hdue =>
    simp only [Bool.and_eq_true, Bool.not_eq_true'] at hdue
    exact sound_reconnect h hdue.1 config answers
  · exact h

theorem sound_handle {reader : ControlReader} {socket : Socket} (h : s.Sound)
    (hconnected : s.agent.connected = true) (hok : reader.Ok)
    (hparse : parse (pendingBytes s.reader s.socket) = .message m (pendingBytes reader socket))
    (heof : socket.eof = s.socket.eof) : (s.handle reader socket m).Sound where
  converged := Agent.handleControl_converged h.converged m
  away hnot := by
    simp only [handle, Agent.connected_handleControl, hconnected] at hnot
    cases hnot
  reading _ :=
    ⟨hok, (h.reading hconnected).consumed.concat hparse, heof.trans (h.reading hconnected).eof⟩
  ended := h.ended

/-- Taking messages off the connection: each is the next frame, and the loop ends
early only when no whole frame is there. -/
theorem sound_batch (n : Nat) (h : s.Sound) (hconnected : s.agent.connected = true) : (batch n s).Sound := by
  induction n generalizing s with
  | zero => exact h
  | succ n ih =>
    have hreading := h.reading hconnected
    have hleft := protocolReceiveAvailable_left hreading.ok s.socket
    rw [batch]
    generalize protocolReceiveAvailable s.reader s.socket = result at hleft ⊢
    cases hleft with
    | message hok hparse heof =>
      refine ih (sound_handle h hconnected hok hparse heof) ?_
      rw [handle, Agent.connected_handleControl]
      exact hconnected
    | pending hok hbytes heof =>
      exact { h with
        reading := fun _ => ⟨hok, by rw [hbytes]; exact hreading.consumed, heof.trans hreading.eof⟩ }
    | closed hshort heof =>
      exact { sound_disconnect h (hreading.accounted_broken (.inl ⟨hshort, heof⟩)) with
        reading := fun hyes => by cases hyes }
    | invalid hinvalid =>
      exact { sound_disconnect h (hreading.accounted_broken (.inr hinvalid)) with
        reading := fun hyes => by cases hyes }

theorem sound_receive (h : s.Sound) (answers : TurnAnswers) : (s.receive answers).Sound := by
  unfold receive
  split
  case isTrue hready =>
    rw [Bool.and_eq_true] at hready
    exact sound_batch _ h hready.2
  · exact h

theorem sound_logInput (h : s.Sound) (now : UInt64) : (s.logInput now).Sound := by
  unfold logInput
  split
  · exact {
      converged := h.converged
      away := fun hnot => { h.away hnot with }
      reading := fun hyes => { h.reading hyes with }
      ended := h.ended }
  · exact h

theorem sound_sendStats (h : s.Sound) (hconnected : s.agent.connected = true) (now : UInt64)
    (answers : TurnAnswers) : (s.sendStats now answers).Sound := by
  unfold sendStats
  split
  · split
    · exact sound_disconnect h (h.reading hconnected).accounted_sendFailed
    · have hsent : Sound { s with agent := s.agent.protocolSend .stats answers.counters.stats } :=
        h.setAgent h.converged rfl fun haway => ⟨haway.streaming, haway.held⟩
      exact { hsent with reading := fun _ => { h.reading hconnected with } }
  · exact h

theorem sound_heartbeat (h : s.Sound) (now : UInt64) (answers : TurnAnswers) :
    (s.heartbeat now answers).Sound := by
  unfold heartbeat
  split
  · exact h
  case isFalse hconnected =>
    have hconnected : s.agent.connected = true := by simpa using hconnected
    have hreading := h.reading hconnected
    split
    case isTrue hlate => exact sound_disconnect h (hreading.accounted_silent hlate)
    · split
      · split
        · exact sound_disconnect h hreading.accounted_sendFailed
        · have hsent : Sound { s with agent := s.agent.protocolSend .ping [], lastPingAt := now } :=
            ⟨h.converged, fun hnot => { h.away hnot with }, fun _ => { hreading with }, h.ended⟩
          exact sound_sendStats hsent hconnected now answers
      · exact sound_sendStats h hconnected now answers

theorem sound_turn (h : s.Sound) (config : AgentConfig) (answers : TurnAnswers) :
    (s.turn config answers).Sound := by
  have hconnect := sound_connectIfDue (sound_clock (sound_pumpHid h)) config
    ({ s with agent := s.agent.pumpHid } : AgentLoop).clock.1 answers
  have hreceive := sound_receive hconnect answers
  exact sound_heartbeat (sound_logInput (sound_clock hreceive) _) _ answers

theorem sound_step {s' : AgentLoop} {config : AgentConfig} (h : s.Sound) (hstep : s.step config e = some s') :
    s'.Sound := by
  cases e with
  | arrive events =>
    obtain ⟨hopen, ⟨⟩⟩ := Option.ite_none_right_eq_some.mp hstep
    rw [Bool.and_eq_true] at hopen
    have hreading := h.reading hopen.1
    refine { h with reading := fun _ => ⟨hreading.ok, ?_, hreading.eof⟩ }
    have hbytes := hreading.consumed.append (events.flatMap RecvEvent.bytes)
    simpa [pendingBytes, Socket.bytes] using hbytes
  | close =>
    obtain ⟨hopen, ⟨⟩⟩ := Option.ite_none_right_eq_some.mp hstep
    have hreading := h.reading hopen
    exact { h with reading := fun _ => ⟨hreading.ok, hreading.consumed, rfl⟩ }
  | turn answers =>
    cases hstep
    exact sound_turn h config answers

theorem sound_start (config : HidConfig) (kernel : Nat → Answer) : (start config kernel).Sound where
  converged := HidState.hidReleaseAll_converged (hidInit config kernel)
  away _ := ⟨rfl, Agent.held_hidReleaseAll (hidInit config kernel)⟩
  reading hyes := by cases hyes
  ended := by simp [start]

theorem sound_run {config : AgentConfig} {hidConfig : HidConfig} {kernel : Nat → Answer}
    {events : List LoopEvent} (hrun : Machine.run (step config) (start hidConfig kernel) events = some s) :
    s.Sound :=
  Machine.run_induction (fun _ _ _ h hstep => sound_step h hstep) (sound_start hidConfig kernel) hrun

-- ---------------------------------------------------------------------------
-- What a turn handles
-- ---------------------------------------------------------------------------

@[simp] theorem link_disconnect (reason : LinkEnd) : (s.disconnect reason).link = s.link := by
  simp only [disconnect]

@[simp] theorem link_sendStats (now : UInt64) (answers : TurnAnswers) :
    (s.sendStats now answers).link = s.link := by
  unfold sendStats
  split
  · split <;> simp
  · simp

end Steps

-- ---------------------------------------------------------------------------
-- Every run
-- ---------------------------------------------------------------------------

/-- In every run the last report of each endpoint encodes what is held. With no
connection nothing is streamed, nothing is held, and those reports are neutral. -/
theorem nothing_held_without_connection (config : AgentConfig) (hidConfig : HidConfig)
    (kernel : Nat → Answer) (events : List LoopEvent) (s : AgentLoop)
    (hrun : Machine.run (step config) (start hidConfig kernel) events = some s) :
    s.agent.hid.Converged ∧
    (s.agent.connected = false →
      s.agent.streaming = false ∧ s.agent.hid.input.held = Held.none ∧
      ∀ e, ∃ bytes, s.agent.hid.latest e = some bytes ∧ bytes.head? = some 0 ∧
        (e = .keyboard → bytes.drop 2 = List.replicate 6 0)) := by
  have h := sound_run hrun
  refine ⟨h.converged, fun hnot => ⟨(h.away hnot).streaming, (h.away hnot).held, fun e => ?_⟩⟩
  obtain ⟨bytes, hlatest, hencodes⟩ := h.converged e
  rw [(h.away hnot).held] at hencodes
  exact ⟨bytes, hlatest, Agent.encodes_none hencodes⟩

/-- The agent connects, `RELEASE_ALL` arrives in two pieces, and the gateway closes
the connection. -/
def releasedAndClosed : List LoopEvent :=
  [.turn { readable := false }, .arrive [.data 1 [9]], .turn {}, .arrive [.eintr, .data 0 [0]],
    .turn {}, .close, .turn {}]

def releasedRun : Option AgentLoop :=
  Machine.run (step { width := 1920, height := 1080, videoPort := 5004 }) (start {} fun _ => {}) releasedAndClosed

theorem releasedRun_isSome : releasedRun.isSome = true := by decide +kernel

theorem releasedRun_away :
    ∃ s, releasedRun = some s ∧ s.agent.connected = false ∧ s.agent.streaming = false ∧
      s.agent.hid.input.held = Held.none := by
  have hnot : (releasedRun.get releasedRun_isSome).agent.connected = false := by decide +kernel
  obtain ⟨hstreaming, hheld, -⟩ :=
    (nothing_held_without_connection _ _ _ _ _ (Option.some_get releasedRun_isSome).symm).2 hnot
  exact ⟨releasedRun.get releasedRun_isSome, (Option.some_get releasedRun_isSome).symm, hnot, hstreaming, hheld⟩

end NanokvmRdp.AgentLoop
