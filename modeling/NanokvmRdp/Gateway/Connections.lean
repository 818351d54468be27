import Mathlib.Data.List.Nodup
import NanokvmRdp.Gateway.TransportLaws
import NanokvmRdp.Lib.Erasure

/-!
# Connections that are no longer current

The reader of a connection goes on after the connection was replaced, and
descriptors are reused, so its last messages and its cleanup come at any time.
They find another epoch and change nothing. The run keeps a record: the epochs
that were accepted, replaced and published as disconnected, and what happened
to key acknowledgements.
-/

namespace NanokvmRdp.Gateway

open Protocol

/-- A call of `agent_transport_begin_key_ack` with its result, and a `KEY_ACK`
that came on the connection that was current. -/
inductive KeyNote where
  | begun (sequence : UInt32) (started : Bool)
  | acknowledged (fd : Nat) (epoch : UInt64) (sequence : UInt32)
  deriving DecidableEq, Repr

/-- `unpublished` has the epochs of cleanups that have left the lock and not
called `publish_event`. The last four fields record the run. -/
structure Connections where
  transport : AgentTransport := {}
  unpublished : List UInt64 := []
  accepted : List UInt64 := []
  replaced : List UInt64 := []
  published : List UInt64 := []
  keyNotes : List KeyNote := []
  deriving DecidableEq

inductive ConnectionEvent where
  | acceptBegin (fd : Nat)
  | acceptEnd (fd : Nat) (hello : Option ControlMessage) (now : UInt64)
  | message (fd : Nat) (epoch : UInt64) (message : ControlMessage) (now : UInt64)
  | runEnd (fd : Nat) (epoch : UInt64)
  | publish (epoch : UInt64)
  | setStreamRequested (requested : Bool)
  | beginKeyAck (sequence : UInt32)
  | heartbeat (now : UInt64)
  | shutdown
  deriving DecidableEq, Repr

namespace Connections

-- ---------------------------------------------------------------------------
-- The steps
-- ---------------------------------------------------------------------------

def acceptEnd (s : Connections) (fd : Nat) (hello : Option ControlMessage) (now : UInt64) :
    Connections :=
  match s.transport.acceptEnd fd hello now with
  | (none, transport) => { s with transport }
  | (some accepted, transport) =>
    { s with
      transport
      accepted := s.accepted ++ [accepted.epoch]
      replaced := if accepted.replacedFd.isSome then s.replaced ++ [s.transport.epoch] else s.replaced }

def message (s : Connections) (fd : Nat) (epoch : UInt64) (message : ControlMessage) (now : UInt64) :
    Connections :=
  { s with
    transport := (s.transport.handleMessage fd epoch message now).2
    keyNotes :=
      if s.transport.isCurrent fd epoch then
        s.keyNotes ++ (AgentTransport.keyAckSequence? message).toList.map (.acknowledged fd epoch)
      else s.keyNotes }

def runEnd (s : Connections) (fd : Nat) (epoch : UInt64) : Connections :=
  { s with
    transport := (s.transport.runEnd fd epoch).2
    unpublished :=
      if (s.transport.runEnd fd epoch).1 then s.unpublished ++ [epoch] else s.unpublished }

def publish (s : Connections) (epoch : UInt64) : Connections :=
  if epoch ∈ s.unpublished then
    { s with unpublished := s.unpublished.erase epoch, published := s.published ++ [epoch] }
  else s

def beginKeyAck (s : Connections) (sequence : UInt32) : Connections :=
  { s with
    transport := (s.transport.beginKeyAck sequence).2
    keyNotes := s.keyNotes ++ [.begun sequence (s.transport.beginKeyAck sequence).1] }

def step (s : Connections) : ConnectionEvent → Connections
  | .acceptBegin fd => { s with transport := (s.transport.acceptBegin fd).2 }
  | .acceptEnd fd hello now => s.acceptEnd fd hello now
  | .message fd epoch message now => s.message fd epoch message now
  | .runEnd fd epoch => s.runEnd fd epoch
  | .publish epoch => s.publish epoch
  | .setStreamRequested requested =>
    { s with transport := (s.transport.setStreamRequested requested).2 }
  | .beginKeyAck sequence => s.beginKeyAck sequence
  | .heartbeat now => { s with transport := (s.transport.heartbeat now).2 }
  | .shutdown => { s with transport := s.transport.shutdown }

def run (events : List ConnectionEvent) : Connections := events.foldl step {}

/-- A message or a cleanup of a connection that is not the current one. -/
def stale (s : Connections) : ConnectionEvent → Bool
  | .message fd epoch _ _ => !s.transport.isCurrent fd epoch
  | .runEnd fd epoch => !decide (s.transport.fd = some fd ∧ s.transport.epoch = epoch)
  | _ => false

theorem step_stale (s : Connections) (event : ConnectionEvent) (hstale : s.stale event = true) :
    s.step event = s := by
  cases event with
  | message fd epoch message now =>
    have hcurrent : s.transport.isCurrent fd epoch = false := by simpa [stale] using hstale
    have hsame := AgentTransport.handleMessage_stale (Bool.not_eq_true _ ▸ hcurrent) message now
    simp [step, Connections.message, hcurrent, hsame]
  | runEnd fd epoch =>
    have hstale : ¬ (s.transport.fd = some fd ∧ s.transport.epoch = epoch) := by
      simpa only [stale, Bool.not_eq_true', decide_eq_false_iff_not] using hstale
    simp [step, Connections.runEnd, AgentTransport.runEnd_stale hstale]
  | acceptBegin | acceptEnd | publish | setStreamRequested | beginKeyAck | heartbeat | shutdown =>
    cases hstale

-- ---------------------------------------------------------------------------
-- Epochs
-- ---------------------------------------------------------------------------

structure Ordered (s : Connections) : Prop where
  epoch : s.transport.epoch.toNat = s.accepted.length
  increasing : s.accepted.Pairwise (· < ·)
  accepted_le : ∀ epoch ∈ s.accepted, epoch ≤ s.transport.epoch
  once : (s.published ++ s.unpublished).Nodup
  ended : ∀ epoch ∈ s.published ++ s.unpublished,
    epoch ≤ s.transport.epoch ∧ (s.transport.fd ≠ none → epoch ≠ s.transport.epoch)
  replaced_lt : ∀ epoch ∈ s.replaced,
    epoch < s.transport.epoch ∧ epoch ∉ s.published ++ s.unpublished

theorem ordered_start : Ordered {} := by
  refine ⟨rfl, .nil, ?_, .nil, ?_, ?_⟩ <;> simp

theorem Ordered.keep {s : Connections} (h : s.Ordered) {transport : AgentTransport}
    {keyNotes : List KeyNote} (hfd : transport.fd = s.transport.fd)
    (hepoch : transport.epoch = s.transport.epoch) :
    Ordered { s with transport, keyNotes } := by
  refine ⟨hepoch ▸ h.epoch, h.increasing, hepoch ▸ h.accepted_le, h.once, ?_, hepoch ▸ h.replaced_lt⟩
  simp only [hfd, hepoch]
  exact h.ended

theorem Ordered.runEnd {s : Connections} (h : s.Ordered) (fd : Nat) (epoch : UInt64) :
    (s.runEnd fd epoch).Ordered := by
  unfold Connections.runEnd
  by_cases hcurrent : s.transport.fd = some fd ∧ s.transport.epoch = epoch
  · rw [AgentTransport.runEnd_current hcurrent]
    obtain ⟨hfd, rfl⟩ := hcurrent
    have hnew : s.transport.epoch ∉ s.published ++ s.unpublished :=
      fun hmem => (h.ended _ hmem).2 (by simp [hfd]) rfl
    simp only
    split
    · refine ⟨h.epoch, h.increasing, h.accepted_le, ?_, ?_, ?_⟩
      · rw [← List.append_assoc]
        exact List.nodup_append_comm.mp (List.nodup_cons.mpr ⟨hnew, h.once⟩)
      · intro epoch hmem
        rw [← List.append_assoc, List.mem_append, List.mem_singleton] at hmem
        refine ⟨?_, fun hne => absurd rfl hne⟩
        rcases hmem with hmem | rfl
        · exact (h.ended epoch hmem).1
        · exact UInt64.le_refl _
      · intro epoch hmem
        obtain ⟨hlt, hnever⟩ := h.replaced_lt epoch hmem
        refine ⟨hlt, ?_⟩
        rw [← List.append_assoc, List.mem_append, List.mem_singleton]
        rintro (hmem | rfl)
        · exact hnever hmem
        · exact UInt64.lt_irrefl _ hlt
    · exact ⟨h.epoch, h.increasing, h.accepted_le, h.once,
        fun epoch hmem => ⟨(h.ended epoch hmem).1, fun hne => absurd rfl hne⟩, h.replaced_lt⟩
  · rw [AgentTransport.runEnd_stale hcurrent]
    exact h.keep rfl rfl

theorem Ordered.publish {s : Connections} (h : s.Ordered) (epoch : UInt64) :
    (s.publish epoch).Ordered := by
  unfold Connections.publish
  split
  · rename_i hmem
    have hperm : (s.published ++ [epoch] ++ s.unpublished.erase epoch).Perm
        (s.published ++ s.unpublished) := by
      rw [List.append_assoc]
      exact (List.perm_cons_erase hmem).symm.append_left s.published
    refine ⟨h.epoch, h.increasing, h.accepted_le, hperm.nodup_iff.mpr h.once, ?_, ?_⟩
    · exact fun epoch hmem => h.ended epoch (hperm.mem_iff.mp hmem)
    · intro epoch hmem
      obtain ⟨hlt, hnever⟩ := h.replaced_lt epoch hmem
      exact ⟨hlt, fun hended => hnever (hperm.mem_iff.mp hended)⟩
  · exact h

theorem Ordered.acceptEnd {s : Connections} (h : s.accepted.length < 2 ^ 64 → s.Ordered) (fd : Nat)
    (hello : Option ControlMessage) (now : UInt64)
    (hbound : (s.acceptEnd fd hello now).accepted.length < 2 ^ 64) :
    (s.acceptEnd fd hello now).Ordered := by
  have haccepts := s.transport.accepts_acceptEnd fd hello now
  unfold Connections.acceptEnd at hbound ⊢
  generalize s.transport.acceptEnd fd hello now = result at haccepts hbound ⊢
  cases haccepts with
  | refused pending => exact (h hbound).keep rfl rfl
  | accepted hello pending hstopping =>
    simp only [List.length_append, List.length_singleton] at hbound
    replace h := h (by omega)
    have hnext : (s.transport.epoch + 1).toNat = s.accepted.length + 1 := by
      rw [UInt64.toNat_add, h.epoch]
      exact Nat.mod_eq_of_lt hbound
    have hlater : ∀ epoch ≤ s.transport.epoch, epoch < s.transport.epoch + 1 := by
      intro epoch hle
      rw [UInt64.le_iff_toNat_le, h.epoch] at hle
      rw [UInt64.lt_iff_toNat_lt, hnext]
      omega
    refine ⟨?_, ?_, ?_, h.once, ?_, ?_⟩
    · rw [List.length_append]
      exact hnext
    · refine List.pairwise_append.mpr ⟨h.increasing, List.pairwise_singleton _ _, ?_⟩
      intro epoch hmem last hlast
      rw [List.mem_singleton.mp hlast]
      exact hlater epoch (h.accepted_le epoch hmem)
    · intro epoch hmem
      rcases List.mem_append.mp hmem with hmem | hmem
      · exact UInt64.le_of_lt (hlater epoch (h.accepted_le epoch hmem))
      · rw [List.mem_singleton.mp hmem]
        exact UInt64.le_refl _
    · intro epoch hmem
      have hlt := hlater epoch (h.ended epoch hmem).1
      exact ⟨UInt64.le_of_lt hlt, fun _ => UInt64.ne_of_lt hlt⟩
    · have hold : ∀ epoch ∈ s.replaced,
          epoch < s.transport.epoch + 1 ∧ epoch ∉ s.published ++ s.unpublished := by
        intro epoch hmem
        obtain ⟨hlt, hnever⟩ := h.replaced_lt epoch hmem
        exact ⟨hlater epoch (UInt64.le_of_lt hlt), hnever⟩
      simp only
      split
      · rename_i hfd
        intro epoch hmem
        rcases List.mem_append.mp hmem with hmem | hmem
        · exact hold epoch hmem
        · rw [List.mem_singleton.mp hmem]
          refine ⟨hlater _ (UInt64.le_refl _), fun hended => ?_⟩
          exact (h.ended _ hended).2 (Option.isSome_iff_ne_none.mp hfd) rfl
      · exact hold

theorem Ordered.step {s : Connections} (h : s.accepted.length < 2 ^ 64 → s.Ordered)
    (event : ConnectionEvent) (hbound : (s.step event).accepted.length < 2 ^ 64) :
    (s.step event).Ordered := by
  cases event with
  | acceptBegin fd =>
    obtain ⟨pending, hshape⟩ := s.transport.acceptBegin_shape fd
    simp only [Connections.step, hshape] at hbound ⊢
    exact (h hbound).keep rfl rfl
  | acceptEnd fd hello now => exact Ordered.acceptEnd h fd hello now hbound
  | message fd epoch message now =>
    by_cases hstale : s.stale (.message fd epoch message now) = true
    · rw [step_stale s _ hstale] at hbound ⊢
      exact h hbound
    · have hcurrent : s.transport.isCurrent fd epoch = true := by simpa [stale] using hstale
      obtain ⟨_, _, _, hshape, _⟩ := AgentTransport.handleMessage_shape hcurrent message now
      simp only [Connections.step, Connections.message, hshape] at hbound ⊢
      exact (h hbound).keep rfl rfl
  | runEnd fd epoch => exact (h hbound).runEnd fd epoch
  | publish epoch =>
    refine Ordered.publish (h ?_) epoch
    simp only [Connections.step, Connections.publish] at hbound
    split at hbound <;> exact hbound
  | setStreamRequested requested => exact (h hbound).keep rfl rfl
  | beginKeyAck sequence =>
    refine (h hbound).keep ?_ ?_ <;>
      simp only [AgentTransport.beginKeyAck] <;> split <;> rfl
  | heartbeat now =>
    obtain ⟨_, _, _, hshape⟩ := s.transport.heartbeat_shape now
    simp only [Connections.step, hshape] at hbound ⊢
    exact (h hbound).keep rfl rfl
  | shutdown => exact (h hbound).keep rfl rfl

-- ---------------------------------------------------------------------------
-- Key acknowledgements
-- ---------------------------------------------------------------------------

/-- A key is waited for: the last call that started a wait for it is split off
the record. -/
structure Waits (s : Connections) (fd : Nat) (before after : List KeyNote) : Prop where
  connected : s.transport.fd = some fd
  supported : s.transport.supportsKeyAck = true
  notes : s.keyNotes = before ++ .begun s.transport.waitingKeySequence true :: after
  last : .begun s.transport.waitingKeySequence true ∉ after
  running : s.transport.stopping = false → .begun s.transport.waitingKeySequence false ∉ after
  received : s.transport.keyAckReceived = true →
    .acknowledged fd s.transport.epoch s.transport.waitingKeySequence ∈ after

def Traced (s : Connections) : Prop :=
  s.transport.waitingKeySequence ≠ 0 → ∃ fd before after, s.Waits fd before after

theorem Traced.keep {s s' : Connections} (h : s.Traced) (hfd : s'.transport.fd = s.transport.fd)
    (hepoch : s'.transport.epoch = s.transport.epoch)
    (hsupports : s'.transport.supportsKeyAck = s.transport.supportsKeyAck)
    (hwaiting : s'.transport.waitingKeySequence = s.transport.waitingKeySequence)
    (hreceived : s'.transport.keyAckReceived = s.transport.keyAckReceived)
    (hstopping : s'.transport.stopping = false → s.transport.stopping = false)
    (hnotes : s'.keyNotes = s.keyNotes) : s'.Traced := by
  intro hne
  rw [hwaiting] at hne
  obtain ⟨fd, before, after, hwaits⟩ := h hne
  refine ⟨fd, before, after, hfd.trans hwaits.connected, hsupports.trans hwaits.supported, ?_, ?_, ?_, ?_⟩
  · rw [hnotes, hwaiting, hwaits.notes]
  · rw [hwaiting]
    exact hwaits.last
  · rw [hwaiting]
    exact fun hrunning => hwaits.running (hstopping hrunning)
  · rw [hreceived, hepoch, hwaiting]
    exact hwaits.received

theorem Traced.beginKeyAck {s : Connections} (h : s.Traced) (sequence : UInt32) :
    (s.beginKeyAck sequence).Traced := by
  unfold Connections.beginKeyAck AgentTransport.beginKeyAck
  split
  · rename_i hstarted
    obtain ⟨_, _, hfd, hsupported⟩ := hstarted
    obtain ⟨fd, hfd⟩ := Option.isSome_iff_exists.mp hfd
    exact fun _ => ⟨fd, s.keyNotes, [], hfd, hsupported, rfl, List.not_mem_nil,
      fun _ => List.not_mem_nil, nofun⟩
  · rename_i hrefused
    intro hne
    obtain ⟨fd, before, after, hwaits⟩ := h hne
    refine ⟨fd, before, after ++ [.begun sequence false], hwaits.connected, hwaits.supported,
      ?_, ?_, fun hrunning => ?_, fun hreceived => List.mem_append_left _ (hwaits.received hreceived)⟩
    · simp [hwaits.notes]
    · simp [hwaits.last]
    · rw [List.mem_append, List.mem_singleton]
      rintro (hmem | hsame)
      · exact hwaits.running hrunning hmem
      · -- the call that was refused would have started the wait
        have hsequence : s.transport.waitingKeySequence = sequence := (KeyNote.begun.inj hsame).1
        exact hrefused ⟨hsequence ▸ hne, by simpa using hrunning, by simp [hwaits.connected],
          hwaits.supported⟩

theorem Traced.message {s : Connections} (h : s.Traced) (fd : Nat) (epoch : UInt64)
    (message : ControlMessage) (now : UInt64) : (s.message fd epoch message now).Traced := by
  by_cases hstale : s.stale (.message fd epoch message now) = true
  · have hsame : s.message fd epoch message now = s := step_stale s _ hstale
    rw [hsame]
    exact h
  · have hcurrent : s.transport.isCurrent fd epoch = true := by simpa [stale] using hstale
    obtain ⟨received, success, stats, hshape, hreceived⟩ :=
      AgentTransport.handleMessage_shape hcurrent message now
    unfold Connections.message
    rw [hshape, if_pos hcurrent]
    intro hne
    obtain ⟨fd', before, after, hwaits⟩ := h hne
    obtain ⟨⟨_, hfd⟩, hepoch⟩ : (s.transport.stopping = false ∧ s.transport.fd = some fd) ∧
        s.transport.epoch = epoch := by simpa [AgentTransport.isCurrent] using hcurrent
    obtain rfl : fd' = fd := Option.some.inj (hwaits.connected.symm.trans hfd)
    refine ⟨fd', before,
      after ++ (AgentTransport.keyAckSequence? message).toList.map (.acknowledged fd' epoch), hfd,
      hwaits.supported, ?_, ?_, fun hrunning => ?_, fun hack => ?_⟩
    · simp [hwaits.notes]
    · simp [hwaits.last]
    · simpa using hwaits.running hrunning
    · rcases hreceived hack with hbefore | hsequence
      · exact List.mem_append_left _ (hwaits.received hbefore)
      · refine List.mem_append_right _ ?_
        simp [hsequence, hepoch]

theorem Traced.step {s : Connections} (h : s.Traced) (event : ConnectionEvent) :
    (s.step event).Traced := by
  cases event with
  | acceptBegin fd =>
    obtain ⟨pending, hshape⟩ := s.transport.acceptBegin_shape fd
    refine h.keep ?_ ?_ ?_ ?_ ?_ ?_ rfl <;> simp [Connections.step, hshape]
  | acceptEnd fd hello now =>
    have haccepts := s.transport.accepts_acceptEnd fd hello now
    simp only [Connections.step, Connections.acceptEnd]
    generalize s.transport.acceptEnd fd hello now = result at haccepts ⊢
    cases haccepts with
    | refused pending => exact h.keep rfl rfl rfl rfl rfl id rfl
    | accepted hello pending => exact fun hne => absurd rfl hne
  | message fd epoch message now => exact h.message fd epoch message now
  | runEnd fd epoch =>
    simp only [Connections.step, Connections.runEnd]
    by_cases hcurrent : s.transport.fd = some fd ∧ s.transport.epoch = epoch
    · rw [AgentTransport.runEnd_current hcurrent]
      exact fun hne => absurd rfl hne
    · rw [AgentTransport.runEnd_stale hcurrent]
      exact h.keep rfl rfl rfl rfl rfl id rfl
  | publish epoch =>
    simp only [Connections.step, Connections.publish]
    split
    · exact h.keep rfl rfl rfl rfl rfl id rfl
    · exact h
  | setStreamRequested requested => exact h.keep rfl rfl rfl rfl rfl id rfl
  | beginKeyAck sequence => exact h.beginKeyAck sequence
  | heartbeat now =>
    obtain ⟨_, _, _, hshape⟩ := s.transport.heartbeat_shape now
    refine h.keep ?_ ?_ ?_ ?_ ?_ ?_ rfl <;> simp [Connections.step, hshape]
  | shutdown => exact h.keep rfl rfl rfl rfl rfl nofun rfl

-- ---------------------------------------------------------------------------
-- Every run
-- ---------------------------------------------------------------------------

theorem run_records (events : List ConnectionEvent) :
    ((run events).accepted.length < 2 ^ 64 → (run events).Ordered) ∧ (run events).Traced := by
  have hfoldl : ∀ s : Connections, (s.accepted.length < 2 ^ 64 → s.Ordered) ∧ s.Traced →
      ((events.foldl step s).accepted.length < 2 ^ 64 → (events.foldl step s).Ordered) ∧
        (events.foldl step s).Traced := by
    induction events with
    | nil => exact fun s hs => hs
    | cons event events ih =>
      exact fun s hs => ih (s.step event) ⟨Ordered.step hs.1 event, hs.2.step event⟩
  exact hfoldl {} ⟨fun _ => ordered_start, fun hne => absurd rfl hne⟩

/-- Stale connections have no influence. -/
theorem stale_without_influence (events : List ConnectionEvent) :
    run (Erasure.erase step stale {} events) = run events ∧
      ((run events).accepted.length < 2 ^ 64 →
        (run events).accepted.Pairwise (· < ·) ∧ (run events).published.Nodup ∧
          ∀ epoch ∈ (run events).published, epoch ∉ (run events).replaced) ∧
      ∀ sequence success, (run events).transport.getKeyAck sequence = some (true, success) →
        ∃ fd before after, (run events).transport.fd = some fd ∧
          (run events).keyNotes = before ++ .begun sequence true :: after ∧
          .begun sequence true ∉ after ∧
          ((run events).transport.stopping = false → .begun sequence false ∉ after) ∧
          .acknowledged fd (run events).transport.epoch sequence ∈ after := by
  obtain ⟨hordered, htraced⟩ := run_records events
  generalize hrun : run events = s at hordered htraced
  refine ⟨?_, fun hbound => ?_, fun sequence success hget => ?_⟩
  · rw [← hrun]
    exact Erasure.foldl_erase step_stale {} events
  · have h := hordered hbound
    refine ⟨h.increasing, (List.nodup_append.mp h.once).1, fun epoch hmem hreplaced => ?_⟩
    exact (h.replaced_lt epoch hreplaced).2 (List.mem_append_left _ hmem)
  · unfold AgentTransport.getKeyAck at hget
    split at hget
    · rename_i hwaiting
      obtain ⟨hne, rfl⟩ := hwaiting
      obtain ⟨fd, before, after, hwaits⟩ := htraced hne
      have hreceived : s.transport.keyAckReceived = true :=
        (Prod.mk.inj (Option.some.inj hget)).1
      exact ⟨fd, before, after, hwaits.connected, hwaits.notes, hwaits.last, hwaits.running,
        hwaits.received hreceived⟩
    · cases hget

def capableHello : ControlMessage :=
  ⟨ControlType.hello.code, [0x07, 0x80, 0x04, 0x38, 0x13, 0x8c, 0x04, 0xb0, 1], by decide⟩

/-- Key 7 is acknowledged, and a second call for it comes after the shutdown. -/
def refusedBegin : List ConnectionEvent :=
  [.acceptBegin 3, .acceptEnd 3 (some capableHello) 0, .beginKeyAck 7,
    .message 3 1 ⟨ControlType.keyAck.code, [0, 0, 0, 7, 1], by decide⟩ 10, .shutdown, .beginKeyAck 7]

/-- `agent_transport_begin_key_ack` resets nothing when it refuses: the earlier
acknowledgement is still reported. -/
theorem refused_begin_keeps_ack :
    (run refusedBegin).keyNotes = [.begun 7 true, .acknowledged 3 1 7, .begun 7 false] ∧
      (run refusedBegin).transport.getKeyAck 7 = some (true, true) := by
  decide +kernel

end Connections

end NanokvmRdp.Gateway
