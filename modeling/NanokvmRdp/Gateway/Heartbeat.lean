import Mathlib.Data.List.Nodup
import NanokvmRdp.Gateway.TransportLaws
import NanokvmRdp.Lib.Machine

/-!
# Heartbeat timeouts

The control thread and the heartbeat thread on one transport, under one
monotonic clock. The control thread reads the clock under the lock.
`server_heartbeat` reads it before, so a message can be handled between its
reading and its locked section; the unsigned difference then wraps around and
a live agent is timed out (`late_sample_times_out`). Heartbeats that are not
overtaken time out quiet connections only, and each once
(`timeouts_quiet_and_once`).
-/

namespace NanokvmRdp.Gateway

open Protocol

/-- A timeout: the connection it ended, the clock reading, and when that
connection was accepted or heard from. -/
structure Declared where
  connection : Nat
  now : UInt64
  activity : List UInt64
  deriving DecidableEq, Repr

/-- `sampled` is the reading of a `server_heartbeat` that has not entered the
lock. The last three fields record the run. -/
structure Heartbeats where
  transport : AgentTransport := {}
  clock : UInt64 := 0
  sampled : Option UInt64 := none
  connection : Nat := 0
  activity : List UInt64 := []
  declared : List Declared := []
  deriving DecidableEq

inductive HeartbeatEvent where
  | tick (later : UInt64)
  | acceptBegin (fd : Nat)
  | acceptEnd (fd : Nat) (hello : Option ControlMessage)
  | message (fd : Nat) (epoch : UInt64) (message : ControlMessage)
  | runEnd (fd : Nat) (epoch : UInt64)
  | shutdown
  | sample
  | beat
  deriving DecidableEq, Repr

namespace Heartbeats

def setTransport (s : Heartbeats) (transport : AgentTransport) : Heartbeats := { s with transport }

def acceptEnd (s : Heartbeats) (fd : Nat) (hello : Option ControlMessage) : Heartbeats :=
  match s.transport.acceptEnd fd hello s.clock with
  | (none, transport) => s.setTransport transport
  | (some _, transport) =>
    { s with transport, connection := s.connection + 1, activity := [s.clock] }

def message (s : Heartbeats) (fd : Nat) (epoch : UInt64) (message : ControlMessage) : Heartbeats :=
  let transport := (s.transport.handleMessage fd epoch message s.clock).2
  if s.transport.isCurrent fd epoch then
    { s with transport, activity := s.activity ++ [s.clock] }
  else s.setTransport transport

def beat (s : Heartbeats) (now : UInt64) : Heartbeats :=
  match s.transport.heartbeat now with
  | (.timeout _, transport) =>
    { s with
      transport
      sampled := none
      declared := s.declared ++ [⟨s.connection, now, s.activity⟩] }
  | (_, transport) => { s with transport, sampled := none }

def step (s : Heartbeats) : HeartbeatEvent → Option Heartbeats
  | .tick later => if s.clock ≤ later then some { s with clock := later } else none
  | .acceptBegin fd => some (s.setTransport (s.transport.acceptBegin fd).2)
  | .acceptEnd fd hello => some (s.acceptEnd fd hello)
  | .message fd epoch message => some (s.message fd epoch message)
  | .runEnd fd epoch => some (s.setTransport (s.transport.runEnd fd epoch).2)
  | .shutdown => some (s.setTransport s.transport.shutdown)
  | .sample => if s.sampled.isNone then some { s with sampled := some s.clock } else none
  | .beat => s.sampled.map s.beat

end Heartbeats

def AgentTransport.watched (t : AgentTransport) : Bool := t.target.isSome && !t.heartbeatTimedOut

namespace Heartbeats

/-- The reading of a heartbeat is not before the last activity of the connection
it watches. -/
def NotOvertaken (s : Heartbeats) : HeartbeatEvent → Prop
  | .beat =>
    ∀ now ∈ s.sampled, s.transport.watched = true → s.transport.lastActivityAt ≤ now
  | _ => True

instance (s : Heartbeats) (event : HeartbeatEvent) : Decidable (s.NotOvertaken event) :=
  match event with
  | .beat => Option.decidableForallMem _
  | .tick _ | .acceptBegin _ | .acceptEnd _ _ | .message .. | .runEnd .. | .shutdown | .sample =>
    .isTrue trivial

end Heartbeats

/-- The connection was neither accepted nor heard from in the 5000 ms up to the
heartbeat. -/
def Declared.Quiet (d : Declared) : Prop :=
  ∀ time ∈ d.activity, time.toNat + heartbeatTimeoutMs.toNat < d.now.toNat

instance (d : Declared) : Decidable d.Quiet :=
  List.decidableBAll _ _

-- ---------------------------------------------------------------------------
-- Activity and timeout of the transport
-- ---------------------------------------------------------------------------

namespace AgentTransport

structure Undisturbed (t t' : AgentTransport) : Prop where
  activity : t'.lastActivityAt = t.lastActivityAt
  timeout : t'.heartbeatTimedOut = t.heartbeatTimedOut

theorem acceptBegin_undisturbed (t : AgentTransport) (fd : Nat) :
    Undisturbed t (t.acceptBegin fd).2 := by
  obtain ⟨pending, hshape⟩ := t.acceptBegin_shape fd
  rw [hshape]
  exact ⟨rfl, rfl⟩

theorem runEnd_undisturbed (t : AgentTransport) (fd : Nat) (epoch : UInt64) :
    Undisturbed t (t.runEnd fd epoch).2 := by
  unfold runEnd
  split <;> exact ⟨rfl, rfl⟩

theorem Accepts.refused_undisturbed {t t' : AgentTransport} {fd : Nat}
    (h : Accepts t fd now (none, t')) : Undisturbed t t' := by
  cases h
  exact ⟨rfl, rfl⟩

theorem Accepts.accepted_active {t t' : AgentTransport} {fd : Nat} {accepted : Accepted}
    (h : Accepts t fd now (some accepted, t')) :
    t'.lastActivityAt = now ∧ t'.heartbeatTimedOut = false := by
  cases h
  exact ⟨rfl, rfl⟩

theorem handleMessage_current {t : AgentTransport} {fd : Nat} {epoch : UInt64}
    (hcurrent : t.isCurrent fd epoch = true) (message : ControlMessage) (now : UInt64) :
    (t.handleMessage fd epoch message now).2.lastActivityAt = now ∧
      (t.handleMessage fd epoch message now).2.heartbeatTimedOut = t.heartbeatTimedOut := by
  obtain ⟨_, _, _, hshape, _⟩ := handleMessage_shape hcurrent message now
  rw [hshape]
  exact ⟨rfl, rfl⟩

theorem heartbeat_cases (t : AgentTransport) (now : UInt64) :
    (∃ epoch, (t.heartbeat now).1 = .timeout epoch ∧ t.target.isSome = true ∧
      t.overdue now = true ∧
      (t.heartbeat now).2 = { t with heartbeatTimedOut := true, streamRequested := false }) ∨
    (∀ epoch, (t.heartbeat now).1 ≠ .timeout epoch) ∧ Undisturbed t (t.heartbeat now).2 := by
  unfold heartbeat
  split
  · exact .inr ⟨by simp, rfl, rfl⟩
  · rename_i htarget
    split
    · rename_i hoverdue
      exact .inl ⟨_, rfl, by simp [htarget], hoverdue, rfl⟩
    · split <;> exact .inr ⟨by simp, rfl, rfl⟩

theorem watched_of_overdue {t : AgentTransport} {now : UInt64} (htarget : t.target.isSome = true)
    (hoverdue : t.overdue now = true) : t.watched = true := by
  simp only [overdue, Bool.and_eq_true] at hoverdue
  simp [watched, htarget, hoverdue.1]

/-- Without a wrap-around an overdue connection was silent for the whole time. -/
theorem overdue_iff_of_le {t : AgentTransport} {now : UInt64} (h : t.lastActivityAt ≤ now) :
    t.overdue now = true ↔ t.heartbeatTimedOut = false ∧
      t.lastActivityAt.toNat + heartbeatTimeoutMs.toNat < now.toNat := by
  have hsub := UInt64.toNat_sub_of_le now t.lastActivityAt h
  have hle := UInt64.le_iff_toNat_le.mp h
  simp only [overdue, Bool.and_eq_true, Bool.not_eq_true', decide_eq_true_eq, gt_iff_lt,
    UInt64.lt_iff_toNat_lt, hsub]
  exact and_congr_right fun _ => by omega

end AgentTransport

-- ---------------------------------------------------------------------------
-- Runs
-- ---------------------------------------------------------------------------

namespace Heartbeats

variable {s : Heartbeats}

structure Inv (s : Heartbeats) : Prop where
  clock : s.transport.lastActivityAt ≤ s.clock
  activity : ∀ time ∈ s.activity, time ≤ s.transport.lastActivityAt
  quiet : ∀ d ∈ s.declared, d.Quiet
  nodup : (s.declared.map Declared.connection).Nodup
  known : ∀ d ∈ s.declared, d.connection ≤ s.connection
  once : s.transport.heartbeatTimedOut = false → ∀ d ∈ s.declared, d.connection ≠ s.connection

theorem inv_start : Inv {} := by
  refine ⟨by decide, ?_, ?_, List.nodup_nil, ?_, ?_⟩ <;> simp

theorem Inv.setTransport (h : s.Inv) {transport : AgentTransport}
    (hsame : s.transport.Undisturbed transport) : (s.setTransport transport).Inv where
  clock := hsame.activity ▸ h.clock
  activity := hsame.activity ▸ h.activity
  quiet := h.quiet
  nodup := h.nodup
  known := h.known
  once := hsame.timeout ▸ h.once

theorem acceptEnd_inv (h : s.Inv) (fd : Nat) (hello : Option ControlMessage) :
    (s.acceptEnd fd hello).Inv := by
  have haccepts := s.transport.accepts_acceptEnd fd hello s.clock
  unfold acceptEnd
  split
  · rename_i hrefused
    rw [hrefused] at haccepts
    exact h.setTransport haccepts.refused_undisturbed
  · rename_i haccepted
    rw [haccepted] at haccepts
    obtain ⟨hactivity, -⟩ := haccepts.accepted_active
    refine ⟨?_, ?_, h.quiet, h.nodup, fun d hd => Nat.le_succ_of_le (h.known d hd), ?_⟩
    · simp [hactivity]
    · simp [hactivity]
    · exact fun _ d hd => Nat.ne_of_lt (Nat.lt_succ_of_le (h.known d hd))

theorem message_inv (h : s.Inv) (fd : Nat) (epoch : UInt64) (message : ControlMessage) :
    (s.message fd epoch message).Inv := by
  unfold Heartbeats.message
  simp only
  split
  · rename_i hcurrent
    obtain ⟨hactivity, htimeout⟩ :=
      AgentTransport.handleMessage_current hcurrent message s.clock
    refine ⟨by simp [hactivity], ?_, h.quiet, h.nodup, h.known, by simpa [htimeout] using h.once⟩
    intro time htime
    simp only [List.mem_append, List.mem_singleton] at htime
    rw [hactivity]
    rcases htime with htime | rfl
    · exact UInt64.le_trans (h.activity time htime) h.clock
    · exact UInt64.le_refl _
  · rename_i hstale
    rw [AgentTransport.handleMessage_stale hstale]
    exact h.setTransport ⟨rfl, rfl⟩

theorem beat_inv (h : s.Inv) (now : UInt64)
    (hnow : s.transport.watched = true → s.transport.lastActivityAt ≤ now) :
    (s.beat now).Inv := by
  unfold beat
  rcases s.transport.heartbeat_cases now with
    ⟨epoch, hbeat, htarget, hoverdue, htransport⟩ | ⟨hbeat, hsame⟩
  · have hle := hnow (AgentTransport.watched_of_overdue htarget hoverdue)
    obtain ⟨hfresh, hsilent⟩ := (AgentTransport.overdue_iff_of_le hle).mp hoverdue
    generalize s.transport.heartbeat now = result at hbeat htransport ⊢
    obtain ⟨beat, transport⟩ := result
    simp only at hbeat htransport
    subst hbeat htransport
    have hquiet : Declared.Quiet ⟨s.connection, now, s.activity⟩ := by
      intro time htime
      have hle := UInt64.le_iff_toNat_le.mp (h.activity time htime)
      exact Nat.lt_of_le_of_lt (Nat.add_le_add_right hle _) hsilent
    refine ⟨h.clock, h.activity, ?_, ?_, ?_, fun htimeout => by cases htimeout⟩
    · simpa [or_imp, forall_and] using ⟨h.quiet, hquiet⟩
    · simpa [List.nodup_append, h.nodup] using h.once hfresh
    · simpa [or_imp, forall_and] using h.known
  · generalize s.transport.heartbeat now = result at hbeat hsame ⊢
    obtain ⟨beat, transport⟩ := result
    have hkeep : Inv { s with transport, sampled := none } := by
      have hset := h.setTransport hsame
      exact ⟨hset.clock, hset.activity, hset.quiet, hset.nodup, hset.known, hset.once⟩
    cases beat with
    | timeout epoch => exact absurd rfl (hbeat epoch)
    | none => exact hkeep
    | ping fd epoch => exact hkeep

theorem step_inv (s : Heartbeats) (event : HeartbeatEvent) (s' : Heartbeats) (h : s.Inv)
    (horder : s.NotOvertaken event) (hstep : s.step event = some s') : s'.Inv := by
  cases event with
  | tick later =>
    simp only [step] at hstep
    split at hstep <;> cases hstep
    rename_i hlater
    exact ⟨UInt64.le_trans h.clock hlater, h.activity, h.quiet, h.nodup, h.known, h.once⟩
  | acceptBegin fd =>
    cases hstep
    exact h.setTransport (s.transport.acceptBegin_undisturbed fd)
  | acceptEnd fd hello =>
    cases hstep
    exact acceptEnd_inv h fd hello
  | message fd epoch message =>
    cases hstep
    exact message_inv h fd epoch message
  | runEnd fd epoch =>
    cases hstep
    exact h.setTransport (s.transport.runEnd_undisturbed fd epoch)
  | shutdown =>
    cases hstep
    exact h.setTransport ⟨rfl, rfl⟩
  | sample =>
    simp only [step] at hstep
    split at hstep <;> cases hstep
    exact ⟨h.clock, h.activity, h.quiet, h.nodup, h.known, h.once⟩
  | beat =>
    obtain ⟨now, hsampled, rfl⟩ := Option.map_eq_some_iff.mp hstep
    exact beat_inv h now (horder now hsampled)

/-- In every run whose heartbeats are not overtaken, a timeout is declared only
for a connection that was quiet, and at most once for each connection. -/
theorem timeouts_quiet_and_once (events : List HeartbeatEvent) (s : Heartbeats)
    (horder : Machine.Along step NotOvertaken {} events)
    (hrun : Machine.run step {} events = some s) :
    (∀ d ∈ s.declared, d.Quiet) ∧ (s.declared.map Declared.connection).Nodup := by
  have h : s.Inv := Machine.run_invariant step_inv inv_start horder hrun
  exact ⟨h.quiet, h.nodup⟩

def silentRun : List HeartbeatEvent :=
  [.acceptBegin 5, .acceptEnd 5 (some plainHello), .tick 5001, .sample, .beat, .sample, .beat]

theorem silentRun_times_out_once :
    ∃ s, Machine.run step {} silentRun = some s ∧ s.declared = [⟨1, 5001, [0]⟩] ∧
      (∀ d ∈ s.declared, d.Quiet) ∧ (s.declared.map Declared.connection).Nodup := by
  refine ⟨_, rfl, rfl, ?_⟩
  exact timeouts_quiet_and_once silentRun _ (by decide +kernel) rfl

/-- The heartbeat reads 10001, a message is handled at 10002, and then the
heartbeat ends a connection that was accepted at 10000. -/
theorem late_sample_times_out :
    ∃ s, Machine.run step {} [.tick 10000, .acceptBegin 5, .acceptEnd 5 (some plainHello),
        .tick 10001, .sample, .tick 10002, .message 5 1 ⟨ControlType.pong.code, [], by decide⟩,
        .beat] = some s ∧
      s.declared = [⟨1, 10001, [10000, 10002]⟩] ∧ ¬ ∀ d ∈ s.declared, d.Quiet := by
  exact ⟨_, rfl, rfl, by decide +kernel⟩

end Heartbeats

end NanokvmRdp.Gateway
