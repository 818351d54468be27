import NanokvmRdp.Gateway.WireLaws

/-!
# The frames on a wire

Nothing is written behind a frame that was left off: the writer that leaves it
off holds `send_lock` until the wire is shut down. Every frame is on the wire
of the epoch that its call captured.
-/

namespace NanokvmRdp.Gateway

open Protocol

-- ---------------------------------------------------------------------------
-- Attempts
-- ---------------------------------------------------------------------------

namespace Wires

variable {s : Wires}

def finished (s : Wires) (connection : Nat) : List Attempt :=
  (s.returned.map (·.1)).filter (·.wire = some connection)

theorem attempts_of_idle (h : s.writer = none) (n : Nat) : s.attempts n = s.finished n := by
  simp [attempts, finished, h]

theorem attempts_of_writer {writer : Writer} (h : s.writer = some writer) (n : Nat) :
    s.attempts n = s.finished n ++ if writer.wire = n then [writer.attempt] else [] := by
  simp only [attempts, finished, h, Option.toList_some, List.map_cons, List.map_nil,
    List.filter_append]
  congr 1
  split <;> simp [Writer.attempt, *]

/-- Every attempt is on the connection its call captured and wrote a part of
its frame; nothing follows one that was left off, and a wire with such an
attempt that is over is shut down. -/
structure Framed (s : Wires) : Prop where
  bytes : ∀ (n : Nat) (wire : Wire), s.wires[n]? = some wire →
    wire.bytes = (s.attempts n).flatMap Attempt.written
  clean : ∀ n, Pieces.Clean (fun attempt => attempt.call.frame) Attempt.written (s.attempts n)
  captured : ∀ n, ∀ attempt ∈ s.attempts n, ∃ target, attempt.call.target = some target ∧
    Names s.endpoints n target ∧ Names s.endpoints attempt.call.connection target
  results : ∀ attempt result, (attempt, result) ∈ s.returned →
    attempt.written <+: attempt.call.frame ∧
      (result = true ↔ attempt.written = attempt.call.frame) ∧
      (attempt.wire = none → attempt.written = [])
  shut : ∀ attempt n (wire : Wire), (attempt, false) ∈ s.returned → attempt.wire = some n →
    s.wires[n]? = some wire → wire.shut = true
  writer : ∀ writer, s.writer = some writer → writer.Sound

namespace Framed

theorem start : Framed {} := by
  refine ⟨?_, ?_, ?_, ?_, ?_, ?_⟩ <;> simp [attempts, Pieces.Clean]

theorem placed (h : s.Framed) {n : Nat} {attempt : Attempt} (hmem : attempt ∈ s.attempts n) :
    ∃ wire, s.wires[n]? = some wire := by
  obtain ⟨_, _, ⟨endpoint, hget, _⟩, _⟩ := h.captured n attempt hmem
  rw [endpoints, List.getElem?_map, Option.map_eq_some_iff] at hget
  exact hget.imp fun _ => And.left

theorem mem_attempts {attempt : Attempt} {result : Bool} {n : Nat}
    (hmem : (attempt, result) ∈ s.returned) (hwire : attempt.wire = some n) :
    attempt ∈ s.attempts n := by
  simp only [attempts, List.mem_filter, List.mem_append, List.mem_map, decide_eq_true_eq]
  exact ⟨.inl ⟨_, hmem, rfl⟩, hwire⟩

theorem keep (h : s.Framed) {s' : Wires} (hfollows : Follows s.wires s'.wires)
    (hwriter : s'.writer = s.writer) (hreturned : s'.returned = s.returned) : s'.Framed := by
  have hattempts : s'.attempts = s.attempts := by
    funext n
    simp [attempts, hwriter, hreturned]
  refine ⟨fun n later hlater => ?_, ?_, ?_, hreturned ▸ h.results, ?_, hwriter ▸ h.writer⟩
  · rw [hattempts]
    cases hwire : s.wires[n]? with
    | none =>
      have hnone : s.attempts n = [] := by
        refine List.eq_nil_iff_forall_not_mem.mpr fun attempt hmem => ?_
        obtain ⟨wire, hsome⟩ := h.placed hmem
        simp [hwire] at hsome
      rw [hnone]
      exact hfollows.new n later hlater hwire
    | some wire =>
      obtain ⟨_, hsame, hkeeps⟩ := hfollows.old n wire hwire
      obtain rfl := Option.some.inj (hsame.symm.trans hlater)
      rw [hkeeps.bytes]
      exact h.bytes n wire hwire
  · rw [hattempts]
    exact h.clean
  · intro n attempt hmem
    rw [hattempts] at hmem
    obtain ⟨target, htarget, hplace, hconnection⟩ := h.captured n attempt hmem
    exact ⟨target, htarget, hfollows.grows _ _ hplace, hfollows.grows _ _ hconnection⟩
  · intro attempt n later hmem hn hlater
    rw [hreturned] at hmem
    obtain ⟨wire, hwire⟩ := h.placed (mem_attempts hmem hn)
    obtain ⟨_, hsame, hkeeps⟩ := hfollows.old n wire hwire
    obtain rfl := Option.some.inj (hsame.symm.trans hlater)
    exact hkeeps.shut (h.shut attempt n wire hmem hn hwire)

theorem refuse (h : s.Framed) (i : Nat) (call : SendCall) : (s.refuse i call).Framed := by
  have hattempts : (s.refuse i call).attempts = s.attempts := by
    funext n
    simp [attempts, Wires.refuse]
  refine ⟨?_, ?_, ?_, ?_, ?_, h.writer⟩
  · rw [hattempts]
    exact h.bytes
  · rw [hattempts]
    exact h.clean
  · rw [hattempts]
    exact h.captured
  · intro attempt result hmem
    rcases List.mem_append.mp hmem with hmem | hmem
    · exact h.results attempt result hmem
    · cases List.mem_singleton.mp hmem
      exact ⟨List.nil_prefix, by simpa using call.frame_ne_nil.symm, fun _ => rfl⟩
  · intro attempt n wire hmem hn
    rcases List.mem_append.mp hmem with hmem | hmem
    · exact h.shut attempt n wire hmem hn
    · cases List.mem_singleton.mp hmem
      cases hn

theorem lock (h : s.Framed) (hidle : s.writer = none) {call : SendCall} {wire : Nat}
    {target : Nat × UInt64} (calls : List SendCall) (htarget : call.target = some target)
    (hplace : Names s.endpoints wire target) (hconnection : Names s.endpoints call.connection target) :
    Framed { s with calls, writer := some { call, wire, rest := call.frame } } := by
  have hattempts (n : Nat) :
      attempts { s with calls, writer := some { call, wire, rest := call.frame } } n =
        s.attempts n ++ if wire = n then [⟨call, some wire, []⟩] else [] := by
    rw [attempts_of_writer rfl, attempts_of_idle hidle]
    rfl
  refine ⟨fun n other hother => ?_, fun n => ?_, fun n attempt hmem => ?_, h.results, h.shut, ?_⟩
  · rw [hattempts, List.flatMap_append, h.bytes n other hother]
    split <;> simp
  · rw [hattempts]
    split
    · exact Pieces.clean_concat.mpr ⟨h.clean n, fun _ _ => .inr rfl⟩
    · rw [List.append_nil]
      exact h.clean n
  · rw [hattempts, List.mem_append] at hmem
    rcases hmem with hmem | hmem
    · exact h.captured n attempt hmem
    · split at hmem
      · rename_i hn
        subst hn
        cases List.mem_singleton.mp hmem
        exact ⟨target, htarget, hplace, hconnection⟩
      · cases hmem
  · rintro writer ⟨⟩
    exact ⟨rfl, nofun⟩

/-- A wire that still takes bytes has whole frames only. -/
theorem whole (h : s.Framed) {n : Nat} {wire : Wire} (hwire : s.wires[n]? = some wire)
    (hopen : ¬ wire.shut = true) {attempt : Attempt} (hmem : attempt ∈ s.finished n) :
    attempt.written = attempt.call.frame := by
  simp only [finished, List.mem_filter, List.mem_map, decide_eq_true_eq] at hmem
  obtain ⟨⟨⟨_, result⟩, hreturned, rfl⟩, hn⟩ := hmem
  cases result with
  | true => exact (h.results _ _ hreturned).2.1.mp rfl
  | false => exact absurd (h.shut _ n wire hreturned hn hwire) hopen

theorem write (h : s.Framed) {writer next : Writer} {wire : Wire} {answer : WriteAnswer}
    (hwriter : s.writer = some writer) (hnext : writer.write answer = some next)
    (hwire : s.wires[writer.wire]? = some wire)
    (hopen : ¬ (wire.shut = true ∧ writer.taken answer ≠ [])) :
    (s.put (writer.taken answer) next).Framed := by
  have hsound := (h.writer writer hwriter).write hnext
  obtain ⟨rest, failed, rfl⟩ := Writer.write_shape hnext
  have hbefore := attempts_of_writer hwriter
  generalize hput : s.put (writer.taken answer)
    { writer with written := writer.written ++ writer.taken answer, rest, failed } = s'
  have hreturned : s'.returned = s.returned := by rw [← hput]; rfl
  have hwriter' : s'.writer = some
      { writer with written := writer.written ++ writer.taken answer, rest, failed } := by
    rw [← hput]
    rfl
  have hafter (n : Nat) : s'.attempts n = s.finished n ++ if writer.wire = n then
      [⟨writer.call, some writer.wire, writer.written ++ writer.taken answer⟩] else [] := by
    rw [attempts_of_writer hwriter', finished, hreturned]
    rfl
  have hendpoints : s'.endpoints = s.endpoints := by
    rw [← hput]
    exact endpoints_modify _ _ fun _ => rfl
  have hwires {n : Nat} {other : Wire} (hother : s'.wires[n]? = some other) :
      (writer.wire = n ∧ other = { wire with bytes := wire.bytes ++ writer.taken answer }) ∨
        (writer.wire ≠ n ∧ s.wires[n]? = some other) := by
    rw [← hput] at hother
    rcases of_getElem?_modify hother with ⟨rfl, old, hold, rfl⟩ | hsame
    · obtain rfl := Option.some.inj (hold.symm.trans hwire)
      exact .inl ⟨rfl, rfl⟩
    · exact .inr hsame
  refine ⟨fun n other hother => ?_, fun n => ?_, fun n attempt hmem => ?_, hreturned ▸ h.results,
    fun attempt n other hmem hn hother => ?_, ?_⟩
  · rw [hafter]
    rcases hwires hother with ⟨rfl, rfl⟩ | ⟨hn, hold⟩
    · simp [h.bytes _ wire hwire, hbefore, Writer.attempt]
    · rw [h.bytes n other hold, hbefore, if_neg hn, if_neg hn]
  · have hclean := h.clean n
    rw [hbefore] at hclean
    rw [hafter]
    split
    · rename_i hn
      subst hn
      obtain ⟨hfinished, hlast⟩ := Pieces.clean_concat.mp (if_pos rfl ▸ hclean)
      refine Pieces.clean_concat.mpr ⟨hfinished, fun attempt hmem => ?_⟩
      by_cases htaken : writer.taken answer = []
      · exact (hlast attempt hmem).imp id fun hnothing => by simpa [Writer.attempt, htaken] using hnothing
      · exact .inl (h.whole hwire (fun hshut => hopen ⟨hshut, htaken⟩) hmem)
    · rename_i hn
      rwa [if_neg hn] at hclean
  · rw [hendpoints]
    rw [hafter, List.mem_append] at hmem
    rcases hmem with hmem | hmem
    · exact h.captured n attempt (by rw [hbefore]; exact List.mem_append_left _ hmem)
    · split at hmem
      · rename_i hn
        subst hn
        cases List.mem_singleton.mp hmem
        exact h.captured _ writer.attempt (by simp [hbefore])
      · cases hmem
  · rw [hreturned] at hmem
    rcases hwires hother with ⟨rfl, rfl⟩ | ⟨_, hold⟩
    · exact h.shut attempt _ wire hmem hn hwire
    · exact h.shut attempt n other hmem hn hold
  · rw [hwriter']
    rintro _ ⟨⟩
    exact hsound

theorem finish (h : s.Framed) {writer : Writer} {result : Bool} (hwriter : s.writer = some writer)
    (hresult : result = true ↔ writer.written = writer.call.frame)
    (hshut : result = false → ∀ wire : Wire, s.wires[writer.wire]? = some wire → wire.shut = true) :
    Framed { s with writer := none, returned := s.returned ++ [(writer.attempt, result)] } := by
  have hattempts :
      attempts { s with writer := none, returned := s.returned ++ [(writer.attempt, result)] } =
        s.attempts := by
    funext n
    simp [attempts, hwriter]
  refine ⟨?_, ?_, ?_, ?_, ?_, nofun⟩
  · rw [hattempts]
    exact h.bytes
  · rw [hattempts]
    exact h.clean
  · rw [hattempts]
    exact h.captured
  · intro attempt r hmem
    rcases List.mem_append.mp hmem with hmem | hmem
    · exact h.results attempt r hmem
    · cases List.mem_singleton.mp hmem
      exact ⟨⟨writer.rest, (h.writer writer hwriter).1⟩, hresult, nofun⟩
  · intro attempt n wire hmem hn
    rcases List.mem_append.mp hmem with hmem | hmem
    · exact h.shut attempt n wire hmem hn
    · cases List.mem_singleton.mp hmem
      cases hn
      exact hshut rfl wire

theorem part (h : s.Framed) {n : Nat} {attempt : Attempt} (hmem : attempt ∈ s.attempts n) :
    attempt.written <+: attempt.call.frame := by
  simp only [attempts, List.mem_filter, List.mem_append, List.mem_map, Option.mem_toList] at hmem
  rcases hmem with ⟨⟨⟨_, result⟩, hreturned, rfl⟩ | ⟨writer, hwriter, rfl⟩, _⟩
  · exact (h.results _ _ hreturned).1
  · exact ⟨writer.rest, (h.writer writer hwriter).1⟩

end Framed

-- ---------------------------------------------------------------------------
-- One step
-- ---------------------------------------------------------------------------

structure Sound (s : Wires) : Prop where
  numbered : Numbered s.transport s.endpoints
  calls : ∀ call ∈ s.calls, ∀ target, call.target = some target →
    Names s.endpoints call.connection target
  framed : s.Framed

namespace Sound

theorem start : Sound {} := ⟨.start, nofun, .start⟩

theorem call (h : s.Sound) {transport : AgentTransport} {calls : List SendCall}
    (hfd : transport.fd = s.transport.fd) (hepoch : transport.epoch = s.transport.epoch)
    (hpending : transport.pendingFd = s.transport.pendingFd)
    (hcalls : ∀ call ∈ calls, call ∈ s.calls ∨
      ∀ target, call.target = some target → Names s.endpoints call.connection target) :
    Sound { s with transport, calls } := by
  refine ⟨h.numbered.keep hfd hepoch hpending, fun call hmem => ?_, h.framed.keep (.refl _) rfl rfl⟩
  exact (hcalls call hmem).elim (h.calls call) id

theorem cut (h : s.Sound) (connection : Nat) : (s.cut connection).Sound := by
  have hendpoints : (s.cut connection).endpoints = s.endpoints := endpoints_modify _ _ fun _ => rfl
  refine ⟨?_, ?_, h.framed.keep (.modify _ _ fun _ => ⟨rfl, rfl, rfl, fun _ => rfl⟩) rfl rfl⟩
  · rw [hendpoints]
    exact h.numbered
  · rw [hendpoints]
    exact h.calls

theorem shutdownFd (h : s.Sound) (fd : Option Nat) : (s.shutdownFd fd).Sound := by
  unfold Wires.shutdownFd
  split
  · exact h
  · exact h.cut _

theorem acceptBegin (h : s.Sound) {fd : Nat} (hstep : s.acceptBegin fd = some s') : s'.Sound := by
  unfold Wires.acceptBegin at hstep
  split at hstep
  · cases hstep
  · rename_i hfree
    cases hstep
    refine ⟨h.numbered.acceptBegin fun endpoint hmem hopen hsame => hfree ?_, h.calls,
      h.framed.keep (.refl _) rfl rfl⟩
    obtain ⟨wire, hwire, rfl⟩ := List.mem_map.mp hmem
    simp only [descriptors, List.mem_append, List.mem_map, List.mem_filter]
    exact .inr ⟨wire, ⟨hwire, hopen⟩, hsame⟩

theorem acceptEnd (h : s.Sound) {fd : Nat} {hello : Option ControlMessage} {now : UInt64}
    (hstep : s.acceptEnd fd hello now = some s') : s'.Sound := by
  unfold Wires.acceptEnd at hstep
  split at hstep
  · cases hstep
  · rename_i hpending
    rw [Decidable.not_not] at hpending
    have haccepts := s.transport.accepts_acceptEnd fd hello now
    have hforgotten := AgentTransport.pendingFd_acceptEnd hpending hello now
    generalize s.transport.acceptEnd fd hello now = result at haccepts hforgotten hstep
    cases haccepts with
    | refused pending =>
      cases hstep
      obtain rfl : pending = none := hforgotten
      refine ⟨?_, h.calls, h.framed.keep (.refl _) rfl rfl⟩
      exact ⟨h.numbered.epoch, h.numbered.epochs, h.numbered.current, h.numbered.single, nofun⟩
    | accepted hello pending hrunning =>
      cases hstep
      obtain rfl : pending = none := hforgotten
      have hfollows : Follows s.wires (s.wires ++ [{ fd, epoch := s.transport.epoch + 1 }]) :=
        .concat _ rfl
      refine ⟨?_, fun call hmem target htarget => ?_, h.framed.keep hfollows rfl rfl⟩
      · rw [endpoints, List.map_append]
        exact h.numbered.connect hpending hello now
      · simp only at hmem
        split at hmem
        · rcases List.mem_append.mp hmem with hmem | hmem
          · exact hfollows.grows _ _ (h.calls call hmem target htarget)
          · cases List.mem_singleton.mp hmem
            cases htarget
            exact ⟨{ fd, epoch := s.transport.epoch + 1 }, by simp [endpoints], rfl⟩
        · exact hfollows.grows _ _ (h.calls call hmem target htarget)

theorem message (h : s.Sound) {connection : Nat} {message : ControlMessage} {now : UInt64} {wire : Wire}
    (hwire : s.wires[connection]? = some wire)
    (hstep : s.message connection message now wire = some s') : s'.Sound := by
  unfold Wires.message at hstep
  obtain ⟨hfd, hepoch, hpending⟩ :=
    s.transport.descriptors_handleMessage wire.fd wire.epoch message now
  generalize s.transport.handleMessage wire.fd wire.epoch message now = result
    at hstep hfd hepoch hpending
  split at hstep
  · cases hstep
    refine h.call hfd hepoch hpending fun call hmem => ?_
    split at hmem
    · rcases List.mem_append.mp hmem with hmem | hmem
      · exact .inl hmem
      · cases List.mem_singleton.mp hmem
        refine .inr fun target htarget => ?_
        cases htarget
        exact ⟨wire.toEndpoint, by simp [endpoints, hwire], rfl⟩
    · exact .inl hmem
  · cases hstep

theorem runEnd (h : s.Sound) {connection : Nat} {wire : Wire}
    (hwire : s.wires[connection]? = some wire) (hstep : s.runEnd connection wire = some s') :
    s'.Sound := by
  unfold Wires.runEnd at hstep
  split at hstep
  · cases hstep
    have hfollows : Follows s.wires
        (s.wires.modify connection fun wire => { wire with isOpen := false }) :=
      .modify _ _ fun _ => ⟨rfl, rfl, rfl, id⟩
    refine ⟨?_, fun call hmem target htarget => hfollows.grows _ _ (h.calls call hmem target htarget),
      h.framed.keep hfollows rfl rfl⟩
    have hendpoints : (s.wires.modify connection fun wire => { wire with isOpen := false }).map
        Wire.toEndpoint = s.endpoints.modify connection fun endpoint =>
          { endpoint with isOpen := false } := by
      refine List.ext_getElem? fun m => ?_
      simp only [endpoints, List.getElem?_map, List.getElem?_modify, Option.map_eq_map, Option.map_map]
      congr 1
      funext wire
      simp only [Function.comp_apply]
      split <;> rfl
    rw [endpoints, hendpoints]
    exact h.numbered.runEnd (by simp [endpoints, hwire])
  · cases hstep

theorem capture (h : s.Sound) {transport : AgentTransport} {call : SendCall}
    (hfd : transport.fd = s.transport.fd) (hepoch : transport.epoch = s.transport.epoch)
    (hpending : transport.pendingFd = s.transport.pendingFd)
    (htarget : call.target = s.transport.target) (hlast : call.connection = s.last) :
    Sound { s with transport, calls := s.calls ++ [call] } := by
  refine h.call hfd hepoch hpending fun other hmem => ?_
  rcases List.mem_append.mp hmem with hmem | hmem
  · exact .inl hmem
  · cases List.mem_singleton.mp hmem
    refine .inr fun target hsome => ?_
    have hnames := h.numbered.names_target (htarget.symm.trans hsome)
    rw [endpoints, List.length_map] at hnames
    rw [hlast]
    exact hnames

theorem heartbeat (h : s.Sound) (now : UInt64) : (s.heartbeat now).Sound := by
  have hbeats := s.transport.beats_heartbeat now
  unfold Wires.heartbeat
  generalize s.transport.heartbeat now = result at hbeats ⊢
  cases hbeats with
  | none => exact h
  | ping fd epoch now htarget => exact h.capture rfl rfl rfl htarget.symm rfl
  | timeout epoch =>
    have hcalled : Sound { s with
        transport := { s.transport with heartbeatTimedOut := true, streamRequested := false } } :=
      h.call rfl rfl rfl fun _ => .inl
    exact hcalled.shutdownFd _

theorem refuse (h : s.Sound) (i : Nat) (call : SendCall) : (s.refuse i call).Sound :=
  ⟨h.numbered, fun call hmem => h.calls call (List.mem_of_mem_eraseIdx hmem), h.framed.refuse i call⟩

theorem names_lookup (h : s.Sound) {fd wire : Nat} {epoch : UInt64} {duplicated : Bool}
    (hwire : (if s.transport.isCurrent fd epoch && duplicated then s.lookup fd else none) =
      some wire) : Names s.endpoints wire (fd, epoch) := by
  split at hwire
  · rename_i hcurrent
    rw [Bool.and_eq_true, AgentTransport.isCurrent_iff_target] at hcurrent
    obtain ⟨_, hfd, _⟩ := AgentTransport.fields_of_target hcurrent.1
    obtain rfl := Option.some.inj (hwire.symm.trans (h.numbered.lookup_current hfd))
    exact h.numbered.names_target hcurrent.1
  · cases hwire

theorem sendForEpoch (h : s.Sound) {i : Nat} {duplicated : Bool} {call : SendCall}
    (hcall : s.calls[i]? = some call) (hstep : s.sendForEpoch i duplicated call = some s') :
    s'.Sound := by
  unfold Wires.sendForEpoch at hstep
  split at hstep
  · cases hstep
    exact h.refuse i call
  · rename_i fd epoch htarget
    split at hstep
    · cases hstep
    · rename_i hidle
      split at hstep
      · cases hstep
        exact h.refuse i call
      · rename_i wire hwire
        split at hstep
        · cases hstep
          exact h.refuse i call
        · cases hstep
          refine ⟨h.numbered, fun call hmem => h.calls call (List.mem_of_mem_eraseIdx hmem), ?_⟩
          refine h.framed.lock (by simpa using hidle) _ htarget ?_
            (h.calls call (List.mem_of_getElem? hcall) _ htarget)
          exact h.names_lookup hwire

theorem write (h : s.Sound) {answer : WriteAnswer} {writer : Writer} (hwriter : s.writer = some writer)
    (hstep : s.write answer writer = some s') : s'.Sound := by
  unfold Wires.write at hstep
  split at hstep
  · rename_i wire next hwire hnext
    split at hstep
    · cases hstep
    · rename_i hopen
      cases hstep
      have hendpoints : (s.put (writer.taken answer) next).endpoints = s.endpoints :=
        endpoints_modify _ _ fun _ => rfl
      refine ⟨?_, ?_, h.framed.write hwriter hnext hwire hopen⟩
      · rw [hendpoints]
        exact h.numbered
      · rw [hendpoints]
        exact h.calls
  · cases hstep

theorem finish (h : s.Sound) {writer : Writer} (hwriter : s.writer = some writer)
    (hstep : s.finish writer = some s') : s'.Sound := by
  obtain ⟨hframe, hleft⟩ := h.framed.writer writer hwriter
  unfold Wires.finish at hstep
  split at hstep
  · rename_i hfailed
    cases hstep
    have hcut := h.cut writer.wire
    refine ⟨hcut.numbered, hcut.calls, hcut.framed.finish hwriter ?_ fun _ wire hwire => ?_⟩
    · simpa [← hframe] using hleft hfailed
    · rcases of_getElem?_modify hwire with ⟨_, old, _, rfl⟩ | ⟨hne, _⟩
      · rfl
      · exact absurd rfl hne
  · split at hstep
    · rename_i hrest
      cases hstep
      refine ⟨h.numbered, h.calls, h.framed.finish hwriter ?_ nofun⟩
      simpa [hrest] using hframe
    · cases hstep

theorem step (s : Wires) (event : WireEvent) (s' : Wires) (h : s.Sound)
    (hstep : s.step event = some s') : s'.Sound := by
  cases event with
  | acceptBegin fd => exact h.acceptBegin hstep
  | acceptEnd fd hello now => exact h.acceptEnd hstep
  | message connection message now =>
    obtain ⟨wire, hwire, hstep⟩ := Option.bind_eq_some_iff.mp hstep
    exact h.message hwire hstep
  | runEnd connection =>
    obtain ⟨wire, hwire, hstep⟩ := Option.bind_eq_some_iff.mp hstep
    exact h.runEnd hwire hstep
  | shutdown =>
    cases hstep
    have hcalled : Sound { s with transport := s.transport.shutdown } :=
      h.call rfl rfl rfl fun _ => .inl
    exact hcalled.shutdownFd _
  | cut connection =>
    cases hstep
    exact h.cut connection
  | send type payload =>
    cases hstep
    exact h.capture rfl rfl rfl rfl rfl
  | setStreamRequested requested =>
    cases hstep
    exact h.capture rfl rfl rfl rfl rfl
  | heartbeat now =>
    cases hstep
    exact h.heartbeat now
  | sendForEpoch i duplicated =>
    obtain ⟨call, hcall, hstep⟩ := Option.bind_eq_some_iff.mp hstep
    exact h.sendForEpoch hcall hstep
  | write answer =>
    obtain ⟨writer, hwriter, hstep⟩ := Option.bind_eq_some_iff.mp hstep
    exact h.write hwriter hstep
  | finish =>
    obtain ⟨writer, hwriter, hstep⟩ := Option.bind_eq_some_iff.mp hstep
    exact h.finish hwriter hstep

/-- An attempt is on the connection of the epoch that was captured. That is the
connection itself as long as epochs do not wrap around. -/
theorem captured (h : s.Sound) {n : Nat} {wire : Wire} (hwire : s.wires[n]? = some wire)
    {attempt : Attempt} (hmem : attempt ∈ s.attempts n) :
    attempt.call.target = some (wire.fd, wire.epoch) ∧
      (s.wires.length < 2 ^ 64 → attempt.call.connection = n) := by
  obtain ⟨target, htarget, ⟨endpoint, hplace, rfl⟩, ⟨other, hconnection, hsame⟩⟩ :=
    h.framed.captured n attempt hmem
  have hendpoint : s.endpoints[n]? = some wire.toEndpoint := by simp [endpoints, hwire]
  obtain rfl := Option.some.inj (hplace.symm.trans hendpoint)
  refine ⟨htarget, fun hbound => ?_⟩
  have hn := (List.getElem?_eq_some_iff.mp hplace).1
  have hc := (List.getElem?_eq_some_iff.mp hconnection).1
  rw [endpoints, List.length_map] at hn hc
  have hepochs : UInt64.ofNat (attempt.call.connection + 1) = UInt64.ofNat (n + 1) := by
    rw [← h.numbered.epochs _ _ hconnection, ← h.numbered.epochs _ _ hplace]
    exact (Prod.mk.inj hsame).2
  have hcounts := congrArg UInt64.toNat hepochs
  rw [UInt64.toNat_ofNat', UInt64.toNat_ofNat', Nat.mod_eq_of_lt (by omega),
    Nat.mod_eq_of_lt (by omega)] at hcounts
  omega

end Sound

-- ---------------------------------------------------------------------------
-- Wires that are shut down
-- ---------------------------------------------------------------------------

def Silent (s : Wires) (n : Nat) (bytes : List UInt8) : Prop :=
  ∃ wire, s.wires[n]? = some wire ∧ wire.shut = true ∧ wire.bytes = bytes

theorem Silent.follows {s' : Wires} {n : Nat} {bytes : List UInt8} (h : s.Silent n bytes)
    (hfollows : Follows s.wires s'.wires) : s'.Silent n bytes := by
  obtain ⟨wire, hwire, hshut, rfl⟩ := h
  obtain ⟨later, hlater, hkeeps⟩ := hfollows.old n wire hwire
  exact ⟨later, hlater, hkeeps.shut hshut, hkeeps.bytes⟩

theorem follows_cut (s : Wires) (connection : Nat) : Follows s.wires (s.cut connection).wires :=
  .modify _ _ fun _ => ⟨rfl, rfl, rfl, fun _ => rfl⟩

theorem follows_shutdownFd (s : Wires) (fd : Option Nat) :
    Follows s.wires (s.shutdownFd fd).wires := by
  unfold shutdownFd
  split
  · exact .refl _
  · exact s.follows_cut _

theorem Silent.write {s' : Wires} {n : Nat} {bytes : List UInt8} {answer : WriteAnswer}
    {writer : Writer} (h : s.Silent n bytes) (hstep : s.write answer writer = some s') :
    s'.Silent n bytes := by
  obtain ⟨silent, hsilent, hshut, rfl⟩ := h
  unfold Wires.write at hstep
  split at hstep
  · rename_i wire next hwire hnext
    split at hstep <;> cases hstep
    rename_i hopen
    obtain ⟨rest, failed, rfl⟩ := Writer.write_shape hnext
    by_cases hn : writer.wire = n
    · subst hn
      obtain rfl := Option.some.inj (hsilent.symm.trans hwire)
      have hnothing : writer.taken answer = [] := by simpa [hshut] using hopen
      exact ⟨silent, by simp [put, hnothing, hwire], hshut, rfl⟩
    · exact ⟨silent, by simp [put, List.getElem?_modify_ne _ _ hn, hsilent], hshut, rfl⟩
  · cases hstep

theorem Silent.step {n : Nat} {bytes : List UInt8} (s : Wires) (event : WireEvent) (s' : Wires)
    (h : s.Silent n bytes) (hstep : s.step event = some s') : s'.Silent n bytes := by
  cases event with
  | acceptBegin fd =>
    simp only [Wires.step, acceptBegin] at hstep
    split at hstep <;> cases hstep
    exact h
  | acceptEnd fd hello now =>
    simp only [Wires.step, acceptEnd] at hstep
    split at hstep
    · cases hstep
    · split at hstep <;> cases hstep
      · exact h
      · exact h.follows (.concat _ rfl)
  | message connection message now =>
    obtain ⟨wire, hwire, hstep⟩ := Option.bind_eq_some_iff.mp hstep
    unfold Wires.message at hstep
    split at hstep <;> cases hstep
    exact h
  | runEnd connection =>
    obtain ⟨wire, hwire, hstep⟩ := Option.bind_eq_some_iff.mp hstep
    unfold Wires.runEnd at hstep
    split at hstep <;> cases hstep
    exact h.follows (.modify _ _ fun _ => ⟨rfl, rfl, rfl, id⟩)
  | shutdown =>
    cases hstep
    exact h.follows (follows_shutdownFd { s with transport := s.transport.shutdown } _)
  | cut connection =>
    cases hstep
    exact h.follows (s.follows_cut connection)
  | send type payload =>
    cases hstep
    exact h
  | setStreamRequested requested =>
    cases hstep
    exact h
  | heartbeat now =>
    cases hstep
    unfold Wires.heartbeat
    split
    · exact h
    · exact h
    · rename_i transport _
      exact h.follows (follows_shutdownFd { s with transport } _)
  | sendForEpoch i duplicated =>
    obtain ⟨call, hcall, hstep⟩ := Option.bind_eq_some_iff.mp hstep
    unfold Wires.sendForEpoch at hstep
    repeat' split at hstep
    all_goals cases hstep
    all_goals exact h
  | write answer =>
    obtain ⟨writer, hwriter, hstep⟩ := Option.bind_eq_some_iff.mp hstep
    exact h.write hstep
  | finish =>
    obtain ⟨writer, hwriter, hstep⟩ := Option.bind_eq_some_iff.mp hstep
    unfold Wires.finish at hstep
    split at hstep
    · cases hstep
      exact h.follows (s.follows_cut writer.wire)
    · split at hstep <;> cases hstep
      exact h

-- ---------------------------------------------------------------------------
-- Every run
-- ---------------------------------------------------------------------------

/-- In every run: the bytes on a wire are the whole frames written on it, and
at most one that is not whole behind them; they are the frames of calls that
captured this connection's epoch; and once a call on it has failed, nothing
more is written. A call returns true when, and only when, its whole frame was
written. -/
theorem wires_carry_frames (events more : List WireEvent) (s s' : Wires)
    (hrun : Machine.run step {} events = some s) (hmore : Machine.run step s more = some s') :
    (∀ (n : Nat) (wire : Wire), s.wires[n]? = some wire →
      (∃ tail, wire.bytes = ((s.attempts n).filter fun attempt =>
          attempt.written = attempt.call.frame).flatMap (·.call.frame) ++ tail ∧
        (tail = [] ∨ ∃ attempt ∈ s.attempts n,
          tail = attempt.written ∧ tail <+: attempt.call.frame ∧ tail ≠ attempt.call.frame)) ∧
      (∀ attempt ∈ s.attempts n, attempt.call.target = some (wire.fd, wire.epoch) ∧
        (s.wires.length < 2 ^ 64 → attempt.call.connection = n)) ∧
      ((∃ attempt, (attempt, false) ∈ s.returned ∧ attempt.wire = some n) →
        ∃ later, s'.wires[n]? = some later ∧ later.bytes = wire.bytes)) ∧
    ∀ attempt result, (attempt, result) ∈ s.returned →
      (result = true ↔ ∃ n, attempt ∈ s.attempts n ∧ attempt.written = attempt.call.frame) := by
  have h : s.Sound := Machine.run_induction Sound.step .start hrun
  refine ⟨fun n wire hwire => ⟨?_, fun attempt hmem => h.captured hwire hmem, ?_⟩,
    fun attempt result hmem => ?_⟩
  · obtain ⟨tail, hbytes, htail⟩ := (h.framed.clean n).split fun attempt => attempt.call.frame_ne_nil
    refine ⟨tail, (h.framed.bytes n wire hwire).trans hbytes, htail.imp id ?_⟩
    rintro ⟨attempt, hmem, rfl, htorn⟩
    exact ⟨attempt, hmem, rfl, h.framed.part hmem, htorn⟩
  · rintro ⟨attempt, hmem, hn⟩
    have hsilent : s.Silent n wire.bytes := ⟨wire, hwire, h.framed.shut attempt n wire hmem hn hwire, rfl⟩
    obtain ⟨later, hlater, _, hbytes⟩ := Machine.run_induction Silent.step hsilent hmore
    exact ⟨later, hlater, hbytes⟩
  · obtain ⟨_, hresult, hnowhere⟩ := h.framed.results attempt result hmem
    refine ⟨fun htrue => ?_, fun ⟨_, _, hwhole⟩ => hresult.mpr hwhole⟩
    have hwhole := hresult.mp htrue
    cases hwire : attempt.wire with
    | none => exact absurd (hwhole.symm.trans (hnowhere hwire)) attempt.call.frame_ne_nil
    | some n => exact ⟨n, Framed.mem_attempts hmem hwire, hwhole⟩

/-- Two calls race; the second frame is written first, in two pieces, and the
other one is left off after its first byte. -/
def tornFrame : List WireEvent :=
  [.acceptBegin 5, .acceptEnd 5 (some plainHello) 0, .send 10 [], .send 14 [1, 2],
    .sendForEpoch 1 true, .write (.wrote 1), .write .interrupted, .write (.wrote 9), .finish,
    .sendForEpoch 0 true, .write (.wrote 0), .write .failed, .finish]

def afterTornFrame : List WireEvent :=
  [.send 10 [], .sendForEpoch 0 true, .write .failed, .finish, .acceptBegin 6,
    .acceptEnd 6 (some plainHello) 7, .runEnd 0, .send 10 [], .sendForEpoch 0 true,
    .write (.wrote 3), .finish]

theorem tornFrame_is_last :
    ∃ s s', Machine.run step {} tornFrame = some s ∧ Machine.run step s afterTornFrame = some s' ∧
      s.returned.map (·.2) = [true, false] ∧
      (∃ later, s'.wires[0]? = some later ∧ later.bytes = [1, 14, 0, 2, 1, 2, 1]) ∧
      ∀ attempt result, (attempt, result) ∈ s.returned →
        (result = true ↔ ∃ n, attempt ∈ s.attempts n ∧ attempt.written = attempt.call.frame) := by
  refine ⟨_, _, rfl, rfl, rfl, ?_, ?_⟩
  · exact ((wires_carry_frames tornFrame afterTornFrame _ _ rfl rfl).1 0 _ rfl).2.2
      ⟨_, List.mem_cons_of_mem _ List.mem_cons_self, rfl⟩
  · exact (wires_carry_frames tornFrame afterTornFrame _ _ rfl rfl).2

end Wires

end NanokvmRdp.Gateway
