import NanokvmRdp.Gateway.Wires

/-!
# Writers, descriptors and wires

One writer alone is the loop of `write_all`. The current descriptor stays open
as long as it is current, so that its number is not reused and leads to the
connection of the current epoch. All steps but a `write` leave the bytes on the
wires as they are.
-/

namespace NanokvmRdp.Gateway

open Protocol

-- ---------------------------------------------------------------------------
-- One writer
-- ---------------------------------------------------------------------------

namespace Writer

def Sound (writer : Writer) : Prop :=
  writer.written ++ writer.rest = writer.call.frame ∧ (writer.failed = true → writer.rest ≠ [])

theorem write_shape {writer next : Writer} {answer : WriteAnswer}
    (h : writer.write answer = some next) : ∃ rest failed,
      next = { writer with written := writer.written ++ writer.taken answer, rest, failed } := by
  unfold write at h
  split at h
  · cases h
  · cases answer with
    | wrote more =>
      cases h
      exact ⟨_, _, rfl⟩
    | interrupted =>
      cases h
      exact ⟨writer.rest, writer.failed, by simp [taken]⟩
    | failed =>
      cases h
      exact ⟨writer.rest, true, by simp [taken]⟩

theorem Sound.write {writer next : Writer} {answer : WriteAnswer} (hsound : writer.Sound)
    (h : writer.write answer = some next) : next.Sound := by
  unfold Writer.write at h
  split at h
  · cases h
  · rename_i hgoes
    obtain ⟨hrunning, hrest⟩ := not_or.mp hgoes
    cases answer with
    | wrote more =>
      cases h
      refine ⟨?_, fun hfailed => absurd hfailed hrunning⟩
      simpa [List.append_assoc] using hsound.1
    | interrupted =>
      cases h
      exact hsound
    | failed =>
      cases h
      exact ⟨hsound.1, fun _ => hrest⟩

end Writer

-- ---------------------------------------------------------------------------
-- Descriptors
-- ---------------------------------------------------------------------------

theorem of_getElem?_modify {l : List α} {f : α → α} {n m : Nat} {b : α}
    (h : (l.modify n f)[m]? = some b) :
    (n = m ∧ ∃ a, l[m]? = some a ∧ b = f a) ∨ (n ≠ m ∧ l[m]? = some b) := by
  by_cases hm : n = m
  · subst hm
    rw [List.getElem?_modify_eq] at h
    obtain ⟨a, ha, rfl⟩ := Option.map_eq_some_iff.mp h
    exact .inl ⟨rfl, a, ha, rfl⟩
  · rw [List.getElem?_modify_ne _ _ hm] at h
    exact .inr ⟨hm, h⟩

def Names (endpoints : List Endpoint) (connection : Nat) (target : Nat × UInt64) : Prop :=
  ∃ endpoint, endpoints[connection]? = some endpoint ∧ (endpoint.fd, endpoint.epoch) = target

def Grows (before after : List Endpoint) : Prop :=
  ∀ connection target, Names before connection target → Names after connection target

/-- Epochs count the connections, no two open descriptors have one number, and
the current descriptor is the open one of the connection accepted last. -/
structure Numbered (t : AgentTransport) (endpoints : List Endpoint) : Prop where
  epoch : t.epoch = UInt64.ofNat endpoints.length
  epochs : ∀ (n : Nat) (endpoint : Endpoint), endpoints[n]? = some endpoint →
    endpoint.epoch = UInt64.ofNat (n + 1)
  current : ∀ fd, t.fd = some fd → ∃ endpoint : Endpoint,
    endpoints[endpoints.length - 1]? = some endpoint ∧ endpoint.fd = fd ∧ endpoint.isOpen = true
  single : ∀ (m n : Nat) (endpoint other : Endpoint), endpoints[m]? = some endpoint →
    endpoints[n]? = some other → endpoint.isOpen = true → other.isOpen = true →
      endpoint.fd = other.fd → m = n
  pending : ∀ (n : Nat) (endpoint : Endpoint), endpoints[n]? = some endpoint →
    endpoint.isOpen = true → t.pendingFd ≠ some endpoint.fd

namespace Numbered

variable {t : AgentTransport} {endpoints : List Endpoint}

theorem start : Numbered {} [] := by
  refine ⟨rfl, ?_, ?_, ?_, ?_⟩ <;> simp

theorem keep (h : Numbered t endpoints) {t' : AgentTransport} (hfd : t'.fd = t.fd)
    (hepoch : t'.epoch = t.epoch) (hpending : t'.pendingFd = t.pendingFd) : Numbered t' endpoints := by
  refine ⟨hepoch ▸ h.epoch, h.epochs, ?_, h.single, ?_⟩
  · rw [hfd]
    exact h.current
  · rw [hpending]
    exact h.pending

theorem names_target (h : Numbered t endpoints) {target : Nat × UInt64}
    (htarget : t.target = some target) : Names endpoints (endpoints.length - 1) target := by
  obtain ⟨fd, epoch⟩ := target
  obtain ⟨_, hfd, rfl⟩ := AgentTransport.fields_of_target htarget
  obtain ⟨endpoint, hlast, rfl, _⟩ := h.current fd hfd
  refine ⟨endpoint, hlast, ?_⟩
  have hlength := (List.getElem?_eq_some_iff.mp hlast).1
  rw [h.epochs _ endpoint hlast, h.epoch, Nat.sub_add_cancel (by omega)]

/-- The number of the current descriptor leads to the current connection. -/
theorem lookup_current (h : Numbered t endpoints) {fd : Nat} (hfd : t.fd = some fd) :
    (endpoints.findIdx? fun endpoint => endpoint.isOpen && endpoint.fd == fd) =
      some (endpoints.length - 1) := by
  obtain ⟨endpoint, hlast, rfl, hopen⟩ := h.current fd hfd
  cases hfound : endpoints.findIdx? fun other => other.isOpen && other.fd == endpoint.fd with
  | none =>
    have hno := List.findIdx?_eq_none_iff.mp hfound endpoint (List.mem_of_getElem? hlast)
    simp [hopen] at hno
  | some n =>
    obtain ⟨hn, hother, _⟩ := List.findIdx?_eq_some_iff_getElem.mp hfound
    simp only [Bool.and_eq_true, beq_iff_eq] at hother
    rw [h.single n _ _ endpoint (List.getElem?_eq_getElem hn) hlast hother.1 hopen hother.2]

theorem acceptBegin (h : Numbered t endpoints) {fd : Nat}
    (hfree : ∀ endpoint ∈ endpoints, endpoint.isOpen = true → endpoint.fd ≠ fd) :
    Numbered (t.acceptBegin fd).2 endpoints := by
  unfold AgentTransport.acceptBegin
  split
  · refine ⟨h.epoch, h.epochs, h.current, h.single, fun n endpoint hget hopen hsame => ?_⟩
    exact hfree endpoint (List.mem_of_getElem? hget) hopen (Option.some.inj hsame).symm
  · exact h

theorem connect (h : Numbered t endpoints) {fd : Nat} (hpending : t.pendingFd = some fd)
    (hello : ControlMessage) (now : UInt64) :
    Numbered (AgentTransport.connect { t with pendingFd := none } fd hello now)
      (endpoints ++ [{ fd, epoch := t.epoch + 1 }]) := by
  have hnext : t.epoch + 1 = UInt64.ofNat (endpoints.length + 1) := by
    rw [h.epoch]
    exact (UInt64.ofNat_add _ 1).symm
  have hcases : ∀ (n : Nat) (endpoint : Endpoint),
      (endpoints ++ [{ fd, epoch := t.epoch + 1 }])[n]? = some endpoint →
        endpoints[n]? = some endpoint ∨
          n = endpoints.length ∧ endpoint = { fd, epoch := t.epoch + 1 } := by
    intro n endpoint hget
    rw [List.getElem?_append] at hget
    split at hget
    · exact .inl hget
    · obtain ⟨hn, rfl⟩ := List.getElem?_eq_some_iff.mp hget
      simp only [List.length_singleton] at hn
      refine .inr ⟨by omega, by simp⟩
  refine ⟨?_, fun n endpoint hget => ?_, ?_, ?_, ?_⟩
  · rw [List.length_append]
    exact hnext
  · rcases hcases n endpoint hget with hold | ⟨rfl, rfl⟩
    · exact h.epochs n endpoint hold
    · exact hnext
  · rintro fd' ⟨⟩
    exact ⟨{ fd, epoch := t.epoch + 1 }, by simp, rfl, rfl⟩
  · intro m n endpoint other hm hn hopen hother hsame
    rcases hcases m endpoint hm with hm | ⟨rfl, rfl⟩ <;>
      rcases hcases n other hn with hn | ⟨rfl, rfl⟩
    · exact h.single m n endpoint other hm hn hopen hother hsame
    · exact absurd (hpending.trans (congrArg some hsame.symm)) (h.pending m endpoint hm hopen)
    · exact absurd (hpending.trans (congrArg some hsame)) (h.pending n other hn hother)
    · rfl
  · intro n endpoint _ _ hnone
    cases hnone

theorem shrink (h : Numbered t endpoints) {t' : AgentTransport} {after : List Endpoint}
    (hlength : after.length = endpoints.length)
    (hafter : ∀ (m : Nat) (other : Endpoint), after[m]? = some other → ∃ endpoint : Endpoint,
      endpoints[m]? = some endpoint ∧ other.epoch = endpoint.epoch ∧
        (other.isOpen = true → other = endpoint))
    (hepoch : t'.epoch = t.epoch) (hpending : t'.pendingFd = t.pendingFd)
    (hcurrent : ∀ fd, t'.fd = some fd → ∃ endpoint : Endpoint,
      after[endpoints.length - 1]? = some endpoint ∧ endpoint.fd = fd ∧ endpoint.isOpen = true) :
    Numbered t' after := by
  refine ⟨?_, fun m other hother => ?_, hlength ▸ hcurrent, ?_, fun m other hother hopen => ?_⟩
  · rw [hepoch, hlength]
    exact h.epoch
  · obtain ⟨endpoint, hget, hsame, _⟩ := hafter m other hother
    rw [hsame]
    exact h.epochs m endpoint hget
  · intro l m one other hl hm hone hother
    obtain ⟨_, hl, _, hone'⟩ := hafter l one hl
    obtain ⟨_, hm, _, hother'⟩ := hafter m other hm
    obtain rfl := hone' hone
    obtain rfl := hother' hother
    exact h.single l m _ _ hl hm hone hother
  · obtain ⟨_, hget, _, hsame⟩ := hafter m other hother
    obtain rfl := hsame hopen
    rw [hpending]
    exact h.pending m _ hget hopen

theorem runEnd (h : Numbered t endpoints) {n : Nat} {endpoint : Endpoint}
    (hget : endpoints[n]? = some endpoint) :
    Numbered (t.runEnd endpoint.fd endpoint.epoch).2
      (endpoints.modify n fun endpoint => { endpoint with isOpen := false }) := by
  have hafter (m : Nat) (other : Endpoint)
      (hother : (endpoints.modify n fun endpoint => { endpoint with isOpen := false })[m]? =
        some other) : ∃ endpoint : Endpoint, endpoints[m]? = some endpoint ∧
      other.epoch = endpoint.epoch ∧ (other.isOpen = true → other = endpoint) := by
    rcases of_getElem?_modify hother with ⟨_, endpoint, hget, rfl⟩ | ⟨_, hget⟩
    · exact ⟨endpoint, hget, rfl, nofun⟩
    · exact ⟨other, hget, rfl, fun _ => rfl⟩
  by_cases hcurrent : t.fd = some endpoint.fd ∧ t.epoch = endpoint.epoch
  · rw [AgentTransport.runEnd_current hcurrent]
    exact h.shrink (List.length_modify ..) hafter rfl rfl nofun
  · rw [AgentTransport.runEnd_stale hcurrent]
    refine h.shrink (List.length_modify ..) hafter rfl rfl fun fd hfd => ?_
    obtain ⟨last, hlast, rfl, hlastOpen⟩ := h.current fd hfd
    refine ⟨last, ?_, rfl, hlastOpen⟩
    rw [List.getElem?_modify_ne _ _ ?_]
    · exact hlast
    · rintro rfl
      -- the last connection would be the current one
      obtain rfl : last = endpoint := Option.some.inj (hlast.symm.trans hget)
      have hlength := (List.getElem?_eq_some_iff.mp hlast).1
      refine hcurrent ⟨hfd, ?_⟩
      rw [h.epochs _ last hlast, h.epoch, Nat.sub_add_cancel (by omega)]

end Numbered

-- ---------------------------------------------------------------------------
-- Wires
-- ---------------------------------------------------------------------------

structure Wire.Keeps (wire later : Wire) : Prop where
  fd : later.fd = wire.fd
  epoch : later.epoch = wire.epoch
  bytes : later.bytes = wire.bytes
  shut : wire.shut = true → later.shut = true

theorem Wire.Keeps.refl (wire : Wire) : wire.Keeps wire := ⟨rfl, rfl, rfl, id⟩

structure Follows (before after : List Wire) : Prop where
  old : ∀ (n : Nat) (wire : Wire), before[n]? = some wire →
    ∃ later, after[n]? = some later ∧ wire.Keeps later
  new : ∀ (n : Nat) (later : Wire), after[n]? = some later → before[n]? = none → later.bytes = []

namespace Follows

theorem refl (wires : List Wire) : Follows wires wires :=
  ⟨fun _ wire hget => ⟨wire, hget, .refl wire⟩, fun _ _ hsome hnone => by simp [hnone] at hsome⟩

theorem modify (wires : List Wire) (n : Nat) {f : Wire → Wire} (hf : ∀ wire : Wire, wire.Keeps (f wire)) :
    Follows wires (wires.modify n f) := by
  refine ⟨fun m wire hget => ?_, fun m later hsome hnone => ?_⟩
  · by_cases hm : n = m
    · subst hm
      exact ⟨f wire, by simp [hget], hf wire⟩
    · exact ⟨wire, by rwa [List.getElem?_modify_ne _ _ hm], .refl wire⟩
  · simp [List.getElem?_modify, hnone] at hsome

theorem concat (wires : List Wire) {wire : Wire} (hbytes : wire.bytes = []) :
    Follows wires (wires ++ [wire]) := by
  refine ⟨fun n old hget => ⟨old, ?_, .refl old⟩, fun n later hsome hnone => ?_⟩
  · rwa [List.getElem?_append_left (List.getElem?_eq_some_iff.mp hget).1]
  · rw [List.getElem?_append_right (List.getElem?_eq_none_iff.mp hnone)] at hsome
    obtain rfl : later = wire := by simpa using List.mem_of_getElem? hsome
    exact hbytes

theorem grows {before after : List Wire} (h : Follows before after) :
    Grows (before.map Wire.toEndpoint) (after.map Wire.toEndpoint) := by
  rintro n target ⟨endpoint, hget, rfl⟩
  rw [List.getElem?_map, Option.map_eq_some_iff] at hget
  obtain ⟨wire, hget, rfl⟩ := hget
  obtain ⟨later, hlater, hkeeps⟩ := h.old n wire hget
  exact ⟨later.toEndpoint, by simp [hlater], by simp [hkeeps.fd, hkeeps.epoch]⟩

end Follows

theorem endpoints_modify (wires : List Wire) (n : Nat) {f : Wire → Wire}
    (hf : ∀ wire : Wire, (f wire).toEndpoint = wire.toEndpoint) :
    (wires.modify n f).map Wire.toEndpoint = wires.map Wire.toEndpoint := by
  refine List.ext_getElem? fun m => ?_
  by_cases hm : n = m
  · subst hm
    simp only [List.getElem?_map, List.getElem?_modify_eq, Option.map_eq_map, Option.map_map]
    exact congrArg (Option.map · _) (funext hf)
  · simp only [List.getElem?_map, List.getElem?_modify_ne _ _ hm]

end NanokvmRdp.Gateway
