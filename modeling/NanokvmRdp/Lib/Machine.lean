/-!
# Runs of a machine

A machine is a partial step function. A run takes a list of events in order
and fails at the first one that is not enabled. `Along` says that every event
of a run meets a condition in the state where it is taken; the invariant rule
turns a step lemma into a statement about every run that meets it.
-/

namespace Machine

variable {σ : Type u} {ε : Type v} (step : σ → ε → Option σ)

def run : σ → List ε → Option σ
  | s, [] => some s
  | s, e :: events => (step s e).bind fun s' => run s' events

def Along (good : σ → ε → Prop) : σ → List ε → Prop
  | _, [] => True
  | s, e :: events => good s e ∧ ∀ s', step s e = some s' → Along good s' events

variable {step} {good : σ → ε → Prop} {inv : σ → Prop}

theorem run_invariant (hstep : ∀ s e s', inv s → good s e → step s e = some s' → inv s')
    (h : inv s) (hgood : Along step good s events) (hrun : run step s events = some s') :
    inv s' := by
  induction events generalizing s with
  | nil =>
    cases hrun
    exact h
  | cons e events ih =>
    obtain ⟨hfirst, hrest⟩ := hgood
    rw [run, Option.bind_eq_some_iff] at hrun
    obtain ⟨next, hnext, hrun⟩ := hrun
    exact ih (hstep s e next h hfirst hnext) (hrest next hnext) hrun

theorem along_of_forall {events : List ε} (h : ∀ e ∈ events, ∀ s, good s e) (s : σ) :
    Along step good s events := by
  induction events generalizing s with
  | nil => trivial
  | cons e events ih =>
    refine ⟨h e List.mem_cons_self s, fun s' _ => ?_⟩
    exact ih (fun e he => h e (List.mem_cons_of_mem _ he)) s'

instance decidableAlong [∀ s e, Decidable (good s e)] :
    ∀ (s : σ) (events : List ε), Decidable (Along step good s events)
  | _, [] => .isTrue trivial
  | s, e :: events =>
    match hstep : step s e with
    | none => decidable_of_iff (good s e) (by simp [Along, hstep])
    | some s' =>
      have := decidableAlong s' events
      decidable_of_iff (good s e ∧ Along step good s' events) (by simp [Along, hstep])

theorem run_induction (hstep : ∀ s e s', inv s → step s e = some s' → inv s') (h : inv s)
    (hrun : run step s events = some s') : inv s' :=
  run_invariant (fun s e s' hs _ => hstep s e s' hs) h (along_of_forall (fun _ _ _ => trivial) s) hrun

end Machine
