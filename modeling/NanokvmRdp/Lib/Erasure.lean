/-!
# Runs without idle events

An event is idle in a state if the step leaves that state as it is. A run and
the run without its idle events end in the same state; which events are idle
depends on the state they are taken in, so the run is followed along.
-/

namespace Erasure

variable {σ : Type u} {ε : Type v} (step : σ → ε → σ) (idle : σ → ε → Bool)

def erase : σ → List ε → List ε
  | _, [] => []
  | s, e :: events => if idle s e then erase s events else e :: erase (step s e) events

variable {step idle}

theorem foldl_erase (hidle : ∀ s e, idle s e = true → step s e = s) (s : σ) (events : List ε) :
    (erase step idle s events).foldl step s = events.foldl step s := by
  induction events generalizing s with
  | nil => rfl
  | cons e events ih =>
    rw [erase, List.foldl_cons]
    split
    · rename_i h
      rw [hidle s e h]
      exact ih s
    · exact ih (step s e)

end Erasure
