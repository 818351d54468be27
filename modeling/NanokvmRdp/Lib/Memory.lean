import Mathlib.Algebra.Group.Nat.Defs
import Mathlib.Tactic.Common

/-!
# Checked memory

An array is the list of its cells. An access outside of the array has no
result, so a program that has one has made no such access. Lengths are
subtracted as `size_t` is.
-/

/-- `none` after an access outside of an array. -/
abbrev Checked (α : Type u) := Option α

namespace Checked

variable {R : σ → τ → Prop} {S : ρ → υ → Prop}

/-- No access is outside, the result is that of the model, and the state stands for the
model's. -/
def Simulates (R : σ → τ → Prop) (run : Checked (α × σ)) (model : α × τ) : Prop :=
  ∃ s, run = some (model.1, s) ∧ R s model.2

theorem Simulates.bind {run : Checked (α × σ)} {model : α × τ} (h : Simulates R run model)
    {next : α × σ → Checked (β × ρ)} {model' : β × υ}
    (hnext : ∀ s, R s model.2 → Simulates S (next (model.1, s)) model') :
    Simulates S (run.bind next) model' := by
  obtain ⟨s, hrun, hs⟩ := h
  rw [hrun]
  exact hnext s hs

end Checked

namespace Memory

variable {α : Type u} {memory data room : List α} {offset count : Nat}

def sizeSub (a b : Nat) : Nat := (a + 2 ^ 64 - b) % 2 ^ 64

theorem sizeSub_of_le (h : b ≤ a) (ha : a < 2 ^ 64) : sizeSub a b = a - b := by
  unfold sizeSub
  omega

def load (memory : List α) (offset count : Nat) : Checked (List α) :=
  if offset + count ≤ memory.length then some ((memory.drop offset).take count) else none

def store (memory : List α) (offset : Nat) (data : List α) : Checked (List α) :=
  if offset + data.length ≤ memory.length then
    some (memory.take offset ++ (data ++ memory.drop (offset + data.length)))
  else none

theorem load_eq_some (h : offset + count ≤ memory.length) :
    load memory offset count = some ((memory.drop offset).take count) := if_pos h

theorem load_append (front data room : List α) :
    load (front ++ (data ++ room)) front.length data.length = some data := by
  have hinside : front.length + data.length ≤ (front ++ (data ++ room)).length := by
    simp only [List.length_append]
    omega
  rw [load_eq_some hinside, List.drop_left, List.take_left]

theorem store_append (front : List α) (h : data.length ≤ room.length) :
    store (front ++ room) front.length data = some (front ++ (data ++ room.drop data.length)) := by
  have hfits : front.length + data.length ≤ (front ++ room).length := by
    rw [List.length_append]
    omega
  rw [store, if_pos hfits, List.take_left, ← List.drop_drop, List.drop_left]

end Memory
