import Mathlib.Tactic.Common

/-!
# Bounded buffers

A growable buffer whose contents may never pass a fixed limit. The bytes in
use, the allocated capacity and both bounds travel together, so a buffer
that is over its limit or over its allocation cannot be built. Growth is a
parameter: callers give the loop that finds the next capacity.
-/

def growUntil (next : Nat → Nat) (needed : Nat) : Nat → Nat → Nat
  | 0, capacity => capacity
  | fuel + 1, capacity =>
    if capacity < needed then growUntil next needed fuel (next capacity) else capacity

/-- With one turn for every missing unit the loop ends because it is done. -/
theorem le_growUntil (hnext : ∀ c, 0 < c → c < needed → c < next c) (hc : 0 < c)
    (hfuel : needed ≤ fuel + c) : needed ≤ growUntil next needed fuel c := by
  induction fuel generalizing c with
  | zero =>
    rw [growUntil]
    omega
  | succ fuel ih =>
    rw [growUntil]
    split
    · rename_i hlt
      have hstep := hnext c hc hlt
      exact ih (by omega) (by omega)
    · omega

structure BoundedBuffer (α : Type) (limit : Nat) where
  contents : List α
  capacity : Nat
  length_le_limit : contents.length ≤ limit
  length_le_capacity : contents.length ≤ capacity

namespace BoundedBuffer

variable {limit : Nat}

def empty : BoundedBuffer α limit := ⟨[], 0, Nat.zero_le _, Nat.zero_le _⟩

def clear (b : BoundedBuffer α limit) : BoundedBuffer α limit :=
  ⟨[], b.capacity, Nat.zero_le _, Nat.zero_le _⟩

def append? (b : BoundedBuffer α limit)
    (grow : (needed : Nat) → needed ≤ limit → { capacity : Nat // needed ≤ capacity })
    (data : List α) : Option (BoundedBuffer α limit) :=
  if h : data.length > limit - b.contents.length then none
  else
    have hlimit : (b.contents ++ data).length ≤ limit := by
      have := b.length_le_limit
      rw [List.length_append]
      omega
    if hcap : (b.contents ++ data).length > b.capacity then
      let capacity := grow (b.contents ++ data).length hlimit
      some ⟨b.contents ++ data, capacity, hlimit, capacity.2⟩
    else some ⟨b.contents ++ data, b.capacity, hlimit, Nat.not_lt.mp hcap⟩

@[simp] theorem contents_empty : (empty : BoundedBuffer α limit).contents = [] := rfl
@[simp] theorem contents_clear (b : BoundedBuffer α limit) : b.clear.contents = [] := rfl

theorem append?_eq_none (b : BoundedBuffer α limit)
    (grow : (needed : Nat) → needed ≤ limit → { capacity : Nat // needed ≤ capacity })
    (h : data.length > limit - b.contents.length) : b.append? grow data = none := dif_pos h

theorem append?_capacity (b : BoundedBuffer α limit)
    (grow : (needed : Nat) → needed ≤ limit → { capacity : Nat // needed ≤ capacity })
    (hle : (b.contents ++ data).length ≤ limit) :
    ∃ b', b.append? grow data = some b' ∧ b'.contents = b.contents ++ data ∧
      b'.capacity = if (b.contents ++ data).length > b.capacity then
        (grow (b.contents ++ data).length hle).1 else b.capacity := by
  have hfits : ¬ data.length > limit - b.contents.length := by
    rw [List.length_append] at hle
    omega
  rw [append?, dif_neg hfits]
  split <;> exact ⟨_, rfl, rfl, rfl⟩

theorem append?_fits (b : BoundedBuffer α limit)
    (grow : (needed : Nat) → needed ≤ limit → { capacity : Nat // needed ≤ capacity })
    (h : b.contents.length + data.length ≤ limit) :
    ∃ b', b.append? grow data = some b' ∧ b'.contents = b.contents ++ data := by
  obtain ⟨b', happend, hcontents, -⟩ := b.append?_capacity grow (by rwa [List.length_append])
  exact ⟨b', happend, hcontents⟩

end BoundedBuffer
