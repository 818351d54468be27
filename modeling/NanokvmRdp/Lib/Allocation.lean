import NanokvmRdp.Lib.BoundedBuffer
import NanokvmRdp.Lib.Memory

/-!
# Allocations

The C form of a bounded buffer: memory, the length in use and the capacity are
separate, the loop that finds a new capacity might go on for ever, and accesses
are checked. `Holds` says which bounded buffer an allocation stands for;
appending to both keeps it.
-/

/-- A place in a memory whose first `used` cells hold data. -/
structure Pointer (α : Type) where
  memory : List α
  used : Nat
  offset : Nat

namespace Pointer

structure Inside (place : Pointer α) (count : Nat) : Prop where
  positive : 0 < count
  within : place.offset + count ≤ place.used
  allocated : place.used ≤ place.memory.length

def cells (place : Pointer α) (count : Nat) : List α := (place.memory.drop place.offset).take count

theorem Inside.load {place : Pointer α} (h : place.Inside count) :
    Memory.load place.memory place.offset count = some (place.cells count) :=
  Memory.load_eq_some (Nat.le_trans h.within h.allocated)

theorem Inside.length_cells {place : Pointer α} (h : place.Inside count) :
    (place.cells count).length = count := by
  have hinside := Nat.le_trans h.within h.allocated
  rw [cells, List.length_take, List.length_drop]
  omega

theorem inside_all {data : List α} (h : data ≠ []) :
    Inside ⟨data, data.length, 0⟩ data.length ∧ cells ⟨data, data.length, 0⟩ data.length = data :=
  ⟨⟨List.length_pos_iff.mpr h, Nat.le_of_eq (Nat.zero_add _), Nat.le_refl _⟩, List.take_length⟩

end Pointer

/-- `while (more(capacity)) capacity = next(capacity)`, or `none` if it goes on. -/
def growWhile (more : Nat → Bool) (next : Nat → Nat) : Nat → Nat → Checked Nat
  | 0, capacity => if more capacity then none else some capacity
  | fuel + 1, capacity =>
    if more capacity then growWhile more next fuel (next capacity) else some capacity

theorem growWhile_eq {more : Nat → Bool} {next next' : Nat → Nat} {needed fuel c : Nat}
    (hmore : ∀ c, more c = true ↔ c < needed) (hsame : ∀ c, c < needed → next' c = next c)
    (hnext : ∀ c, 0 < c → c < needed → c < next c) (hc : 0 < c) (hfuel : needed ≤ fuel + c) :
    growWhile more next' fuel c = some (growUntil next needed fuel c) := by
  induction fuel generalizing c with
  | zero =>
    have hdone : ¬ more c = true := by
      rw [hmore]
      omega
    rw [growWhile, growUntil, if_neg hdone]
  | succ fuel ih =>
    rw [growWhile, growUntil]
    by_cases hlt : c < needed
    · have hgrows := hnext c hc hlt
      rw [if_pos ((hmore c).mpr hlt), if_pos hlt, hsame c hlt, ih (by omega) (by omega)]
    · rw [if_neg fun h => hlt ((hmore c).mp h), if_neg hlt]

structure Allocation (α : Type) where
  memory : List α := []
  length : Nat := 0
  capacity : Nat := 0

namespace Allocation

variable {α : Type} {limit : Nat}

def clear (a : Allocation α) : Allocation α := { a with length := 0 }

/-- `realloc`, which succeeds. What is behind the old memory is arbitrary. -/
def resize (fill : Nat → α) (a : Allocation α) (capacity : Nat) : Allocation α where
  memory := (a.memory ++ (List.range capacity).map fill).take capacity
  length := a.length
  capacity := capacity

def append (limit : Nat) (grow : Nat → Nat → Checked Nat) (fill : Nat → α) (a : Allocation α)
    (data : Pointer α) (count : Nat) : Checked (Bool × Allocation α) :=
  if count > Memory.sizeSub limit a.length then some (false, a)
  else
    let needed := a.length + count
    let grown := if needed > a.capacity then (grow a.capacity needed).map (a.resize fill) else some a
    grown.bind fun a =>
      (Memory.load data.memory data.offset count).bind fun cells =>
        (Memory.store a.memory a.length cells).map fun memory =>
          (true, { a with memory, length := needed })

/-- The bounded buffer that an allocation stands for. -/
structure Holds (a : Allocation α) (b : BoundedBuffer α limit) : Prop where
  size : a.memory.length = a.capacity
  capacity_eq : a.capacity = b.capacity
  length_eq : a.length = b.contents.length
  contents : b.contents <+: a.memory

theorem holds_empty : Holds ({} : Allocation α) (.empty : BoundedBuffer α limit) :=
  ⟨rfl, rfl, rfl, List.nil_prefix⟩

theorem Holds.clear {a : Allocation α} {b : BoundedBuffer α limit} (h : a.Holds b) :
    a.clear.Holds b.clear :=
  ⟨h.size, h.capacity_eq, rfl, List.nil_prefix⟩

theorem Holds.inside {a : Allocation α} {b : BoundedBuffer α limit} (h : a.Holds b)
    (hne : b.contents ≠ []) :
    Pointer.Inside ⟨a.memory, a.length, 0⟩ a.length ∧
      Pointer.cells ⟨a.memory, a.length, 0⟩ a.length = b.contents := by
  refine ⟨⟨?_, Nat.le_of_eq (Nat.zero_add _), ?_⟩, ?_⟩
  · rw [h.length_eq]
    exact List.length_pos_iff.mpr hne
  · rw [h.length_eq]
    exact h.contents.length_le
  · rw [Pointer.cells, List.drop_zero, h.length_eq]
    exact (List.prefix_iff_eq_take.mp h.contents).symm

structure Bounded (limit : Nat) (a : Allocation α) : Prop where
  length_le_limit : a.length ≤ limit
  length_le_capacity : a.length ≤ a.capacity
  allocated : a.memory.length = a.capacity

theorem Holds.bounded {a : Allocation α} {b : BoundedBuffer α limit} (h : a.Holds b) :
    a.Bounded limit :=
  ⟨h.length_eq ▸ b.length_le_limit, h.length_eq ▸ h.capacity_eq ▸ b.length_le_capacity, h.size⟩

theorem Holds.resize {a : Allocation α} {b : BoundedBuffer α limit} (h : a.Holds b)
    (fill : Nat → α) {capacity : Nat} (hle : a.capacity ≤ capacity) :
    (a.resize fill capacity).memory.length = capacity ∧
      b.contents <+: (a.resize fill capacity).memory := by
  rw [← h.size] at hle
  constructor
  · simp only [Allocation.resize, List.length_take, List.length_append, List.length_map,
      List.length_range]
    omega
  · rw [Allocation.resize, List.take_append, List.take_of_length_le hle]
    exact h.contents.trans (List.prefix_append _ _)

/-- The memory that `realloc` leaves, or the old one: what is in use is kept. -/
theorem Holds.grown {a : Allocation α} {b : BoundedBuffer α limit} (h : a.Holds b) (fill : Nat → α)
    {needed next capacity : Nat} (hle : needed ≤ capacity)
    (hcapacity : capacity = if needed > b.capacity then next else b.capacity) :
    ∃ grown : Allocation α,
      (if needed > a.capacity then some (a.resize fill next) else some a) = some grown ∧
        grown.memory.length = capacity ∧ grown.capacity = capacity ∧ grown.length = a.length ∧
        b.contents <+: grown.memory := by
  rw [← h.capacity_eq] at hcapacity
  by_cases hshort : needed > a.capacity
  · rw [if_pos hshort] at hcapacity ⊢
    obtain ⟨hsize, hkept⟩ := h.resize fill (Nat.le_of_lt (Nat.lt_of_lt_of_le hshort hle))
    rw [← hcapacity]
    exact ⟨_, rfl, hsize, rfl, rfl, hkept⟩
  · rw [if_neg hshort] at hcapacity ⊢
    exact ⟨a, rfl, h.size.trans hcapacity.symm, hcapacity.symm, rfl, h.contents⟩

theorem store_contents {memory contents data : List α} (h : contents <+: memory)
    (hfits : contents.length + data.length ≤ memory.length) :
    ∃ memory', Memory.store memory contents.length data = some memory' ∧
      memory'.length = memory.length ∧ contents ++ data <+: memory' := by
  obtain ⟨room, rfl⟩ := h
  rw [List.length_append] at hfits
  refine ⟨_, Memory.store_append contents (by omega), ?_, ?_⟩
  · simp only [List.length_append, List.length_drop]
    omega
  · rw [← List.append_assoc]
    exact List.prefix_append _ _

/-- Appending to an allocation is appending to its bounded buffer. -/
theorem Holds.append {a : Allocation α} {b : BoundedBuffer α limit} (h : a.Holds b)
    (hlimit : limit < 2 ^ 64) {grow : Nat → Nat → Checked Nat}
    {grow' : (needed : Nat) → needed ≤ limit → { capacity : Nat // needed ≤ capacity }}
    (hgrow : ∀ needed hle, grow a.capacity needed = some (grow' needed hle).1)
    {data : Pointer α} {count : Nat} (hdata : data.Inside count) (fill : Nat → α) :
    (b.append? grow' (data.cells count) = none ∧
      a.append limit grow fill data count = some (false, a)) ∨
    ∃ a' b', b.append? grow' (data.cells count) = some b' ∧
      a.append limit grow fill data count = some (true, a') ∧ a'.Holds b' := by
  have hcount := hdata.length_cells
  have hroom : Memory.sizeSub limit a.length = limit - b.contents.length := by
    rw [h.length_eq, Memory.sizeSub_of_le b.length_le_limit hlimit]
  unfold Allocation.append
  rw [hroom, hdata.load]
  by_cases hover : count > limit - b.contents.length
  · exact .inl ⟨b.append?_eq_none grow' (by rwa [hcount]), if_pos hover⟩
  · right
    have hneeded : (b.contents ++ data.cells count).length = a.length + count := by
      rw [List.length_append, hcount, h.length_eq]
    have hle : (b.contents ++ data.cells count).length ≤ limit := by
      have hlength := b.length_le_limit
      rw [List.length_append]
      omega
    obtain ⟨b', happend, hcontents, hcapacity⟩ := b.append?_capacity grow' hle
    have hfits := b'.length_le_capacity
    rw [hcontents] at hfits
    obtain ⟨grown, hgrown, hsize, hgrowncapacity, hlength, hkept⟩ := h.grown fill hfits hcapacity
    rw [List.length_append, ← hsize] at hfits
    obtain ⟨memory, hstore, hstoredsize, hstored⟩ := store_contents hkept hfits
    rw [← h.length_eq, ← hlength] at hstore
    refine ⟨{ grown with memory, length := a.length + count }, b', happend, ?_, ?_⟩
    · rw [if_neg hover]
      simp only [← hneeded, hgrow _ hle, Option.map_some, hgrown, Option.bind_some, hstore]
    · refine ⟨hstoredsize.trans (hsize.trans hgrowncapacity.symm), hgrowncapacity, ?_,
        hcontents ▸ hstored⟩
      rw [hcontents, hneeded]

end Allocation
