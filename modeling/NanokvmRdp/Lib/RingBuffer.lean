import Mathlib.Data.List.Basic
import Mathlib.Data.Nat.ModEq
import Mathlib.Logic.Function.Basic
import Mathlib.Tactic.Common

/-!
# A bounded ring buffer

A fixed array of `n` slots, the position of the oldest entry and the number
of entries. The bounds are fields, so every value is a well-formed buffer
whatever its head. `toList` reads the entries from oldest to newest; each
operation has one lemma that says what it does to that list, and clients
use nothing else.
-/

structure RingBuffer (α : Type u) (n : Nat) where
  slots : Fin n → α
  head : Fin n
  count : Nat
  count_le : count ≤ n

namespace RingBuffer

variable {α : Type u} {n : Nat}

/-- The slot that lies `i` places after the head, wrapping at the end. -/
def slot (r : RingBuffer α n) (i : Nat) : Fin n :=
  ⟨(r.head + i) % n, Nat.mod_lt _ r.head.pos⟩

def empty [NeZero n] (a : α) : RingBuffer α n where
  slots := fun _ => a
  head := 0
  count := 0
  count_le := Nat.zero_le _

def toList (r : RingBuffer α n) : List α := (List.range r.count).map fun i => r.slots (r.slot i)

def front (r : RingBuffer α n) : α := r.slots r.head

def back (r : RingBuffer α n) : α := r.slots (r.slot (r.count - 1))

def push (r : RingBuffer α n) (a : α) (h : r.count < n) : RingBuffer α n where
  slots := Function.update r.slots (r.slot r.count) a
  head := r.head
  count := r.count + 1
  count_le := h

def pop (r : RingBuffer α n) : RingBuffer α n where
  slots := r.slots
  head := r.slot 1
  count := r.count - 1
  count_le := (Nat.sub_le _ _).trans r.count_le

def set (r : RingBuffer α n) (i : Nat) (a : α) : RingBuffer α n :=
  { r with slots := Function.update r.slots (r.slot i) a }

@[simp] theorem length_toList (r : RingBuffer α n) : r.toList.length = r.count := by
  simp [toList]

@[simp] theorem count_empty [NeZero n] (a : α) : (empty a : RingBuffer α n).count = 0 := rfl

@[simp] theorem toList_empty [NeZero n] (a : α) : (empty a : RingBuffer α n).toList = [] := rfl

@[simp] theorem count_push (r : RingBuffer α n) (a : α) (h : r.count < n) :
    (r.push a h).count = r.count + 1 := rfl

@[simp] theorem count_pop (r : RingBuffer α n) : r.pop.count = r.count - 1 := rfl

@[simp] theorem count_set (r : RingBuffer α n) (i : Nat) (a : α) :
    (r.set i a).count = r.count := rfl

theorem slot_zero (r : RingBuffer α n) : r.slot 0 = r.head :=
  Fin.ext (Nat.mod_eq_of_lt r.head.isLt)

theorem slot_inj (r : RingBuffer α n) (hi : i < n) (hj : j < n) : r.slot i = r.slot j ↔ i = j := by
  refine ⟨fun h => ?_, fun h => by rw [h]⟩
  have hm : (r.head + i) % n = (r.head + j) % n := congrArg Fin.val h
  have hij : i % n = j % n := Nat.ModEq.add_left_cancel' r.head hm
  rwa [Nat.mod_eq_of_lt hi, Nat.mod_eq_of_lt hj] at hij

theorem slot_slot_one (r : RingBuffer α n) (i : Nat) : r.pop.slot i = r.slot (i + 1) := by
  apply Fin.ext
  show ((r.head + 1) % n + i) % n = (r.head + (i + 1)) % n
  rw [Nat.mod_add_mod]
  congr 1
  omega

theorem toList_push (r : RingBuffer α n) (a : α) (h : r.count < n) :
    (r.push a h).toList = r.toList ++ [a] := by
  have hold : ∀ i ∈ List.range r.count, (r.push a h).slots ((r.push a h).slot i) =
      r.slots (r.slot i) := by
    intro i hi
    have hlt : i < r.count := List.mem_range.mp hi
    have hne : r.slot i ≠ r.slot r.count := fun he =>
      absurd ((r.slot_inj (hlt.trans h) h).mp he) hlt.ne
    exact Function.update_of_ne hne _ _
  have hnew : (r.push a h).slots ((r.push a h).slot r.count) = a := Function.update_self ..
  simp only [toList, count_push, List.range_succ, List.map_append, List.map_cons, List.map_nil, hnew]
  rw [List.map_congr_left hold]

theorem toList_eq_front_cons (r : RingBuffer α n) (h : 0 < r.count) :
    r.toList = r.front :: r.pop.toList := by
  obtain ⟨k, hk⟩ : ∃ k, r.count = k + 1 := ⟨r.count - 1, by omega⟩
  simp only [toList, count_pop, hk, Nat.add_sub_cancel, List.range_succ_eq_map, List.map_cons,
    List.map_map, slot_zero]
  refine congrArg₂ _ rfl (List.map_congr_left fun i _ => ?_)
  simp only [Function.comp_apply, slot_slot_one]
  rfl

theorem toList_eq_append_back (r : RingBuffer α n) (h : 0 < r.count) :
    r.toList = r.toList.dropLast ++ [r.back] := by
  obtain ⟨k, hk⟩ : ∃ k, r.count = k + 1 := ⟨r.count - 1, by omega⟩
  simp [toList, back, hk, List.range_succ]

theorem toList_set (r : RingBuffer α n) (a : α) (h : i < r.count) :
    (r.set i a).toList = r.toList.set i a := by
  have hin : i < n := h.trans_le r.count_le
  apply List.ext_getElem
  · simp
  intro j hj _
  have hjc : j < r.count := by simpa using hj
  have hjn : j < n := hjc.trans_le r.count_le
  simp only [toList, count_set, List.getElem_map, List.getElem_range, List.getElem_set]
  split
  · rename_i heq
    subst heq
    exact Function.update_self ..
  · rename_i hne
    exact Function.update_of_ne (fun he => hne ((r.slot_inj hjn hin).mp he).symm) _ _

theorem toList_set_back (r : RingBuffer α n) (a : α) (h : 0 < r.count) :
    (r.set (r.count - 1) a).toList = r.toList.dropLast ++ [a] := by
  rw [toList_set r a (by omega)]
  have hne : r.toList ≠ [] := by
    intro he
    have := r.length_toList
    rw [he] at this
    simp at this
    omega
  conv_lhs => rw [← List.dropLast_append_getLast hne]
  rw [List.set_append_right _ _ (by simp)]
  simp

theorem toList_set_front (r : RingBuffer α n) (a : α) (h : 0 < r.count) :
    (r.set 0 a).toList = a :: r.pop.toList := by
  rw [toList_set r a h, toList_eq_front_cons r h, List.set_cons_zero]

end RingBuffer
