import Mathlib.Data.List.Basic

/-!
# Ledgers

A ledger records items in order and never forgets one. An item is outstanding
until it is settled or discarded. Settling takes the oldest outstanding item
that fits, so that of two items that look the same the older one goes first.
-/

namespace Ledger

inductive Fate where
  | outstanding
  | settled
  | discarded
  deriving DecidableEq, Repr

structure Entry (α : Type u) where
  item : α
  fate : Fate
  deriving DecidableEq, Repr

variable {α : Type u} {fits : α → Bool}

def record (ledger : List (Entry α)) (item : α) : List (Entry α) := ledger ++ [⟨item, .outstanding⟩]

def settle (fits : α → Bool) : List (Entry α) → List (Entry α)
  | [] => []
  | entry :: ledger =>
    if entry.fate = .outstanding ∧ fits entry.item then { entry with fate := .settled } :: ledger
    else entry :: settle fits ledger

def discard (ledger : List (Entry α)) : List (Entry α) :=
  ledger.map fun entry => if entry.fate = .outstanding then { entry with fate := .discarded } else entry

def outstanding (ledger : List (Entry α)) : List α :=
  ledger.filterMap fun entry => if entry.fate = .outstanding then some entry.item else none

@[simp] theorem outstanding_record (ledger : List (Entry α)) (item : α) :
    outstanding (record ledger item) = outstanding ledger ++ [item] := by
  simp [outstanding, record]

@[simp] theorem outstanding_discard (ledger : List (Entry α)) : outstanding (discard ledger) = [] := by
  simp only [outstanding, discard, List.filterMap_map, List.filterMap_eq_nil_iff]
  intro entry _
  cases hfate : entry.fate <;> simp [hfate]

@[simp] theorem outstanding_settle (ledger : List (Entry α)) :
    outstanding (settle fits ledger) = (outstanding ledger).eraseP fits := by
  induction ledger with
  | nil => rfl
  | cons entry ledger ih =>
    simp only [outstanding] at ih ⊢
    by_cases hfate : entry.fate = .outstanding
    · by_cases hfits : fits entry.item = true
      · simp [settle, hfate, hfits]
      · simp [settle, hfate, hfits, ih]
    · simp [settle, hfate, ih]

end Ledger
