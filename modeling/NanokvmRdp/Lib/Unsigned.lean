import Mathlib.Algebra.Group.Nat.Defs
import Mathlib.Tactic.Common

/-!
# Unsigned arithmetic that does not wrap

A computation over an unsigned type is written once, over the operations of the
type. The operations of the machine wrap; the checked ones have no result where
those would. Operations of either kind are exact where the result is in range, so
a computation whose intermediate results are all shown to be in range has the same
result with both: no operation of it wraps.
-/

structure Unsigned (m : Type → Type) where
  add : Nat → Nat → m Nat
  sub : Nat → Nat → m Nat
  mul : Nat → Nat → m Nat

namespace Unsigned

variable {m : Type → Type} [Monad m] {width : Nat}

def wrapping (width : Nat) : Unsigned Id where
  add a b := (a + b) % 2 ^ width
  sub a b := (a + (2 ^ width - b)) % 2 ^ width
  mul a b := a * b % 2 ^ width

/-- `none` where the machine wraps. -/
def checked (width : Nat) : Unsigned Option where
  add a b := if a + b < 2 ^ width then some (a + b) else none
  sub a b := if b ≤ a then some (a - b) else none
  mul a b := if a * b < 2 ^ width then some (a * b) else none

/-- The operations give the mathematical result where that is in range. -/
structure Exact (ops : Unsigned m) (width : Nat) : Prop where
  add_eq : ∀ {a b}, a + b < 2 ^ width → ops.add a b = pure (a + b)
  sub_eq : ∀ {a b}, a < 2 ^ width → b ≤ a → ops.sub a b = pure (a - b)
  mul_eq : ∀ {a b}, a * b < 2 ^ width → ops.mul a b = pure (a * b)

theorem exact_wrapping (width : Nat) : Exact (wrapping width) width where
  add_eq h := Nat.mod_eq_of_lt h
  sub_eq {a b} ha h := by
    have hsum : a + (2 ^ width - b) = a - b + 2 ^ width := by omega
    show (a + (2 ^ width - b)) % 2 ^ width = a - b
    rw [hsum, Nat.add_mod_right, Nat.mod_eq_of_lt (by omega)]
  mul_eq h := Nat.mod_eq_of_lt h

theorem exact_checked (width : Nat) : Exact (checked width) width where
  add_eq h := if_pos h
  sub_eq _ h := if_pos h
  mul_eq h := if_pos h

end Unsigned
