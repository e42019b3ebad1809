import Mathlib.Algebra.GroupWithZero.Nat

/-! # Checked unsigned arithmetic

The value of an operation when it fits the width, and nothing when it would wrap; and what a chain of
fallible steps that succeeds has done.
-/

namespace Checked

def add (width left right : ℕ) : Option ℕ := if left + right < 2 ^ width then some (left + right) else none

def mul (width left right : ℕ) : Option ℕ := if left * right < 2 ^ width then some (left * right) else none

variable {width left right value : ℕ}

theorem add_eq_some : add width left right = some value ↔ left + right < 2 ^ width ∧ left + right = value := by
  simp [add]

theorem mul_eq_some : mul width left right = some value ↔ left * right < 2 ^ width ∧ left * right = value := by
  simp [mul]

theorem add_of_lt (fits : left + right < 2 ^ width) : add width left right = some (left + right) := if_pos fits

theorem mul_of_lt (fits : left * right < 2 ^ width) : mul width left right = some (left * right) := if_pos fits

section Steps

variable {ε α β : Type}

@[simp] theorem bind_eq_ok {first : Except ε α} {rest : α → Except ε β} {value : β} :
    (first >>= rest) = .ok value ↔ ∃ result, first = .ok result ∧ rest result = .ok value := by
  cases first <;> simp [bind, Except.bind]

@[simp] theorem pure_eq_ok {first value : α} : (pure first : Except ε α) = .ok value ↔ first = value := by
  simp [pure, Except.pure]

end Steps

end Checked
