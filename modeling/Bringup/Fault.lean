/-!
# Arithmetic faults

Machine words have a fixed width, and this kernel is built to stop at an operation whose exact
result does not fit rather than to wrap. `Fault` names the ways an operation goes out of range and
`Checked` holds the operations that report one. Each operation returns the machine result exactly
when the result over the natural numbers fits (`Checked.add_eq_ok_iff` and its siblings).
-/

namespace Bringup

/-- Why a checked operation has no result. -/
inductive Fault where
  | addOverflow
  | subOverflow
  | mulOverflow
  | divByZero
  | shiftOverflow
  deriving DecidableEq

/-- The line that a fault is reported with. -/
def Fault.message : Fault → String
  | .addOverflow => "attempt to add with overflow"
  | .subOverflow => "attempt to subtract with overflow"
  | .mulOverflow => "attempt to multiply with overflow"
  | .divByZero => "attempt to divide by zero"
  | .shiftOverflow => "attempt to shift left with overflow"

namespace Checked

/-- The sum, if it is below `2 ^ 64`. A sum that wraps is below both terms. -/
def add (a b : UInt64) : Except Fault UInt64 :=
  if a ≤ a + b then .ok (a + b) else .error .addOverflow

/-- The difference, if it is not negative. -/
def sub (a b : UInt64) : Except Fault UInt64 :=
  if b ≤ a then .ok (a - b) else .error .subOverflow

/-- The product, if it is below `2 ^ 64`. -/
def mul (a b : UInt64) : Except Fault UInt64 :=
  if a.toNat * b.toNat < UInt64.size then .ok (a * b) else .error .mulOverflow

/-- The quotient, rounded down, if the divisor is not zero. -/
def div (a b : UInt64) : Except Fault UInt64 :=
  if b = 0 then .error .divByZero else .ok (a / b)

/-- The sum of two 16-bit words, if it is below `2 ^ 16`. -/
def add16 (a b : UInt16) : Except Fault UInt16 :=
  if a.toNat + b.toNat < UInt16.size then .ok (a + b) else .error .addOverflow

/-- The 32-bit word moved up by `n` places, if `n` is below the width. Bits moved out are lost. -/
def shiftLeft32 (a : UInt32) (n : UInt8) : Except Fault UInt32 :=
  if n < 32 then .ok (a <<< n.toUInt32) else .error .shiftOverflow

/-- The sum of two indices, if it is itself an index, that is, below `2 ^ 64`. -/
def indexAdd (a b : Nat) : Except Fault Nat :=
  if a + b < UInt64.size then .ok (a + b) else .error .addOverflow

theorem add_eq_ok_iff {a b c : UInt64} :
    add a b = .ok c ↔ a.toNat + b.toNat < UInt64.size ∧ c = a + b := by
  have fits : a ≤ a + b ↔ a.toNat + b.toNat < UInt64.size := by
    rw [UInt64.le_iff_toNat_le, UInt64.toNat_add, UInt64.size]
    have := a.toNat_lt
    have := b.toNat_lt
    omega
  rw [← fits]
  by_cases h : a ≤ a + b <;> simp only [add, h, if_true, if_false] <;> simp [eq_comm]

theorem sub_eq_ok_iff {a b c : UInt64} : sub a b = .ok c ↔ b ≤ a ∧ c = a - b := by
  by_cases h : b ≤ a <;> simp only [sub, h, if_true, if_false] <;> simp [eq_comm]

theorem mul_eq_ok_iff {a b c : UInt64} :
    mul a b = .ok c ↔ a.toNat * b.toNat < UInt64.size ∧ c = a * b := by
  by_cases h : a.toNat * b.toNat < UInt64.size <;>
    simp only [mul, h, if_true, if_false] <;> simp [eq_comm]

theorem div_eq_ok_iff {a b c : UInt64} : div a b = .ok c ↔ b ≠ 0 ∧ c = a / b := by
  by_cases h : b = 0 <;> simp [div, h, eq_comm]

/-- A checked sum has the exact value. -/
theorem toNat_of_add_eq_ok {a b c : UInt64} (h : add a b = .ok c) :
    c.toNat = a.toNat + b.toNat := by
  obtain ⟨fits, rfl⟩ := add_eq_ok_iff.1 h
  rw [UInt64.toNat_add, Nat.mod_eq_of_lt fits]

end Checked

end Bringup
