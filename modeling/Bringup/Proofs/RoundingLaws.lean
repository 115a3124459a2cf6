import Mathlib.Order.Bounds.Basic
import Bringup.Proofs.Rounding

/-!
# What rounding up gives and where it stops

`alignUp` gives the least multiple of a power of two that is not below a word, and `divCeil` the
least number of units that are enough for it (`roundsUp_alignUp`, `roundsUp_divCeil`). Both add the
operands before they take one away, so both overflow where the sum of the operands does not fit in a
word, also where the rounded value would. By zero neither gives anything (`alignUp_zero`,
`divCeil_zero`).
-/

namespace Bringup

/-! ## Least numbers -/

theorem isLeast_mul_ceilDiv (x : Nat) {unit : Nat} (positive : 0 < unit) :
    IsLeast {n | unit ∣ n ∧ x ≤ n} (unit * (x ⌈/⌉ unit)) := by
  constructor
  · exact ⟨⟨_, rfl⟩, (ceilDiv_le_iff_le_mul positive).1 (Nat.le_refl _)⟩
  · rintro _ ⟨⟨units, rfl⟩, enough⟩
    exact Nat.mul_le_mul_left unit ((ceilDiv_le_iff_le_mul positive).2 enough)

theorem isLeast_ceilDiv (x : Nat) {unit : Nat} (positive : 0 < unit) :
    IsLeast {q | x ≤ q * unit} (x ⌈/⌉ unit) := by
  constructor
  · show x ≤ x ⌈/⌉ unit * unit
    rw [Nat.mul_comm]
    exact (ceilDiv_le_iff_le_mul positive).1 (Nat.le_refl _)
  · intro q enough
    apply (ceilDiv_le_iff_le_mul positive).2
    rw [Nat.mul_comm]
    exact enough

/-- A multiple that is rounded up to is below the sum of the operands. -/
theorem mul_ceilDiv_lt (x : Nat) {unit : Nat} (positive : 0 < unit) :
    unit * (x ⌈/⌉ unit) < x + unit := by
  have below := Nat.mul_div_le (x + unit - 1) unit
  rw [Nat.ceilDiv_eq_add_pred_div]
  omega

/-! ## Outcomes -/

/-- The outcome of rounding up: the least of the wanted numbers if a sum fits in a word, and an
overflow if it does not. -/
structure RoundsUp (outcome : Except Fault UInt64) (sum : Nat) (wanted : Set Nat) : Prop where
  error_iff : ∀ fault, outcome = .error fault ↔ fault = .addOverflow ∧ 2 ^ 64 ≤ sum
  exists_least : sum < 2 ^ 64 → ∃ v, outcome = .ok v ∧ IsLeast wanted v.toNat

namespace RoundsUp

variable {outcome : Except Fault UInt64} {sum n : Nat} {wanted : Set Nat} {v : UInt64}

theorem of_least (least : IsLeast wanted n) (small : sum < 2 ^ 64 → n < 2 ^ 64)
    (rounded : sum < 2 ^ 64 → outcome = .ok (UInt64.ofNat n))
    (overflow : 2 ^ 64 ≤ sum → outcome = .error .addOverflow) : RoundsUp outcome sum wanted where
  error_iff fault := by
    rcases Nat.lt_or_ge sum (2 ^ 64) with fits | past
    · rw [rounded fits]
      exact ⟨nofun, fun h => absurd h.2 (Nat.not_le.2 fits)⟩
    · rw [overflow past, Except.error.injEq, eq_comm]
      exact ⟨fun same => ⟨same, past⟩, And.left⟩
  exists_least fits := by
    refine ⟨_, rounded fits, ?_⟩
    rwa [UInt64.toNat_ofNat_of_lt' (small fits)]

/-- What rounding up gives, wherever it gives anything. -/
theorem isLeast (rounds : RoundsUp outcome sum wanted) (rounded : outcome = .ok v) :
    IsLeast wanted v.toNat := by
  have fits : sum < 2 ^ 64 := by
    by_contra past
    have stopped := (rounds.error_iff .addOverflow).2 ⟨rfl, Nat.not_lt.1 past⟩
    cases rounded.symm.trans stopped
  obtain ⟨w, given, least⟩ := rounds.exists_least fits
  obtain rfl : v = w := Except.ok.inj (rounded.symm.trans given)
  exact least

end RoundsUp

/-! ## Multiples of a power of two -/

section AlignUp

variable {base : UInt64} {k : Nat} (power : base.toNat = 2 ^ k)

include power

theorem roundsUp_alignUp (x : UInt64) :
    RoundsUp (alignUp x base) (x.toNat + base.toNat) {n | base.toNat ∣ n ∧ x.toNat ≤ n} := by
  have positive : 0 < base.toNat := power ▸ Nat.two_pow_pos k
  exact .of_least (isLeast_mul_ceilDiv x.toNat positive)
    (Nat.lt_trans (mul_ceilDiv_lt x.toNat positive)) (alignUp_of_lt power) alignUp_of_le

/-- Rounding a rounded word changes nothing. -/
theorem alignUp_idem {x v w : UInt64} (once : alignUp x base = .ok v)
    (twice : alignUp v base = .ok w) : w = v := by
  have first := (roundsUp_alignUp power x).isLeast once
  have second := (roundsUp_alignUp power v).isLeast twice
  -- a rounded word is itself the least multiple that is not below it
  have least : IsLeast {n | base.toNat ∣ n ∧ v.toNat ≤ n} v.toNat :=
    ⟨⟨first.1.1, Nat.le_refl _⟩, fun _ multiple => multiple.2⟩
  exact UInt64.toNat_inj.1 (second.unique least)

theorem alignUp_mono {x y v w : UInt64} (below : x ≤ y) (lower : alignUp x base = .ok v)
    (upper : alignUp y base = .ok w) : v ≤ w := by
  have first := (roundsUp_alignUp power x).isLeast lower
  have second := (roundsUp_alignUp power y).isLeast upper
  -- a multiple that is not below the larger word is not below the smaller one
  have enough : x.toNat ≤ w.toNat := Nat.le_trans (UInt64.le_iff_toNat_le.1 below) second.1.2
  exact UInt64.le_iff_toNat_le.2 (first.2 ⟨second.1.1, enough⟩)

end AlignUp

/-! ## Quotients -/

theorem roundsUp_divCeil (x : UInt64) {y : UInt64} (nonzero : y ≠ 0) :
    RoundsUp (divCeil x y) (x.toNat + y.toNat) {q | x.toNat ≤ q * y.toNat} := by
  have positive : 0 < y.toNat := by
    apply Nat.pos_of_ne_zero
    exact fun zero => nonzero (UInt64.toNat_inj.1 zero)
  have small : x.toNat ⌈/⌉ y.toNat < x.toNat + y.toNat :=
    Nat.lt_of_le_of_lt (Nat.le_mul_of_pos_left _ positive) (mul_ceilDiv_lt x.toNat positive)
  exact .of_least (isLeast_ceilDiv x.toNat positive) (Nat.lt_trans small)
    (fun fits => divCeil_of_lt fits positive) divCeil_of_le

/-! ## Zero -/

/-- With nothing added, taking one away again is what fails, unless there is something to take
from. -/
theorem sub_one_of_add_zero (x : UInt64) :
    (Checked.add x 0 >>= fun sum => Checked.sub sum 1) =
      if x = 0 then .error .subOverflow else .ok (x - 1) := by
  have fits : x.toNat + (0 : UInt64).toNat < 2 ^ 64 := x.toNat_lt
  rw [Checked.add_of_lt fits, UInt64.add_zero]
  show Checked.sub x 1 = _
  split
  · next zero =>
      rw [zero]
      rfl
  · next nonzero =>
      have one : (1 : UInt64).toNat = 1 := rfl
      have positive : x.toNat ≠ 0 := fun zero => nonzero (UInt64.toNat_inj.1 zero)
      exact Checked.sub_eq_ok_iff.2 ⟨UInt64.le_iff_toNat_le.2 (by omega), rfl⟩

/-- To a multiple of zero no word is rounded, since the mask takes one away from zero if the sum
does not. -/
theorem alignUp_zero (x : UInt64) : alignUp x 0 = .error .subOverflow := by
  have mask : Checked.sub 0 1 = .error .subOverflow := rfl
  show (Checked.add x 0 >>= fun sum => Checked.sub sum 1 >>= fun last =>
    Checked.sub 0 1 >>= fun mask => pure (last &&& ~~~mask)) = _
  rw [← bind_assoc, sub_one_of_add_zero, mask]
  split
  · rfl
  · rfl

theorem divCeil_zero (x : UInt64) :
    divCeil x 0 = .error (if x = 0 then .subOverflow else .divByZero) := by
  show (Checked.add x 0 >>= fun sum => Checked.sub sum 1 >>= fun last => Checked.div last 0) = _
  rw [← bind_assoc, sub_one_of_add_zero]
  split
  · rfl
  · rfl

/-! ## Both -/

/-- **Rounding up, wherever it is defined.** For a power of two, a word is rounded to the least
multiple that is not below it, and overflows exactly if the sum of the two does not fit in a word;
so rounding twice is rounding once, and larger words are not rounded to smaller ones. For any unit
but zero, the quotient is the least number of units that are enough for the word, and overflows
where that sum does. With zero in their place both always stop: the multiple at a difference, and
the quotient at a difference if the word is zero too and at the division if it is not. -/
theorem rounding_of_words :
    (∀ (base : UInt64) (k : Nat), base.toNat = 2 ^ k →
      (∀ x, RoundsUp (alignUp x base) (x.toNat + base.toNat) {n | base.toNat ∣ n ∧ x.toNat ≤ n}) ∧
      (∀ x v w, alignUp x base = .ok v → alignUp v base = .ok w → w = v) ∧
      ∀ x y v w, x ≤ y → alignUp x base = .ok v → alignUp y base = .ok w → v ≤ w) ∧
    (∀ x y, y ≠ 0 → RoundsUp (divCeil x y) (x.toNat + y.toNat) {q | x.toNat ≤ q * y.toNat}) ∧
    ∀ x, alignUp x 0 = .error .subOverflow ∧
      divCeil x 0 = .error (if x = 0 then .subOverflow else .divByZero) := by
  refine ⟨fun base k power => ⟨roundsUp_alignUp power, ?_, ?_⟩, fun x y => roundsUp_divCeil x,
    fun x => ⟨alignUp_zero x, divCeil_zero x⟩⟩
  · exact fun x v w => alignUp_idem power
  · exact fun x y v w => alignUp_mono power

/-- The last page of all addresses: what is in the page below it is rounded up to it, and its own
first address, though a multiple, is not rounded at all. -/
theorem rounding_of_last_page :
    (∃ v, alignUp 0xffffffffffffefff 4096 = .ok v ∧
      IsLeast {n | 4096 ∣ n ∧ 0xffffffffffffefff ≤ n} v.toNat) ∧
    alignUp 0xfffffffffffff000 4096 = .error .addOverflow ∧
    (∀ w, alignUp 0x2000 4096 = .ok w → w = 0x2000) ∧
    (∀ w, alignUp 0x2001 4096 = .ok w → 0x2000 ≤ w) ∧
    (∃ v, divCeil 10 4 = .ok v ∧ IsLeast {q | 10 ≤ q * 4} v.toNat) ∧
    alignUp 7 0 = .error .subOverflow ∧ divCeil 7 0 = .error .divByZero := by
  obtain ⟨multiples, quotients, zero⟩ := rounding_of_words
  obtain ⟨pages, again, order⟩ := multiples 4096 12 rfl
  have rounded : alignUp 0x1fff 4096 = .ok 0x2000 := rfl
  refine ⟨?_, ?_, ?_, ?_, ?_, (zero 7).1, (zero 7).2⟩
  · exact (pages 0xffffffffffffefff).exists_least (by decide)
  · exact ((pages 0xfffffffffffff000).error_iff .addOverflow).2 ⟨rfl, by decide⟩
  · exact fun w => again 0x1fff 0x2000 w rounded
  · exact fun w => order 0x1fff 0x2001 0x2000 w (by decide) rounded
  · exact (quotients 10 4 (by decide)).exists_least (by decide)

end Bringup
