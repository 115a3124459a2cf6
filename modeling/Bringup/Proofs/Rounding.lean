import Mathlib.Algebra.Order.Floor.Div
import Bringup.Memory.Page

/-!
# Rounding to whole units

`divCeil` and `alignUp` are given in closed form over the natural numbers: each has the exact
rounded value when the sum of its operands fits in a word (`divCeil_of_lt`, `alignUp_of_lt`) and
overflows otherwise (`divCeil_of_le`, `alignUp_of_le`). Clearing the low bits of a word rounds it
down (`toNat_clearLow`), which is what ties the mask of `alignUp` to a multiple.
-/

namespace Bringup

theorem toNat_pageSize : pageSize.toNat = 4096 := rfl

/-! ## Words below their bound -/

theorem wordSize_eq : UInt64.size = 2 ^ 64 := rfl

theorem eq_ofNat_of_toNat_eq {x : UInt64} {n : Nat} (h : x.toNat = n) : x = UInt64.ofNat n := by
  rw [← h, UInt64.ofNat_toNat]

namespace Checked

theorem add_of_lt {a b : UInt64} (h : a.toNat + b.toNat < 2 ^ 64) : add a b = .ok (a + b) :=
  add_eq_ok_iff.2 ⟨h, rfl⟩

theorem add_of_le {a b : UInt64} (h : 2 ^ 64 ≤ a.toNat + b.toNat) :
    add a b = .error .addOverflow := by
  unfold add
  split
  · next fits =>
      have := (add_eq_ok_iff (c := a + b)).1 (if_pos fits)
      rw [wordSize_eq] at this
      omega
  · rfl

theorem indexAdd_of_lt {a b : Nat} (h : a + b < 2 ^ 64) : indexAdd a b = .ok (a + b) := by
  unfold indexAdd
  rw [wordSize_eq, if_pos h]

end Checked

/-- Words with an exact sum are added without loss. -/
theorem toNat_add_of_lt {a b : UInt64} (h : a.toNat + b.toNat < 2 ^ 64) :
    (a + b).toNat = a.toNat + b.toNat := by
  rw [UInt64.toNat_add, Nat.mod_eq_of_lt h]

/-- Words are subtracted without loss from words that are not below them. -/
theorem toNat_sub_of_le {a b : UInt64} (h : b.toNat ≤ a.toNat) :
    (a - b).toNat = a.toNat - b.toNat :=
  UInt64.toNat_sub_of_le a b (UInt64.le_iff_toNat_le.2 h)

/-! ## Quotients rounded up -/

/-- The last address that a rounded sum reaches, one below the sum of the operands. -/
theorem sub_one_of_add {x y : UInt64} (fits : x.toNat + y.toNat < 2 ^ 64) (positive : 0 < y.toNat) :
    Checked.sub (x + y) 1 = .ok (x + y - 1) ∧ (x + y - 1).toNat = x.toNat + y.toNat - 1 := by
  have sum := toNat_add_of_lt fits
  have one : (1 : UInt64).toNat = 1 := rfl
  have below : (1 : UInt64).toNat ≤ (x + y).toNat := by omega
  refine ⟨Checked.sub_eq_ok_iff.2 ⟨UInt64.le_iff_toNat_le.2 below, rfl⟩, ?_⟩
  rw [toNat_sub_of_le below, sum, one]

theorem divCeil_of_lt {x y : UInt64} (fits : x.toNat + y.toNat < 2 ^ 64) (positive : 0 < y.toNat) :
    divCeil x y = .ok (UInt64.ofNat (x.toNat ⌈/⌉ y.toNat)) := by
  obtain ⟨last, value⟩ := sub_one_of_add fits positive
  have nonzero : y ≠ 0 := by
    rintro rfl
    exact absurd positive (Nat.lt_irrefl 0)
  have quotient : Checked.div (x + y - 1) y = .ok ((x + y - 1) / y) :=
    Checked.div_eq_ok_iff.2 ⟨nonzero, rfl⟩
  unfold divCeil
  rw [Checked.add_of_lt fits]
  show (Checked.sub (x + y) 1 >>= fun last => Checked.div last y) = _
  rw [last]
  show Checked.div (x + y - 1) y = _
  rw [quotient]
  congr 1
  apply eq_ofNat_of_toNat_eq
  rw [UInt64.toNat_div, value, Nat.ceilDiv_eq_add_pred_div]

theorem divCeil_of_le {x y : UInt64} (h : 2 ^ 64 ≤ x.toNat + y.toNat) :
    divCeil x y = .error .addOverflow := by
  unfold divCeil
  rw [Checked.add_of_le h]
  rfl

/-! ## Multiples of a power of two -/

/-- Clearing the `k` low bits of a word rounds it down to a multiple of `2 ^ k`. -/
theorem toNat_clearLow {base : UInt64} {k : Nat} (power : base.toNat = 2 ^ k) (x : UInt64) :
    (x &&& ~~~(base - 1)).toNat = base.toNat * (x.toNat / base.toNat) := by
  have positive : 0 < 2 ^ k := Nat.two_pow_pos k
  have one : (1 : UInt64).toNat = 1 := rfl
  have mask : (base - 1).toNat = 2 ^ k - 1 := by
    rw [toNat_sub_of_le (by omega), power, one]
  have bound : 2 ^ k - 1 < 2 ^ 64 := by
    rw [← mask]
    exact (base - 1).toNat_lt
  have complement : (~~~(base - 1)).toNat = 2 ^ 64 - (2 ^ k - 1 + 1) := by
    rw [UInt64.toNat_not, mask]
    show 2 ^ 64 - 1 - (2 ^ k - 1) = _
    omega
  rw [UInt64.toNat_and, complement, power, Nat.mul_comm]
  -- bit by bit: clear below `k`, that of `x` from `k` on
  apply Nat.eq_of_testBit_eq
  intro i
  rw [Nat.testBit_and, Nat.testBit_two_pow_sub_succ bound, Nat.testBit_two_pow_sub_one,
    Nat.testBit_mul_two_pow, Nat.testBit_div_two_pow]
  by_cases low : i < k
  · simp [low, Nat.not_le.2 low]
  · have high : k ≤ i := Nat.le_of_not_lt low
    by_cases inside : i < 64
    · simp [low, high, inside, Nat.sub_add_cancel high]
    · have out : x.toNat.testBit i = false := by
        apply Nat.testBit_lt_two_pow
        have past : 2 ^ 64 ≤ 2 ^ i := Nat.pow_le_pow_right (by decide) (Nat.le_of_not_lt inside)
        exact Nat.lt_of_lt_of_le x.toNat_lt past
      simp [Nat.sub_add_cancel high, out]

theorem alignUp_of_lt {x base : UInt64} {k : Nat} (power : base.toNat = 2 ^ k)
    (fits : x.toNat + base.toNat < 2 ^ 64) :
    alignUp x base = .ok (UInt64.ofNat (base.toNat * (x.toNat ⌈/⌉ base.toNat))) := by
  have positive : 0 < base.toNat := power ▸ Nat.two_pow_pos k
  obtain ⟨last, value⟩ := sub_one_of_add fits positive
  have one : (1 : UInt64).toNat = 1 := rfl
  have mask : Checked.sub base 1 = .ok (base - 1) :=
    Checked.sub_eq_ok_iff.2 ⟨UInt64.le_iff_toNat_le.2 (by omega), rfl⟩
  unfold alignUp
  rw [Checked.add_of_lt fits]
  show (Checked.sub (x + base) 1 >>= fun last => Checked.sub base 1 >>= fun mask =>
    pure (last &&& ~~~mask)) = _
  rw [last]
  show (Checked.sub base 1 >>= fun mask => pure ((x + base - 1) &&& ~~~mask)) = _
  rw [mask]
  show Except.ok ((x + base - 1) &&& ~~~(base - 1)) = _
  congr 1
  apply eq_ofNat_of_toNat_eq
  rw [toNat_clearLow power, value, Nat.ceilDiv_eq_add_pred_div]

theorem alignUp_of_le {x base : UInt64} (h : 2 ^ 64 ≤ x.toNat + base.toNat) :
    alignUp x base = .error .addOverflow := by
  unfold alignUp
  rw [Checked.add_of_le h]
  rfl

/-! ## Pages and frames -/

theorem pageBytes_of_lt {count : Nat} (h : 4096 * count < 2 ^ 64) :
    pageBytes count = .ok (UInt64.ofNat (4096 * count)) := by
  have comm : count * pageSize.toNat = 4096 * count := Nat.mul_comm count 4096
  unfold pageBytes
  rw [comm, wordSize_eq, if_pos h]

namespace Frame

theorem containing_eq (addr : UInt64) : containing addr = addr.toNat / 4096 :=
  UInt64.toNat_div addr pageSize

theorem start_of_lt {index : Nat} (h : 4096 * index < 2 ^ 64) :
    start index = .ok (UInt64.ofNat (4096 * index)) :=
  pageBytes_of_lt h

/-- The frame at a frame's own address is that frame. -/
theorem containing_ofNat {index : Nat} (h : 4096 * index < 2 ^ 64) :
    containing (UInt64.ofNat (4096 * index)) = index := by
  rw [containing_eq, UInt64.toNat_ofNat_of_lt' h, Nat.mul_div_cancel_left _ (by decide)]

end Frame

end Bringup
