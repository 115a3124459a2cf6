import Bringup.Memory.Bitmap.Lemmas

/-!
# The backing bits of a bitmap

`Bitmap.backingBit` reads the memory behind a bitmap bit by bit, the padding past the last slot
included, so two bitmaps of one shape with the same backing bits are equal (`ext_backingBit`). A
write changes the backing bits of the slots it names and no others (`backingBit_setRange`,
`backingBit_unsetRange`); clearing slots that are clear, or clearing in two steps what could be
cleared in one, gives the same bitmap.
-/

namespace Bringup

namespace Bitmap

/-- Bit `p` of the backing memory. Past its end all bits read as clear. -/
def backingBit (b : Bitmap) (p : Nat) : Bool :=
  if h : p / 8 < b.data.size then byteBit b.data[p / 8] (p % 8) else false

theorem get_eq_backingBit (b : Bitmap) (i : Nat) :
    b.get i = (b.backingBit i && decide (i < b.bits)) := by
  by_cases inside : i < b.bits
  · have byte := b.div_lt_size inside
    simp only [get, backingBit, dif_pos inside, dif_pos byte, byteOf, inside, decide_true,
      Bool.and_true]
  · rw [get_of_le b (Nat.le_of_not_lt inside)]
    simp [inside]

/-! ## Writes to one slot -/

/-- What a change of the byte behind slot `i` does to the other backing bits. -/
theorem byteBit_getElem_set (b : Bitmap) {i p : Nat} (byte : UInt8) (hi : i / 8 < b.data.size)
    (hp : p / 8 < (b.data.set (i / 8) byte hi).size) :
    byteBit (b.data.set (i / 8) byte hi)[p / 8] (p % 8) =
      if i / 8 = p / 8 then byteBit byte (p % 8)
      else byteBit (getElem b.data (p / 8) (by rwa [Array.size_set] at hp)) (p % 8) := by
  rw [Array.getElem_set]
  split <;> rfl

theorem backingBit_set (b : Bitmap) (i p : Nat) :
    (b.set i).backingBit p = (b.backingBit p || decide (i = p ∧ i < b.bits)) := by
  -- a slot that does not exist is not written; else only the bits of one byte can change
  by_cases hi : i < b.bits
  · by_cases hp : p / 8 < b.data.size
    · have low : p % 8 < 8 := Nat.mod_lt _ (by decide)
      simp only [backingBit, set, dif_pos hi, Array.size_set, dif_pos hp, byteBit_getElem_set]
      by_cases same : i / 8 = p / 8
      · rw [if_pos same, byteBit_setByteBit _ _ low]
        simp only [byteOf, same, hi, and_true]
        congr 1
        exact decide_eq_decide.2 ⟨fun h => by omega, fun h => by omega⟩
      · have different : ¬ i = p := fun h => same (by rw [h])
        rw [if_neg same]
        simp [different]
    · have different : ¬ i = p := by
        rintro rfl
        exact hp (b.div_lt_size hi)
      simp only [backingBit, size_data_set, dif_neg hp, different, false_and, decide_false,
        Bool.or_false]
  · simp [set, hi]

theorem backingBit_unset (b : Bitmap) (i p : Nat) :
    (b.unset i).backingBit p = (b.backingBit p && !decide (i = p ∧ i < b.bits)) := by
  by_cases hi : i < b.bits
  · by_cases hp : p / 8 < b.data.size
    · have low : p % 8 < 8 := Nat.mod_lt _ (by decide)
      simp only [backingBit, unset, dif_pos hi, Array.size_set, dif_pos hp, byteBit_getElem_set]
      by_cases same : i / 8 = p / 8
      · rw [if_pos same, byteBit_clearByteBit _ _ low]
        simp only [byteOf, same, hi, and_true]
        congr 2
        exact decide_eq_decide.2 ⟨fun h => by omega, fun h => by omega⟩
      · have different : ¬ i = p := fun h => same (by rw [h])
        rw [if_neg same]
        simp [different]
    · simp only [backingBit, size_data_unset, dif_neg hp, Bool.false_and]
  · simp [unset, hi]

/-! ## Writes to a range -/

@[simp]
theorem size_data_setRange (b : Bitmap) (start count : Nat) :
    (b.setRange start count).data.size = b.data.size := by
  induction count generalizing b start with
  | zero => rfl
  | succ count ih => rw [setRange_succ, ih, size_data_set]

@[simp]
theorem size_data_unsetRange (b : Bitmap) (start count : Nat) :
    (b.unsetRange start count).data.size = b.data.size := by
  induction count generalizing b start with
  | zero => rfl
  | succ count ih => rw [unsetRange_succ, ih, size_data_unset]

theorem backingBit_setRange (b : Bitmap) (start count p : Nat) :
    (b.setRange start count).backingBit p =
      (b.backingBit p || decide (start ≤ p ∧ p < start + count ∧ p < b.bits)) := by
  induction count generalizing b start with
  | zero =>
      have outside : ¬ (start ≤ p ∧ p < start + 0 ∧ p < b.bits) := by omega
      rw [decide_eq_false outside, Bool.or_false]
      rfl
  | succ count ih =>
      rw [setRange_succ, ih, backingBit_set, bits_set, Bool.or_assoc, ← Bool.decide_or]
      congr 1
      exact decide_eq_decide.2 (by omega)

theorem backingBit_unsetRange (b : Bitmap) (start count p : Nat) :
    (b.unsetRange start count).backingBit p =
      (b.backingBit p && !decide (start ≤ p ∧ p < start + count ∧ p < b.bits)) := by
  induction count generalizing b start with
  | zero =>
      have outside : ¬ (start ≤ p ∧ p < start + 0 ∧ p < b.bits) := by omega
      rw [decide_eq_false outside]
      simp [unsetRange]
  | succ count ih =>
      rw [unsetRange_succ, ih, backingBit_unset, bits_unset, Bool.and_assoc, ← Bool.not_or,
        ← Bool.decide_or]
      congr 2
      exact decide_eq_decide.2 (by omega)

/-! ## Slots after a write -/

theorem get_set (b : Bitmap) (i j : Nat) :
    (b.set i).get j = (b.get j || decide (i = j ∧ i < b.bits)) := by
  rw [get_eq_backingBit, get_eq_backingBit, bits_set, backingBit_set, Bool.and_or_distrib_right,
    ← Bool.decide_and]
  congr 1
  exact decide_eq_decide.2 (by omega)

theorem get_unset (b : Bitmap) (i j : Nat) :
    (b.unset i).get j = (b.get j && !decide (i = j)) := by
  rw [get_eq_backingBit, get_eq_backingBit, bits_unset, backingBit_unset]
  by_cases inside : j < b.bits
  · have same : (i = j ∧ i < b.bits) ↔ i = j := by omega
    simp only [inside, same, decide_true, Bool.and_true]
  · simp [inside]

theorem get_setRange (b : Bitmap) (start count j : Nat) :
    (b.setRange start count).get j =
      (b.get j || decide (start ≤ j ∧ j < start + count ∧ j < b.bits)) := by
  rw [get_eq_backingBit, get_eq_backingBit, bits_setRange, backingBit_setRange,
    Bool.and_or_distrib_right, ← Bool.decide_and]
  congr 1
  exact decide_eq_decide.2 (by omega)

theorem get_unsetRange (b : Bitmap) (start count j : Nat) :
    (b.unsetRange start count).get j =
      (b.get j && !decide (start ≤ j ∧ j < start + count)) := by
  rw [get_eq_backingBit, get_eq_backingBit, bits_unsetRange, backingBit_unsetRange]
  by_cases inside : j < b.bits
  · simp only [inside, and_true, decide_true, Bool.and_true]
  · simp [inside]

/-! ## Bitmaps with the same backing bits -/

/-- A bitmap is its number of slots, the size of its memory and its backing bits. -/
theorem ext_backingBit {b c : Bitmap} (bits : b.bits = c.bits) (size : b.data.size = c.data.size)
    (same : ∀ p, b.backingBit p = c.backingBit p) : b = c := by
  have data : b.data = c.data := by
    apply Array.ext size
    intro j hb hc
    apply UInt8.toBitVec_inj.1
    apply BitVec.eq_of_getLsbD_eq
    intro k hk
    -- bit `k` of byte `j` is backing bit `8 * j + k`
    have byte : (8 * j + k) / 8 = j := by omega
    have bit : (8 * j + k) % 8 = k := by omega
    have here := same (8 * j + k)
    simp only [backingBit, byte, bit, dif_pos hb, dif_pos hc] at here
    exact here
  cases b
  cases c
  simp only at bits data
  subst bits data
  rfl

/-- Clearing slots that are clear changes nothing. -/
theorem unsetRange_eq_self (b : Bitmap) {start count : Nat}
    (clear : ∀ i, start ≤ i → i < start + count → b.get i = false) :
    b.unsetRange start count = b := by
  apply ext_backingBit (bits_unsetRange b start count) (size_data_unsetRange b start count)
  intro p
  rw [backingBit_unsetRange]
  by_cases inside : start ≤ p ∧ p < start + count ∧ p < b.bits
  · have isClear := clear p inside.1 inside.2.1
    rw [get_eq_backingBit, decide_eq_true inside.2.2, Bool.and_true] at isClear
    rw [isClear, Bool.false_and]
  · rw [decide_eq_false inside]
    simp

/-- Only the slots that exist are cleared. -/
theorem unsetRange_clip (b : Bitmap) (start count : Nat) :
    b.unsetRange start (min (start + count) b.bits - start) = b.unsetRange start count := by
  apply ext_backingBit (by rw [bits_unsetRange, bits_unsetRange])
    (by rw [size_data_unsetRange, size_data_unsetRange])
  intro p
  rw [backingBit_unsetRange, backingBit_unsetRange]
  congr 2
  exact decide_eq_decide.2 (by omega)

/-- Clearing two ranges from slot zero clears the longer one. -/
theorem unsetRange_zero_unsetRange_zero (b : Bitmap) (m n : Nat) :
    (b.unsetRange 0 m).unsetRange 0 n = b.unsetRange 0 (max m n) := by
  apply ext_backingBit (by simp only [bits_unsetRange]) (by simp only [size_data_unsetRange])
  intro p
  rw [backingBit_unsetRange, backingBit_unsetRange, backingBit_unsetRange, bits_unsetRange,
    Bool.and_assoc, ← Bool.not_or, ← Bool.decide_or]
  congr 2
  exact decide_eq_decide.2 (by omega)

end Bitmap

end Bringup
