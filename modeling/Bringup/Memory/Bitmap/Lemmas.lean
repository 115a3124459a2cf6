import Bringup.Memory.Bitmap

/-!
# Bits, slots and the shape of a bitmap

What the writes on a byte do to its bits, and what the writes on a bitmap leave alone: no write
changes the number of slots or of bytes. A new bitmap has every slot set (`get_full`), and slots
past the last one read as clear (`get_of_le`).
-/

namespace Bringup

/-! ## Bits of a byte -/

theorem byteBit_setByteBit (byte : UInt8) {j : Nat} (k : Nat) (h : j < 8) :
    byteBit (setByteBit byte k) j = (byteBit byte j || decide (k = j)) := by
  simp only [byteBit, setByteBit, BitVec.getLsbD_or, BitVec.getLsbD_twoPow]
  by_cases e : k = j
  · subst e
    simp [h]
  · simp [e]

theorem byteBit_clearByteBit (byte : UInt8) {j : Nat} (k : Nat) (h : j < 8) :
    byteBit (clearByteBit byte k) j = (byteBit byte j && !decide (k = j)) := by
  simp only [byteBit, clearByteBit, BitVec.getLsbD_and, BitVec.getLsbD_not, BitVec.getLsbD_twoPow]
  by_cases e : k = j
  · subst e
    simp [h]
  · simp [e, h]

theorem byteBit_allOnes {k : Nat} (h : k < 8) : byteBit 0xff k = true := by
  have : (0xff : UInt8).toBitVec = BitVec.allOnes 8 := rfl
  rw [byteBit, this, BitVec.getLsbD_allOnes]
  exact decide_eq_true h

namespace Bitmap

/-! ## Writes to one slot -/

@[simp]
theorem bits_set (b : Bitmap) (i : Nat) : (b.set i).bits = b.bits := by
  unfold set
  split <;> rfl

@[simp]
theorem bits_unset (b : Bitmap) (i : Nat) : (b.unset i).bits = b.bits := by
  unfold unset
  split <;> rfl

@[simp]
theorem size_data_set (b : Bitmap) (i : Nat) : (b.set i).data.size = b.data.size := by
  unfold set
  split
  · next h => exact Array.size_set (b.div_lt_size h)
  · rfl

@[simp]
theorem size_data_unset (b : Bitmap) (i : Nat) : (b.unset i).data.size = b.data.size := by
  unfold unset
  split
  · next h => exact Array.size_set (b.div_lt_size h)
  · rfl

theorem get_of_le (b : Bitmap) {i : Nat} (h : b.bits ≤ i) : b.get i = false := by
  unfold get
  rw [dif_neg (Nat.not_lt.2 h)]

theorem get_full (memory : Array UInt8) (bits : Nat) {i : Nat} (h : i < (full memory bits).bits) :
    (full memory bits).get i = true := by
  unfold get
  rw [dif_pos h]
  have bits_lt : i % 8 < 8 := Nat.mod_lt _ (by decide)
  simp only [byteOf, full, Array.getElem_replicate]
  exact byteBit_allOnes bits_lt

/-! ## The list of slots -/

namespace Cursor

variable {b : Bitmap}

theorem next?_of_eq {c : Cursor b} (atEnd : c.slot = b.bits) : c.next? = none :=
  dif_pos atEnd

theorem next?_of_lt {c : Cursor b} (inside : c.slot < b.bits) :
    c.next? = some (b.get c.slot, ⟨c.slot + 1, inside⟩) :=
  dif_neg (Nat.ne_of_lt inside)

theorem toList_readInto (n : Nat) (c : Cursor b) (slots : Array Bool) :
    (c.readInto n slots).toList =
      slots.toList ++ (List.range' c.slot (min n (b.bits - c.slot))).map b.get := by
  induction n generalizing c slots with
  | zero =>
      rw [Nat.zero_min]
      exact (List.append_nil _).symm
  | succ n ih =>
      rw [readInto]
      rcases Nat.eq_or_lt_of_le c.slot_le with atEnd | inside
      · have nothing : min (n + 1) (b.bits - c.slot) = 0 := by omega
        rw [next?_of_eq atEnd, nothing]
        exact (List.append_nil _).symm
      · have one : min (n + 1) (b.bits - c.slot) = min n (b.bits - (c.slot + 1)) + 1 := by omega
        rw [next?_of_lt inside, one]
        dsimp only
        rw [ih, Array.toList_push, List.append_assoc]
        rfl

/-- What a cursor gives is what the view shows from its place on. -/
theorem take_eq (n : Nat) (c : Cursor b) :
    c.take n = (List.range' c.slot (min n (b.bits - c.slot))).map b.get :=
  toList_readInto n c #[]

/-- Skipping stops at the end. -/
theorem slot_skip (n : Nat) (c : Cursor b) : (c.skip n).slot = min (c.slot + n) b.bits := by
  induction n generalizing c with
  | zero => exact (Nat.min_eq_left c.slot_le).symm
  | succ n ih =>
      rw [skip]
      rcases Nat.eq_or_lt_of_le c.slot_le with atEnd | inside
      · rw [next?_of_eq atEnd]
        dsimp only
        omega
      · rw [next?_of_lt inside]
        dsimp only
        rw [ih]
        dsimp only
        omega

theorem rest_eq (c : Cursor b) : c.rest = (List.range' c.slot (b.bits - c.slot)).map b.get := by
  rw [rest, take_eq, Nat.min_self]

end Cursor

theorem toList_eq (b : Bitmap) : b.toList = (List.range b.bits).map b.get := by
  rw [toList, Cursor.rest_eq, List.range_eq_range']
  rfl

@[simp]
theorem length_toList (b : Bitmap) : b.toList.length = b.bits := by
  simp [toList_eq]

theorem getElem_toList (b : Bitmap) {i : Nat} (h : i < b.toList.length) :
    b.toList[i] = b.get i := by
  simp [toList_eq]

/-! ## Writes to a range -/

theorem setRange_succ (b : Bitmap) (start count : Nat) :
    b.setRange start (count + 1) = (b.set start).setRange (start + 1) count := rfl

theorem unsetRange_succ (b : Bitmap) (start count : Nat) :
    b.unsetRange start (count + 1) = (b.unset start).unsetRange (start + 1) count := rfl

@[simp]
theorem bits_setRange (b : Bitmap) (start count : Nat) :
    (b.setRange start count).bits = b.bits := by
  induction count generalizing b start with
  | zero => rfl
  | succ count ih => rw [setRange_succ, ih, bits_set]

@[simp]
theorem bits_unsetRange (b : Bitmap) (start count : Nat) :
    (b.unsetRange start count).bits = b.bits := by
  induction count generalizing b start with
  | zero => rfl
  | succ count ih => rw [unsetRange_succ, ih, bits_unset]

end Bitmap

end Bringup
