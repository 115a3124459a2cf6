import Bringup.Proofs.Bitmap.ClearSlots

/-!
# Bitmaps after any writes

A bitmap stands for a finite set of slot numbers, and a history of writes says which: a slot is in
the set unless the last write to it cleared it. `Bitmap.get_afterWrites` is that law for one slot,
by induction on the history; the padding past the last slot and the shape of the bitmap keep through
every write (`Bitmap.backingBit_afterWrites_of_le`, `Bitmap.bits_afterWrites`). A cursor reads the
set back slot by slot. `Bitmap.refines_afterWrites` puts this together for a bitmap over memory with
any contents.
-/

namespace Bringup

/-- A write to one slot. -/
inductive SlotWrite where
  | set (slot : Nat)
  | unset (slot : Nat)
  deriving DecidableEq

namespace SlotWrite

/-- The slot that is written. -/
def slot : SlotWrite → Nat
  | .set slot => slot
  | .unset slot => slot

/-- What the write makes of the slot. -/
def value : SlotWrite → Bool
  | .set _ => true
  | .unset _ => false

end SlotWrite

/-- What the last write to a slot made of it, if there was one. -/
def lastWrite? (writes : List SlotWrite) (i : Nat) : Option Bool :=
  ((writes.filter fun w => w.slot = i).getLast?).map SlotWrite.value

/-- A further write hides the earlier ones to its slot and no others. -/
theorem lastWrite?_concat (writes : List SlotWrite) (w : SlotWrite) (i : Nat) :
    lastWrite? (writes ++ [w]) i = if w.slot = i then some w.value else lastWrite? writes i := by
  by_cases here : w.slot = i
  · simp [lastWrite?, here]
  · simp [lastWrite?, here]

namespace Bitmap

/-! ## One write -/

/-- The bitmap after a write. -/
def write (b : Bitmap) : SlotWrite → Bitmap
  | .set i => b.set i
  | .unset i => b.unset i

theorem bits_write (b : Bitmap) (w : SlotWrite) : (b.write w).bits = b.bits := by
  cases w with
  | set i => exact bits_set b i
  | unset i => exact bits_unset b i

theorem size_data_write (b : Bitmap) (w : SlotWrite) :
    (b.write w).data.size = b.data.size := by
  cases w with
  | set i => exact size_data_set b i
  | unset i => exact size_data_unset b i

/-- A write changes the backing bit of its slot, if the slot exists, and no other bit. -/
theorem backingBit_write (b : Bitmap) (w : SlotWrite) (p : Nat) :
    (b.write w).backingBit p =
      if w.slot = p ∧ p < b.bits then w.value else b.backingBit p := by
  cases w with
  | set i =>
      rw [write, backingBit_set]
      by_cases here : i = p
      · subst here
        by_cases inside : i < b.bits
        · simp [SlotWrite.slot, SlotWrite.value, inside]
        · simp [SlotWrite.slot, inside]
      · simp [SlotWrite.slot, here]
  | unset i =>
      rw [write, backingBit_unset]
      by_cases here : i = p
      · subst here
        by_cases inside : i < b.bits
        · simp [SlotWrite.slot, SlotWrite.value, inside]
        · simp [SlotWrite.slot, inside]
      · simp [SlotWrite.slot, here]

theorem get_write (b : Bitmap) (w : SlotWrite) {i : Nat} (inside : i < b.bits) :
    (b.write w).get i = if w.slot = i then w.value else b.get i := by
  have still : i < (b.write w).bits := by rwa [bits_write]
  simp [get_eq_backingBit, backingBit_write, still, inside]

/-! ## Many writes -/

/-- The bitmap after writes in order. -/
def afterWrites (b : Bitmap) (writes : List SlotWrite) : Bitmap :=
  writes.foldl write b

theorem afterWrites_concat (b : Bitmap) (writes : List SlotWrite) (w : SlotWrite) :
    b.afterWrites (writes ++ [w]) = (b.afterWrites writes).write w :=
  List.foldl_concat ..

@[simp]
theorem bits_afterWrites (b : Bitmap) (writes : List SlotWrite) :
    (b.afterWrites writes).bits = b.bits := by
  induction writes using List.reverseRecOn with
  | nil => rfl
  | append_singleton writes w ih => rw [afterWrites_concat, bits_write, ih]

@[simp]
theorem size_data_afterWrites (b : Bitmap) (writes : List SlotWrite) :
    (b.afterWrites writes).data.size = b.data.size := by
  induction writes using List.reverseRecOn with
  | nil => rfl
  | append_singleton writes w ih => rw [afterWrites_concat, size_data_write, ih]

/-- No write reaches the padding. -/
theorem backingBit_afterWrites_of_le (b : Bitmap) (writes : List SlotWrite) {p : Nat}
    (past : b.bits ≤ p) : (b.afterWrites writes).backingBit p = b.backingBit p := by
  induction writes using List.reverseRecOn with
  | nil => rfl
  | append_singleton writes w ih =>
      rw [afterWrites_concat, backingBit_write, bits_afterWrites, if_neg, ih]
      rintro ⟨-, inside⟩
      omega

/-- A slot is what the last write to it made of it, or what it was without one. -/
theorem get_afterWrites (b : Bitmap) (writes : List SlotWrite) {i : Nat} (inside : i < b.bits) :
    (b.afterWrites writes).get i = (lastWrite? writes i).getD (b.get i) := by
  induction writes using List.reverseRecOn with
  | nil => rfl
  | append_singleton writes w ih =>
      have still : i < (b.afterWrites writes).bits := by rwa [bits_afterWrites]
      rw [afterWrites_concat, get_write _ w still, lastWrite?_concat, ih]
      by_cases here : w.slot = i
      · rw [if_pos here, if_pos here]
        rfl
      · rw [if_neg here, if_neg here]

/-! ## Reading back -/

theorem getElem?_toList (b : Bitmap) {i : Nat} (inside : i < b.bits) :
    b.toList[i]? = some (b.get i) := by
  rw [← b.length_toList] at inside
  rw [List.getElem?_eq_getElem inside, b.getElem_toList]

/-- A cursor at the first slot gives all slots and then nothing more. -/
theorem take_first_of_le (b : Bitmap) {n : Nat} (enough : b.bits ≤ n) :
    (Cursor.first b).take n = b.toList := by
  rw [Cursor.take_eq, toList, Cursor.rest_eq]
  congr 2
  exact Nat.min_eq_right (Nat.le_trans (Nat.sub_le _ _) enough)

/-- A cursor moved on gives the slots from there, as far as there are any. -/
theorem take_skip_first (b : Bitmap) (s n : Nat) :
    ((Cursor.first b).skip s).take n = (List.range' s (min n (b.bits - s))).map b.get := by
  have first : (Cursor.first b).slot = 0 := rfl
  rw [Cursor.take_eq, Cursor.slot_skip, first, Nat.zero_add]
  show (List.range' (min s b.bits) (min n (b.bits - min s b.bits))).map b.get = _
  rcases Nat.le_total s b.bits with inside | past
  · rw [Nat.min_eq_left inside]
  · -- past the end there is nothing left to give
    have fromEnd : min n (b.bits - min s b.bits) = 0 := by omega
    have nothing : min n (b.bits - s) = 0 := by omega
    rw [fromEnd, nothing]
    rfl

/-! ## A bitmap and the set it stands for -/

theorem backingBit_full (memory : Array UInt8) (bits : Nat) {p : Nat}
    (inMemory : p < 8 * memory.size) : (full memory bits).backingBit p = true := by
  have byte : p / 8 < (full memory bits).data.size := by
    rw [full, Array.size_replicate]
    omega
  have low : p % 8 < 8 := Nat.mod_lt p (by decide)
  rw [backingBit, dif_pos byte]
  simp only [full, Array.getElem_replicate]
  exact byteBit_allOnes low

/-- What a bitmap over some memory, full at first, has become after writes: the slots are what the
history says, the padding is untouched, every byte that holds a slot is in the memory, and a cursor
gives all slots, or any stretch of them, and then nothing more. -/
structure Refines (b : Bitmap) (memory : Array UInt8) (bits : Nat) (writes : List SlotWrite) :
    Prop where
  bits_eq : b.bits = min bits (8 * memory.size)
  size_eq : b.data.size = memory.size
  byte_lt : ∀ i < b.bits, i / 8 < b.data.size
  get_past : ∀ i, b.bits ≤ i → b.get i = false
  get_inside : ∀ i < b.bits, b.get i = true ↔ lastWrite? writes i ≠ some false
  padding : ∀ p, b.bits ≤ p → p < 8 * memory.size → b.backingBit p = true
  items : ∀ n, b.bits ≤ n → (Cursor.first b).take n = b.toList
  length_items : b.toList.length = b.bits
  item : ∀ i < b.bits, b.toList[i]? = some (b.get i)
  stretch : ∀ s n, ((Cursor.first b).skip s).take n =
    (List.range' s (min n (b.bits - s))).map b.get
  clearCount_eq : b.clearCount = ((Finset.range b.bits).filter fun i => b.get i = false).card

/-- **A bitmap is the set that its writes describe.** This holds over memory with any contents, for
any number of slots asked for and after any writes, also to slots that do not exist. -/
theorem refines_afterWrites (memory : Array UInt8) (bits : Nat) (writes : List SlotWrite) :
    ((full memory bits).afterWrites writes).Refines memory bits writes := by
  have size : ((full memory bits).afterWrites writes).data.size = memory.size := by
    rw [size_data_afterWrites, full, Array.size_replicate]
  generalize current : (full memory bits).afterWrites writes = b at size ⊢
  have bits_b : b.bits = (full memory bits).bits := by rw [← current, bits_afterWrites]
  refine
    { bits_eq := bits_b
      size_eq := size
      byte_lt := fun i inside => b.div_lt_size inside
      get_past := fun i past => b.get_of_le past
      get_inside := ?_
      padding := ?_
      items := fun n enough => b.take_first_of_le enough
      length_items := b.length_toList
      item := fun i inside => b.getElem?_toList inside
      stretch := b.take_skip_first
      clearCount_eq := b.clearCount_eq_card }
  · -- a slot that exists was set at first, so only a last write that cleared it can have
    intro i inside
    rw [bits_b] at inside
    rw [← current, get_afterWrites _ writes inside, get_full memory bits inside]
    cases last : lastWrite? writes i with
    | none => simp
    | some value => cases value <;> simp
  · intro p past inMemory
    rw [bits_b] at past
    rw [← current, backingBit_afterWrites_of_le _ writes past, backingBit_full memory bits inMemory]

/-- Nine slots over two bytes: slot 8 is cleared, slot 9 does not exist, the padding stays. -/
example : ((full #[0xab, 0] 9).afterWrites [.unset 3, .unset 8, .unset 9, .set 3]).data =
    #[0xff, 0xfe] := by decide

end Bitmap

end Bringup
