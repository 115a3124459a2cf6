import Mathlib.Data.Finset.Card
import Mathlib.Order.Interval.Finset.Nat
import Bringup.Proofs.Bitmap.Backing

/-!
# The set of clear slots

A bitmap stands for the finite set of its clear slots, `Bitmap.clearSlots`. Setting a range takes
the range out of the set, clearing a range puts in what exists of it, and `clearCount` is the
number of elements.
-/

namespace Bringup

namespace Bitmap

/-- The slots that are clear. -/
def clearSlots (b : Bitmap) : Finset Nat :=
  (Finset.range b.bits).filter fun i => b.get i = false

@[simp]
theorem mem_clearSlots {b : Bitmap} {i : Nat} :
    i ∈ b.clearSlots ↔ i < b.bits ∧ b.get i = false := by
  rw [clearSlots, Finset.mem_filter, Finset.mem_range]

theorem get_eq_false_of_mem {b : Bitmap} {i : Nat} (h : i ∈ b.clearSlots) : b.get i = false :=
  (mem_clearSlots.1 h).2

/-- Below the last slot, membership is the negation of the slot. -/
theorem not_mem_clearSlots_iff {b : Bitmap} {i : Nat} (inside : i < b.bits) :
    i ∉ b.clearSlots ↔ b.get i = true := by
  rw [mem_clearSlots, not_and, Bool.not_eq_false]
  exact ⟨fun h => h inside, fun h _ => h⟩

theorem clearSlots_subset_range (b : Bitmap) : b.clearSlots ⊆ Finset.range b.bits :=
  Finset.filter_subset _ _

theorem card_clearSlots_le (b : Bitmap) : b.clearSlots.card ≤ b.bits := by
  have := Finset.card_le_card b.clearSlots_subset_range
  rwa [Finset.card_range] at this

/-- A run of clear slots lies below the last slot, if there is anything in it. -/
theorem add_le_of_Ico_subset {b : Bitmap} {start count : Nat} (positive : 0 < count)
    (run : Finset.Ico start (start + count) ⊆ b.clearSlots) : start + count ≤ b.bits := by
  have last : start + count - 1 ∈ Finset.Ico start (start + count) :=
    Finset.mem_Ico.2 ⟨by omega, by omega⟩
  have inside := (mem_clearSlots.1 (run last)).1
  omega

/-- The number of clear slots is the size of their set. -/
theorem clearCount_eq_card (b : Bitmap) : b.clearCount = b.clearSlots.card := by
  -- over the first `n` slots, by induction on `n`
  have counted : ∀ n, ((List.range n).map b.get).count false =
      ((Finset.range n).filter fun i => b.get i = false).card := by
    intro n
    induction n with
    | zero => rfl
    | succ n ih =>
        rw [List.range_succ, List.map_append, List.count_append, ih, Finset.range_add_one,
          Finset.filter_insert]
        cases used : b.get n with
        | true => simp [used]
        | false =>
            have fresh : n ∉ (Finset.range n).filter fun i => b.get i = false := by simp
            simp [used, Finset.card_insert_of_notMem fresh]
  rw [clearCount, toList_eq]
  exact counted b.bits

/-! ## Writes -/

theorem clearSlots_full (memory : Array UInt8) (bits : Nat) :
    (full memory bits).clearSlots = ∅ := by
  apply Finset.eq_empty_of_forall_notMem
  intro i mem
  obtain ⟨inside, clear⟩ := mem_clearSlots.1 mem
  rw [get_full memory bits inside] at clear
  exact Bool.noConfusion clear

theorem clearSlots_setRange (b : Bitmap) (start count : Nat) :
    (b.setRange start count).clearSlots =
      b.clearSlots \ Finset.Ico start (start + count) := by
  ext i
  simp only [mem_clearSlots, bits_setRange, get_setRange, Finset.mem_sdiff, Finset.mem_Ico,
    Bool.or_eq_false_iff, decide_eq_false_iff_not]
  constructor
  · rintro ⟨inside, clear, outside⟩
    exact ⟨⟨inside, clear⟩, fun between => outside ⟨between.1, between.2, inside⟩⟩
  · rintro ⟨⟨inside, clear⟩, outside⟩
    exact ⟨inside, clear, fun between => outside ⟨between.1, between.2.1⟩⟩

theorem clearSlots_unsetRange (b : Bitmap) (start count : Nat) :
    (b.unsetRange start count).clearSlots =
      b.clearSlots ∪ (Finset.Ico start (start + count)).filter (· < b.bits) := by
  ext i
  simp only [mem_clearSlots, bits_unsetRange, get_unsetRange, Finset.mem_union, Finset.mem_filter,
    Finset.mem_Ico, Bool.and_eq_false_iff, Bool.not_eq_false', decide_eq_true_eq]
  constructor
  · rintro ⟨inside, clear | between⟩
    · exact Or.inl ⟨inside, clear⟩
    · exact Or.inr ⟨between, inside⟩
  · rintro (⟨inside, clear⟩ | ⟨between, inside⟩)
    · exact ⟨inside, Or.inl clear⟩
    · exact ⟨inside, Or.inr between⟩

end Bitmap

end Bringup
