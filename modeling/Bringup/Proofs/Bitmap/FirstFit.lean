import Mathlib.Order.Bounds.Basic
import Bringup.Proofs.Bitmap.ClearSlots

/-!
# Searching a bitmap for clear runs

`Bitmap.firstFit` scans the slots once and keeps the clear run that ends before the slot at hand.
`ScanState` says what is known when a slot is reached; the scan carries it from slot to slot, and
at the end it gives the least place where the wanted number of slots is clear, if there is one
(`firstFit_eq_some_iff`, `firstFit_eq_none_iff`). `clearRunLength` is the length of the longest
clear run from a slot on (`Ico_subset_iff_le_clearRunLength`).
-/

namespace Bringup

namespace Bitmap

/-- What the scan for `count` clear slots knows at slot `i`: the `run` slots before `i` are clear,
they begin at `start` if there are any, and no run of `count` clear slots begins before them. -/
structure ScanState (b : Bitmap) (count i start run : Nat) : Prop where
  run_le : run ≤ i
  run_lt : run < count
  start_add : run ≠ 0 → start + run = i
  clear : ∀ j, i - run ≤ j → j < i → j ∈ b.clearSlots
  none_before : ∀ s, s + run < i → ¬ Finset.Ico s (s + count) ⊆ b.clearSlots

namespace ScanState

variable {b : Bitmap} {count i start run : Nat}

theorem zero (b : Bitmap) {count : Nat} (positive : 0 < count) : ScanState b count 0 0 0 where
  run_le := Nat.le_refl 0
  run_lt := positive
  start_add := fun h => absurd rfl h
  clear := fun j _ below => absurd below (Nat.not_lt_zero j)
  none_before := fun _ below => absurd below (Nat.not_lt_zero _)

/-- A run that begins no later than slot `i` and is longer than what is clear before it covers
slot `i`. -/
theorem mem_of_le (state : ScanState b count i start run) {s : Nat} (late : ¬ s + run < i)
    (early : s ≤ i) : i ∈ Finset.Ico s (s + count) := by
  have := state.run_lt
  exact Finset.mem_Ico.2 ⟨early, by omega⟩

/-- A used slot ends the run. -/
theorem used (state : ScanState b count i start run) (isUsed : i ∉ b.clearSlots) :
    ScanState b count (i + 1) start 0 where
  run_le := Nat.zero_le _
  run_lt := Nat.lt_of_le_of_lt (Nat.zero_le _) state.run_lt
  start_add := fun h => absurd rfl h
  clear := fun j above below => absurd below (by omega)
  none_before := by
    intro s below fits
    by_cases early : s + run < i
    · exact state.none_before s early fits
    · exact isUsed (fits (state.mem_of_le early (by omega)))

/-- Where the run that slot `i` ends begins, once slot `i` is clear. -/
theorem start_extend (state : ScanState b count i start run) :
    (if run = 0 then i else start) + run = i := by
  by_cases fresh : run = 0
  · rw [if_pos fresh, fresh]
    rfl
  · rw [if_neg fresh]
    exact state.start_add fresh

/-- The slots of the run that slot `i` ends are clear. -/
theorem clear_extend (state : ScanState b count i start run) (isClear : i ∈ b.clearSlots) {j : Nat}
    (above : i - run ≤ j) (below : j < i + 1) : j ∈ b.clearSlots := by
  by_cases last : j = i
  · rwa [last]
  · exact state.clear j above (by omega)

/-- A clear slot extends the run, if the run is still too short. -/
theorem extend (state : ScanState b count i start run) (isClear : i ∈ b.clearSlots)
    (short : run + 1 ≠ count) :
    ScanState b count (i + 1) (if run = 0 then i else start) (run + 1) where
  run_le := Nat.succ_le_succ state.run_le
  run_lt := by
    have := state.run_lt
    omega
  start_add := by
    intro _
    have := state.start_extend
    omega
  clear := fun j above below => state.clear_extend isClear (by omega) below
  none_before := fun s below => state.none_before s (by omega)

/-- A clear slot completes the run, if one slot was missing. -/
theorem complete (state : ScanState b count i start run) (isClear : i ∈ b.clearSlots)
    (full : run + 1 = count) :
    IsLeast {s | Finset.Ico s (s + count) ⊆ b.clearSlots} (if run = 0 then i else start) := by
  have begins := state.start_extend
  constructor
  · intro j mem
    obtain ⟨above, below⟩ := Finset.mem_Ico.1 mem
    exact state.clear_extend isClear (by omega) (by omega)
  · -- an earlier place begins before the run, where nothing fits
    intro s fits
    by_contra early
    exact state.none_before s (by omega) fits

/-- At the end of the slots no run is long enough. -/
theorem none_fits (state : ScanState b count i start run) (past : b.bits ≤ i) (s : Nat) :
    ¬ Finset.Ico s (s + count) ⊆ b.clearSlots := by
  intro fits
  by_cases early : s + run < i
  · exact state.none_before s early fits
  · have longer := state.run_lt
    have inside := add_le_of_Ico_subset (by omega) fits
    omega

end ScanState

/-! ## First fit -/

/-- A slot is read off the list of slots. -/
theorem head_of_toList_drop {b : Bitmap} {i : Nat} {used : Bool} {slots : List Bool}
    (at_i : b.toList.drop i = used :: slots) :
    i < b.bits ∧ b.get i = used ∧ b.toList.drop (i + 1) = slots := by
  have inside : i < b.toList.length := by
    by_contra past
    rw [List.drop_eq_nil_of_le (Nat.le_of_not_lt past)] at at_i
    cases at_i
  rw [List.drop_eq_getElem_cons inside, getElem_toList] at at_i
  obtain ⟨head, tail⟩ := List.cons.inj at_i
  exact ⟨by rwa [length_toList] at inside, head, tail⟩

/-- The scan over the slots from `i` on finds the least place that fits, or shows that none
does. -/
theorem firstFitFrom_spec {b : Bitmap} {count : Nat} (slots : List Bool) :
    ∀ {i start run : Nat}, b.toList.drop i = slots → ScanState b count i start run →
      match firstFitFrom count i start run slots with
      | some s => IsLeast {s | Finset.Ico s (s + count) ⊆ b.clearSlots} s
      | none => ∀ s, ¬ Finset.Ico s (s + count) ⊆ b.clearSlots := by
  -- on the slots that are left, with `ScanState` carried from each to the next
  induction slots with
  | nil =>
      intro i start run rest state
      have past : b.bits ≤ i := by
        rw [← length_toList]
        exact List.drop_eq_nil_iff.1 rest
      exact state.none_fits past
  | cons used slots ih =>
      intro i start run rest state
      obtain ⟨inside, here, tail⟩ := head_of_toList_drop rest
      cases used with
      | true =>
          have isUsed := (not_mem_clearSlots_iff inside).2 here
          exact ih tail (state.used isUsed)
      | false =>
          have isClear := mem_clearSlots.2 ⟨inside, here⟩
          unfold firstFitFrom
          by_cases full : run + 1 = count
          · simp only [if_pos full]
            exact state.complete isClear full
          · simp only [if_neg full]
            exact ih tail (state.extend isClear full)

theorem firstFit_spec (b : Bitmap) {count : Nat} (positive : 0 < count) :
    match b.firstFit count with
    | some s => IsLeast {s | Finset.Ico s (s + count) ⊆ b.clearSlots} s
    | none => ∀ s, ¬ Finset.Ico s (s + count) ⊆ b.clearSlots :=
  firstFitFrom_spec b.toList rfl (ScanState.zero b positive)

/-- The place found is the least one from which enough slots are clear. -/
theorem firstFit_eq_some_iff (b : Bitmap) {count : Nat} (positive : 0 < count) {s : Nat} :
    b.firstFit count = some s ↔ IsLeast {s | Finset.Ico s (s + count) ⊆ b.clearSlots} s := by
  have spec := b.firstFit_spec positive
  cases found : b.firstFit count with
  | none =>
      rw [found] at spec
      exact ⟨(nomatch ·), fun least => absurd least.1 (spec s)⟩
  | some t =>
      rw [found] at spec
      rw [Option.some.injEq]
      constructor
      · rintro rfl
        exact spec
      · exact fun least => spec.unique least

/-- Nothing is found exactly when no run of clear slots is long enough. -/
theorem firstFit_eq_none_iff (b : Bitmap) {count : Nat} (positive : 0 < count) :
    b.firstFit count = none ↔ ∀ s, ¬ Finset.Ico s (s + count) ⊆ b.clearSlots := by
  have spec := b.firstFit_spec positive
  cases found : b.firstFit count with
  | none =>
      rw [found] at spec
      exact ⟨fun _ => spec, fun _ => rfl⟩
  | some t =>
      rw [found] at spec
      exact ⟨(nomatch ·), fun empty => absurd spec.1 (empty t)⟩

/-! ## The run from a slot on -/

theorem clearRunLength_of_not_mem {b : Bitmap} {i : Nat} (h : i ∉ b.clearSlots) :
    b.clearRunLength i = 0 := by
  unfold clearRunLength
  cases rest : b.toList.drop i with
  | nil => rfl
  | cons used slots =>
      obtain ⟨inside, here, -⟩ := head_of_toList_drop rest
      rw [(not_mem_clearSlots_iff inside).1 h] at here
      subst here
      rfl

theorem clearRunLength_of_mem {b : Bitmap} {i : Nat} (h : i ∈ b.clearSlots) :
    b.clearRunLength i = b.clearRunLength (i + 1) + 1 := by
  obtain ⟨inside, clear⟩ := mem_clearSlots.1 h
  have inList : i < b.toList.length := by rwa [length_toList]
  unfold clearRunLength
  rw [List.drop_eq_getElem_cons inList, getElem_toList, clear]
  rfl

/-- The run from slot `i` on is clear up to its length and no further. -/
theorem Ico_subset_iff_le_clearRunLength (b : Bitmap) (i count : Nat) :
    Finset.Ico i (i + count) ⊆ b.clearSlots ↔ count ≤ b.clearRunLength i := by
  induction count generalizing i with
  | zero => simp
  | succ count ih =>
      have split : Finset.Ico i (i + (count + 1)) =
          insert i (Finset.Ico (i + 1) (i + 1 + count)) := by
        ext j
        simp only [Finset.mem_Ico, Finset.mem_insert]
        omega
      -- the first slot decides, the others are the run from the next slot on
      rw [split, Finset.insert_subset_iff, ih]
      by_cases clear : i ∈ b.clearSlots
      · rw [clearRunLength_of_mem clear]
        exact ⟨fun h => Nat.succ_le_succ h.2, fun h => ⟨clear, Nat.le_of_succ_le_succ h⟩⟩
      · rw [clearRunLength_of_not_mem clear]
        exact ⟨fun h => absurd h.1 clear, fun h => absurd h (Nat.not_succ_le_zero count)⟩

end Bitmap

end Bringup
