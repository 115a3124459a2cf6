import Bringup.Memory.FrameAllocator.Setup
import Bringup.Proofs.Rounding

/-!
# The usable regions of a memory map

What the setup of the allocator reads off a memory map: the highest end of a usable region
(`highestEnd`) and the most whole pages that a usable region has (`mostPages`), both maxima over
the usable regions (`usableMax`). The survey finds the highest end unless some usable region ends
past the last address (`survey_of_fits`, `survey_snd_of_overflow`).
-/

namespace Bringup

namespace Region

/-- The number after the last address of a region, even if it is no address. -/
def limit (r : Region) : Nat :=
  r.base.toNat + r.length.toNat

/-- The whole pages that a region has room for, counted from its base. -/
def wholePages (r : Region) : Nat :=
  r.length.toNat / 4096

/-- The region without its first `size` bytes. -/
def withoutFront (r : Region) (size : UInt64) : Region :=
  { r with base := r.base + size, length := r.length - size }

theorem stop_of_lt {r : Region} (h : r.limit < 2 ^ 64) : r.stop = .ok (r.base + r.length) :=
  Checked.add_of_lt h

theorem stop_of_le {r : Region} (h : 2 ^ 64 ≤ r.limit) : r.stop = .error .addOverflow :=
  Checked.add_of_le h

theorem toNat_stop {r : Region} (h : r.limit < 2 ^ 64) :
    (r.base + r.length).toNat = r.limit :=
  toNat_add_of_lt h

@[simp]
theorem isUsable_withoutFront (r : Region) (size : UInt64) :
    (r.withoutFront size).isUsable = r.isUsable := rfl

section WithoutFront

variable {r : Region} {size : UInt64} (large : size ≤ r.length) (fits : r.limit < 2 ^ 64)

include large

theorem toNat_length_withoutFront :
    (r.withoutFront size).length.toNat = r.length.toNat - size.toNat :=
  toNat_sub_of_le (UInt64.le_iff_toNat_le.1 large)

include fits

theorem toNat_base_withoutFront :
    (r.withoutFront size).base.toNat = r.base.toNat + size.toNat := by
  have := UInt64.le_iff_toNat_le.1 large
  unfold limit at fits
  exact toNat_add_of_lt (by omega)

/-- Giving up the front of a region does not move its end. -/
theorem limit_withoutFront : (r.withoutFront size).limit = r.limit := by
  have := UInt64.le_iff_toNat_le.1 large
  unfold limit
  rw [toNat_base_withoutFront large fits, toNat_length_withoutFront large]
  omega

theorem dropFront_of_le : r.dropFront size = .ok (r.withoutFront size) := by
  have := UInt64.le_iff_toNat_le.1 large
  have base : Checked.add r.base size = .ok (r.base + size) := by
    unfold limit at fits
    exact Checked.add_of_lt (by omega)
  have length : Checked.sub r.length size = .ok (r.length - size) :=
    Checked.sub_eq_ok_iff.2 ⟨large, rfl⟩
  unfold dropFront
  simp only [base, length]
  rfl

end WithoutFront

end Region

/-! ## Maxima over the usable regions -/

/-- The greatest value of `f` on a usable region, or zero if there is none. -/
def usableMax (f : Region → Nat) : List Region → Nat
  | [] => 0
  | r :: regions => if r.isUsable then max (f r) (usableMax f regions) else usableMax f regions

/-- The highest end of a usable region. -/
def highestEnd (regions : List Region) : Nat :=
  usableMax Region.limit regions

/-- The most whole pages that a usable region has. -/
def mostPages (regions : List Region) : Nat :=
  usableMax Region.wholePages regions

theorem usableMax_cons (f : Region → Nat) (r : Region) (regions : List Region) :
    usableMax f (r :: regions) = max (if r.isUsable then f r else 0) (usableMax f regions) := by
  rw [usableMax]
  cases r.isUsable with
  | true => rfl
  | false => exact (Nat.zero_max _).symm

theorem lt_usableMax_iff {f : Region → Nat} {regions : List Region} {k : Nat} :
    k < usableMax f regions ↔ ∃ r ∈ regions, r.isUsable ∧ k < f r := by
  induction regions with
  | nil => simp [usableMax]
  | cons r regions ih =>
      rw [usableMax_cons, lt_max_iff, ih]
      by_cases usable : r.isUsable
      · simp [usable]
      · simp [usable]

theorem le_usableMax {f : Region → Nat} {regions : List Region} {r : Region} (mem : r ∈ regions)
    (usable : r.isUsable) : f r ≤ usableMax f regions := by
  by_contra less
  exact Nat.lt_irrefl _ (lt_usableMax_iff.2 ⟨r, mem, usable, Nat.lt_of_not_le less⟩)

theorem limit_le_highestEnd {regions : List Region} {r : Region} (mem : r ∈ regions)
    (usable : r.isUsable) : r.limit ≤ highestEnd regions :=
  le_usableMax mem usable

/-- The other regions do not count. -/
theorem usableMax_filter (f : Region → Nat) (regions : List Region) :
    usableMax f (regions.filter Region.isUsable) = usableMax f regions := by
  induction regions with
  | nil => rfl
  | cons r regions ih =>
      by_cases usable : r.isUsable
      · rw [List.filter_cons_of_pos usable, usableMax_cons, usableMax_cons, ih]
      · rw [List.filter_cons_of_neg usable, usableMax_cons, ih, if_neg usable, Nat.zero_max]

/-- With one usable region a maximum is its value. -/
theorem usableMax_of_filter_eq {f : Region → Nat} {regions : List Region} {r : Region}
    (only : regions.filter Region.isUsable = [r]) : usableMax f regions = f r := by
  have mem : r ∈ regions.filter Region.isUsable := by
    rw [only]
    exact List.mem_cons_self
  have usable := (List.mem_filter.1 mem).2
  rw [← usableMax_filter, only, usableMax_cons, if_pos usable]
  exact Nat.max_zero _

/-- Replacing a region by one of the same use and the same value changes no maximum. -/
theorem usableMax_replace {f : Region → Nat} {host left : Region}
    (use : left.isUsable = host.isUsable) (value : f left = f host) (before after : List Region) :
    usableMax f (before ++ left :: after) = usableMax f (before ++ host :: after) := by
  induction before with
  | nil => rw [List.nil_append, List.nil_append, usableMax_cons, usableMax_cons, use, value]
  | cons r before ih => rw [List.cons_append, List.cons_append, usableMax_cons, usableMax_cons, ih]

/-! ## The survey -/

namespace FrameAllocator

theorem survey_cons_of_not_usable {r : Region} (other : r.isUsable = false) (high : UInt64)
    (regions : List Region) : survey high (r :: regions) = survey high regions := by
  rw [survey, other]
  rfl

theorem survey_cons_of_lt {r : Region} (usable : r.isUsable) (fits : r.limit < 2 ^ 64)
    (high : UInt64) (regions : List Region) :
    survey high (r :: regions) =
      (r.base :: (survey (max high (r.base + r.length)) regions).1,
        (survey (max high (r.base + r.length)) regions).2) := by
  rw [survey, if_pos usable, Region.stop_of_lt fits]

theorem survey_cons_of_le {r : Region} (usable : r.isUsable) (past : 2 ^ 64 ≤ r.limit)
    (high : UInt64) (regions : List Region) :
    survey high (r :: regions) = ([r.base], .error .addOverflow) := by
  rw [survey, if_pos usable, Region.stop_of_le past]

theorem toNat_max (x y : UInt64) : (max x y).toNat = max x.toNat y.toNat := by
  show (if x ≤ y then y else x).toNat = _
  by_cases h : x ≤ y
  · rw [if_pos h, max_eq_right (UInt64.le_iff_toNat_le.1 h)]
  · have above : y.toNat ≤ x.toNat :=
      Nat.le_of_not_le fun below => h (UInt64.le_iff_toNat_le.2 below)
    rw [if_neg h, max_eq_left above]

/-- Without an end past the last address the survey finds the highest end. -/
theorem survey_of_fits (regions : List Region) :
    ∀ high : UInt64, (∀ r ∈ regions, r.isUsable → r.limit < 2 ^ 64) →
      survey high regions =
        ((regions.filter Region.isUsable).map Region.base,
          .ok (UInt64.ofNat (max high.toNat (highestEnd regions)))) := by
  induction regions with
  | nil =>
      intro high _
      show ([], Except.ok high) = ([], Except.ok (UInt64.ofNat (max high.toNat 0)))
      rw [Nat.max_zero, UInt64.ofNat_toNat]
  | cons r regions ih =>
      intro high fits
      have rest := fun s mem => fits s (List.mem_cons_of_mem r mem)
      unfold highestEnd
      rw [usableMax_cons]
      cases usable : r.isUsable with
      | false =>
          rw [survey_cons_of_not_usable usable, ih high rest,
            List.filter_cons_of_neg (by simp [usable])]
          simp [highestEnd]
      | true =>
          have here := fits r List.mem_cons_self usable
          rw [survey_cons_of_lt usable here, ih _ rest, List.filter_cons_of_pos usable, toNat_max,
            Region.toNat_stop here]
          simp only [List.map_cons, if_true, highestEnd, max_assoc]

/-- A usable region that ends past the last address stops the survey. -/
theorem survey_snd_of_overflow (regions : List Region) :
    ∀ high : UInt64, (∃ r ∈ regions, r.isUsable ∧ 2 ^ 64 ≤ r.limit) →
      (survey high regions).2 = .error .addOverflow := by
  induction regions with
  | nil =>
      rintro high ⟨r, mem, -⟩
      exact absurd mem List.not_mem_nil
  | cons r regions ih =>
      rintro high ⟨s, mem, usable, past⟩
      -- the survey stops at the first such region, which need not be `s`
      by_cases first : r.isUsable ∧ 2 ^ 64 ≤ r.limit
      · rw [survey_cons_of_le first.1 first.2]
      · have later : s ∈ regions := by
          rcases List.mem_cons.1 mem with rfl | later
          · exact absurd ⟨usable, past⟩ first
          · exact later
        cases use : r.isUsable with
        | false =>
            rw [survey_cons_of_not_usable use]
            exact ih high ⟨s, later, usable, past⟩
        | true =>
            have fits : r.limit < 2 ^ 64 := Nat.lt_of_not_le fun h => first ⟨use, h⟩
            rw [survey_cons_of_lt use fits]
            exact ih _ ⟨s, later, usable, past⟩

end FrameAllocator

end Bringup
