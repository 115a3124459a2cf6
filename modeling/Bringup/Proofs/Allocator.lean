import Bringup.Memory.FrameAllocator
import Bringup.Proofs.Bitmap.FirstFit
import Bringup.Proofs.Rounding

/-!
# What the calls on an allocator do

An allocator is seen through the set of its free frames, `FrameAllocator.freeFrames`. If all its
frames can be addressed (`Addressable`), no call on it faults: `request_cases` gives both answers a
request can have, `free_eq` shows that walking free frames changes nothing, `release_snd` is the
allocator after frames were given back and `freeBytes_of_addressable` the bytes that are free.
-/

namespace Bringup

namespace FrameAllocator

/-- The frames that are free. -/
def freeFrames (a : FrameAllocator) : Finset Nat :=
  a.bitmap.clearSlots

/-- The bytes of all frames can be counted in a word. -/
def Addressable (a : FrameAllocator) : Prop :=
  4096 * a.totalFrames < 2 ^ 64

theorem Addressable.of_bits_eq {a b : FrameAllocator} (room : a.Addressable)
    (same : b.bitmap.bits = a.bitmap.bits) : b.Addressable := by
  unfold Addressable totalFrames at *
  rwa [same]

/-- A frame is free if it exists and is not used. -/
theorem mem_freeFrames {a : FrameAllocator} {k : Nat} :
    k ∈ a.freeFrames ↔ k < a.totalFrames ∧ a.isUsed k = false :=
  Bitmap.mem_clearSlots

section Calls

variable {a : FrameAllocator} (room : a.Addressable)

include room

/-- Sums of frame numbers below the number of frames are frame numbers themselves. -/
theorem indexAdd_of_le {start count : Nat} (inside : start + count ≤ a.totalFrames) :
    Checked.indexAdd start count = .ok (start + count) := by
  unfold Addressable at room
  exact Checked.indexAdd_of_lt (by omega)

/-- The end of the run of free frames from an address on is a frame number. -/
theorem walk_lt (addr : UInt64) :
    Frame.containing addr + a.bitmap.clearRunLength (Frame.containing addr) < 2 ^ 64 := by
  by_cases none : a.bitmap.clearRunLength (Frame.containing addr) = 0
  · have bound := addr.toNat_lt
    rw [none, Frame.containing_eq]
    omega
  · have run := (a.bitmap.Ico_subset_iff_le_clearRunLength (Frame.containing addr) _).2
      (Nat.le_refl _)
    have inside := Bitmap.add_le_of_Ico_subset (Nat.pos_of_ne_zero none) run
    unfold Addressable totalFrames at room
    omega

/-- Walking the free frames from an address on leaves the allocator as it is. -/
theorem free_eq (addr : UInt64) :
    a.free addr = .ok (a.bitmap.clearRunLength (Frame.containing addr), a) := by
  have run := (a.bitmap.Ico_subset_iff_le_clearRunLength (Frame.containing addr) _).2
    (Nat.le_refl _)
  -- the walk covers free frames only, so it clears what is clear
  have unchanged : a.bitmap.unsetRange (Frame.containing addr)
      (a.bitmap.clearRunLength (Frame.containing addr)) = a.bitmap := by
    apply Bitmap.unsetRange_eq_self
    intro i above below
    exact Bitmap.get_eq_false_of_mem (run (Finset.mem_Ico.2 ⟨above, below⟩))
  have fits : Checked.indexAdd (Frame.containing addr)
      (a.bitmap.clearRunLength (Frame.containing addr)) =
        .ok (Frame.containing addr + a.bitmap.clearRunLength (Frame.containing addr)) :=
    Checked.indexAdd_of_lt (walk_lt room addr)
  unfold free
  simp only [fits, unchanged]
  rfl

/-- A request finds its frames at the least place where enough of them are free. -/
theorem request_of_isLeast {count s : Nat} (positive : 0 < count)
    (least : IsLeast {s | Finset.Ico s (s + count) ⊆ a.freeFrames} s) :
    a.request count =
      .ok (some (UInt64.ofNat (4096 * s)), { a with bitmap := a.bitmap.setRange s count }) := by
  have found := (a.bitmap.firstFit_eq_some_iff positive).2 least
  have inside : s + count ≤ a.totalFrames := Bitmap.add_le_of_Ico_subset positive least.1
  have address : Frame.start s = .ok (UInt64.ofNat (4096 * s)) := by
    unfold Addressable at room
    exact Frame.start_of_lt (by omega)
  unfold request
  rw [if_neg (Nat.ne_of_gt positive), found]
  simp only [indexAdd_of_le room inside, address]
  rfl

/-- The answers to a request: the lowest frames that are free in a row, which are used from then
on, or nothing and no change. -/
theorem request_cases (count : Nat) :
    (∃ s, 0 < count ∧ 4096 * s < 2 ^ 64 ∧
      IsLeast {s | Finset.Ico s (s + count) ⊆ a.freeFrames} s ∧
      a.request count =
        .ok (some (UInt64.ofNat (4096 * s)), { a with bitmap := a.bitmap.setRange s count })) ∨
    ((count = 0 ∨ ∀ s, ¬ Finset.Ico s (s + count) ⊆ a.freeFrames) ∧
      a.request count = .ok (none, a)) := by
  rcases Nat.eq_zero_or_pos count with rfl | positive
  · exact Or.inr ⟨Or.inl rfl, rfl⟩
  · cases found : a.bitmap.firstFit count with
    | some s =>
        have least := (a.bitmap.firstFit_eq_some_iff positive).1 found
        have inside : s + count ≤ a.totalFrames := Bitmap.add_le_of_Ico_subset positive least.1
        have fits : 4096 * s < 2 ^ 64 := by
          unfold Addressable at room
          omega
        exact Or.inl ⟨s, positive, fits, least, request_of_isLeast room positive least⟩
    | none =>
        have full := (a.bitmap.firstFit_eq_none_iff positive).1 found
        refine Or.inr ⟨Or.inr full, ?_⟩
        unfold request
        rw [if_neg (Nat.ne_of_gt positive), found]
        rfl

/-- A granted request, read backwards. -/
theorem request_eq_some {b : FrameAllocator} {count : Nat} {addr : UInt64}
    (granted : a.request count = .ok (some addr, b)) :
    ∃ s, 0 < count ∧ 4096 * s < 2 ^ 64 ∧ Finset.Ico s (s + count) ⊆ a.freeFrames ∧
      addr = UInt64.ofNat (4096 * s) ∧ b = { a with bitmap := a.bitmap.setRange s count } := by
  rcases request_cases room count with ⟨s, positive, fits, least, answer⟩ | ⟨-, answer⟩
  · rw [answer] at granted
    obtain ⟨address, same⟩ := Prod.mk.inj (Except.ok.inj granted)
    exact ⟨s, positive, fits, least.1, (Option.some.inj address).symm, same.symm⟩
  · rw [answer] at granted
    cases (Prod.mk.inj (Except.ok.inj granted)).1

/-- A refused request changes nothing. -/
theorem request_eq_none {b : FrameAllocator} {count : Nat}
    (refused : a.request count = .ok (none, b)) : b = a := by
  rcases request_cases room count with ⟨s, -, -, -, answer⟩ | ⟨-, answer⟩
  · rw [answer] at refused
    cases (Prod.mk.inj (Except.ok.inj refused)).1
  · rw [answer] at refused
    exact (Prod.mk.inj (Except.ok.inj refused)).2.symm

/-- The free bytes are those of the free frames. -/
theorem freeBytes_of_addressable :
    a.freeBytes = .ok (UInt64.ofNat (4096 * a.freeFrames.card)) ∧
      4096 * a.freeFrames.card < 2 ^ 64 := by
  have most := a.bitmap.card_clearSlots_le
  have bound : 4096 * a.freeFrames.card < 2 ^ 64 := by
    unfold Addressable totalFrames at room
    unfold freeFrames
    omega
  refine ⟨?_, bound⟩
  unfold freeBytes
  rw [Bitmap.clearCount_eq_card]
  exact pageBytes_of_lt bound

end Calls

/-- Giving frames back clears their slots, as far as they exist. -/
theorem release_snd (a : FrameAllocator) (addr : UInt64) (count : Nat) :
    (a.release addr count).2 =
      { a with bitmap := a.bitmap.unsetRange (Frame.containing addr) count } := by
  unfold release totalFrames
  simp only [Bitmap.unsetRange_clip]

end FrameAllocator

end Bringup
