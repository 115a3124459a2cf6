import Bringup.Proofs.Allocator
import Bringup.Proofs.Setup

/-!
# The free frames of a new allocator

The free frames right after a setup are one run from frame zero on: as many as the most whole pages
that a usable region has left, as far as there are frames (`BuiltFrom.freeFrames_eq`). The number of
frames is fixed by the highest end of a usable region and by the memory given for the bitmap
(`BuiltFrom.totalFrames_eq`), and all of them can be addressed (`BuiltFrom.addressable`).
`free_frames_of_setup` states all this of the setup itself.
-/

namespace Bringup

namespace FrameAllocator

namespace BuiltFrom

variable {a : FrameAllocator} {regions left : List Region} {memory : Array UInt8}

theorem totalFrames_eq (built : a.BuiltFrom regions left memory) :
    a.totalFrames = min (frameCount regions) (8 * memory.size) := by
  unfold totalFrames
  rw [built.bitmap_eq, Bitmap.bits_unsetRange]
  rfl

theorem toNat_bitmapSize (built : a.BuiltFrom regions left memory) :
    a.bitmapSize.toNat = bitmapBytes regions := by
  rw [built.size_eq, toNat_bitmapBytes built.room]

/-- Memory of the size asked for has a bit for each frame. -/
theorem totalFrames_eq_of_size_eq (built : a.BuiltFrom regions left memory)
    (backed : memory.size = a.bitmapSize.toNat) : a.totalFrames = frameCount regions := by
  have enough := (bitmapBytes_bounds regions).1
  rw [built.totalFrames_eq, backed, built.toNat_bitmapSize]
  exact Nat.min_eq_left enough

theorem addressable (built : a.BuiltFrom regions left memory) : a.Addressable := by
  have most := (frameCount_bounds regions).2
  have room := built.room
  have total := built.totalFrames_eq
  unfold Addressable
  omega

theorem freeFrames_eq (built : a.BuiltFrom regions left memory) :
    a.freeFrames = Finset.range (min a.totalFrames (mostPages left)) := by
  have total : (Bitmap.full memory (frameCount regions)).bits = a.totalFrames :=
    built.totalFrames_eq.symm
  unfold freeFrames
  -- the bitmap began full, so only the run that was cleared is free
  rw [built.bitmap_eq, Bitmap.clearSlots_unsetRange, Bitmap.clearSlots_full, Finset.empty_union]
  ext k
  rw [Finset.mem_filter, Finset.mem_Ico, Finset.mem_range, total]
  omega

/-- A frame is free if a usable region has that many whole pages left, and one more. -/
theorem mem_freeFrames_iff (built : a.BuiltFrom regions left memory) {k : Nat} :
    k ∈ a.freeFrames ↔
      k < a.totalFrames ∧ ∃ r ∈ left, r.isUsable ∧ 4096 * (k + 1) ≤ r.length.toNat := by
  have page : ∀ r : Region, k < r.wholePages ↔ 4096 * (k + 1) ≤ r.length.toNat := by
    intro r
    unfold Region.wholePages
    rw [← Nat.succ_le_iff, Nat.le_div_iff_mul_le (by decide), Nat.mul_comm]
  rw [built.freeFrames_eq, Finset.mem_range, Nat.lt_min]
  unfold mostPages
  simp only [lt_usableMax_iff, page]

theorem freeBytes_eq (built : a.BuiltFrom regions left memory) :
    ∃ bytes, a.freeBytes = .ok bytes ∧
      bytes.toNat = 4096 * min a.totalFrames (mostPages left) := by
  obtain ⟨counted, bound⟩ := freeBytes_of_addressable built.addressable
  refine ⟨_, counted, ?_⟩
  rw [UInt64.toNat_ofNat_of_lt' bound, built.freeFrames_eq, Finset.card_range]

end BuiltFrom

/-- **The free frames right after a setup.** For any memory map and any length of the memory given
for the bitmap: the number of frames is what the highest end of a usable region needs, as far as
the memory has bits, and all of it for memory of the size asked for; a frame is free exactly if some
usable region as the setup left it has room for the page of that number; so the free frames are one
run from frame zero on. -/
theorem free_frames_of_setup {regions : Option (List Region)}
    {map : UInt64 → UInt64 → Array UInt8} {a : FrameAllocator}
    (built : (setup regions map).outcome = .ok a) :
    ∃ original left, regions = some original ∧ (setup regions map).regions = some left ∧
      a.totalFrames = min (frameCount original) (8 * (map a.bitmapBase a.bitmapSize).size) ∧
      ((map a.bitmapBase a.bitmapSize).size = a.bitmapSize.toNat →
        a.totalFrames = frameCount original) ∧
      (∀ k, k ∈ a.freeFrames ↔
        k < a.totalFrames ∧ ∃ r ∈ left, r.isUsable ∧ 4096 * (k + 1) ≤ r.length.toNat) ∧
      a.freeFrames = Finset.range (min a.totalFrames (mostPages left)) ∧
      ∃ bytes, a.freeBytes = .ok bytes ∧
        bytes.toNat = 4096 * min a.totalFrames (mostPages left) := by
  obtain ⟨original, left, hasMap, leaves, -, from_map⟩ := setup_eq_ok built
  exact ⟨original, left, hasMap, leaves, from_map.totalFrames_eq,
    from_map.totalFrames_eq_of_size_eq, fun _ => from_map.mem_freeFrames_iff,
    from_map.freeFrames_eq, from_map.freeBytes_eq⟩

/-- Two usable regions, the first of which hosts the bitmap. -/
def twoRegions : List Region :=
  [⟨0, 0x8000, 1⟩, ⟨0x10000, 0x4000, 1⟩]

/-- Memory of the size asked for, all zero. -/
def zeroed (_ size : UInt64) : Array UInt8 :=
  Array.replicate size.toNat 0

theorem twoRegions_split :
    HostSplit (UInt64.ofNat (bitmapBytes twoRegions)) twoRegions [] ⟨0, 0x8000, 1⟩
      [⟨0x10000, 0x4000, 1⟩] :=
  .head (by decide) _

/-- The host keeps seven pages and the other region has four; page numbers count from the base of
each, so the runs lie over one another. -/
theorem free_frames_of_two_regions :
    ∃ a, (setup (some twoRegions) zeroed).outcome = .ok a ∧ a.totalFrames = 20 ∧
      a.freeFrames = Finset.range 7 := by
  obtain ⟨a, built, carves⟩ :=
    exists_setup_of_host zeroed (by decide) (by decide) twoRegions_split
  obtain ⟨original, left, hasMap, leaves, -, backed, -, free, -⟩ := free_frames_of_setup built
  obtain rfl := Option.some.inj hasMap
  have frames : a.totalFrames = 20 := backed (Array.size_replicate ..)
  have pages : mostPages left = 7 := by
    rw [carves] at leaves
    rw [← Option.some.inj leaves]
    decide
  rw [frames, pages] at free
  exact ⟨a, built, frames, free⟩

end FrameAllocator

end Bringup
