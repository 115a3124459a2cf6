import Bringup.Proofs.FreshAllocator
import Bringup.Proofs.Verdict

/-!
# What a setup takes out of the memory map

A setup that fails leaves the memory map as it was and asks for no memory. One that succeeds asks
for the memory of the bitmap and takes it from the front of the first usable region that is long
enough; that region keeps its end and its kind, and every other region stays as it is
(`carving_of_setup`).

What a region was is split in two by giving up its front (`FrontTaken`), and the front is the least
number of whole pages that have a bit for each frame (`isLeast_bitmapBytes`).
-/

namespace Bringup

namespace Region

/-- The addresses of the bytes of a region. -/
def addresses (r : Region) : Finset Nat :=
  Finset.Ico r.base.toNat r.limit

/-- The first `size` bytes of `host` were taken and `left` is the rest: it has the kind and the end
of `host`, and each byte of `host` is either one of those taken or one of the rest. -/
structure FrontTaken (size : UInt64) (host left : Region) : Prop where
  base_eq : left.base.toNat = host.base.toNat + size.toNat
  length_eq : left.length.toNat + size.toNat = host.length.toNat
  limit_eq : left.limit = host.limit
  code_eq : left.code = host.code
  union_eq : Finset.Ico host.base.toNat (host.base.toNat + size.toNat) ∪ left.addresses =
    host.addresses
  disjoint : Disjoint (Finset.Ico host.base.toNat (host.base.toNat + size.toNat)) left.addresses

theorem frontTaken_withoutFront {r : Region} {size : UInt64} (large : size ≤ r.length)
    (fits : r.limit < 2 ^ 64) : FrontTaken size r (r.withoutFront size) := by
  have sizeLe := UInt64.le_iff_toNat_le.1 large
  have base := toNat_base_withoutFront large fits
  have length := toNat_length_withoutFront large
  have limit := limit_withoutFront large fits
  -- the rest begins where the front ends
  have rest : (r.withoutFront size).addresses =
      Finset.Ico (r.base.toNat + size.toNat) r.limit := by
    rw [addresses, base, limit]
  refine ⟨base, ?_, limit, rfl, ?_, ?_⟩
  · rw [length, Nat.sub_add_cancel sizeLe]
  · rw [rest]
    apply Finset.Ico_union_Ico_eq_Ico
    · exact Nat.le_add_right _ _
    · exact Nat.add_le_add_left sizeLe _
  · rw [rest]
    exact Finset.Ico_disjoint_Ico_consecutive _ _ _

end Region

namespace FrameAllocator

/-- The bitmap takes the least number of bytes in whole pages that have a bit for each frame. -/
theorem isLeast_bitmapBytes (regions : List Region) :
    IsLeast {n | 4096 ∣ n ∧ frameCount regions ≤ 8 * n} (bitmapBytes regions) := by
  constructor
  · exact ⟨⟨_, rfl⟩, (bitmapBytes_bounds regions).1⟩
  · rintro _ ⟨⟨pages, rfl⟩, enough⟩
    -- each rounding gives the least number of units, bits into bytes and bytes into pages
    have bytes : frameCount regions ⌈/⌉ 8 ≤ 4096 * pages :=
      (ceilDiv_le_iff_le_mul (by decide)).2 enough
    have least : frameCount regions ⌈/⌉ 8 ⌈/⌉ 4096 ≤ pages :=
      (ceilDiv_le_iff_le_mul (by decide)).2 bytes
    exact Nat.mul_le_mul_left 4096 least

/-- **What a setup takes out of the memory map.** For any memory map and any memory given for the
bitmap: if the setup fails, for whatever cause, the regions are as they were and no memory was asked
for; if it succeeds, memory was asked for at the base of the first usable region that is as long as
the bitmap, this region gave up as many bytes at its front, and all regions before and after it are
as they were; the size of the bitmap is the least number of whole pages with a bit for each frame up
to the highest end of a usable region. -/
theorem carving_of_setup (regions : Option (List Region)) (map : UInt64 → UInt64 → Array UInt8) :
    (∀ cause, (setup regions map).outcome = .error cause →
      (setup regions map).regions = regions ∧ (setup regions map).mapped = none) ∧
    ∀ a, (setup regions map).outcome = .ok a →
      ∃ before host left after,
        regions = some (before ++ host :: after) ∧
        (setup regions map).regions = some (before ++ left :: after) ∧
        (setup regions map).mapped = some (host.base, a.bitmapSize) ∧
        a.bitmapBase = host.base ∧
        (host.isUsable ∧ a.bitmapSize ≤ host.length) ∧
        (∀ r ∈ before, r.isUsable → r.length < a.bitmapSize) ∧
        Region.FrontTaken a.bitmapSize host left ∧
        IsLeast {n | 4096 ∣ n ∧ frameCount (before ++ host :: after) ≤ 8 * n}
          a.bitmapSize.toNat := by
  constructor
  · intro cause failed
    exact setup_eq_error failed
  · intro a built
    obtain ⟨original, left, rfl, leaves, asked, from_map⟩ := setup_eq_ok built
    obtain ⟨before, host, after, split, place, rfl⟩ := from_map.carved_host
    have fits := split.limit_lt from_map.room
    have least := isLeast_bitmapBytes original
    rw [← from_map.toNat_bitmapSize, split.regions_eq] at least
    rw [place] at asked
    refine ⟨before, host, host.withoutFront a.bitmapSize, after, ?_, leaves, asked, place,
      ⟨split.isUsable, split.size_le⟩, ?_, Region.frontTaken_withoutFront split.size_le fits, least⟩
    · rw [split.regions_eq]
    · intro r mem usable
      exact UInt64.lt_iff_toNat_lt.2 (canHost_eq_false_iff.1 (split.too_small r mem) usable)

/-- A usable region of one page, a reserved one of many, and two usable ones that are long enough
for the two pages of the bitmap. -/
def pastTwoRegions : List Region :=
  [⟨0, 0x1000, 1⟩, ⟨0x1000, 0xf000, 2⟩, ⟨0x100000, 0x4000, 1⟩, ⟨0x200000, 0xf000000, 1⟩]

/-- Two usable regions of half a page. -/
def halfPages : List Region :=
  [⟨0, 0x800, 1⟩, ⟨0x7fff800, 0x800, 1⟩]

theorem pastTwoRegions_split :
    HostSplit (UInt64.ofNat (bitmapBytes pastTwoRegions)) pastTwoRegions
      [⟨0, 0x1000, 1⟩, ⟨0x1000, 0xf000, 2⟩] ⟨0x100000, 0x4000, 1⟩ [⟨0x200000, 0xf000000, 1⟩] :=
  ⟨rfl, by decide, by decide⟩

/-- The third region gives up two pages; half a page is too little for a bitmap, so those regions
stay as they are. -/
theorem carving_past_two_regions :
    (∃ a before left after, (setup (some pastTwoRegions) zeroed).outcome = .ok a ∧
      (setup (some pastTwoRegions) zeroed).regions = some (before ++ left :: after) ∧
      (setup (some pastTwoRegions) zeroed).mapped = some (0x100000, 0x2000) ∧
      Region.FrontTaken 0x2000 ⟨0x100000, 0x4000, 1⟩ left) ∧
    (setup (some halfPages) zeroed).regions = some halfPages ∧
      (setup (some halfPages) zeroed).mapped = none := by
  constructor
  · obtain ⟨a, built, -⟩ := exists_setup_of_host zeroed (by decide) (by decide) pastTwoRegions_split
    obtain ⟨before, host, left, after, whole, leaves, asked, -, -, -, taken, -⟩ :=
      (carving_of_setup (some pastTwoRegions) zeroed).2 a built
    have placed : (setup (some pastTwoRegions) zeroed).mapped = some (0x100000, 0x2000) := by
      rw [setup_of_host zeroed (by decide) (by decide) pastTwoRegions_split]
      decide
    rw [placed] at asked
    obtain ⟨base, size⟩ := Prod.mk.inj (Option.some.inj asked)
    have mem : host ∈ pastTwoRegions := by
      rw [Option.some.inj whole]
      exact List.mem_append_right before List.mem_cons_self
    have only : ∀ r ∈ pastTwoRegions, 0x100000 = r.base → r = ⟨0x100000, 0x4000, 1⟩ := by decide
    obtain rfl := only host mem base
    rw [← size] at taken
    exact ⟨a, before, left, after, built, leaves, placed, taken⟩
  · have needed : UInt64.ofNat (bitmapBytes halfPages) = 0x1000 := by decide
    have refused : (setup (some halfPages) zeroed).outcome = .error (.noRoomForBitmap 0x1000) := by
      rw [setup_of_no_host zeroed (by decide) (by decide) (by decide), needed]
    exact (carving_of_setup (some halfPages) zeroed).1 _ refused

end FrameAllocator

end Bringup
