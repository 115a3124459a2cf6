import Bringup.Proofs.Lending

/-!
# Where lent pages lie

Frames are numbered from the base of each region and addresses from zero. A lent page is therefore a
whole page of some usable region counted from that region's base, as the setup left it, and usable
memory itself only where the two numberings agree (`lent_pages_of_regions`).

The region that hosts the bitmap begins right after it once the setup is done. With one usable
region at address zero its first page is then number zero, and number zero is lent at the address of
the bitmap: `lent_meets_bitmap_iff` gives the ranges that meet the bitmap and the maps where one is
lent.
-/

namespace Bringup

namespace FrameAllocator

/-- The page at address `4096 * k` lies inside one usable region. -/
def UsablePage (regions : List Region) (k : Nat) : Prop :=
  ∃ r ∈ regions, r.isUsable ∧ r.base.toNat ≤ 4096 * k ∧ 4096 * (k + 1) ≤ r.limit

/-- In every run each lent page is usable memory. -/
def LendsUsable (a : FrameAllocator) (regions : List Region) : Prop :=
  ∀ b lent, Lending a b lent → ∀ l ∈ lent, ∀ k ∈ l.frames, UsablePage regions k

/-! ## Pages of the regions -/

namespace BuiltFrom

variable {a : FrameAllocator} {regions left : List Region} {memory : Array UInt8}

/-- A usable region that a setup left is the back of one of the map. -/
theorem exists_of_mem_left (built : a.BuiltFrom regions left memory) {r : Region} (mem : r ∈ left)
    (usable : r.isUsable) :
    ∃ s ∈ regions, s.isUsable ∧ s.base.toNat ≤ r.base.toNat ∧ r.limit = s.limit := by
  obtain ⟨before, host, after, split, -, rfl⟩ := built.carved_host
  rcases List.mem_append.1 mem with early | later
  · refine ⟨r, ?_, usable, Nat.le_refl _, rfl⟩
    rw [split.regions_eq]
    exact List.mem_append_left _ early
  · rcases List.mem_cons.1 later with rfl | late
    · -- the host lost its front and kept its end
      have fits := split.limit_lt built.room
      refine ⟨host, split.mem_regions, split.isUsable, ?_,
        Region.limit_withoutFront split.size_le fits⟩
      rw [Region.toNat_base_withoutFront split.size_le fits]
      exact Nat.le_add_right _ _
    · refine ⟨r, ?_, usable, Nat.le_refl _, rfl⟩
      rw [split.regions_eq]
      exact List.mem_append_right _ (List.mem_cons_of_mem _ late)

/-- What is lent is a whole page of a usable region, counted from the base that it was left with. -/
theorem exists_region_of_lent (built : a.BuiltFrom regions left memory) {b : FrameAllocator}
    {lent : List Allocation} (run : Lending a b lent) {l : Allocation} (isLent : l ∈ lent) {k : Nat}
    (covered : k ∈ l.frames) :
    ∃ r ∈ left, r.isUsable ∧ 4096 * (k + 1) ≤ r.length.toNat ∧
      ∃ s ∈ regions, s.isUsable ∧ s.base.toNat ≤ r.base.toNat + 4096 * k ∧
        r.base.toNat + 4096 * (k + 1) ≤ s.limit := by
  have free := (run.lent built.addressable).were_free l isLent covered
  obtain ⟨-, r, mem, usable, large⟩ := built.mem_freeFrames_iff.1 free
  obtain ⟨s, original, same, before, stop⟩ := built.exists_of_mem_left mem usable
  refine ⟨r, mem, usable, large, s, original, same, Nat.le_add_right_of_le before, ?_⟩
  rw [← stop]
  exact Nat.add_le_add_left large _

/-- Every frame that is free at first is lent in some run, so all of them have to be usable. -/
theorem lendsUsable_iff (built : a.BuiltFrom regions left memory) :
    a.LendsUsable regions ↔ ∀ k < min a.totalFrames (mostPages left), UsablePage regions k := by
  constructor
  · intro usable k below
    obtain ⟨b, run, covered⟩ := built.exists_lending (k := k) <| by
      rw [built.freeFrames_eq]
      exact Finset.mem_range.2 below
    exact usable b _ run _ List.mem_cons_self k covered
  · intro usable b lent run l isLent k covered
    have free := (run.lent built.addressable).were_free l isLent covered
    rw [built.freeFrames_eq] at free
    exact usable k (Finset.mem_range.1 free)

/-- A usable region at address zero that no other one outgrows has every lent page. -/
theorem lendsUsable_of_origin (built : a.BuiltFrom regions left memory) {r : Region}
    (mem : r ∈ regions) (usable : r.isUsable) (origin : r.base = 0)
    (longest : ∀ s ∈ left, s.isUsable → s.length ≤ r.length) : a.LendsUsable regions := by
  intro b lent run l isLent k covered
  obtain ⟨s, isLeft, isUsable, large, -⟩ := built.exists_region_of_lent run isLent covered
  have shorter := UInt64.le_iff_toNat_le.1 (longest s isLeft isUsable)
  refine ⟨r, mem, usable, ?_, ?_⟩
  · rw [origin]
    exact Nat.zero_le _
  · exact Nat.le_add_left_of_le (Nat.le_trans large shorter)

end BuiltFrom

/-- **The pages that are lent.** Whatever the memory map, each lent page is a whole page of a usable
region, counted from the base with which the setup left it. Every run lends usable memory only if
and only if all pages of these numbers, taken from address zero, are usable memory; a usable region
at address zero that no region outgrows is enough. -/
theorem lent_pages_of_regions {regions : List Region} {map : UInt64 → UInt64 → Array UInt8}
    {a : FrameAllocator} (built : (setup (some regions) map).outcome = .ok a) :
    ∃ left, (setup (some regions) map).regions = some left ∧
      (∀ b lent, Lending a b lent → ∀ l ∈ lent,
        l.addr.toNat = 4096 * Frame.containing l.addr ∧
        ∀ k ∈ l.frames, ∃ r ∈ left, r.isUsable ∧ 4096 * (k + 1) ≤ r.length.toNat ∧
          ∃ s ∈ regions, s.isUsable ∧ s.base.toNat ≤ r.base.toNat + 4096 * k ∧
            r.base.toNat + 4096 * (k + 1) ≤ s.limit) ∧
      (a.LendsUsable regions ↔
        ∀ k < min a.totalFrames (mostPages left), UsablePage regions k) ∧
      ((∃ r ∈ regions, r.isUsable ∧ r.base = 0 ∧ ∀ s ∈ left, s.isUsable → s.length ≤ r.length) →
        a.LendsUsable regions) := by
  obtain ⟨original, left, hasMap, leaves, -, from_map⟩ := setup_eq_ok built
  obtain rfl := Option.some.inj hasMap
  refine ⟨left, leaves, ?_, from_map.lendsUsable_iff, ?_⟩
  · intro b lent run l isLent
    exact ⟨(run.lent from_map.addressable).aligned l isLent,
      fun k covered => from_map.exists_region_of_lent run isLent covered⟩
  · rintro ⟨r, mem, usable, origin, longest⟩
    exact from_map.lendsUsable_of_origin mem usable origin longest

/-- The usable regions do not overlap and are made of whole pages. -/
structure PageMap (regions : List Region) : Prop where
  apart : (regions.filter Region.isUsable).Pairwise fun r s =>
    r.limit ≤ s.base.toNat ∨ s.limit ≤ r.base.toNat
  base_dvd : ∀ r ∈ regions, r.isUsable → 4096 ∣ r.base.toNat
  length_dvd : ∀ r ∈ regions, r.isUsable → 4096 ∣ r.length.toNat

/-- A reserved page at address zero and two usable pages after it. -/
def reservedFirst : List Region :=
  [⟨0, 0x1000, 2⟩, ⟨0x1000, 0x2000, 1⟩]

theorem reservedFirst_split :
    HostSplit (UInt64.ofNat (bitmapBytes reservedFirst)) reservedFirst [⟨0, 0x1000, 2⟩]
      ⟨0x1000, 0x2000, 1⟩ [] :=
  ⟨rfl, by decide, by decide⟩

/-- The usable page that the bitmap leaves has number zero in its region, and the reserved page is
lent in its place. -/
theorem reserved_page_lent :
    PageMap reservedFirst ∧ ∃ a b, (setup (some reservedFirst) zeroed).outcome = .ok a ∧
      Lending a b [⟨0, 1⟩] ∧ 0 ∈ (⟨0, 1⟩ : Allocation).frames ∧ ¬ UsablePage reservedFirst 0 := by
  obtain ⟨a, built, carves⟩ :=
    exists_setup_of_host zeroed (by decide) (by decide) reservedFirst_split
  obtain ⟨original, left, hasMap, leaves, -, from_map⟩ := setup_eq_ok built
  obtain rfl := Option.some.inj hasMap
  rw [carves] at leaves
  obtain rfl := Option.some.inj leaves
  have frames : a.totalFrames = 3 := from_map.totalFrames_eq_of_size_eq (Array.size_replicate ..)
  have free : 0 ∈ a.freeFrames := by
    rw [from_map.mem_freeFrames_iff, frames]
    exact ⟨by decide, ⟨0x2000, 0x1000, 1⟩, by decide, by decide, by decide⟩
  obtain ⟨b, run, covered⟩ := from_map.exists_lending free
  refine ⟨⟨by decide, by decide, by decide⟩, a, b, built, run, covered, ?_⟩
  rintro ⟨r, mem, usable, before, -⟩
  rcases List.mem_cons.1 mem with rfl | rest
  · cases usable
  · obtain rfl := List.mem_singleton.1 rest
    exact absurd before (by decide)

/-- The first of two usable regions begins at address zero and is the longest, so all that is lent
is usable. -/
theorem usable_pages_of_two_regions :
    ∃ a, (setup (some twoRegions) zeroed).outcome = .ok a ∧ a.LendsUsable twoRegions := by
  obtain ⟨a, built, carves⟩ :=
    exists_setup_of_host zeroed (by decide) (by decide) twoRegions_split
  obtain ⟨left, leaves, -, -, enough⟩ := lent_pages_of_regions built
  rw [carves] at leaves
  obtain rfl := Option.some.inj leaves
  exact ⟨a, built, enough ⟨⟨0, 0x8000, 1⟩, by decide, by decide, rfl, by decide⟩⟩

/-! ## The pages of the bitmap -/

/-- Some byte of a lent range is a byte of the memory of the bitmap. -/
def MeetsBitmap (a : FrameAllocator) (l : Allocation) : Prop :=
  ∃ p, l.addr.toNat ≤ p ∧ p < l.addr.toNat + 4096 * l.count ∧
    a.bitmapBase.toNat ≤ p ∧ p < a.bitmapBase.toNat + a.bitmapSize.toNat

namespace BuiltFrom

variable {a : FrameAllocator} {regions left : List Region} {memory : Array UInt8} {r : Region}

/-- The only usable region hosts the bitmap and is the only usable one that is left. -/
theorem host_of_filter_eq (built : a.BuiltFrom regions left memory)
    (only : regions.filter Region.isUsable = [r]) :
    a.bitmapBase = r.base ∧ a.bitmapSize ≤ r.length ∧
      left.filter Region.isUsable = [r.withoutFront a.bitmapSize] := by
  obtain ⟨before, host, after, split, base, rfl⟩ := built.carved_host
  rw [split.regions_eq, List.filter_append, List.filter_cons_of_pos split.isUsable] at only
  obtain ⟨none, one⟩ | ⟨-, impossible⟩ := List.append_eq_singleton_iff.1 only
  · obtain ⟨rfl, rest⟩ := List.cons.inj one
    refine ⟨base, split.size_le, ?_⟩
    have usable : (host.withoutFront a.bitmapSize).isUsable := split.isUsable
    rw [carved, List.filter_append, List.filter_cons_of_pos usable, none, rest, List.nil_append]
  · cases impossible

section Origin

variable (built : a.BuiltFrom regions left memory)
  (only : regions.filter Region.isUsable = [r]) (origin : r.base = 0)
  (pages : 4096 ∣ r.length.toNat)

include built only origin pages

/-- With one usable region of whole pages from address zero on, the pages that are left are all but
those of the bitmap. -/
theorem pages_of_origin :
    4096 * frameCount regions = r.length.toNat ∧
      4096 * mostPages left + a.bitmapSize.toNat = r.length.toNat := by
  obtain ⟨-, size, rest⟩ := built.host_of_filter_eq only
  have sizeNat := UInt64.le_iff_toNat_le.1 size
  have shorter := Region.toNat_length_withoutFront size
  have high : highestEnd regions = r.length.toNat := by
    rw [highestEnd, usableMax_of_filter_eq only, Region.limit, origin]
    exact Nat.zero_add _
  have most : mostPages left = (r.length.toNat - a.bitmapSize.toNat) / 4096 := by
    rw [mostPages, usableMax_of_filter_eq rest, Region.wholePages, shorter]
  have whole : 4096 ∣ a.bitmapSize.toNat := by
    rw [built.toNat_bitmapSize]
    exact Nat.dvd_mul_right _ _
  have bounds := frameCount_bounds regions
  constructor
  · omega
  · rw [most]
    omega

/-- All frames whose page is left are free at first. -/
theorem freeFrames_of_origin (backed : memory.size = a.bitmapSize.toNat) :
    a.freeFrames = Finset.range (mostPages left) := by
  obtain ⟨frames, rest⟩ := built.pages_of_origin only origin pages
  rw [built.freeFrames_eq, built.totalFrames_eq_of_size_eq backed, Nat.min_eq_right (by omega)]

/-- Some page is left unless the region is a single page. -/
theorem mostPages_pos_iff : 0 < mostPages left ↔ 4096 < r.length.toNat := by
  obtain ⟨frames, rest⟩ := built.pages_of_origin only origin pages
  have bounds := bitmapBytes_bounds regions
  have positive := bitmapBytes_pos built.positive
  have size := built.toNat_bitmapSize
  omega

/-- What is lent ends as far below the end of the region as the bitmap is long. -/
theorem lent_le_of_origin (backed : memory.size = a.bitmapSize.toNat) {b : FrameAllocator}
    {lent : List Allocation} (run : Lending a b lent) {l : Allocation} (isLent : l ∈ lent) :
    l.addr.toNat + 4096 * l.count + a.bitmapSize.toNat ≤ r.length.toNat := by
  obtain ⟨-, rest⟩ := built.pages_of_origin only origin pages
  have free := built.freeFrames_of_origin only origin pages backed
  have stop := (run.lent built.addressable).stop_le isLent free
  omega

end Origin

/-- With the bitmap at address zero, a lent range meets it if it begins before its end. -/
theorem meetsBitmap_iff (built : a.BuiltFrom regions left memory)
    (only : regions.filter Region.isUsable = [r]) (origin : r.base = 0) {l : Allocation}
    (some_page : 0 < l.count) : a.MeetsBitmap l ↔ l.addr < a.bitmapSize := by
  obtain ⟨base, -, -⟩ := built.host_of_filter_eq only
  have atZero : a.bitmapBase.toNat = 0 := by
    rw [base, origin]
    rfl
  rw [UInt64.lt_iff_toNat_lt]
  constructor
  · rintro ⟨p, above, -, -, below⟩
    omega
  · intro below
    exact ⟨l.addr.toNat, by omega, by omega, by omega, by omega⟩

end BuiltFrom

/-- **The bitmap is lent.** With one usable region of whole pages from address zero on and all of
the memory asked for, the lent ranges that meet the bitmap are those that begin before its end, and
as much stays unlent at the end of the region. Only a region of a single page rules them out: with
more, a first request is answered with the bitmap itself. -/
theorem lent_meets_bitmap_iff {regions : List Region} {map : UInt64 → UInt64 → Array UInt8}
    {a : FrameAllocator} (built : (setup (some regions) map).outcome = .ok a)
    (backed : (map a.bitmapBase a.bitmapSize).size = a.bitmapSize.toNat) {r : Region}
    (only : regions.filter Region.isUsable = [r]) (origin : r.base = 0)
    (pages : 4096 ∣ r.length.toNat) :
    (∀ b lent, Lending a b lent → ∀ l ∈ lent,
      (a.MeetsBitmap l ↔ l.addr < a.bitmapSize) ∧
      l.addr.toNat + 4096 * l.count + a.bitmapSize.toNat ≤ r.length.toNat) ∧
    ((∃ b lent, Lending a b lent ∧ ∃ l ∈ lent, a.MeetsBitmap l) ↔ 4096 < r.length.toNat) := by
  obtain ⟨original, left, hasMap, -, -, from_map⟩ := setup_eq_ok built
  obtain rfl := Option.some.inj hasMap
  have lentFrom : ∀ b lent, Lending a b lent → LentFrom a b lent :=
    fun b lent run => run.lent from_map.addressable
  refine ⟨fun b lent run l isLent => ⟨?_, ?_⟩, ?_⟩
  · exact from_map.meetsBitmap_iff only origin ((lentFrom b lent run).positive l isLent)
  · exact from_map.lent_le_of_origin only origin pages backed run isLent
  · rw [← from_map.mostPages_pos_iff only origin pages]
    have free := from_map.freeFrames_of_origin only origin pages backed
    constructor
    · rintro ⟨b, lent, run, l, isLent, -⟩
      have stop := (lentFrom b lent run).stop_le isLent free
      have some_page := (lentFrom b lent run).positive l isLent
      omega
    · -- page zero is free, and its address is that of the bitmap
      intro left_over
      obtain ⟨b, run, -⟩ := from_map.exists_lending (k := 0) <| by
        rw [free]
        exact Finset.mem_range.2 left_over
      have positive : (0 : UInt64) < a.bitmapSize := by
        rw [UInt64.lt_iff_toNat_lt, from_map.toNat_bitmapSize]
        exact bitmapBytes_pos from_map.positive
      exact ⟨b, _, run, _, List.mem_cons_self,
        (from_map.meetsBitmap_iff only origin Nat.one_pos).2 positive⟩

/-- Two usable pages at address zero, one of them for the bitmap. -/
def twoPages : List Region :=
  [⟨0, 0x2000, 1⟩]

theorem twoPages_split :
    HostSplit (UInt64.ofNat (bitmapBytes twoPages)) twoPages [] ⟨0, 0x2000, 1⟩ [] :=
  .head (by decide) _

/-- The page that the bitmap leaves has number zero in its region, and the page of the bitmap is
lent in its place, though the only usable region begins at address zero and is made of whole
pages. -/
theorem bitmap_page_lent :
    (twoPages.filter Region.isUsable = [⟨0, 0x2000, 1⟩] ∧ 4096 ∣ (0x2000 : UInt64).toNat) ∧
      ∃ a b, (setup (some twoPages) zeroed).outcome = .ok a ∧
        (zeroed a.bitmapBase a.bitmapSize).size = a.bitmapSize.toNat ∧
        Lending a b [⟨0, 1⟩] ∧ a.MeetsBitmap ⟨0, 1⟩ := by
  have only : twoPages.filter Region.isUsable = [⟨0, 0x2000, 1⟩] := rfl
  obtain ⟨a, built, carves⟩ :=
    exists_setup_of_host zeroed (by decide) (by decide) twoPages_split
  obtain ⟨original, left, hasMap, leaves, -, from_map⟩ := setup_eq_ok built
  obtain rfl := Option.some.inj hasMap
  rw [carves] at leaves
  obtain rfl := Option.some.inj leaves
  have backed : (zeroed a.bitmapBase a.bitmapSize).size = a.bitmapSize.toNat :=
    Array.size_replicate ..
  have frames : a.totalFrames = 2 := from_map.totalFrames_eq_of_size_eq backed
  have free : 0 ∈ a.freeFrames := by
    rw [from_map.mem_freeFrames_iff, frames]
    exact ⟨by decide, ⟨0x1000, 0x1000, 1⟩, by decide, by decide, by decide⟩
  obtain ⟨b, run, -⟩ := from_map.exists_lending free
  have inBitmap : (0 : UInt64) < a.bitmapSize := by
    rw [UInt64.lt_iff_toNat_lt, from_map.toNat_bitmapSize]
    exact bitmapBytes_pos from_map.positive
  exact ⟨⟨only, by decide⟩, a, b, built, backed, run,
    (from_map.meetsBitmap_iff only rfl Nat.one_pos).2 inBitmap⟩

/-- The page of the bitmap is lent, not the other one. -/
theorem bitmap_of_two_pages_lent :
    ∃ a, (setup (some twoPages) zeroed).outcome = .ok a ∧
      ∃ b lent, Lending a b lent ∧ ∃ l ∈ lent, a.MeetsBitmap l := by
  obtain ⟨a, built, -⟩ := exists_setup_of_host zeroed (by decide) (by decide) twoPages_split
  have backed : (zeroed a.bitmapBase a.bitmapSize).size = a.bitmapSize.toNat :=
    Array.size_replicate ..
  obtain ⟨-, lends⟩ := lent_meets_bitmap_iff built backed (r := ⟨0, 0x2000, 1⟩) rfl rfl (by decide)
  exact ⟨a, built, lends.2 (by decide)⟩

end FrameAllocator

end Bringup
