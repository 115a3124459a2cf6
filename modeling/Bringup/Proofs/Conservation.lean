import Bringup.Proofs.LentPages

/-!
# The bytes that a setup keeps

A setup takes the bytes of the bitmap from the usable regions and no others
(`BuiltFrom.usableSum_left`), but page numbers count from the base of each region, so the regions
lie over one another in the bitmap and only the longest one counts. The free bytes right after a
setup are a maximum over the regions that are left where a conservation law would have a sum
(`conservation_of_setup`); the two agree as long as at most one usable region has anything left.
-/

namespace Bringup

/-- The bytes of a region. -/
def Region.bytes (r : Region) : Nat :=
  r.length.toNat

/-! ## Sums over the usable regions -/

/-- The sum of `f` over the usable regions. -/
def usableSum (f : Region → Nat) : List Region → Nat
  | [] => 0
  | r :: regions => if r.isUsable then f r + usableSum f regions else usableSum f regions

/-- How many usable regions have a positive value of `f`. -/
def usableCount (f : Region → Nat) (regions : List Region) : Nat :=
  regions.countP fun r => r.isUsable && f r != 0

section Sums

variable (f : Region → Nat)

theorem usableSum_cons (r : Region) (regions : List Region) :
    usableSum f (r :: regions) = (if r.isUsable then f r else 0) + usableSum f regions := by
  rw [usableSum]
  cases r.isUsable with
  | true => rfl
  | false => exact (Nat.zero_add _).symm

theorem usableSum_append (before after : List Region) :
    usableSum f (before ++ after) = usableSum f before + usableSum f after := by
  induction before with
  | nil => exact (Nat.zero_add _).symm
  | cons r before ih => rw [List.cons_append, usableSum_cons, usableSum_cons, ih, Nat.add_assoc]

theorem usableCount_cons (r : Region) (regions : List Region) :
    usableCount f (r :: regions) =
      usableCount f regions + if (if r.isUsable then f r else 0) = 0 then 0 else 1 := by
  unfold usableCount
  rw [List.countP_cons]
  congr 1
  cases r.isUsable with
  | true => by_cases zero : f r = 0 <;> simp [zero]
  | false => rfl

theorem usableSum_eq_zero_iff (regions : List Region) :
    usableSum f regions = 0 ↔ usableCount f regions = 0 := by
  induction regions with
  | nil => exact Iff.rfl
  | cons r regions ih =>
      rw [usableSum_cons, usableCount_cons, Nat.add_eq_zero_iff, Nat.add_eq_zero_iff, ih, and_comm]
      by_cases zero : (if r.isUsable then f r else 0) = 0 <;> simp [zero]

theorem usableMax_le_usableSum (regions : List Region) :
    usableMax f regions ≤ usableSum f regions := by
  induction regions with
  | nil => exact Nat.le_refl 0
  | cons r regions ih =>
      rw [usableMax_cons, usableSum_cons]
      omega

/-- The greatest value is all there is exactly if there is at most one. -/
theorem usableMax_eq_usableSum_iff (regions : List Region) :
    usableMax f regions = usableSum f regions ↔ usableCount f regions ≤ 1 := by
  induction regions with
  | nil => exact ⟨fun _ => Nat.zero_le 1, fun _ => rfl⟩
  | cons r regions ih =>
      have most := usableMax_le_usableSum f regions
      have nothing := usableSum_eq_zero_iff f regions
      rw [usableMax_cons, usableSum_cons, usableCount_cons]
      generalize (if r.isUsable then f r else 0) = value
      by_cases zero : value = 0
      · rw [zero, if_pos rfl, Nat.zero_max, Nat.zero_add, Nat.add_zero]
        exact ih
      · -- a first value leaves no room for another one
        rw [if_neg zero]
        omega

theorem mul_usableMax (factor : Nat) (regions : List Region) :
    factor * usableMax f regions = usableMax (fun r => factor * f r) regions := by
  induction regions with
  | nil => rfl
  | cons r regions ih =>
      rw [usableMax_cons, usableMax_cons, ← Nat.mul_max_mul_left, ih]
      cases r.isUsable with
      | true => rfl
      | false => rfl

theorem usableMax_mono {f g : Region → Nat} {regions : List Region}
    (le : ∀ r ∈ regions, r.isUsable → f r ≤ g r) : usableMax f regions ≤ usableMax g regions := by
  by_contra less
  obtain ⟨r, mem, usable, greater⟩ := lt_usableMax_iff.1 (Nat.lt_of_not_le less)
  have bounded := le_usableMax (f := g) mem usable
  exact Nat.lt_irrefl _ (Nat.lt_of_lt_of_le greater (Nat.le_trans (le r mem usable) bounded))

end Sums

/-- The bytes of all usable regions. -/
def usableBytes (regions : List Region) : Nat :=
  usableSum Region.bytes regions

namespace FrameAllocator

namespace BuiltFrom

variable {a : FrameAllocator} {regions left : List Region} {memory : Array UInt8}

/-- The usable regions lose the bytes of the bitmap and no others. -/
theorem usableBytes_left (built : a.BuiltFrom regions left memory) :
    usableBytes left + a.bitmapSize.toNat = usableBytes regions := by
  obtain ⟨before, host, after, split, -, rfl⟩ := built.carved_host
  have large := UInt64.le_iff_toNat_le.1 split.size_le
  have shorter := Region.toNat_length_withoutFront split.size_le
  unfold usableBytes carved
  rw [split.regions_eq, usableSum_append, usableSum_append, usableSum_cons, usableSum_cons,
    Region.isUsable_withoutFront, if_pos split.isUsable, if_pos split.isUsable]
  unfold Region.bytes
  omega

/-- Usable regions of whole pages are left with whole pages. -/
theorem bytes_dvd_left (built : a.BuiltFrom regions left memory)
    (pages : ∀ r ∈ regions, r.isUsable → 4096 ∣ r.bytes) :
    ∀ r ∈ left, r.isUsable → 4096 ∣ r.bytes := by
  obtain ⟨before, host, after, split, -, rfl⟩ := built.carved_host
  rw [split.regions_eq] at pages
  intro r mem usable
  rcases List.mem_append.1 mem with early | later
  · exact pages r (List.mem_append_left _ early) usable
  · rcases List.mem_cons.1 later with rfl | late
    · -- the bitmap itself takes whole pages of its host
      have whole : 4096 ∣ a.bitmapSize.toNat := by
        rw [built.toNat_bitmapSize]
        exact Nat.dvd_mul_right _ _
      have hostPages := pages host (List.mem_append_right _ List.mem_cons_self) split.isUsable
      unfold Region.bytes at hostPages ⊢
      rw [Region.toNat_length_withoutFront split.size_le]
      exact Nat.dvd_sub hostPages whole
    · exact pages r (List.mem_append_right _ (List.mem_cons_of_mem _ late)) usable

/-- No region is left with more pages than there are frames. -/
theorem mostPages_left_le (built : a.BuiltFrom regions left memory) :
    mostPages left ≤ frameCount regions := by
  obtain ⟨before, host, after, split, -, rfl⟩ := built.carved_host
  have sameEnd := split.highestEnd_carved (split.limit_lt built.room)
  have pages : 4096 * mostPages (carved a.bitmapSize before host after) ≤
      highestEnd (carved a.bitmapSize before host after) := by
    unfold mostPages highestEnd
    rw [mul_usableMax]
    apply usableMax_mono
    intro r _ _
    unfold Region.wholePages Region.limit
    omega
  -- the frames reach to the highest end, which the bitmap did not move
  have bounds := frameCount_bounds regions
  omega

/-- With memory of the size asked for and usable regions of whole pages, the free bytes are those of
the longest usable region that is left. -/
theorem freeBytes_of_pages (built : a.BuiltFrom regions left memory)
    (backed : memory.size = a.bitmapSize.toNat)
    (pages : ∀ r ∈ regions, r.isUsable → 4096 ∣ r.bytes) :
    ∃ bytes, a.freeBytes = .ok bytes ∧ bytes.toNat = usableMax Region.bytes left := by
  obtain ⟨bytes, counted, value⟩ := built.freeBytes_eq
  refine ⟨bytes, counted, ?_⟩
  have whole : ∀ r ∈ left, r.isUsable → 4096 * r.wholePages = r.bytes :=
    fun r mem usable => Nat.mul_div_cancel' (built.bytes_dvd_left pages r mem usable)
  -- the bitmap has a bit for every page that is left, and no region has a part of a page
  rw [value, built.totalFrames_eq_of_size_eq backed, Nat.min_eq_right built.mostPages_left_le,
    mostPages, mul_usableMax]
  apply Nat.le_antisymm
  · exact usableMax_mono fun r mem usable => Nat.le_of_eq (whole r mem usable)
  · exact usableMax_mono fun r mem usable => Nat.le_of_eq (whole r mem usable).symm

end BuiltFrom

/-- **What becomes of the usable bytes.** With memory of the size asked for and usable regions of
whole pages, a setup takes the bytes of the bitmap from the usable regions, and the free bytes right
after it are those of the longest usable region that is left. They are never more than all usable
bytes without the bitmap's, and as many exactly if at most one usable region has anything left, as
when there was only one at first. -/
theorem conservation_of_setup {regions : List Region} {map : UInt64 → UInt64 → Array UInt8}
    {a : FrameAllocator} (built : (setup (some regions) map).outcome = .ok a)
    (backed : (map a.bitmapBase a.bitmapSize).size = a.bitmapSize.toNat)
    (pages : ∀ r ∈ regions, r.isUsable → 4096 ∣ r.bytes) :
    ∃ left bytes, (setup (some regions) map).regions = some left ∧ a.freeBytes = .ok bytes ∧
      bytes.toNat = usableMax Region.bytes left ∧
      usableBytes left + a.bitmapSize.toNat = usableBytes regions ∧
      bytes.toNat + a.bitmapSize.toNat ≤ usableBytes regions ∧
      (bytes.toNat + a.bitmapSize.toNat = usableBytes regions ↔ usableCount Region.bytes left ≤ 1) ∧
      ∀ r, regions.filter Region.isUsable = [r] →
        bytes.toNat + a.bitmapSize.toNat = r.bytes := by
  obtain ⟨original, left, hasMap, leaves, -, from_map⟩ := setup_eq_ok built
  obtain rfl := Option.some.inj hasMap
  obtain ⟨bytes, counted, value⟩ := from_map.freeBytes_of_pages backed pages
  have taken := from_map.usableBytes_left
  have most := usableMax_le_usableSum Region.bytes left
  have agree := usableMax_eq_usableSum_iff Region.bytes left
  unfold usableBytes at taken ⊢
  refine ⟨left, bytes, leaves, counted, value, taken, ?_, ?_, ?_⟩
  · omega
  · rw [← agree]
    omega
  · -- one usable region is the host, and what is left of it is all there is
    intro r only
    obtain ⟨-, size, rest⟩ := from_map.host_of_filter_eq only
    have large := UInt64.le_iff_toNat_le.1 size
    rw [value, usableMax_of_filter_eq rest, Region.bytes, Region.bytes,
      Region.toNat_length_withoutFront size]
    omega

/-- A region of one page and a region of four. -/
def fivePages : List Region :=
  [⟨0, 0x1000, 1⟩, ⟨0x10000, 0x4000, 1⟩]

theorem fivePages_split :
    HostSplit (UInt64.ofNat (bitmapBytes fivePages)) fivePages [] ⟨0, 0x1000, 1⟩
      [⟨0x10000, 0x4000, 1⟩] :=
  .head (by decide) _

/-- The bitmap takes all of the first region, so the other one is all that is left. -/
theorem bytes_of_fivePages :
    ∃ a bytes, (setup (some fivePages) zeroed).outcome = .ok a ∧ a.freeBytes = .ok bytes ∧
      bytes.toNat + a.bitmapSize.toNat = usableBytes fivePages := by
  obtain ⟨a, built, carves⟩ :=
    exists_setup_of_host zeroed (by decide) (by decide) fivePages_split
  obtain ⟨left, bytes, leaves, counted, -, -, -, conserved, -⟩ :=
    conservation_of_setup built (Array.size_replicate ..) (by decide)
  rw [carves] at leaves
  obtain rfl := Option.some.inj leaves
  exact ⟨a, bytes, built, counted, conserved.2 (by decide)⟩

/-- Seven pages and four are left of two regions, and only the seven are free. -/
theorem twoRegions_lose_bytes :
    PageMap twoRegions ∧ ∃ a bytes, (setup (some twoRegions) zeroed).outcome = .ok a ∧
      (zeroed a.bitmapBase a.bitmapSize).size = a.bitmapSize.toNat ∧
      a.freeBytes = .ok bytes ∧ bytes.toNat = 0x7000 ∧
      bytes.toNat ≠ usableBytes twoRegions - a.bitmapSize.toNat := by
  obtain ⟨a, built, carves⟩ :=
    exists_setup_of_host zeroed (by decide) (by decide) twoRegions_split
  obtain ⟨original, left, hasMap, leaves, -, from_map⟩ := setup_eq_ok built
  obtain rfl := Option.some.inj hasMap
  rw [carves] at leaves
  obtain rfl := Option.some.inj leaves
  have backed : (zeroed a.bitmapBase a.bitmapSize).size = a.bitmapSize.toNat :=
    Array.size_replicate ..
  obtain ⟨bytes, counted, value⟩ := from_map.freeBytes_of_pages backed (by decide)
  have seven : bytes.toNat = 0x7000 := value.trans (by decide)
  refine ⟨⟨by decide, by decide, by decide⟩, a, bytes, built, backed, counted, seven, ?_⟩
  rw [seven, from_map.toNat_bitmapSize]
  decide

end FrameAllocator

end Bringup
