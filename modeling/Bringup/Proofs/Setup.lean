import Mathlib.Data.List.TakeWhile
import Bringup.Proofs.Bitmap.Backing
import Bringup.Proofs.Regions

/-!
# The outcome of setting up an allocator

Each way a setup can end is an equation for all that it leaves behind. When no usable region ends
past the last address, the bitmap can be sized and some region can hold it, the setup succeeds
(`setup_of_host`): releasing the pages of the usable regions clears one run of slots from slot zero,
as long as the most pages that a usable region has left. These are all the ways there are
(`setup_cases`). `setup_eq_ok` reads a success backwards and gives everything that is known of the
allocator, `BuiltFrom`; `setup_eq_error` says what a failure leaves behind.
-/

namespace Bringup

namespace FrameAllocator

/-! ## Sizing the bitmap -/

/-- The frames up to the highest end of a usable region. -/
def frameCount (regions : List Region) : Nat :=
  highestEnd regions ⌈/⌉ 4096

/-- The whole pages, in bytes, that hold a bit for each frame. -/
def bitmapBytes (regions : List Region) : Nat :=
  4096 * (frameCount regions ⌈/⌉ 8 ⌈/⌉ 4096)

/-- The frames reach at least to the highest end and at most one page past it. -/
theorem frameCount_bounds (regions : List Region) :
    highestEnd regions ≤ 4096 * frameCount regions ∧
      4096 * frameCount regions < highestEnd regions + 4096 := by
  unfold frameCount
  rw [Nat.ceilDiv_eq_add_pred_div]
  omega

/-- The bitmap has a bit for each frame, and at most one page more than that takes. -/
theorem bitmapBytes_bounds (regions : List Region) :
    frameCount regions ≤ 8 * bitmapBytes regions ∧
      8 * bitmapBytes regions < frameCount regions + 8 * 4096 + 8 := by
  unfold bitmapBytes
  rw [Nat.ceilDiv_eq_add_pred_div, Nat.ceilDiv_eq_add_pred_div]
  omega

theorem bitmapBytes_pos {regions : List Region} (positive : 0 < highestEnd regions) :
    0 < bitmapBytes regions := by
  have := frameCount_bounds regions
  have := bitmapBytes_bounds regions
  omega

section Sizing

variable {regions : List Region} (room : highestEnd regions + 4096 < 2 ^ 64)

include room

theorem toNat_highestEnd : (UInt64.ofNat (highestEnd regions)).toNat = highestEnd regions :=
  UInt64.toNat_ofNat_of_lt' (Nat.lt_of_le_of_lt (Nat.le_add_right _ _) room)

theorem toNat_frameCount : (UInt64.ofNat (frameCount regions)).toNat = frameCount regions := by
  have := frameCount_bounds regions
  exact UInt64.toNat_ofNat_of_lt' (show frameCount regions < 2 ^ 64 by omega)

theorem toNat_bitmapBytes : (UInt64.ofNat (bitmapBytes regions)).toNat = bitmapBytes regions := by
  have := frameCount_bounds regions
  have := bitmapBytes_bounds regions
  exact UInt64.toNat_ofNat_of_lt' (show bitmapBytes regions < 2 ^ 64 by omega)

theorem bitmapExtent_of_lt :
    bitmapExtent (UInt64.ofNat (highestEnd regions)) =
      .ok (UInt64.ofNat (frameCount regions), UInt64.ofNat (bitmapBytes regions)) := by
  have high := toNat_highestEnd room
  have count := toNat_frameCount room
  have bounds := frameCount_bounds regions
  have eight : (8 : UInt64).toNat = 8 := rfl
  have frames : divCeil (UInt64.ofNat (highestEnd regions)) pageSize =
      .ok (UInt64.ofNat (frameCount regions)) := by
    have sized := divCeil_of_lt (x := UInt64.ofNat (highestEnd regions)) (y := pageSize)
      (by rw [high, toNat_pageSize]; exact room) (by rw [toNat_pageSize]; decide)
    rwa [high, toNat_pageSize] at sized
  have bytesLe : frameCount regions ⌈/⌉ 8 ≤ frameCount regions := by
    rw [Nat.ceilDiv_eq_add_pred_div]
    omega
  have bytesLt : frameCount regions ⌈/⌉ 8 < 2 ^ 64 := by omega
  have bytes : divCeil (UInt64.ofNat (frameCount regions)) 8 =
      .ok (UInt64.ofNat (frameCount regions ⌈/⌉ 8)) := by
    have sized := divCeil_of_lt (x := UInt64.ofNat (frameCount regions)) (y := 8)
      (by rw [count, eight]; omega) (by decide)
    rwa [count, eight] at sized
  have size : alignUp (UInt64.ofNat (frameCount regions ⌈/⌉ 8)) pageSize =
      .ok (UInt64.ofNat (bitmapBytes regions)) := by
    have sized := alignUp_of_lt (x := UInt64.ofNat (frameCount regions ⌈/⌉ 8)) (k := 12)
      toNat_pageSize (by rw [UInt64.toNat_ofNat_of_lt' bytesLt, toNat_pageSize]; omega)
    rwa [UInt64.toNat_ofNat_of_lt' bytesLt, toNat_pageSize] at sized
  unfold bitmapExtent
  simp only [frames, bind, Except.bind, bytes, size]
  rfl

end Sizing

theorem bitmapExtent_of_le {high : UInt64} (h : 2 ^ 64 ≤ high.toNat + 4096) :
    bitmapExtent high = .error .addOverflow := by
  have frames : divCeil high pageSize = .error .addOverflow := divCeil_of_le h
  unfold bitmapExtent
  simp only [frames]
  rfl

/-! ## Releasing pages -/

/-- Where the end of the page at hand is known, the loop clears its slot and goes on, or it ends. -/
theorem releasePages_of_ok {base stop addr after : UInt64} (bitmap : Bitmap)
    (sum : Checked.add addr pageSize = .ok after) :
    releasePages base stop addr bitmap =
      if after ≤ stop then
        releasePages base stop after (bitmap.unset (Frame.containing (addr - base)))
      else .ok bitmap := by
  conv =>
    lhs
    unfold releasePages
  split
  · next failed =>
      rw [sum] at failed
      cases failed
  · next other =>
      rw [sum] at other
      obtain rfl := Except.ok.inj other
      rfl

/-- From page `k` of a region on, the slots of the whole pages up to its end are cleared. -/
theorem releasePages_eq {base stop addr : UInt64} {k : Nat} (bitmap : Bitmap)
    (page : addr.toNat = base.toNat + 4096 * k) (inside : addr.toNat ≤ stop.toNat)
    (room : stop.toNat + 4096 < 2 ^ 64) :
    releasePages base stop addr bitmap =
      .ok (bitmap.unsetRange k ((stop.toNat - addr.toNat) / 4096)) := by
  -- one turn of the loop clears slot `k`; the distance to the end carries the recursion
  have fits : addr.toNat + pageSize.toNat < 2 ^ 64 := by
    rw [toNat_pageSize]
    omega
  have sum := Checked.add_of_lt fits
  have value : (addr + pageSize).toNat = addr.toNat + 4096 := Checked.toNat_of_add_eq_ok sum
  rw [releasePages_of_ok bitmap sum]
  by_cases more : addr + pageSize ≤ stop
  · have moreNat := UInt64.le_iff_toNat_le.1 more
    have slot : Frame.containing (addr - base) = k := by
      rw [Frame.containing_eq, toNat_sub_of_le (by omega), page, Nat.add_sub_cancel_left,
        Nat.mul_div_cancel_left _ (by decide)]
    have pages : (stop.toNat - addr.toNat) / 4096 =
        (stop.toNat - (addr + pageSize).toNat) / 4096 + 1 := by
      omega
    have nextPage : (addr + pageSize).toNat = base.toNat + 4096 * (k + 1) := by
      rw [value, page, Nat.mul_succ, Nat.add_assoc]
    rw [if_pos more, slot, pages, Bitmap.unsetRange_succ]
    exact releasePages_eq (bitmap.unset k) nextPage moreNat room
  · have few : stop.toNat < (addr + pageSize).toNat :=
      Nat.lt_of_not_le fun h => more (UInt64.le_iff_toNat_le.2 h)
    have pages : (stop.toNat - addr.toNat) / 4096 = 0 := by omega
    rw [if_neg more, pages]
    rfl
termination_by stop.toNat - addr.toNat
decreasing_by omega

/-- Releasing the usable regions clears one run of slots from slot zero on, as long as the region
with the most pages. -/
theorem releaseUsable_eq (regions : List Region) :
    ∀ bitmap : Bitmap, (∀ r ∈ regions, r.isUsable → r.limit + 4096 < 2 ^ 64) →
      releaseUsable bitmap regions = .ok (bitmap.unsetRange 0 (mostPages regions)) := by
  induction regions with
  | nil =>
      intro bitmap _
      rfl
  | cons r regions ih =>
      intro bitmap room
      have rest := fun s mem => room s (List.mem_cons_of_mem r mem)
      -- a region clears its own run from slot zero, and two such runs make the longer one
      unfold mostPages
      rw [releaseUsable, usableMax_cons]
      cases usable : r.isUsable with
      | false => simpa [mostPages] using ih bitmap rest
      | true =>
          have here := room r List.mem_cons_self usable
          have fits : r.limit < 2 ^ 64 := Nat.lt_of_le_of_lt (Nat.le_add_right _ _) here
          have stop := Region.toNat_stop fits
          have released : releasePages r.base (r.base + r.length) r.base bitmap =
              .ok (bitmap.unsetRange 0 r.wholePages) := by
            have atBase : r.base.toNat = r.base.toNat + 4096 * 0 := rfl
            have pages := releasePages_eq bitmap atBase
              (by rw [stop]; exact Nat.le_add_right _ _) (by rw [stop]; exact here)
            rw [stop] at pages
            unfold Region.limit at pages
            rwa [Nat.add_sub_cancel_left] at pages
          rw [if_pos rfl, Region.stop_of_lt fits]
          simp only [released, ih _ rest, if_true]
          congr 1
          exact bitmap.unsetRange_zero_unsetRange_zero _ _

/-! ## The ways a setup can end -/

/-- The log entries of the survey. -/
def surveyNotices (regions : List Region) : List SetupNotice :=
  ((regions.filter Region.isUsable).map Region.base).map .usableEntry

/-- The map after `host` gave up its first `size` bytes. -/
def carved (size : UInt64) (before : List Region) (host : Region) (after : List Region) :
    List Region :=
  before ++ host.withoutFront size :: after

/-- The region `host` is the first usable one of the map that can hold `size` bytes. -/
structure HostSplit (size : UInt64) (regions before : List Region) (host : Region)
    (after : List Region) : Prop where
  regions_eq : regions = before ++ host :: after
  too_small : ∀ r ∈ before, canHost size r = false
  can_host : canHost size host = true

namespace HostSplit

variable {size : UInt64} {regions before after : List Region} {host : Region}

/-- The first region hosts the bitmap if it can. -/
theorem head {r : Region} (can : canHost size r = true) (regions : List Region) :
    HostSplit size (r :: regions) [] r regions where
  regions_eq := rfl
  too_small := fun _ mem => absurd mem List.not_mem_nil
  can_host := can

theorem isUsable (split : HostSplit size regions before host after) : host.isUsable = true :=
  (Bool.and_eq_true_iff.1 split.can_host).1

theorem size_le (split : HostSplit size regions before host after) : size ≤ host.length :=
  of_decide_eq_true (Bool.and_eq_true_iff.1 split.can_host).2

theorem mem_regions (split : HostSplit size regions before host after) : host ∈ regions := by
  rw [split.regions_eq]
  exact List.mem_append_right before List.mem_cons_self

theorem limit_lt (split : HostSplit size regions before host after)
    (room : highestEnd regions + 4096 < 2 ^ 64) : host.limit < 2 ^ 64 := by
  have := limit_le_highestEnd split.mem_regions split.isUsable
  omega

theorem span_eq (split : HostSplit size regions before host after) :
    (regions.span fun r => !canHost size r) = (before, host :: after) := by
  have passed : ∀ r ∈ before, (!canHost size r) = true := by
    intro r mem
    rw [split.too_small r mem]
    rfl
  rw [List.span_eq_takeWhile_dropWhile, split.regions_eq, List.takeWhile_append_of_pos passed,
    List.dropWhile_append_of_pos passed, List.takeWhile_cons_of_neg (by simp [split.can_host]),
    List.dropWhile_cons_of_neg (by simp [split.can_host]), List.append_nil]

/-- Giving up the front of the host moves no end. -/
theorem highestEnd_carved (split : HostSplit size regions before host after)
    (fits : host.limit < 2 ^ 64) :
    highestEnd (carved size before host after) = highestEnd regions := by
  have replaced := usableMax_replace (f := Region.limit) (Region.isUsable_withoutFront host size)
    (Region.limit_withoutFront split.size_le fits) before after
  rw [← split.regions_eq] at replaced
  exact replaced

end HostSplit

/-- Either no region can hold the bitmap or the first that can splits the map. -/
theorem hostSplit_or_forall (size : UInt64) (regions : List Region) :
    (∃ before host after, HostSplit size regions before host after) ∨
      ∀ r ∈ regions, canHost size r = false := by
  induction regions with
  | nil => exact Or.inr fun r mem => absurd mem List.not_mem_nil
  | cons r regions ih =>
      cases here : canHost size r with
      | true => exact Or.inl ⟨[], r, regions, .head here regions⟩
      | false =>
          rcases ih with ⟨before, host, after, split⟩ | none
          · refine Or.inl ⟨r :: before, host, after, ?_, ?_, split.can_host⟩
            · rw [split.regions_eq, List.cons_append]
            · exact List.forall_mem_cons.2 ⟨here, split.too_small⟩
          · exact Or.inr (List.forall_mem_cons.2 ⟨here, none⟩)

section Outcomes

variable {regions : List Region} (map : UInt64 → UInt64 → Array UInt8)

theorem setup_none : setup none map = ⟨[], none, none, .error .missingMemoryMap⟩ := rfl

theorem setup_of_overflow (past : ∃ r ∈ regions, r.isUsable ∧ 2 ^ 64 ≤ r.limit) :
    setup (some regions) map =
      ⟨(survey 0 regions).1.map .usableEntry, none, some regions,
        .error (.fault .addOverflow)⟩ := by
  unfold setup
  simp only [survey_snd_of_overflow regions 0 past]

/-- What the survey of a setup gives when every usable region ends inside the address space. -/
theorem survey_zero (below : highestEnd regions < 2 ^ 64) :
    survey 0 regions =
      ((regions.filter Region.isUsable).map Region.base,
        .ok (UInt64.ofNat (highestEnd regions))) := by
  have fits : ∀ r ∈ regions, r.isUsable → r.limit < 2 ^ 64 :=
    fun r mem usable => Nat.lt_of_le_of_lt (limit_le_highestEnd mem usable) below
  rw [survey_of_fits regions 0 fits, UInt64.toNat_zero, Nat.zero_max]

theorem setup_of_highestEnd_eq_zero (empty : highestEnd regions = 0) :
    setup (some regions) map =
      ⟨surveyNotices regions, none, some regions, .error .noUsableMemory⟩ := by
  have below : highestEnd regions < 2 ^ 64 := by
    rw [empty]
    decide
  unfold setup
  simp only [survey_zero below, empty]
  rfl

theorem ofNat_highestEnd_ne_zero (below : highestEnd regions < 2 ^ 64)
    (positive : 0 < highestEnd regions) : UInt64.ofNat (highestEnd regions) ≠ 0 := by
  intro zero
  have value := UInt64.toNat_ofNat_of_lt' (n := highestEnd regions) below
  rw [zero] at value
  exact absurd value (Nat.ne_of_lt positive)

theorem setup_of_no_room (below : highestEnd regions < 2 ^ 64)
    (positive : 0 < highestEnd regions) (tight : 2 ^ 64 ≤ highestEnd regions + 4096) :
    setup (some regions) map =
      ⟨surveyNotices regions, none, some regions, .error (.fault .addOverflow)⟩ := by
  have extent : bitmapExtent (UInt64.ofNat (highestEnd regions)) = .error .addOverflow := by
    apply bitmapExtent_of_le
    rwa [UInt64.toNat_ofNat_of_lt' (n := highestEnd regions) below]
  unfold setup
  simp only [survey_zero below, if_neg (ofNat_highestEnd_ne_zero below positive), extent]
  rfl

section Sized

variable (positive : 0 < highestEnd regions) (room : highestEnd regions + 4096 < 2 ^ 64)

include positive room

theorem setup_of_no_host
    (none : ∀ r ∈ regions, canHost (UInt64.ofNat (bitmapBytes regions)) r = false) :
    setup (some regions) map =
      ⟨surveyNotices regions, Option.none, some regions,
        .error (.noRoomForBitmap (UInt64.ofNat (bitmapBytes regions)))⟩ := by
  have below : highestEnd regions < 2 ^ 64 := Nat.lt_of_le_of_lt (Nat.le_add_right _ _) room
  have passed : ∀ r ∈ regions, (!canHost (UInt64.ofNat (bitmapBytes regions)) r) = true := by
    intro r mem
    rw [none r mem]
    rfl
  have span : (regions.span fun r => !canHost (UInt64.ofNat (bitmapBytes regions)) r) =
      (regions, []) := by
    rw [List.span_eq_takeWhile_dropWhile, List.takeWhile_eq_self_iff.2 passed,
      List.dropWhile_eq_nil_iff.2 passed]
  unfold setup
  simp only [survey_zero below, if_neg (ofNat_highestEnd_ne_zero below positive),
    bitmapExtent_of_lt room, span]
  rfl

/-- A region that can hold the bitmap hosts it, and the setup succeeds. -/
theorem setup_of_host {before after : List Region} {host : Region}
    (split : HostSplit (UInt64.ofNat (bitmapBytes regions)) regions before host after) :
    setup (some regions) map =
      { notices := surveyNotices regions ++
          [.bitmapPlaced host.base (UInt64.ofNat (frameCount regions))
            (UInt64.ofNat (bitmapBytes regions))]
        mapped := some (host.base, UInt64.ofNat (bitmapBytes regions))
        regions := some (carved (UInt64.ofNat (bitmapBytes regions)) before host after)
        outcome := .ok
          { bitmap := (Bitmap.full (map host.base (UInt64.ofNat (bitmapBytes regions)))
              (frameCount regions)).unsetRange 0
                (mostPages (carved (UInt64.ofNat (bitmapBytes regions)) before host after))
            bitmapBase := host.base
            bitmapSize := UInt64.ofNat (bitmapBytes regions) } } := by
  have below : highestEnd regions < 2 ^ 64 := Nat.lt_of_le_of_lt (Nat.le_add_right _ _) room
  have hostFits := split.limit_lt room
  -- the ends of the regions stay where they were, so releasing their pages cannot overflow
  have sameEnd := split.highestEnd_carved hostFits
  have released := releaseUsable_eq (carved (UInt64.ofNat (bitmapBytes regions)) before host after)
    (Bitmap.full (map host.base (UInt64.ofNat (bitmapBytes regions))) (frameCount regions)) <| by
      intro r mem usable
      have := limit_le_highestEnd mem usable
      omega
  unfold setup
  simp only [survey_zero below, if_neg (ofNat_highestEnd_ne_zero below positive),
    bitmapExtent_of_lt room, split.span_eq]
  unfold populate
  unfold carved at released
  simp only [Region.dropFront_of_le split.size_le hostFits, toNat_frameCount room, released]
  rfl

/-- With a host, there is an allocator and the map is left without the front of the host. -/
theorem exists_setup_of_host {before after : List Region} {host : Region}
    (split : HostSplit (UInt64.ofNat (bitmapBytes regions)) regions before host after) :
    ∃ a, (setup (some regions) map).outcome = .ok a ∧ (setup (some regions) map).regions =
      some (carved (UInt64.ofNat (bitmapBytes regions)) before host after) := by
  rw [setup_of_host map positive room split]
  exact ⟨_, rfl, rfl⟩

end Sized

/-- A setup on a map is refused, with the map as it was and no memory asked for, or there is a first
region that can hold the bitmap and nothing in the way of it. -/
theorem setup_cases (regions : List Region) :
    (∃ notices cause, setup (some regions) map = ⟨notices, none, some regions, .error cause⟩) ∨
    (0 < highestEnd regions ∧ highestEnd regions + 4096 < 2 ^ 64 ∧ ∃ before host after,
      HostSplit (UInt64.ofNat (bitmapBytes regions)) regions before host after) := by
  -- one case for each check of the setup, in order
  by_cases below : highestEnd regions < 2 ^ 64
  · rcases Nat.eq_zero_or_pos (highestEnd regions) with empty | positive
    · exact Or.inl ⟨_, _, setup_of_highestEnd_eq_zero map empty⟩
    · by_cases room : highestEnd regions + 4096 < 2 ^ 64
      · rcases hostSplit_or_forall (UInt64.ofNat (bitmapBytes regions)) regions with host | none
        · exact Or.inr ⟨positive, room, host⟩
        · exact Or.inl ⟨_, _, setup_of_no_host map positive room none⟩
      · exact Or.inl ⟨_, _, setup_of_no_room map below positive (Nat.le_of_not_lt room)⟩
  · -- the highest end is the end of some region, which stops the survey
    have past : ∃ r ∈ regions, r.isUsable ∧ 2 ^ 64 - 1 < r.limit :=
      lt_usableMax_iff.1 (show 2 ^ 64 - 1 < highestEnd regions by omega)
    have overflow : ∃ r ∈ regions, r.isUsable ∧ 2 ^ 64 ≤ r.limit := by
      obtain ⟨r, mem, usable, far⟩ := past
      exact ⟨r, mem, usable, by omega⟩
    exact Or.inl ⟨_, _, setup_of_overflow map overflow⟩

end Outcomes

/-! ## Reading a success backwards -/

/-- An allocator made from a memory map that leaves the map `left`, with its bitmap in `memory`. -/
structure BuiltFrom (a : FrameAllocator) (regions left : List Region) (memory : Array UInt8) :
    Prop where
  positive : 0 < highestEnd regions
  room : highestEnd regions + 4096 < 2 ^ 64
  size_eq : a.bitmapSize = UInt64.ofNat (bitmapBytes regions)
  carved_host : ∃ before host after, HostSplit a.bitmapSize regions before host after ∧
    a.bitmapBase = host.base ∧ left = carved a.bitmapSize before host after
  bitmap_eq : a.bitmap = (Bitmap.full memory (frameCount regions)).unsetRange 0 (mostPages left)

/-- A setup that succeeds had a memory map, asked for the memory of the bitmap and left the map
without the front of the host. -/
theorem setup_eq_ok {regions : Option (List Region)} {map : UInt64 → UInt64 → Array UInt8}
    {a : FrameAllocator} (built : (setup regions map).outcome = .ok a) :
    ∃ original left, regions = some original ∧ (setup regions map).regions = some left ∧
      (setup regions map).mapped = some (a.bitmapBase, a.bitmapSize) ∧
      a.BuiltFrom original left (map a.bitmapBase a.bitmapSize) := by
  cases regions with
  | none =>
      rw [setup_none] at built
      cases built
  | some original =>
      rcases setup_cases map original with
        ⟨notices, cause, refused⟩ | ⟨positive, room, before, host, after, split⟩
      · rw [refused] at built
        cases built
      · rw [setup_of_host map positive room split] at built ⊢
        obtain rfl := Except.ok.inj built
        exact ⟨original, _, rfl, rfl, rfl, positive, room, rfl,
          ⟨before, host, after, split, rfl, rfl⟩, rfl⟩

/-- A setup that fails leaves the map as it was and did not ask for any memory. -/
theorem setup_eq_error {regions : Option (List Region)} {map : UInt64 → UInt64 → Array UInt8}
    {cause : SetupError} (failed : (setup regions map).outcome = .error cause) :
    (setup regions map).regions = regions ∧ (setup regions map).mapped = none := by
  cases regions with
  | none => exact ⟨rfl, rfl⟩
  | some original =>
      rcases setup_cases map original with
        ⟨notices, cause, refused⟩ | ⟨positive, room, before, host, after, split⟩
      · rw [refused]
        exact ⟨rfl, rfl⟩
      · rw [setup_of_host map positive room split] at failed
        cases failed

end FrameAllocator

end Bringup
