import Mathlib.Logic.Relation
import Bringup.Proofs.FreshAllocator

/-!
# How a setup ends

`verdict` reads off the usable regions of a memory map how a setup must end: the checks are made in
a fixed order, and regions that are not usable have no say. Every setup ends that way
(`verdict_of_setup`).

Once the bitmap has its size nothing can fault any more. The loop that releases the pages of a
region is taken apart into its turns (`ReleaseTurn`): there is no endless run of turns from any
start (`releaseTurn_wellFounded`), and from the base of a region no turn finds a sum that overflows
(`ReleasesCleanly`).
-/

namespace Bringup

namespace FrameAllocator

/-! ## Turns of the release loop -/

/-- One turn of the loop over the pages of a region: if the page at the current address ends by
`stop`, its slot is cleared and the loop goes on behind it. -/
inductive ReleaseTurn (base stop : UInt64) : UInt64 × Bitmap → UInt64 × Bitmap → Prop where
  | page {addr next : UInt64} {bitmap : Bitmap} :
      Checked.add addr pageSize = .ok next → next ≤ stop →
        ReleaseTurn base stop (addr, bitmap) (next, bitmap.unset (Frame.containing (addr - base)))

/-- What the loop can come to in some number of turns. -/
abbrev Releasing (base stop : UInt64) : UInt64 × Bitmap → UInt64 × Bitmap → Prop :=
  Relation.ReflTransGen (ReleaseTurn base stop)

theorem releasePages_of_turn {base stop : UInt64} {s t : UInt64 × Bitmap}
    (turn : ReleaseTurn base stop s t) :
    releasePages base stop s.1 s.2 = releasePages base stop t.1 t.2 := by
  cases turn with
  | page sum more => rw [releasePages_of_ok _ sum, if_pos more]

/-- Each turn brings the loop closer to its end, so no run of turns is endless. -/
theorem releaseTurn_wellFounded (base stop : UInt64) :
    WellFounded fun t s => ReleaseTurn base stop s t := by
  apply Subrelation.wf (r := InvImage (· < ·) fun s : UInt64 × Bitmap => stop.toNat - s.1.toNat)
  · intro t s turn
    cases turn with
    | @page addr next bitmap sum more =>
        have value := Checked.toNat_of_add_eq_ok sum
        have inside := UInt64.le_iff_toNat_le.1 more
        rw [toNat_pageSize] at value
        show stop.toNat - next.toNat < stop.toNat - addr.toNat
        omega
  · exact InvImage.wf _ Nat.lt_wfRel.wf

/-- While no sum overflows, the loop comes to a state without a further turn and gives the bitmap
of that state. -/
theorem exists_last_turn {base stop : UInt64} (s : UInt64 × Bitmap)
    (fits : ∀ t, Releasing base stop s t → ∃ next, Checked.add t.1 pageSize = .ok next) :
    ∃ t, Releasing base stop s t ∧ (∀ u, ¬ ReleaseTurn base stop t u) ∧
      releasePages base stop s.1 s.2 = .ok t.2 := by
  induction s using (releaseTurn_wellFounded base stop).induction with
  | h s ih =>
      obtain ⟨next, sum⟩ := fits s Relation.ReflTransGen.refl
      by_cases more : next ≤ stop
      · have turn : ReleaseTurn base stop s (next, s.2.unset (Frame.containing (s.1 - base))) :=
          .page sum more
        obtain ⟨t, rest, last, released⟩ := ih _ turn fun t rest => fits t (rest.head turn)
        exact ⟨t, rest.head turn, last, (releasePages_of_turn turn).trans released⟩
      · refine ⟨s, Relation.ReflTransGen.refl, ?_, ?_⟩
        · intro u turn
          cases turn with
          | page other inside =>
              rw [sum] at other
              obtain rfl := Except.ok.inj other
              exact more inside
        · rw [releasePages_of_ok s.2 sum, if_neg more]

/-- The loop never leaves the stretch between its base and its stop. -/
theorem Releasing.bounds {base stop : UInt64} {s t : UInt64 × Bitmap}
    (run : Releasing base stop s t) (above : base ≤ s.1) (inside : s.1 ≤ stop) :
    base ≤ t.1 ∧ t.1 ≤ stop := by
  induction run with
  | refl => exact ⟨above, inside⟩
  | tail _ turn ih =>
      cases turn with
      | @page addr next bitmap sum more =>
          have value := Checked.toNat_of_add_eq_ok sum
          have start : base.toNat ≤ addr.toNat := UInt64.le_iff_toNat_le.1 ih.1
          have further : base.toNat ≤ next.toNat := by omega
          exact ⟨UInt64.le_iff_toNat_le.2 further, more⟩

/-- The loop over the pages of a region runs to its end: the end of the region can be computed, in
no state that the loop reaches does the distance from the base or the end of the next page go out of
range, and after finitely many turns there is no further one. -/
structure ReleasesCleanly (r : Region) : Prop where
  stop_eq : r.stop = .ok (r.base + r.length)
  in_range : ∀ bitmap t, Releasing r.base (r.base + r.length) (r.base, bitmap) t →
    r.base ≤ t.1 ∧ ∃ next, Checked.add t.1 pageSize = .ok next
  no_endless_run : WellFounded fun t s => ReleaseTurn r.base (r.base + r.length) s t
  released : ∀ bitmap, ∃ t, Releasing r.base (r.base + r.length) (r.base, bitmap) t ∧
    (∀ u, ¬ ReleaseTurn r.base (r.base + r.length) t u) ∧
    releasePages r.base (r.base + r.length) r.base bitmap = .ok t.2

/-- A region whose end lies more than a page below the end of the address space is released without
a fault. -/
theorem releasesCleanly_of_lt {r : Region} (room : r.limit + 4096 < 2 ^ 64) :
    ReleasesCleanly r := by
  have fits : r.limit < 2 ^ 64 := Nat.lt_of_le_of_lt (Nat.le_add_right _ _) room
  have stop := Region.toNat_stop fits
  have start : r.base ≤ r.base + r.length := by
    rw [UInt64.le_iff_toNat_le, stop]
    exact Nat.le_add_right _ _
  have in_range : ∀ bitmap t, Releasing r.base (r.base + r.length) (r.base, bitmap) t →
      r.base ≤ t.1 ∧ ∃ next, Checked.add t.1 pageSize = .ok next := by
    intro bitmap t run
    obtain ⟨above, inside⟩ := run.bounds (UInt64.le_refl _) start
    have insideNat := UInt64.le_iff_toNat_le.1 inside
    rw [stop] at insideNat
    exact ⟨above, _, Checked.add_of_lt (by rw [toNat_pageSize]; omega)⟩
  exact {
    stop_eq := Region.stop_of_lt fits
    in_range := in_range
    no_endless_run := releaseTurn_wellFounded _ _
    released := fun bitmap => exists_last_turn _ fun t run => (in_range bitmap t run).2 }

/-! ## The verdict on a map -/

/-- How a setup must end, given the usable regions of the map. -/
def verdict (usable : List Region) : Except SetupError Unit :=
  if ∃ r ∈ usable, 2 ^ 64 ≤ r.limit then .error (.fault .addOverflow)
  else if highestEnd usable = 0 then .error .noUsableMemory
  else if 2 ^ 64 ≤ highestEnd usable + 4096 then .error (.fault .addOverflow)
  else if ∀ r ∈ usable, r.length.toNat < bitmapBytes usable then
    .error (.noRoomForBitmap (UInt64.ofNat (bitmapBytes usable)))
  else .ok ()

theorem highestEnd_filter (regions : List Region) :
    highestEnd (regions.filter Region.isUsable) = highestEnd regions :=
  usableMax_filter _ regions

theorem bitmapBytes_filter (regions : List Region) :
    bitmapBytes (regions.filter Region.isUsable) = bitmapBytes regions := by
  unfold bitmapBytes frameCount
  rw [highestEnd_filter]

/-- The highest end is an address exactly if no usable region ends past the last address. -/
theorem highestEnd_lt_iff {regions : List Region} :
    highestEnd regions < 2 ^ 64 ↔ ¬ ∃ r ∈ regions.filter Region.isUsable, 2 ^ 64 ≤ r.limit := by
  have past : 2 ^ 64 - 1 < highestEnd regions ↔
      ∃ r ∈ regions, r.isUsable ∧ 2 ^ 64 - 1 < r.limit := lt_usableMax_iff
  constructor
  · rintro below ⟨r, mem, far⟩
    obtain ⟨inMap, usable⟩ := List.mem_filter.1 mem
    have := limit_le_highestEnd inMap usable
    omega
  · intro none
    by_contra far
    obtain ⟨r, mem, usable, beyond⟩ := past.1 (by omega)
    exact none ⟨r, List.mem_filter.2 ⟨mem, usable⟩, by omega⟩

section Verdict

variable {regions : List Region}

theorem canHost_eq_false_iff {size : UInt64} {r : Region} :
    canHost size r = false ↔ (r.isUsable → r.length.toNat < size.toNat) := by
  cases usable : r.isUsable with
  | false => simp [canHost, usable]
  | true => simp [canHost, usable, UInt64.lt_iff_toNat_lt]

/-- No region can hold the bitmap exactly if every usable one is too short. -/
theorem forall_canHost_eq_false_iff (room : highestEnd regions + 4096 < 2 ^ 64) :
    (∀ r ∈ regions, canHost (UInt64.ofNat (bitmapBytes regions)) r = false) ↔
      ∀ r ∈ regions.filter Region.isUsable, r.length.toNat < bitmapBytes regions := by
  simp only [canHost_eq_false_iff, toNat_bitmapBytes room, List.mem_filter, and_imp]

/-- How a setup ends on a map. -/
theorem outcome_eq_verdict (map : UInt64 → UInt64 → Array UInt8) (regions : List Region) :
    ((setup (some regions) map).outcome.map fun _ => ()) =
      verdict (regions.filter Region.isUsable) := by
  unfold verdict
  rw [highestEnd_filter, bitmapBytes_filter]
  by_cases past : ∃ r ∈ regions.filter Region.isUsable, 2 ^ 64 ≤ r.limit
  · have overflow : ∃ r ∈ regions, r.isUsable ∧ 2 ^ 64 ≤ r.limit := by
      obtain ⟨r, mem, far⟩ := past
      exact ⟨r, (List.mem_filter.1 mem).1, (List.mem_filter.1 mem).2, far⟩
    rw [if_pos past, setup_of_overflow map overflow]
    rfl
  · have below := highestEnd_lt_iff.2 past
    rw [if_neg past]
    by_cases empty : highestEnd regions = 0
    · rw [if_pos empty, setup_of_highestEnd_eq_zero map empty]
      rfl
    · have positive := Nat.pos_of_ne_zero empty
      rw [if_neg empty]
      by_cases tight : 2 ^ 64 ≤ highestEnd regions + 4096
      · rw [if_pos tight, setup_of_no_room map below positive tight]
        rfl
      · have room := Nat.lt_of_not_le tight
        rw [if_neg tight]
        rcases hostSplit_or_forall (UInt64.ofNat (bitmapBytes regions)) regions with
          ⟨before, host, after, split⟩ | none
        · have large : ¬ ∀ r ∈ regions.filter Region.isUsable,
              r.length.toNat < bitmapBytes regions := by
            rw [← forall_canHost_eq_false_iff room]
            intro none
            have can := split.can_host
            rw [none host split.mem_regions] at can
            exact Bool.noConfusion can
          rw [if_neg large, setup_of_host map positive room split]
          rfl
        · rw [if_pos ((forall_canHost_eq_false_iff room).1 none),
            setup_of_no_host map positive room none]
          rfl

end Verdict

/-! ## After the bitmap was sized -/

/-- A setup on this map gets as far as the number of frames and the size of the bitmap. -/
def Sized (regions : List Region) (frames size : UInt64) : Prop :=
  ∃ bases high, survey 0 regions = (bases, .ok high) ∧ high ≠ 0 ∧
    bitmapExtent high = .ok (frames, size)

theorem sized_iff {regions : List Region} {frames size : UInt64} :
    Sized regions frames size ↔ 0 < highestEnd regions ∧ highestEnd regions + 4096 < 2 ^ 64 ∧
      frames = UInt64.ofNat (frameCount regions) ∧ size = UInt64.ofNat (bitmapBytes regions) := by
  constructor
  · rintro ⟨bases, high, surveyed, nonzero, extent⟩
    -- the survey came to its end, so it found the highest end
    have below : highestEnd regions < 2 ^ 64 := by
      rw [highestEnd_lt_iff]
      rintro ⟨r, mem, far⟩
      obtain ⟨inMap, usable⟩ := List.mem_filter.1 mem
      have failed := survey_snd_of_overflow regions 0 ⟨r, inMap, usable, far⟩
      rw [surveyed] at failed
      cases failed
    rw [survey_zero below] at surveyed
    obtain rfl := Except.ok.inj (Prod.mk.inj surveyed).2
    have value : (UInt64.ofNat (highestEnd regions)).toNat = highestEnd regions :=
      UInt64.toNat_ofNat_of_lt' below
    have positive : 0 < highestEnd regions := by
      rcases Nat.eq_zero_or_pos (highestEnd regions) with zero | positive
      · rw [zero] at nonzero
        exact absurd rfl nonzero
      · exact positive
    have room : highestEnd regions + 4096 < 2 ^ 64 := by
      by_contra tight
      rw [bitmapExtent_of_le (by rw [value]; omega)] at extent
      cases extent
    rw [bitmapExtent_of_lt room] at extent
    obtain ⟨rfl, rfl⟩ := Prod.mk.inj (Except.ok.inj extent)
    exact ⟨positive, room, rfl, rfl⟩
  · rintro ⟨positive, room, rfl, rfl⟩
    have below : highestEnd regions < 2 ^ 64 := by omega
    exact ⟨_, _, survey_zero below, ofNat_highestEnd_ne_zero below positive,
      bitmapExtent_of_lt room⟩

/-- A map whose bitmap was sized is not refused for a fault. -/
theorem outcome_ne_fault {regions : List Region} {frames size : UInt64}
    (sized : Sized regions frames size) (map : UInt64 → UInt64 → Array UInt8) (cause : Fault) :
    (setup (some regions) map).outcome ≠ .error (.fault cause) := by
  obtain ⟨positive, room, rfl, rfl⟩ := sized_iff.1 sized
  intro faulted
  rcases hostSplit_or_forall (UInt64.ofNat (bitmapBytes regions)) regions with
    ⟨before, host, after, split⟩ | none
  · rw [setup_of_host map positive room split] at faulted
    cases faulted
  · rw [setup_of_no_host map positive room none] at faulted
    cases faulted

/-- **How a setup ends.** Without a memory map it ends with that error. With one it ends as the
usable regions of the map say: with an overflow if one of them ends past the last address, without
usable memory if none ends above zero, with an overflow if the highest end is not more than a page
below the end of the address space, without room if none can hold the bitmap, and otherwise with an
allocator. Once the bitmap was sized there is no fault: the host can give up its front, and the loop
over the pages of each region that is left runs to its end. -/
theorem verdict_of_setup (map : UInt64 → UInt64 → Array UInt8) :
    (setup none map).outcome = .error .missingMemoryMap ∧
      ∀ regions : List Region,
        ((setup (some regions) map).outcome.map fun _ => ()) =
            verdict (regions.filter Region.isUsable) ∧
          ∀ frames size, Sized regions frames size →
            (∀ cause, (setup (some regions) map).outcome ≠ .error (.fault cause)) ∧
              ∀ before host after, HostSplit size regions before host after →
                host.dropFront size = .ok (host.withoutFront size) ∧
                  ∀ r ∈ carved size before host after, r.isUsable → ReleasesCleanly r := by
  refine ⟨rfl, fun regions => ⟨outcome_eq_verdict map regions, ?_⟩⟩
  intro frames size sized
  refine ⟨outcome_ne_fault sized map, ?_⟩
  obtain ⟨-, room, -, -⟩ := sized_iff.1 sized
  intro before host after split
  have fits := split.limit_lt room
  refine ⟨Region.dropFront_of_le split.size_le fits, ?_⟩
  intro r mem usable
  -- the front of the host went, but no end moved
  have lower := limit_le_highestEnd mem usable
  rw [split.highestEnd_carved fits] at lower
  exact releasesCleanly_of_lt (Nat.lt_of_le_of_lt (Nat.add_le_add_right lower _) room)

/-- A usable region that ends a page and a byte below the end of the address space, and a reserved
one that ends past it. -/
def upToTheTop : List Region :=
  [⟨0xfffffffffffff000, 0x2000, 2⟩, ⟨0, 0xffffffffffffefff, 1⟩]

/-- The usable region is set up without a fault, although it reaches as high as one can; the end of
the reserved one is never computed. -/
theorem setup_up_to_the_top :
    ((setup (some upToTheTop) zeroed).outcome.map fun _ => ()) = .ok () ∧
      (∀ cause, (setup (some upToTheTop) zeroed).outcome ≠ .error (.fault cause)) ∧
        ReleasesCleanly ⟨0x2000000000000, 0xfffdffffffffefff, 1⟩ := by
  obtain ⟨verdicts, clean⟩ := (verdict_of_setup zeroed).2 upToTheTop
  have sized : Sized upToTheTop 0xfffffffffffff 0x2000000000000 :=
    ⟨[0], 0xffffffffffffefff, by decide, by decide, by decide⟩
  have split : HostSplit 0x2000000000000 upToTheTop [⟨0xfffffffffffff000, 0x2000, 2⟩]
      ⟨0, 0xffffffffffffefff, 1⟩ [] := ⟨rfl, by decide, by decide⟩
  obtain ⟨no_fault, loops⟩ := clean _ _ sized
  obtain ⟨-, released⟩ := loops _ _ _ split
  exact ⟨verdicts.trans (by decide), no_fault, released _ (by decide) (by decide)⟩

end FrameAllocator

end Bringup
