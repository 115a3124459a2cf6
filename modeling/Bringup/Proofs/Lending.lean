import Bringup.Proofs.Ownership

/-!
# What an allocator lends

`Lending` follows a run of requests and of releases of pages that were lent before, in whole or in
part, and keeps every range that was ever lent. What is lent was free at first (`Lending.lent`), and
every frame that was free at first is lent in some run (`BuiltFrom.exists_lending`).
-/

namespace Bringup

namespace FrameAllocator

/-- Runs from the allocator `a` to another one, with all ranges lent on the way. -/
inductive Lending (a : FrameAllocator) : FrameAllocator → List Allocation → Prop where
  /-- Nothing was asked yet. -/
  | start : Lending a a []
  /-- A request is answered with a range. -/
  | lend {b c : FrameAllocator} {lent : List Allocation} {count : Nat} {addr : UInt64} :
      Lending a b lent → b.request count = .ok (some addr, c) → Lending a c (⟨addr, count⟩ :: lent)
  /-- A request is turned down. -/
  | refuse {b c : FrameAllocator} {lent : List Allocation} {count : Nat} :
      Lending a b lent → b.request count = .ok (none, c) → Lending a c lent
  /-- Pages that were lent are released. -/
  | takeBack {b : FrameAllocator} {lent : List Allocation} {addr : UInt64} {count : Nat} :
      Lending a b lent → (⟨addr, count⟩ : Allocation).frames ⊆ ownedFrames lent →
        Lending a (b.release addr count).2 lent

/-- What holds in every run: no frame is free that was not free at first, and each range that was
lent begins at a page and has pages that were free at first. -/
structure LentFrom (a b : FrameAllocator) (lent : List Allocation) : Prop where
  bits_eq : b.bitmap.bits = a.bitmap.bits
  free : b.freeFrames ⊆ a.freeFrames
  positive : ∀ l ∈ lent, 0 < l.count
  aligned : ∀ l ∈ lent, l.addr.toNat = 4096 * Frame.containing l.addr
  were_free : ∀ l ∈ lent, l.frames ⊆ a.freeFrames

namespace LentFrom

variable {a b : FrameAllocator} {lent : List Allocation}

theorem ownedFrames_subset (kept : LentFrom a b lent) : ownedFrames lent ⊆ a.freeFrames := by
  intro k mem
  obtain ⟨l, isLent, covered⟩ := mem_ownedFrames.1 mem
  exact kept.were_free l isLent covered

/-- The end of the last page of a lent range. -/
theorem stop_le (kept : LentFrom a b lent) {l : Allocation} (isLent : l ∈ lent) {n : Nat}
    (free : a.freeFrames = Finset.range n) : l.addr.toNat + 4096 * l.count ≤ 4096 * n := by
  have some_page := kept.positive l isLent
  have last : Frame.containing l.addr + l.count - 1 ∈ l.frames :=
    Finset.mem_Ico.2 ⟨by omega, by omega⟩
  have below := kept.were_free l isLent last
  rw [free, Finset.mem_range] at below
  rw [kept.aligned l isLent]
  omega

end LentFrom

/-- What is lent in a run was free at first. -/
theorem Lending.lent {a b : FrameAllocator} {lent : List Allocation} (room : a.Addressable)
    (run : Lending a b lent) : LentFrom a b lent := by
  induction run with
  | start =>
      exact ⟨rfl, Finset.Subset.refl _, fun l mem => absurd mem List.not_mem_nil,
        fun l mem => absurd mem List.not_mem_nil, fun l mem => absurd mem List.not_mem_nil⟩
  | @lend b c lent count addr _ granted kept =>
      -- the range was free just before, so it was free at first
      obtain ⟨s, positive, fits, free, rfl, rfl⟩ :=
        request_eq_some (room.of_bits_eq kept.bits_eq) granted
      have page := Frame.containing_ofNat fits
      have frames : (⟨UInt64.ofNat (4096 * s), count⟩ : Allocation).frames =
          Finset.Ico s (s + count) := by
        rw [Allocation.frames, page]
      have fewer : (b.bitmap.setRange s count).clearSlots ⊆ b.freeFrames := by
        rw [Bitmap.clearSlots_setRange]
        exact Finset.sdiff_subset
      refine ⟨(Bitmap.bits_setRange _ s count).trans kept.bits_eq, fewer.trans kept.free,
        List.forall_mem_cons.2 ⟨positive, kept.positive⟩,
        List.forall_mem_cons.2 ⟨?_, kept.aligned⟩, List.forall_mem_cons.2 ⟨?_, kept.were_free⟩⟩
      · rw [UInt64.toNat_ofNat_of_lt' fits, page]
      · rw [frames]
        exact free.trans kept.free
  | refuse _ refused kept =>
      rw [request_eq_none (room.of_bits_eq kept.bits_eq) refused]
      exact kept
  | @takeBack b lent addr count _ wereLent kept =>
      -- what becomes free was lent, and what was lent was free at first
      rw [release_snd]
      refine ⟨(Bitmap.bits_unsetRange _ _ count).trans kept.bits_eq, ?_, kept.positive,
        kept.aligned, kept.were_free⟩
      show (b.bitmap.unsetRange (Frame.containing addr) count).clearSlots ⊆ _
      rw [Bitmap.clearSlots_unsetRange]
      exact Finset.union_subset kept.free
        ((Finset.filter_subset _ _).trans (wereLent.trans kept.ownedFrames_subset))

namespace BuiltFrom

variable {a : FrameAllocator} {regions left : List Region} {memory : Array UInt8}

/-- A new allocator lends every free frame, in one range from frame zero on. -/
theorem exists_lending (built : a.BuiltFrom regions left memory) {k : Nat}
    (free : k ∈ a.freeFrames) :
    ∃ b, Lending a b [⟨0, k + 1⟩] ∧ k ∈ (⟨0, k + 1⟩ : Allocation).frames := by
  have least : IsLeast {s | Finset.Ico s (s + (k + 1)) ⊆ a.freeFrames} 0 := by
    refine ⟨?_, fun s _ => Nat.zero_le s⟩
    rw [built.freeFrames_eq, Finset.mem_range] at free
    intro j mem
    rw [built.freeFrames_eq, Finset.mem_range]
    have := (Finset.mem_Ico.1 mem).2
    omega
  have granted := request_of_isLeast built.addressable (Nat.succ_pos k) least
  have page : Frame.containing 0 = 0 := rfl
  refine ⟨_, Lending.lend Lending.start granted, Allocation.mem_frames.2 ?_⟩
  show Frame.containing 0 ≤ k ∧ k < Frame.containing 0 + (k + 1)
  rw [page]
  omega

end BuiltFrom

end FrameAllocator

end Bringup
