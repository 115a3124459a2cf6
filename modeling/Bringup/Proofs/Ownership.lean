import Mathlib.Data.List.Perm.Basic
import Bringup.Memory.FrameAllocator
import Bringup.Proofs.FreshAllocator

/-!
# Ownership over whole runs

A run that gives back only what it was given, whole and once, keeps its books in order. `Accounts`
is what holds at every point, told bit by bit of the memory behind the bitmap: a bit is set exactly
if it was set at first or belongs to a live allocation. Every use of the allocator keeps it
(`Accounts.deal`) and so does every run (`Accounts.deals`); the free frames, the free bytes and the
bitmap after everything was given back are read off it.
-/

namespace Bringup

/-- The frames of an allocation. -/
def Allocation.frames (l : Allocation) : Finset Nat :=
  Finset.Ico (Frame.containing l.addr) (Frame.containing l.addr + l.count)

theorem Allocation.mem_frames {l : Allocation} {k : Nat} : k ∈ l.frames ↔ l.Covers k :=
  Finset.mem_Ico

theorem Allocation.card_frames (l : Allocation) : l.frames.card = l.count := by
  rw [frames, Nat.card_Ico, Nat.add_sub_cancel_left]

/-- All frames of some allocations. -/
def ownedFrames : List Allocation → Finset Nat
  | [] => ∅
  | l :: live => l.frames ∪ ownedFrames live

theorem mem_ownedFrames {live : List Allocation} {k : Nat} :
    k ∈ ownedFrames live ↔ ∃ l ∈ live, k ∈ l.frames := by
  induction live with
  | nil => simp [ownedFrames]
  | cons l live ih => rw [ownedFrames, Finset.mem_union, ih, List.exists_mem_cons_iff]

/-- Allocations that do not overlap own as many frames as they count. -/
theorem card_ownedFrames {live : List Allocation}
    (apart : live.Pairwise fun l m => Disjoint l.frames m.frames) :
    (ownedFrames live).card = (live.map Allocation.count).sum := by
  induction live with
  | nil => rfl
  | cons l live ih =>
      obtain ⟨first, rest⟩ := List.pairwise_cons.1 apart
      have disjoint : Disjoint l.frames (ownedFrames live) := by
        rw [Finset.disjoint_right]
        intro k mem
        obtain ⟨m, isLive, covered⟩ := mem_ownedFrames.1 mem
        exact Finset.disjoint_right.1 (first m isLive) covered
      rw [ownedFrames, Finset.card_union_of_disjoint disjoint, ih rest, l.card_frames,
        List.map_cons, List.sum_cons]

namespace Ownership

/-- The books of a run that began with the allocator `a` and nothing live. -/
structure Accounts (a : FrameAllocator) (o : Ownership) : Prop where
  bits_eq : o.allocator.bitmap.bits = a.bitmap.bits
  size_eq : o.allocator.bitmap.data.size = a.bitmap.data.size
  backing : ∀ p, o.allocator.bitmap.backingBit p = true ↔
    a.bitmap.backingBit p = true ∨ p ∈ ownedFrames o.live
  were_free : ∀ l ∈ o.live, l.frames ⊆ a.freeFrames
  apart : o.live.Pairwise fun l m => Disjoint l.frames m.frames

namespace Accounts

variable {a : FrameAllocator} {o : Ownership}

theorem start (a : FrameAllocator) : Accounts a ⟨a, []⟩ where
  bits_eq := rfl
  size_eq := rfl
  backing := fun p => by simp [ownedFrames]
  were_free := fun l mem => absurd mem List.not_mem_nil
  apart := List.Pairwise.nil

/-- The frames that are free are those that were and are not owned. -/
theorem freeFrames_eq (books : Accounts a o) :
    o.allocator.freeFrames = a.freeFrames \ ownedFrames o.live := by
  ext k
  unfold FrameAllocator.freeFrames
  rw [Finset.mem_sdiff, Bitmap.mem_clearSlots, Bitmap.mem_clearSlots, books.bits_eq]
  -- on slots that exist, being free is a clear bit of the memory
  by_cases inside : k < a.bitmap.bits
  · have insideNow : k < o.allocator.bitmap.bits := by rwa [books.bits_eq]
    have held := books.backing k
    simp only [Bitmap.get_eq_backingBit, inside, insideNow, decide_true, Bool.and_true, true_and,
      ← Bool.not_eq_true, held, not_or]
  · simp [inside]

theorem ownedFrames_subset (books : Accounts a o) : ownedFrames o.live ⊆ a.freeFrames := by
  intro k mem
  obtain ⟨l, isLive, covered⟩ := mem_ownedFrames.1 mem
  exact books.were_free l isLive covered

/-- With nothing live the memory behind the bitmap is what it was at first. -/
theorem bitmap_eq_of_nil (books : Accounts a o) (none : o.live = []) :
    o.allocator.bitmap = a.bitmap := by
  apply Bitmap.ext_backingBit books.bits_eq books.size_eq
  intro p
  have held := books.backing p
  rw [none] at held
  rw [Bool.eq_iff_iff, held]
  simp [ownedFrames]

/-! ## One use -/

/-- Taking frames that are free. -/
theorem take (books : Accounts a o) {s count : Nat} (positive : 0 < count)
    (free : Finset.Ico s (s + count) ⊆ o.allocator.freeFrames) {l : Allocation}
    (frames : l.frames = Finset.Ico s (s + count)) :
    Accounts a
      ⟨{ o.allocator with bitmap := o.allocator.bitmap.setRange s count }, l :: o.live⟩ where
  bits_eq := (Bitmap.bits_setRange _ s count).trans books.bits_eq
  size_eq := (Bitmap.size_data_setRange _ s count).trans books.size_eq
  backing := by
    intro p
    have inside := Bitmap.add_le_of_Ico_subset positive free
    have range : (s ≤ p ∧ p < s + count ∧ p < o.allocator.bitmap.bits) ↔
        p ∈ Finset.Ico s (s + count) := by
      rw [Finset.mem_Ico]
      omega
    show (o.allocator.bitmap.setRange s count).backingBit p = true ↔ _
    rw [Bitmap.backingBit_setRange, Bool.or_eq_true, books.backing, decide_eq_true_iff, range,
      ownedFrames, Finset.mem_union, frames]
    exact or_assoc.trans (or_congr_right or_comm)
  were_free := by
    rw [books.freeFrames_eq, ← frames] at free
    exact List.forall_mem_cons.2 ⟨free.trans Finset.sdiff_subset, books.were_free⟩
  apart := by
    rw [books.freeFrames_eq, ← frames] at free
    refine List.pairwise_cons.2 ⟨?_, books.apart⟩
    intro m isLive
    rw [Finset.disjoint_left]
    intro k taken covered
    exact (Finset.mem_sdiff.1 (free taken)).2 (mem_ownedFrames.2 ⟨m, isLive, covered⟩)

/-- The order of the live allocations does not matter. -/
theorem perm (books : Accounts a o) {live : List Allocation} (same : o.live.Perm live) :
    Accounts a ⟨o.allocator, live⟩ where
  bits_eq := books.bits_eq
  size_eq := books.size_eq
  backing := by
    intro p
    rw [books.backing p, mem_ownedFrames, mem_ownedFrames]
    simp only [same.mem_iff]
  were_free := fun l mem => books.were_free l (same.mem_iff.2 mem)
  apart := (same.pairwise_iff fun h => h.symm).1 books.apart

/-- Giving back the allocation at the head of the list. -/
theorem giveBack {allocator : FrameAllocator} {l : Allocation} {live : List Allocation}
    (books : Accounts a ⟨allocator, l :: live⟩) :
    Accounts a ⟨(allocator.release l.addr l.count).2, live⟩ := by
  obtain ⟨first, rest⟩ := List.pairwise_cons.1 books.apart
  rw [FrameAllocator.release_snd]
  refine ⟨(Bitmap.bits_unsetRange _ _ _).trans books.bits_eq,
    (Bitmap.size_data_unsetRange _ _ _).trans books.size_eq, ?_,
    fun m mem => books.were_free m (List.mem_cons_of_mem l mem), rest⟩
  intro p
  have inRange : p ∈ l.frames → p < a.bitmap.bits ∧ a.bitmap.get p = false :=
    fun covered => Bitmap.mem_clearSlots.1 (books.were_free l List.mem_cons_self covered)
  -- all frames of the allocation exist, so none of its bits is left out
  have range : (Frame.containing l.addr ≤ p ∧ p < Frame.containing l.addr + l.count ∧
      p < allocator.bitmap.bits) ↔ p ∈ l.frames := by
    have bits : allocator.bitmap.bits = a.bitmap.bits := books.bits_eq
    rw [bits, Allocation.mem_frames]
    exact ⟨fun h => ⟨h.1, h.2.1⟩,
      fun h => ⟨h.1, h.2, (inRange (Allocation.mem_frames.2 h)).1⟩⟩
  have held : allocator.bitmap.backingBit p = true ↔
      a.bitmap.backingBit p = true ∨ p ∈ ownedFrames (l :: live) := books.backing p
  show (allocator.bitmap.unsetRange _ _).backingBit p = true ↔ _
  rw [Bitmap.backingBit_unsetRange, Bool.and_eq_true, held, Bool.not_eq_true',
    decide_eq_false_iff_not, range, ownedFrames, Finset.mem_union]
  by_cases covered : p ∈ l.frames
  · -- a frame of the allocation was free at first and belongs to no other one
    obtain ⟨inside, clear⟩ := inRange covered
    rw [Bitmap.get_eq_backingBit, decide_eq_true inside, Bool.and_true] at clear
    have others : p ∉ ownedFrames live := by
      intro owned
      obtain ⟨m, isLive, shared⟩ := mem_ownedFrames.1 owned
      exact Finset.disjoint_left.1 (first m isLive) covered shared
    simp [covered, clear, others]
  · simp [covered]

/-- Every use of the allocator goes through and keeps the books. -/
theorem deal (books : Accounts a o) (room : a.Addressable) (use : Deal) :
    ∃ o', o.deal use = .ok o' ∧ Accounts a o' := by
  have now := room.of_bits_eq books.bits_eq
  cases use with
  | take count =>
      rcases FrameAllocator.request_cases now count.toNat with
        ⟨s, positive, fits, least, granted⟩ | ⟨-, refused⟩
      · have frames : (⟨UInt64.ofNat (4096 * s), count.toNat⟩ : Allocation).frames =
            Finset.Ico s (s + count.toNat) := by
          rw [Allocation.frames, Frame.containing_ofNat fits]
        refine ⟨_, ?_, books.take positive least.1 frames⟩
        simp only [Ownership.deal, granted]
        rfl
      · refine ⟨o, ?_, books⟩
        simp only [Ownership.deal, refused]
        rfl
  | giveBack place =>
      cases found : o.live[place]? with
      | none =>
          refine ⟨o, ?_, books⟩
          simp only [Ownership.deal, found]
      | some l =>
          -- bring the allocation to the head of the list
          obtain ⟨inside, rfl⟩ := List.getElem?_eq_some_iff.1 found
          have first := books.perm (List.getElem_cons_eraseIdx_perm inside).symm
          refine ⟨_, ?_, first.giveBack⟩
          simp only [Ownership.deal, found]
  | walk addr =>
      refine ⟨o, ?_, books⟩
      simp only [Ownership.deal, FrameAllocator.free_eq now addr]
      rfl

/-! ## A run -/

/-- Every run goes through and keeps the books. -/
theorem deals (room : a.Addressable) (uses : List Deal) :
    ∀ o, Accounts a o → ∃ o', o.deals uses = .ok o' ∧ Accounts a o' := by
  induction uses with
  | nil => exact fun o books => ⟨o, rfl, books⟩
  | cons use uses ih =>
      intro o books
      obtain ⟨next, done, kept⟩ := books.deal room use
      obtain ⟨last, rest, keptAll⟩ := ih next kept
      refine ⟨last, ?_, keptAll⟩
      unfold Ownership.deals at rest ⊢
      rw [List.foldlM_cons, done]
      exact rest

end Accounts

/-- **Ownership over whole runs.** After any run of uses of a new allocator, whatever the memory map
and the memory given for the bitmap were: the live allocations do not overlap, lie below the number
of frames and were free at first; what is free is what was free at first without them, in frames and
in bytes; and once nothing is live the memory behind the bitmap is what it was at first. -/
theorem deals_keep_accounts {regions : Option (List Region)} {map : UInt64 → UInt64 → Array UInt8}
    {a : FrameAllocator} (built : (FrameAllocator.setup regions map).outcome = .ok a)
    (uses : List Deal) :
    ∃ o, deals ⟨a, []⟩ uses = .ok o ∧
      (o.live.Pairwise fun l m => Disjoint l.frames m.frames) ∧
      (∀ l ∈ o.live, l.frames ⊆ a.freeFrames ∧ l.frames ⊆ Finset.range a.totalFrames) ∧
      o.allocator.totalFrames = a.totalFrames ∧
      o.allocator.freeFrames = a.freeFrames \ ownedFrames o.live ∧
      (∃ first now, a.freeBytes = .ok first ∧ o.allocator.freeBytes = .ok now ∧
        now.toNat + 4096 * (o.live.map Allocation.count).sum = first.toNat) ∧
      (o.live = [] → o.allocator.bitmap.data = a.bitmap.data) := by
  obtain ⟨original, left, -, -, -, from_map⟩ := FrameAllocator.setup_eq_ok built
  have room := from_map.addressable
  obtain ⟨o, run, books⟩ := Accounts.deals room uses ⟨a, []⟩ (Accounts.start a)
  obtain ⟨first, firstBound⟩ := FrameAllocator.freeBytes_of_addressable room
  obtain ⟨now, nowBound⟩ := FrameAllocator.freeBytes_of_addressable (room.of_bits_eq books.bits_eq)
  have split : o.allocator.freeFrames.card + (o.live.map Allocation.count).sum =
      a.freeFrames.card := by
    rw [books.freeFrames_eq, ← card_ownedFrames books.apart]
    exact Finset.card_sdiff_add_card_eq_card books.ownedFrames_subset
  refine ⟨o, run, books.apart, ?_, books.bits_eq, books.freeFrames_eq, ⟨_, _, first, now, ?_⟩, ?_⟩
  · intro l isLive
    have free := books.were_free l isLive
    exact ⟨free, free.trans a.bitmap.clearSlots_subset_range⟩
  · rw [UInt64.toNat_ofNat_of_lt' nowBound, UInt64.toNat_ofNat_of_lt' firstBound, ← split,
      Nat.mul_add]
  · intro none
    rw [books.bitmap_eq_of_nil none]

/-- Nine pages of usable memory. -/
def ninePages : List Region :=
  [⟨0, 0x9000, 1⟩]

/-- One byte of memory, whatever was asked for. -/
def oneByte (_ _ : UInt64) : Array UInt8 :=
  #[0]

/-- The allocator of nine pages with one byte for its bitmap. -/
def oneByteAllocator : FrameAllocator where
  bitmap := (Bitmap.full #[0] 9).unsetRange 0 8
  bitmapBase := 0
  bitmapSize := 0x1000

theorem setup_ninePages :
    (FrameAllocator.setup (some ninePages) oneByte).outcome = .ok oneByteAllocator := by
  have split : FrameAllocator.HostSplit (UInt64.ofNat (FrameAllocator.bitmapBytes ninePages))
      ninePages [] ⟨0, 0x9000, 1⟩ [] :=
    .head (by decide) _
  rw [FrameAllocator.setup_of_host oneByte (by decide) (by decide) split]
  rfl

/-- Six uses, after which three allocations of four frames together are live. -/
theorem accounts_of_six_uses :
    ∃ o first now, deals ⟨oneByteAllocator, []⟩
        [.take 1, .take 1, .giveBack 1, .take 2, .walk 0, .take 1] = .ok o ∧
      o.live = [⟨0, 1⟩, ⟨0x2000, 2⟩, ⟨0x1000, 1⟩] ∧
      (o.live.Pairwise fun l m => Disjoint l.frames m.frames) ∧
      oneByteAllocator.freeBytes = .ok first ∧ o.allocator.freeBytes = .ok now ∧
      now.toNat + 4096 * 4 = first.toNat := by
  obtain ⟨o, run, apart, -, -, -, ⟨first, now, atFirst, atLast, difference⟩, -⟩ :=
    deals_keep_accounts setup_ninePages [.take 1, .take 1, .giveBack 1, .take 2, .walk 0, .take 1]
  have live : o.live = [⟨0, 1⟩, ⟨0x2000, 2⟩, ⟨0x1000, 1⟩] := by
    have lives : (deals ⟨oneByteAllocator, []⟩
        [.take 1, .take 1, .giveBack 1, .take 2, .walk 0, .take 1]).map Ownership.live =
          .ok [⟨0, 1⟩, ⟨0x2000, 2⟩, ⟨0x1000, 1⟩] := rfl
    rw [run] at lives
    exact Except.ok.inj lives
  refine ⟨o, first, now, run, live, apart, atFirst, atLast, ?_⟩
  rwa [live] at difference

end Ownership

end Bringup
