import Bringup.Proofs.GuardedCalls

/-!
# What requests and releases mark

An allocator is in service if a setup built it and some run of uses brought it to its state
(`InService`). A call that changes such an allocator marks a set of its frames as used or as free:
`Marked` says that the frames of the set read so afterwards and that no other frame, no padding bit
and nothing besides has changed.

A request marks the least run of free frames that is long enough, or there is none and nothing
changes (`request_takes_least_run`). A release marks the part of its range that exists, answers with
the number of frames in it that were used, and finds nothing to do when it is repeated
(`release_frees_range`).
-/

namespace Bringup

namespace FrameAllocator

/-! ## Allocators in service -/

/-- A setup built the allocator, and any uses have been made of it since. -/
def InService (b : FrameAllocator) : Prop :=
  ∃ regions map a uses answers,
    (setup regions map).outcome = .ok a ∧ run use a uses = .ok (answers, b)

/-- Uses keep the number of frames, and a new allocator has no more than can be addressed. -/
theorem InService.addressable {b : FrameAllocator} (service : b.InService) : b.Addressable := by
  obtain ⟨regions, map, a, uses, answers, built, ran⟩ := service
  obtain ⟨original, left, -, -, -, from_map⟩ := setup_eq_ok built
  obtain ⟨others, c, plain, -, kept⟩ := run_eq from_map.addressable uses
  rw [ran] at plain
  obtain ⟨-, rfl⟩ := Prod.mk.inj (Except.ok.inj plain)
  exact from_map.addressable.of_bits_eq kept

/-- The use is answered with `answer` and leaves `b` behind, and turn by turn of its loops, with a
guard before each operation that could go wrong, it comes to the same. -/
def Answers (a : FrameAllocator) (u : Use) (answer : Answer) (b : FrameAllocator) : Prop :=
  a.use u = .ok (answer, b) ∧ Guarded.use a u = .ok (answer, b)

theorem Addressable.answers {a b : FrameAllocator} (room : a.Addressable) {u : Use}
    {answer : Answer} (done : a.use u = .ok (answer, b)) : a.Answers u answer b :=
  ⟨done, guarded_use_eq_ok room done⟩

/-- The question for the free bytes is answered with those of the free frames. -/
theorem Addressable.answers_freeBytes {a : FrameAllocator} (room : a.Addressable) :
    ∃ bytes, a.Answers .freeBytes (.bytes bytes) a ∧ bytes.toNat = 4096 * a.freeFrames.card := by
  obtain ⟨counted, fits⟩ := freeBytes_of_addressable room
  refine ⟨_, room.answers ?_, UInt64.toNat_ofNat_of_lt' fits⟩
  simp only [use, counted]
  rfl

/-! ## Marked frames -/

/-- `b` is `a` with the frames of a set marked as used, or as free, and nothing else changed:
neither another frame nor a bit of the padding nor what is known of the bitmap's place. -/
structure Marked (used : Bool) (frames : Finset Nat) (a b : FrameAllocator) : Prop where
  exist : frames ⊆ Finset.range a.totalFrames
  totalFrames_eq : b.totalFrames = a.totalFrames
  isUsed_eq : ∀ k, b.isUsed k = if k ∈ frames then used else a.isUsed k
  backingBit_eq : ∀ p, b.bitmap.backingBit p = if p ∈ frames then used else a.bitmap.backingBit p
  size_eq : b.bitmap.data.size = a.bitmap.data.size
  bitmapBase_eq : b.bitmapBase = a.bitmapBase
  bitmapSize_eq : b.bitmapSize = a.bitmapSize

section Marking

variable {used : Bool} {frames : Finset Nat} {a b : FrameAllocator}

/-- Of the memory behind the bitmap only the bits of the marked frames matter. -/
theorem marked_of_backingBit {bitmap : Bitmap} (exist : frames ⊆ Finset.range a.totalFrames)
    (bits : bitmap.bits = a.bitmap.bits) (size : bitmap.data.size = a.bitmap.data.size)
    (backing : ∀ p, bitmap.backingBit p = if p ∈ frames then used else a.bitmap.backingBit p) :
    Marked used frames a { a with bitmap } where
  exist := exist
  totalFrames_eq := bits
  isUsed_eq := by
    intro k
    show bitmap.get k = if k ∈ frames then used else a.bitmap.get k
    rw [Bitmap.get_eq_backingBit, Bitmap.get_eq_backingBit, bits, backing]
    by_cases marked : k ∈ frames
    · have inside : k < a.bitmap.bits := Finset.mem_range.1 (exist marked)
      simp [marked, inside]
    · simp [marked]
  backingBit_eq := backing
  size_eq := size
  bitmapBase_eq := rfl
  bitmapSize_eq := rfl

theorem marked_setRange {start count : Nat} (inside : start + count ≤ a.totalFrames) :
    Marked true (Finset.Ico start (start + count)) a
      { a with bitmap := a.bitmap.setRange start count } := by
  apply marked_of_backingBit
  · intro k mem
    have below := (Finset.mem_Ico.1 mem).2
    exact Finset.mem_range.2 (Nat.lt_of_lt_of_le below inside)
  · exact Bitmap.bits_setRange _ _ _
  · exact Bitmap.size_data_setRange _ _ _
  · intro p
    have range : (start ≤ p ∧ p < start + count ∧ p < a.bitmap.bits) ↔
        p ∈ Finset.Ico start (start + count) := by
      unfold totalFrames at inside
      rw [Finset.mem_Ico]
      omega
    rw [Bitmap.backingBit_setRange]
    by_cases marked : p ∈ Finset.Ico start (start + count)
    · rw [if_pos marked, decide_eq_true (range.2 marked), Bool.or_true]
    · rw [if_neg marked, decide_eq_false (mt range.1 marked), Bool.or_false]

/-- Clearing a range marks what exists of it. -/
theorem marked_unsetRange (a : FrameAllocator) (start count : Nat) :
    Marked false (Finset.Ico start (min (start + count) a.totalFrames)) a
      { a with bitmap := a.bitmap.unsetRange start count } := by
  apply marked_of_backingBit
  · intro k mem
    have below := (Finset.mem_Ico.1 mem).2
    exact Finset.mem_range.2 (Nat.lt_of_lt_of_le below (Nat.min_le_right _ _))
  · exact Bitmap.bits_unsetRange _ _ _
  · exact Bitmap.size_data_unsetRange _ _ _
  · intro p
    have range : (start ≤ p ∧ p < start + count ∧ p < a.bitmap.bits) ↔
        p ∈ Finset.Ico start (min (start + count) a.totalFrames) := by
      rw [Finset.mem_Ico, Nat.lt_min]
      exact Iff.rfl
    rw [Bitmap.backingBit_unsetRange]
    by_cases marked : p ∈ Finset.Ico start (min (start + count) a.totalFrames)
    · rw [if_pos marked, decide_eq_true (range.2 marked), Bool.not_true, Bool.and_false]
    · rw [if_neg marked, decide_eq_false (mt range.1 marked), Bool.not_false, Bool.and_true]

/-- The frames that were used and are marked as free come to those that were free before. -/
theorem Marked.freeFrames_eq (marked : Marked false frames a b) :
    b.freeFrames = a.freeFrames ∪ frames.filter fun k => a.isUsed k = true := by
  ext k
  rw [Finset.mem_union, Finset.mem_filter, mem_freeFrames, mem_freeFrames, marked.totalFrames_eq,
    marked.isUsed_eq]
  by_cases mem : k ∈ frames
  · have inside := Finset.mem_range.1 (marked.exist mem)
    cases a.isUsed k <;> simp [mem, inside]
  · simp [mem]

theorem Marked.card_freeFrames (marked : Marked false frames a b) :
    b.freeFrames.card = a.freeFrames.card + (frames.filter fun k => a.isUsed k = true).card := by
  have apart : Disjoint a.freeFrames (frames.filter fun k => a.isUsed k = true) := by
    rw [Finset.disjoint_left]
    intro k free mem
    have unused := (mem_freeFrames.1 free).2
    rw [(Finset.mem_filter.1 mem).2] at unused
    cases unused
  rw [marked.freeFrames_eq, Finset.card_union_of_disjoint apart]

/-- Marking what is marked already changes nothing. -/
theorem Marked.eq_self (marked : Marked used frames a b)
    (already : ∀ k ∈ frames, a.isUsed k = used) : b = a := by
  have bits : b.bitmap.bits = a.bitmap.bits := marked.totalFrames_eq
  have bitmap : b.bitmap = a.bitmap := by
    apply Bitmap.ext_backingBit bits marked.size_eq
    intro p
    rw [marked.backingBit_eq]
    by_cases mem : p ∈ frames
    · -- a marked frame exists, so its bit is what the frame reads as
      have inside : p < a.bitmap.bits := Finset.mem_range.1 (marked.exist mem)
      have reads : a.bitmap.get p = used := already p mem
      rw [Bitmap.get_eq_backingBit, decide_eq_true inside, Bool.and_true] at reads
      rw [if_pos mem, reads]
    · rw [if_neg mem]
  have base := marked.bitmapBase_eq
  have size := marked.bitmapSize_eq
  cases a
  cases b
  simp only at bitmap base size
  subst bitmap base size
  rfl

end Marking

/-! ## Requests -/

/-- **A request takes the least run.** On an allocator in service and for any count: if there are
that many free frames in a row, and the count is not zero, the request is answered with the address
of the least frame that they can begin at, marks them as used and changes nothing else; if there are
not, it is answered with no address and changes nothing at all. -/
theorem request_takes_least_run {b : FrameAllocator} (service : b.InService) (count : UInt64) :
    ((0 < count.toNat ∧ ∃ s, Finset.Ico s (s + count.toNat) ⊆ b.freeFrames) →
      ∃ s addr c, IsLeast {s | Finset.Ico s (s + count.toNat) ⊆ b.freeFrames} s ∧
        addr.toNat = 4096 * s ∧
        b.Answers (.call (.request count)) (.reply (.address (some addr))) c ∧
        Marked true (Finset.Ico s (s + count.toNat)) b c) ∧
    (¬ (0 < count.toNat ∧ ∃ s, Finset.Ico s (s + count.toNat) ⊆ b.freeFrames) →
      b.Answers (.call (.request count)) (.reply (.address none)) b) := by
  have room := service.addressable
  rcases request_cases room count.toNat with ⟨s, positive, fits, least, granted⟩ | ⟨no_run, refused⟩
  · have inside : s + count.toNat ≤ b.totalFrames := Bitmap.add_le_of_Ico_subset positive least.1
    have done : b.use (.call (.request count)) =
        .ok (.reply (.address (some (UInt64.ofNat (4096 * s)))),
          { b with bitmap := b.bitmap.setRange s count.toNat }) := by
      simp only [use, call, granted]
      rfl
    constructor
    · intro _
      exact ⟨s, _, _, least, UInt64.toNat_ofNat_of_lt' fits, room.answers done,
        marked_setRange inside⟩
    · intro none
      exact absurd ⟨positive, s, least.1⟩ none
  · have done : b.use (.call (.request count)) = .ok (.reply (.address none), b) := by
      simp only [use, call, refused]
      rfl
    constructor
    · rintro ⟨positive, s, run⟩
      rcases no_run with zero | full
      · omega
      · exact absurd run (full s)
    · intro _
      exact room.answers done

/-- Eight frames over one byte of memory, of which only frame one is used. -/
def shortHole : FrameAllocator where
  bitmap := ⟨#[0x02], 8, by decide⟩
  bitmapBase := 0
  bitmapSize := 0x1000

theorem inService_shortHole : shortHole.InService :=
  ⟨some Ownership.ninePages, Ownership.oneByte, Ownership.oneByteAllocator,
    [.call (.request 1), .call (.request 1), .call (.release 0 1)],
    [.reply (.address (some 0)), .reply (.address (some 0x1000)), .reply (.frames 1)],
    Ownership.setup_ninePages, rfl⟩

/-- The frame before the used one is too short a run for two frames, so they come after it; there
are six in a row there and no seven anywhere. -/
theorem request_past_short_hole :
    (∃ c, shortHole.Answers (.call (.request 2)) (.reply (.address (some 0x2000))) c ∧
      Marked true (Finset.Ico 2 4) shortHole c) ∧
    shortHole.Answers (.call (.request 7)) (.reply (.address none)) shortHole := by
  constructor
  · have free : Finset.Ico 2 (2 + (2 : UInt64).toNat) ⊆ shortHole.freeFrames := by decide
    obtain ⟨s, addr, c, -, value, answered, marked⟩ :=
      (request_takes_least_run inService_shortHole 2).1 ⟨by decide, 2, free⟩
    have given : (shortHole.use (.call (.request 2))).map Prod.fst =
        .ok (.reply (.address (some 0x2000))) := rfl
    rw [answered.1] at given
    obtain rfl := Option.some.inj (FrameReply.address.inj (Answer.reply.inj (Except.ok.inj given)))
    obtain rfl : s = 2 := by
      have : (0x2000 : UInt64).toNat = 4096 * 2 := rfl
      omega
    exact ⟨c, answered, marked⟩
  · apply (request_takes_least_run inService_shortHole 7).2
    rintro ⟨-, s, run⟩
    -- seven of eight frames would have frame one among them
    have inside : s + 7 ≤ 8 := Bitmap.add_le_of_Ico_subset (by decide) run
    have one : 1 ∈ Finset.Ico s (s + 7) := Finset.mem_Ico.2 ⟨by omega, by omega⟩
    exact absurd (run one) (by decide)

/-! ## Releases -/

/-- The frames from that of an address on that a release of `count` frames covers, as far as they
exist. -/
def releasedRange (a : FrameAllocator) (addr : UInt64) (count : Nat) : Finset Nat :=
  Finset.Ico (addr.toNat / 4096) (min (addr.toNat / 4096 + count) a.totalFrames)

theorem marked_release (a : FrameAllocator) (addr : UInt64) (count : Nat) :
    Marked false (a.releasedRange addr count) a (a.release addr count).2 := by
  rw [release_snd, releasedRange, ← Frame.containing_eq]
  exact marked_unsetRange a _ count

/-- A release counts the used frames of its range. -/
theorem release_fst (a : FrameAllocator) (addr : UInt64) (count : Nat) :
    (a.release addr count).1 =
      ((a.releasedRange addr count).filter fun k => a.isUsed k = true).card := by
  have reads : (fun k => decide (a.isUsed k = true)) = a.bitmap.get :=
    funext fun _ => Bool.decide_eq_true
  rw [releasedRange, ← Frame.containing_eq]
  -- an interval of numbers is the list that the release goes through
  show List.countP a.bitmap.get _ =
    ((List.range' _ _).filter fun k => decide (a.isUsed k = true)).length
  rw [reads]
  exact List.countP_eq_length_filter

/-- A release leaves no used frame in its range. -/
theorem release_release (a : FrameAllocator) (addr : UInt64) (count : Nat) :
    (a.release addr count).2.release addr count = (0, (a.release addr count).2) := by
  have first := marked_release a addr count
  have again := marked_release (a.release addr count).2 addr count
  have range : (a.release addr count).2.releasedRange addr count = a.releasedRange addr count := by
    rw [releasedRange, first.totalFrames_eq]
    rfl
  have unused : ∀ k ∈ a.releasedRange addr count, (a.release addr count).2.isUsed k = false := by
    intro k mem
    rw [first.isUsed_eq, if_pos mem]
  rw [range] at again
  apply Prod.ext
  · rw [release_fst, range, Finset.card_eq_zero, Finset.filter_eq_empty_iff]
    intro k mem
    rw [unused k mem]
    exact Bool.false_ne_true
  · exact again.eq_self unused

/-- **A release frees its range and counts it.** On an allocator in service, for any address and any
count: the frames from that of the address on, up to the count or to the last frame, are free
afterwards, and nothing else has changed; the answer is the number of these frames that were used
before, and the free bytes grow by the bytes of that many; the same release again is answered with
zero and changes nothing. -/
theorem release_frees_range {b : FrameAllocator} (service : b.InService) (addr count : UInt64) :
    ∃ released c before after,
      b.Answers (.call (.release addr count)) (.reply (.frames released)) c ∧
      Marked false (b.releasedRange addr count.toNat) b c ∧
      released = ((b.releasedRange addr count.toNat).filter fun k => b.isUsed k = true).card ∧
      b.Answers .freeBytes (.bytes before) b ∧ c.Answers .freeBytes (.bytes after) c ∧
      after.toNat = before.toNat + 4096 * released ∧
      c.Answers (.call (.release addr count)) (.reply (.frames 0)) c := by
  have room := service.addressable
  have marked := marked_release b addr count.toNat
  have released := release_fst b addr count.toNat
  have roomAfter : (b.release addr count.toNat).2.Addressable :=
    room.of_bits_eq marked.totalFrames_eq
  obtain ⟨before, freeBefore, bytesBefore⟩ := room.answers_freeBytes
  obtain ⟨after, freeAfter, bytesAfter⟩ := roomAfter.answers_freeBytes
  have grown : after.toNat = before.toNat + 4096 * (b.release addr count.toNat).1 := by
    rw [bytesAfter, marked.card_freeFrames, ← released, Nat.mul_add, bytesBefore]
  have again : (b.release addr count.toNat).2.use (.call (.release addr count)) =
      .ok (.reply (.frames 0), (b.release addr count.toNat).2) := by
    simp only [use, call, release_release]
    rfl
  exact ⟨(b.release addr count.toNat).1, _, before, after, room.answers rfl, marked, released,
    freeBefore, freeAfter, grown, roomAfter.answers again⟩

/-- From the middle of frame one on there are seven frames, however many are given back, and one of
them is used. -/
theorem release_over_short_hole :
    ∃ c, shortHole.Answers (.call (.release 0x1fff 0xffffffffffffffff)) (.reply (.frames 1)) c ∧
      Marked false (Finset.Ico 1 8) shortHole c ∧ c.Answers .freeBytes (.bytes 0x8000) c ∧
      c.Answers (.call (.release 0x1fff 0xffffffffffffffff)) (.reply (.frames 0)) c := by
  obtain ⟨released, c, before, after, answered, marked, counted, freeBefore, freeAfter, grown,
    again⟩ := release_frees_range inService_shortHole 0x1fff 0xffffffffffffffff
  obtain rfl : released = 1 := counted.trans (by decide)
  have sevenFree : shortHole.use .freeBytes = .ok (.bytes 0x7000, shortHole) := rfl
  rw [freeBefore.1] at sevenFree
  obtain rfl := Answer.bytes.inj (Prod.mk.inj (Except.ok.inj sevenFree)).1
  obtain rfl : after = 0x8000 := UInt64.toNat_inj.1 grown
  exact ⟨c, answered, marked, freeAfter, again⟩

end FrameAllocator

end Bringup
