import Bringup.Proofs.MarkedFrames

/-!
# Walks over free frames

A walk goes over the free frames from an address on, clears their slots and answers with their
number. What it clears is clear, so it leaves the allocator as it is, down to the bytes behind the
bitmap, and its answer is the length of the longest run of free frames that begins there. Walks can
therefore be put in between the uses of a run (`RunEntry`): every use of the run itself gets the
answer that it would have got without them, and the allocator ends up the same
(`walks_change_nothing`).
-/

namespace Bringup

namespace FrameAllocator

/-- A run of uses from `a` gives `answers` and leaves `b` behind, with the guards as without
them. -/
def RunsTo (a : FrameAllocator) (uses : List Use) (answers : List Answer) (b : FrameAllocator) :
    Prop :=
  run use a uses = .ok (answers, b) ∧ run Guarded.use a uses = .ok (answers, b)

theorem runsTo_nil (a : FrameAllocator) : a.RunsTo [] [] a :=
  ⟨rfl, rfl⟩

theorem Answers.cons {a b c : FrameAllocator} {u : Use} {answer : Answer} {uses : List Use}
    {answers : List Answer} (first : a.Answers u answer b) (rest : b.RunsTo uses answers c) :
    a.RunsTo (u :: uses) (answer :: answers) c := by
  constructor
  · simp only [run, first.1, bind, Except.bind, rest.1]
    rfl
  · simp only [run, first.2, bind, Except.bind, rest.2]
    rfl

/-! ## One walk -/

/-- A walk is answered with the length of the run of free frames and leaves the allocator as it
is. -/
theorem Addressable.answers_free {a : FrameAllocator} (room : a.Addressable) (addr : UInt64) :
    a.Answers (.call (.free addr))
      (.reply (.frames (a.bitmap.clearRunLength (Frame.containing addr)))) a := by
  apply room.answers
  simp only [use, call, free_eq room]
  rfl

theorem isGreatest_clearRunLength (a : FrameAllocator) (start : Nat) :
    IsGreatest {count | Finset.Ico start (start + count) ⊆ a.freeFrames}
      (a.bitmap.clearRunLength start) := by
  constructor
  · exact (a.bitmap.Ico_subset_iff_le_clearRunLength start _).2 (Nat.le_refl _)
  · intro count run
    exact (a.bitmap.Ico_subset_iff_le_clearRunLength start count).1 run

/-! ## Walks in between -/

/-- An entry of a run: a use of the run itself or a walk put in between. -/
inductive RunEntry where
  | own (u : Use)
  | walk (addr : UInt64)

namespace RunEntry

/-- The use that is made for an entry. -/
def use : RunEntry → Use
  | .own u => u
  | .walk addr => .call (.free addr)

/-- The use, if it belongs to the run itself. -/
def own? : RunEntry → Option Use
  | .own u => some u
  | .walk _ => none

/-- The uses of a run with the walks in between. -/
def allUses (entries : List RunEntry) : List Use :=
  entries.map use

/-- The uses of the run itself. -/
def ownUses (entries : List RunEntry) : List Use :=
  entries.filterMap own?

/-- Out of the answers to all uses, those to the uses of the run itself. -/
def ownAnswers : List RunEntry → List Answer → List Answer
  | .own _ :: entries, answer :: answers => answer :: ownAnswers entries answers
  | .walk _ :: entries, _ :: answers => ownAnswers entries answers
  | _, _ => []

end RunEntry

open RunEntry (allUses ownUses ownAnswers)

/-- Walks put in between make no difference to a run. -/
theorem exists_runsTo_entries {a : FrameAllocator} (room : a.Addressable)
    (entries : List RunEntry) :
    ∃ answers all b, a.RunsTo (ownUses entries) answers b ∧ a.RunsTo (allUses entries) all b ∧
      ownAnswers entries all = answers := by
  -- both runs are at the same allocator after each entry
  induction entries generalizing a with
  | nil => exact ⟨[], [], a, runsTo_nil a, runsTo_nil a, rfl⟩
  | cons entry entries ih =>
      cases entry with
      | own u =>
          obtain ⟨answer, next, done, kept⟩ := exists_use_eq_ok room u
          obtain ⟨answers, all, b, own, padded, same⟩ := ih (room.of_bits_eq kept)
          have first := room.answers done
          exact ⟨answer :: answers, answer :: all, b, first.cons own, first.cons padded,
            congrArg (answer :: ·) same⟩
      | walk addr =>
          obtain ⟨answers, all, b, own, padded, same⟩ := ih room
          exact ⟨answers, _ :: all, b, own, (room.answers_free addr).cons padded, same⟩

/-- **Walks change nothing.** On an allocator in service a walk from any address is answered with
the greatest number of frames that are free in a row from that of the address on, which is none if
the first one is used or does not exist, and leaves the allocator as it is, all bytes behind its
bitmap included. Put any walks in between the uses of any run: every use of the run itself is
answered as without them, and the allocator is the same after it. -/
theorem walks_change_nothing {b : FrameAllocator} (service : b.InService) :
    (∀ addr : UInt64, ∃ count, b.Answers (.call (.free addr)) (.reply (.frames count)) b ∧
      IsGreatest {n | Finset.Ico (addr.toNat / 4096) (addr.toNat / 4096 + n) ⊆ b.freeFrames} count ∧
      (addr.toNat / 4096 ∉ b.freeFrames → count = 0)) ∧
    ∀ entries : List RunEntry, ∃ answers all c,
      b.RunsTo (ownUses entries) answers c ∧ b.RunsTo (allUses entries) all c ∧
        ownAnswers entries all = answers := by
  have room := service.addressable
  constructor
  · intro addr
    have walked := room.answers_free addr
    rw [Frame.containing_eq] at walked
    refine ⟨_, walked, b.isGreatest_clearRunLength _, ?_⟩
    intro taken
    exact Bitmap.clearRunLength_of_not_mem taken
  · intro entries
    exact exists_runsTo_entries room entries

/-- A request and a question for the free bytes, with walks around them, the last one from the end
of the address space. -/
def walkedUses : List RunEntry :=
  [.walk 0x2fff, .own (.call (.request 2)), .walk 0, .own .freeBytes, .walk 0xffffffffffffffff]

/-- The first walk goes over six frames, the second one over one and the third one over none; the
request still gets frames two and three. -/
theorem answers_of_walkedUses :
    ∃ c, shortHole.RunsTo (allUses walkedUses)
        [.reply (.frames 6), .reply (.address (some 0x2000)), .reply (.frames 1), .bytes 0x5000,
          .reply (.frames 0)] c ∧
      shortHole.RunsTo (ownUses walkedUses)
        [.reply (.address (some 0x2000)), .bytes 0x5000] c := by
  obtain ⟨-, unnoticed⟩ := walks_change_nothing inService_shortHole
  obtain ⟨answers, all, c, own, padded, rfl⟩ := unnoticed walkedUses
  have given : (run use shortHole (allUses walkedUses)).map Prod.fst =
      .ok [.reply (.frames 6), .reply (.address (some 0x2000)), .reply (.frames 1), .bytes 0x5000,
        .reply (.frames 0)] := rfl
  rw [padded.1] at given
  obtain rfl := Except.ok.inj given
  exact ⟨c, padded, own⟩

end FrameAllocator

end Bringup
