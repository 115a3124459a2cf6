import Bringup.Memory.FrameAllocator.Guarded
import Bringup.Proofs.Ownership

/-!
# No call on a built allocator goes wrong

The guarded calls on an allocator stop where an index is no index, a product does not fit in a word
or a byte is outside the memory behind the bitmap. A bitmap keeps its slots inside its memory, so no
guard on a byte ever fails (`get_eq`, `set_eq`, `unset_eq`); if all frames can be addressed, no
guard on a number fails either, and every guarded use is the use itself (`use_eq`). Uses keep the
number of frames, so this holds over whole runs (`run_eq`), and a built allocator has the bound it
starts from (`runs_after_setup`).
-/

namespace Bringup

namespace Guarded

/-! ## Slots -/

theorem load_of_lt {b : Bitmap} {i : Nat} (inside : i < b.bits) :
    load b (i / 8) = .ok (b.byteOf i inside) :=
  dif_pos (b.div_lt_size inside)

/-- Reading a slot goes through, whether the slot exists or not. -/
theorem get_eq (b : Bitmap) (i : Nat) : get b i = .ok (b.get i) := by
  unfold get Bitmap.get
  by_cases inside : i < b.bits
  · rw [if_pos inside, dif_pos inside, load_of_lt inside]
    rfl
  · rw [if_neg inside, dif_neg inside]
    rfl

section Update

variable (change : UInt8 → Nat → UInt8) {b : Bitmap} {i : Nat}

theorem update_of_lt (inside : i < b.bits) :
    update change b i = store b (i / 8) (change (b.byteOf i inside) (i % 8)) := by
  unfold update
  rw [if_pos inside, load_of_lt inside]
  rfl

theorem update_of_le (past : b.bits ≤ i) : update change b i = .ok b := by
  unfold update
  rw [if_neg (Nat.not_lt.2 past)]
  rfl

end Update

/-- Setting a slot goes through. -/
theorem set_eq (b : Bitmap) (i : Nat) : set b i = .ok (b.set i) := by
  unfold set Bitmap.set
  by_cases inside : i < b.bits
  · rw [dif_pos inside, update_of_lt setByteBit inside, store, dif_pos (b.div_lt_size inside)]
  · rw [dif_neg inside, update_of_le setByteBit (Nat.le_of_not_lt inside)]

/-- Clearing a slot goes through. -/
theorem unset_eq (b : Bitmap) (i : Nat) : unset b i = .ok (b.unset i) := by
  unfold unset Bitmap.unset
  by_cases inside : i < b.bits
  · rw [dif_pos inside, update_of_lt clearByteBit inside, store, dif_pos (b.div_lt_size inside)]
  · rw [dif_neg inside, update_of_le clearByteBit (Nat.le_of_not_lt inside)]

/-! ## Loops -/

/-- Turns that go through as long as `Inv` holds, and keep it, are a fold. -/
theorem each_eq {α : Type} {turn : Nat → α → Except Mishap α} (f : α → Nat → α)
    (Inv : Nat → α → Prop)
    (step : ∀ i value, i + 1 < UInt64.size → Inv i value →
      turn i value = .ok (f value i) ∧ Inv (i + 1) (f value i)) (count : Nat) :
    ∀ i value, i + count < UInt64.size → Inv i value →
      each turn count i value = .ok ((List.range' i count).foldl f value) := by
  -- on the turns that are left, with `Inv` carried from each to the next
  induction count with
  | zero => exact fun i value _ _ => rfl
  | succ count ih =>
      intro i value fits inv
      have next : i + 1 < UInt64.size := by omega
      obtain ⟨here, kept⟩ := step i value next inv
      have rest := ih (i + 1) (f value i) (by omega) kept
      rw [each, here]
      show (add i 1 >>= fun next => each turn count next (f value i)) = _
      rw [add_of_lt next]
      exact rest

theorem each_set (b : Bitmap) {start count : Nat} (fits : start + count < UInt64.size) :
    each (fun i b => set b i) count start b = .ok (b.setRange start count) :=
  each_eq Bitmap.set (fun _ _ => True)
    (fun i b _ _ => ⟨set_eq b i, trivial⟩) count start b fits trivial

theorem each_unset (b : Bitmap) {start count : Nat} (fits : start + count < UInt64.size) :
    each (fun i b => unset b i) count start b = .ok (b.unsetRange start count) :=
  each_eq Bitmap.unset (fun _ _ => True)
    (fun i b _ _ => ⟨unset_eq b i, trivial⟩) count start b fits trivial

/-- A turn of the release, with no guards. -/
def unsetCounting (state : Bitmap × Nat) (i : Nat) : Bitmap × Nat :=
  if state.1.get i then (state.1.unset i, state.2 + 1) else state

/-- The count of a release never passes the number of the turn. -/
theorem releaseTurn_eq {i : Nat} {state : Bitmap × Nat} (next : i + 1 < UInt64.size)
    (few : state.2 ≤ i) :
    releaseTurn i state = .ok (unsetCounting state i) ∧ (unsetCounting state i).2 ≤ i + 1 := by
  unfold releaseTurn unsetCounting
  rw [get_eq]
  cases used : state.1.get i with
  | true =>
      have counted : add state.2 1 = .ok (state.2 + 1) := add_of_lt (by omega)
      refine ⟨?_, Nat.succ_le_succ few⟩
      show (unset state.1 i >>= fun bitmap => add state.2 1 >>= fun n => pure (bitmap, n)) = _
      rw [unset_eq, counted]
      rfl
  | false => exact ⟨rfl, Nat.le_succ_of_le few⟩

/-- Clearing the slots that are set and counting them clears all of the range. -/
theorem foldl_unsetCounting (count : Nat) :
    ∀ (b : Bitmap) (i n : Nat), (List.range' i count).foldl unsetCounting (b, n) =
      (b.unsetRange i count, n + (List.range' i count).countP b.get) := by
  induction count with
  | zero => exact fun b i n => rfl
  | succ count ih =>
      intro b i n
      -- the slots after slot `i` are read as they were before it was cleared
      have later : (List.range' (i + 1) count).countP (b.unset i).get =
          (List.range' (i + 1) count).countP b.get := by
        apply List.countP_congr
        intro j mem
        have other : ¬ i = j := by
          have := (List.mem_range'_1.1 mem).1
          omega
        rw [Bitmap.get_unset, decide_eq_false other, Bool.not_false, Bool.and_true]
      have head : unsetCounting (b, n) i = (b.unset i, n + if b.get i then 1 else 0) := by
        unfold unsetCounting
        cases used : b.get i with
        | true => rfl
        | false =>
            have clear : ∀ j, i ≤ j → j < i + 1 → b.get j = false := by
              intro j above below
              obtain rfl : j = i := by omega
              exact used
            have same : b.unset i = b := b.unsetRange_eq_self clear
            rw [same]
            rfl
      rw [List.range'_succ, List.foldl_cons, head, ih, later, List.countP_cons,
        Bitmap.unsetRange_succ]
      congr 1
      omega

theorem each_releaseTurn (b : Bitmap) {start count : Nat} (fits : start + count < UInt64.size) :
    each releaseTurn count start (b, 0) =
      .ok (b.unsetRange start count, (List.range' start count).countP b.get) := by
  have loop := each_eq unsetCounting (fun i state => state.2 ≤ i)
    (fun i state next few => releaseTurn_eq next few) count start (b, 0) fits (Nat.zero_le _)
  rw [loop, foldl_unsetCounting, Nat.zero_add]

theorem countTurn_eq (b : Bitmap) {i n : Nat} (next : i + 1 < UInt64.size) (few : n ≤ i) :
    countTurn b i n = .ok (if b.get i then n else n + 1) ∧
      (if b.get i then n else n + 1) ≤ i + 1 := by
  unfold countTurn
  rw [get_eq]
  cases b.get i with
  | true => exact ⟨rfl, Nat.le_succ_of_le few⟩
  | false => exact ⟨add_of_lt (by omega), Nat.succ_le_succ few⟩

theorem each_countTurn {b : Bitmap} (room : b.bits < UInt64.size) :
    each (countTurn b) b.bits 0 0 = .ok b.clearCount := by
  have loop := each_eq (fun n i => if b.get i then n else n + 1) (fun i n => n ≤ i)
    (fun i n next few => countTurn_eq b next few) b.bits 0 0 (by omega) (Nat.le_refl 0)
  have folded : ∀ (slots : List Nat) (n : Nat),
      slots.foldl (fun n i => if b.get i then n else n + 1) n =
        n + (slots.map b.get).count false := by
    intro slots
    induction slots with
    | nil => exact fun n => rfl
    | cons i slots ih =>
        intro n
        rw [List.foldl_cons, ih, List.map_cons, List.count_cons]
        cases b.get i with
        | true => rfl
        | false =>
            show n + 1 + _ = n + (_ + 1)
            omega
  rw [loop, folded, Nat.zero_add, Bitmap.clearCount, Bitmap.toList_eq, List.range_eq_range']

/-- The search turn by turn is the search over the list of slots. -/
theorem scan_eq {b : Bitmap} (room : b.bits < UInt64.size) (count todo : Nat) :
    ∀ i start run, i + todo = b.bits → run ≤ i →
      scan b count todo i start run = .ok (firstFitFrom count i start run (b.toList.drop i)) := by
  -- a run never has more slots than there are before slot `i`, so its length is an index too
  induction todo with
  | zero =>
      intro i start run past _
      have none : b.toList.drop i = [] :=
        List.drop_eq_nil_of_le (by rw [Bitmap.length_toList]; omega)
      rw [none]
      rfl
  | succ todo ih =>
      intro i start run left short
      have inside : i < b.toList.length := by
        rw [Bitmap.length_toList]
        omega
      have next : add i 1 = .ok (i + 1) := add_of_lt (by omega)
      have longer : add run 1 = .ok (run + 1) := add_of_lt (by omega)
      rw [List.drop_eq_getElem_cons inside, Bitmap.getElem_toList, scan, get_eq, next]
      dsimp only [bind, Except.bind]
      cases b.get i with
      | true => exact ih (i + 1) start 0 (by omega) (Nat.zero_le _)
      | false =>
          rw [if_neg Bool.false_ne_true, longer]
          unfold firstFitFrom
          by_cases full : run + 1 = count
          · simp only [if_pos full]
            rfl
          · simp only [if_neg full]
            exact ih (i + 1) _ (run + 1) (by omega) (by omega)

/-- The walk turn by turn finds the length of the run of clear slots. -/
theorem walk_eq {b : Bitmap} (room : b.bits < UInt64.size) {start count : Nat}
    (fits : start + count < UInt64.size) :
    walk b start count = .ok (count + b.clearRunLength (start + count)) := by
  -- the sum at hand fits, and a clear slot is below `bits`, so the next sum fits as well
  unfold walk
  split
  · next cause failed =>
      rw [add_of_lt fits] at failed
      cases failed
  · next slot sum =>
      obtain rfl := eq_of_add_eq_ok sum
      by_cases inside : start + count < b.bits
      · rw [if_pos inside, get_eq]
        cases used : b.get (start + count) with
        | true =>
            have stops := Bitmap.clearRunLength_of_not_mem
              ((Bitmap.not_mem_clearSlots_iff inside).2 used)
            rw [stops]
            rfl
        | false =>
            have runs := Bitmap.clearRunLength_of_mem (Bitmap.mem_clearSlots.2 ⟨inside, used⟩)
            dsimp only
            split
            · next cause failed =>
                rw [add_of_lt (by omega)] at failed
                cases failed
            · next longer more =>
                obtain rfl := eq_of_add_eq_ok more
                have later : start + (count + 1) < UInt64.size := by omega
                rw [walk_eq room later, runs, Nat.add_assoc start, Nat.add_assoc count 1,
                  Nat.add_comm 1]
      · have stops := Bitmap.clearRunLength_of_not_mem (b := b) (i := start + count)
          fun mem => inside (Bitmap.mem_clearSlots.1 mem).1
        rw [if_neg inside, stops]
        rfl
termination_by b.bits - (start + count)
decreasing_by omega

/-! ## Calls -/

section Calls

variable {a : FrameAllocator} (room : a.Addressable)

include room

theorem bits_lt : a.bitmap.bits < UInt64.size := by
  unfold FrameAllocator.Addressable FrameAllocator.totalFrames at room
  rw [wordSize_eq]
  omega

theorem request_eq (count : Nat) : request a count = checked (a.request count) := by
  have scanned := scan_eq (bits_lt room) count a.bitmap.bits 0 0 0 (Nat.zero_add _) (Nat.le_refl 0)
  rw [List.drop_zero] at scanned
  change _ = Except.ok (a.bitmap.firstFit count) at scanned
  unfold request FrameAllocator.request
  by_cases none : count = 0
  · rw [if_pos none, if_pos none]
    rfl
  · rw [if_neg none, if_neg none, scanned]
    cases found : a.bitmap.firstFit count with
    | none => rfl
    | some start =>
        have least := (a.bitmap.firstFit_eq_some_iff (Nat.pos_of_ne_zero none)).1 found
        have inside := Bitmap.add_le_of_Ico_subset (Nat.pos_of_ne_zero none) least.1
        have fits := Nat.lt_of_le_of_lt inside (bits_lt room)
        simp only [bind, Except.bind, add_of_lt fits, each_set a.bitmap fits,
          FrameAllocator.indexAdd_of_le room inside]
        cases Frame.start start with
        | error cause => rfl
        | ok addr => rfl

theorem free_eq (addr : UInt64) : free a addr = checked (a.free addr) := by
  have fits := FrameAllocator.walk_lt room addr
  have start : Frame.containing addr + 0 < UInt64.size :=
    Nat.lt_of_le_of_lt (Nat.add_le_add_left (Nat.zero_le _) _) fits
  have walked := walk_eq (bits_lt room) start
  rw [Nat.zero_add, Nat.add_zero] at walked
  unfold free FrameAllocator.free
  simp only [bind, Except.bind, walked, add_of_lt fits, each_unset a.bitmap fits,
    Checked.indexAdd_of_lt fits]
  rfl

theorem release_eq (addr : UInt64) (count : Nat) :
    release a addr count = .ok (a.release addr count) := by
  have total : a.totalFrames < UInt64.size := bits_lt room
  -- a sum that is cut off was past the last frame anyway
  have stop : min (min (Frame.containing addr + count) (UInt64.size - 1)) a.totalFrames =
      min (Frame.containing addr + count) a.totalFrames := by omega
  have start : Frame.containing addr < UInt64.size := by
    have := addr.toNat_lt
    rw [Frame.containing_eq, wordSize_eq]
    omega
  -- an address past the last frame leaves no turns, so its frame number has to fit by itself
  have fits : Frame.containing addr +
      (min (Frame.containing addr + count) a.totalFrames - Frame.containing addr) <
        UInt64.size := by omega
  unfold release FrameAllocator.release
  simp only [bind, Except.bind, stop, each_releaseTurn a.bitmap fits]
  rfl

theorem freeBytes_eq : freeBytes a = checked a.freeBytes := by
  unfold freeBytes FrameAllocator.freeBytes
  rw [each_countTurn (bits_lt room)]
  rfl

/-- If all frames can be addressed, no guard of a use fails before the use itself does. -/
theorem use_eq (u : FrameAllocator.Use) : use a u = checked (a.use u) := by
  cases u with
  | call call =>
      cases call with
      | request count =>
          simp only [use, request_eq room, FrameAllocator.use, FrameAllocator.call]
          cases a.request count.toNat <;> rfl
      | free addr =>
          simp only [use, free_eq room, FrameAllocator.use, FrameAllocator.call]
          cases a.free addr <;> rfl
      | release addr count =>
          simp only [use, release_eq room, FrameAllocator.use, FrameAllocator.call]
          rfl
      | isUsed frame =>
          simp only [use, get_eq, FrameAllocator.use, FrameAllocator.call]
          rfl
  | freeBytes =>
      simp only [use, freeBytes_eq room, FrameAllocator.use]
      cases a.freeBytes <;> rfl

end Calls

end Guarded

/-! ## Runs -/

namespace FrameAllocator

/-- What a holder of an allocator can rely on: every use goes through, with the guards as without
them; a granted run ends at or below the number of frames; up to that number every frame has an
address; and the free bytes can be counted. -/
structure Dependable (a : FrameAllocator) : Prop where
  use_ok : ∀ u, ∃ answer b, a.use u = .ok (answer, b) ∧ Guarded.use a u = .ok (answer, b)
  granted : ∀ count addr b, a.request count = .ok (some addr, b) →
    ∃ start, Frame.start start = .ok addr ∧ start + count ≤ a.totalFrames
  address : ∀ k ≤ a.totalFrames, ∃ addr, Frame.start k = .ok addr ∧ addr.toNat = 4096 * k
  bytes : ∃ bytes, a.freeBytes = .ok bytes ∧ bytes.toNat = 4096 * a.freeFrames.card

section Room

variable {a : FrameAllocator} (room : a.Addressable)

include room

/-- Every use goes through and keeps the number of frames. -/
theorem exists_use_eq_ok (u : Use) :
    ∃ answer b, a.use u = .ok (answer, b) ∧ b.totalFrames = a.totalFrames := by
  cases u with
  | call call =>
      cases call with
      | request count =>
          simp only [use, FrameAllocator.call]
          rcases request_cases room count.toNat with ⟨s, -, -, -, granted⟩ | ⟨-, refused⟩
          · rw [granted]
            exact ⟨_, _, rfl, Bitmap.bits_setRange _ _ _⟩
          · rw [refused]
            exact ⟨_, _, rfl, rfl⟩
      | free addr =>
          simp only [use, FrameAllocator.call, free_eq room]
          exact ⟨_, _, rfl, rfl⟩
      | release addr count => exact ⟨_, _, rfl, Bitmap.bits_unsetRange _ _ _⟩
      | isUsed frame => exact ⟨_, _, rfl, rfl⟩
  | freeBytes =>
      simp only [use, (freeBytes_of_addressable room).1]
      exact ⟨_, _, rfl, rfl⟩

theorem guarded_use_eq_ok {u : Use} {answer : Answer} {b : FrameAllocator}
    (done : a.use u = .ok (answer, b)) : Guarded.use a u = .ok (answer, b) := by
  rw [Guarded.use_eq room, done]
  rfl

theorem Addressable.dependable : a.Dependable where
  use_ok := by
    intro u
    obtain ⟨answer, b, done, -⟩ := exists_use_eq_ok room u
    exact ⟨answer, b, done, guarded_use_eq_ok room done⟩
  granted := by
    intro count addr b taken
    obtain ⟨s, positive, fits, free, rfl, -⟩ := request_eq_some room taken
    exact ⟨s, Frame.start_of_lt fits, Bitmap.add_le_of_Ico_subset positive free⟩
  address := by
    intro k inside
    have fits : 4096 * k < 2 ^ 64 := Nat.lt_of_le_of_lt (Nat.mul_le_mul_left 4096 inside) room
    exact ⟨_, Frame.start_of_lt fits, UInt64.toNat_ofNat_of_lt' fits⟩
  bytes := by
    obtain ⟨counted, fits⟩ := freeBytes_of_addressable room
    exact ⟨_, counted, UInt64.toNat_ofNat_of_lt' fits⟩

/-- Every run goes through, with the guards as without them, and keeps the number of frames. -/
theorem run_eq (uses : List Use) :
    ∃ answers b, run use a uses = .ok (answers, b) ∧
      run Guarded.use a uses = .ok (answers, b) ∧ b.totalFrames = a.totalFrames := by
  induction uses generalizing a with
  | nil => exact ⟨[], a, rfl, rfl, rfl⟩
  | cons u uses ih =>
      obtain ⟨answer, next, done, kept⟩ := exists_use_eq_ok room u
      obtain ⟨answers, b, rest, guardedRest, keptAll⟩ := ih (room.of_bits_eq kept)
      have guarded := guarded_use_eq_ok room done
      refine ⟨answer :: answers, b, ?_, ?_, keptAll.trans kept⟩
      · simp only [run, done, bind, Except.bind, rest]
        rfl
      · simp only [run, guarded, bind, Except.bind, guardedRest]
        rfl

end Room

/-- **No use of a built allocator goes wrong.** For every memory map that a setup accepts, with
memory of any length for the bitmap, and every run of uses with any arguments: no sum and no product
is out of range and no byte outside the memory is touched, so the guarded run is the run; and after
it the allocator can be relied on as before. -/
theorem runs_after_setup {regions : Option (List Region)} {map : UInt64 → UInt64 → Array UInt8}
    {a : FrameAllocator} (built : (setup regions map).outcome = .ok a) (uses : List Use) :
    ∃ answers b, run use a uses = .ok (answers, b) ∧
      run Guarded.use a uses = .ok (answers, b) ∧
      b.totalFrames = a.totalFrames ∧ b.Dependable := by
  obtain ⟨original, left, -, -, -, from_map⟩ := setup_eq_ok built
  have room := from_map.addressable
  obtain ⟨answers, b, plain, guarded, kept⟩ := run_eq room uses
  exact ⟨answers, b, plain, guarded, kept, (room.of_bits_eq kept).dependable⟩

/-- Uses with the greatest arguments, over a bitmap of nine frames with room for eight. -/
def greatestUses : List Use :=
  [.call (.request 0xffffffffffffffff), .call (.free 0xffffffffffffffff), .call (.request 3),
    .call (.release 0x1000 0xffffffffffffffff), .call (.isUsed 0xffffffffffffffff),
    .call (.free 0x1000), .freeBytes]

theorem answers_of_greatestUses :
    ∃ b, run Guarded.use Ownership.oneByteAllocator greatestUses =
        .ok ([.reply (.address none), .reply (.frames 0), .reply (.address (some 0)),
          .reply (.frames 2), .reply (.used false), .reply (.frames 7), .bytes 0x7000], b) ∧
      b.Dependable := by
  obtain ⟨answers, b, plain, guarded, -, dependable⟩ :=
    runs_after_setup Ownership.setup_ninePages greatestUses
  have given : (run use Ownership.oneByteAllocator greatestUses).map Prod.fst =
      .ok [.reply (.address none), .reply (.frames 0), .reply (.address (some 0)),
        .reply (.frames 2), .reply (.used false), .reply (.frames 7), .bytes 0x7000] := rfl
  rw [plain] at given
  obtain rfl := Except.ok.inj given
  exact ⟨b, guarded, dependable⟩

end FrameAllocator

end Bringup
