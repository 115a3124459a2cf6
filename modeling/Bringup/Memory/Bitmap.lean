/-!
# Bitmaps

A set of slot numbers below `bits`, packed eight slots to the byte, the low bit first.
`Bitmap.get` is the view through which everything else is read: `set` and `unset` change one slot
of it, a `Bitmap.Cursor` walks through it slot by slot, and slots at or past `bits` read as clear
and take no writes. The backing bytes may hold more bits than the bitmap has slots; those stay as
`full` left them.
-/

namespace Bringup

/-- Bit `k` of a byte. -/
def byteBit (byte : UInt8) (k : Nat) : Bool :=
  byte.toBitVec.getLsbD k

/-- The byte with bit `k` set. -/
def setByteBit (byte : UInt8) (k : Nat) : UInt8 :=
  ⟨byte.toBitVec ||| BitVec.twoPow 8 k⟩

/-- The byte with bit `k` clear. -/
def clearByteBit (byte : UInt8) (k : Nat) : UInt8 :=
  ⟨byte.toBitVec &&& ~~~BitVec.twoPow 8 k⟩

/-- A packed set of slot numbers over its backing bytes. -/
structure Bitmap where
  data : Array UInt8
  bits : Nat
  bits_le : bits ≤ 8 * data.size

namespace Bitmap

/-- All slots set, over memory with any previous contents. There are as many slots as asked for,
or as many as the memory has bits. -/
def full (memory : Array UInt8) (bits : Nat) : Bitmap where
  data := Array.replicate memory.size 0xff
  bits := min bits (8 * memory.size)
  bits_le := by
    rw [Array.size_replicate]
    exact Nat.min_le_right _ _

theorem div_lt_size (b : Bitmap) {i : Nat} (h : i < b.bits) : i / 8 < b.data.size := by
  have := b.bits_le
  omega

/-- The byte that holds slot `i`. -/
def byteOf (b : Bitmap) (i : Nat) (h : i < b.bits) : UInt8 :=
  have := b.div_lt_size h
  b.data[i / 8]

/-- Whether slot `i` is set. -/
def get (b : Bitmap) (i : Nat) : Bool :=
  if h : i < b.bits then byteBit (b.byteOf i h) (i % 8) else false

/-- The bitmap with slot `i` set. -/
def set (b : Bitmap) (i : Nat) : Bitmap :=
  if h : i < b.bits then
    { data := b.data.set (i / 8) (setByteBit (b.byteOf i h) (i % 8)) (b.div_lt_size h)
      bits := b.bits
      bits_le := by
        rw [Array.size_set]
        exact b.bits_le }
  else b

/-- The bitmap with slot `i` clear. -/
def unset (b : Bitmap) (i : Nat) : Bitmap :=
  if h : i < b.bits then
    { data := b.data.set (i / 8) (clearByteBit (b.byteOf i h) (i % 8)) (b.div_lt_size h)
      bits := b.bits
      bits_le := by
        rw [Array.size_set]
        exact b.bits_le }
  else b

/-- The bitmap with the `count` slots from `start` set. -/
def setRange (b : Bitmap) (start count : Nat) : Bitmap :=
  (List.range' start count).foldl set b

/-- The bitmap with the `count` slots from `start` clear. -/
def unsetRange (b : Bitmap) (start count : Nat) : Bitmap :=
  (List.range' start count).foldl unset b

/-- A place between two slots, from which the slots after it are read one by one. -/
structure Cursor (b : Bitmap) where
  slot : Nat
  slot_le : slot ≤ b.bits

namespace Cursor

variable {b : Bitmap}

/-- The place before the first slot. -/
def first (b : Bitmap) : Cursor b where
  slot := 0
  slot_le := Nat.zero_le b.bits

/-- The slot after a place and the place after that slot, unless the place is the end. The end is
told by equality, so a place past it would never come to an end. -/
def next? (c : Cursor b) : Option (Bool × Cursor b) :=
  if atEnd : c.slot = b.bits then none
  else some (b.get c.slot, ⟨c.slot + 1, Nat.lt_of_le_of_ne c.slot_le atEnd⟩)

/-- The place `n` slots further on, or the end. -/
def skip : Nat → Cursor b → Cursor b
  | 0, c => c
  | n + 1, c =>
      match c.next? with
      | none => c
      | some (_, d) => d.skip n

/-- The slots read so far, and after them the next `n` or all that there are. -/
def readInto : Nat → Cursor b → Array Bool → Array Bool
  | 0, _, slots => slots
  | n + 1, c, slots =>
      match c.next? with
      | none => slots
      | some (used, d) => d.readInto n (slots.push used)

/-- The `n` slots after a place, or all of them. -/
def take (n : Nat) (c : Cursor b) : List Bool :=
  (c.readInto n #[]).toList

/-- All slots after a place. The distance to the end is their number. -/
def rest (c : Cursor b) : List Bool :=
  c.take (b.bits - c.slot)

end Cursor

/-- Every slot in order. -/
def toList (b : Bitmap) : List Bool :=
  (Cursor.first b).rest

/-- How many slots are clear. -/
def clearCount (b : Bitmap) : Nat :=
  b.toList.count false

/-- Extends the runs found so far, last run first, by the slot `i` that holds `used`. -/
def extendRuns : List (Nat × Nat) → Nat → Bool → List (Nat × Nat)
  | runs, _, true => runs
  | [], i, false => [(i, 1)]
  | (start, length) :: runs, i, false =>
      if start + length = i then (start, length + 1) :: runs
      else (i, 1) :: (start, length) :: runs

/-- The maximal runs of clear slots in order, each with its first slot and its length. -/
def clearRuns (b : Bitmap) : List (Nat × Nat) :=
  ((List.range b.bits).foldl (fun runs i => extendRuns runs i (b.get i)) []).reverse

/-- The length of the run of clear slots that starts at slot `i`. -/
def clearRunLength (b : Bitmap) (i : Nat) : Nat :=
  ((b.toList.drop i).takeWhile (! ·)).length

end Bitmap

/-- The first place in a list of slots where `count` clear slots stand in a row. The slot at the
head has number `i`, and the `run` slots before it, from slot `start`, are clear. -/
def firstFitFrom (count : Nat) : (i start run : Nat) → List Bool → Option Nat
  | _, _, _, [] => none
  | i, start, _, true :: slots => firstFitFrom count (i + 1) start 0 slots
  | i, start, run, false :: slots =>
      let start := if run = 0 then i else start
      if run + 1 = count then some start else firstFitFrom count (i + 1) start (run + 1) slots

/-- The least slot from which `count` slots in a row are clear, for a positive `count`. -/
def Bitmap.firstFit (b : Bitmap) (count : Nat) : Option Nat :=
  firstFitFrom count 0 0 0 b.toList

end Bringup
