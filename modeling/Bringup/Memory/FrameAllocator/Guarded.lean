import Bringup.Memory.FrameAllocator

/-!
# Guarded calls on an allocator

The calls on an allocator, turn by turn of their loops, with a guard before every operation that
could go wrong: each sum of indices has to be an index, each product has to fit in a word, and each
byte has to be in the memory behind the bitmap. A guard that fails stops the call with a `Mishap`.
-/

namespace Bringup

/-- Why a guarded call stops. -/
inductive Mishap where
  /-- An operation has no result. -/
  | fault (cause : Fault)
  /-- A byte at this place is not in the memory. -/
  | outside (place : Nat)
  deriving DecidableEq

namespace Guarded

/-- The result of an operation that may fault. -/
def checked {α : Type} (result : Except Fault α) : Except Mishap α :=
  result.mapError .fault

/-- The sum of two indices. -/
def add (i j : Nat) : Except Mishap Nat :=
  checked (Checked.indexAdd i j)

theorem add_of_lt {i j : Nat} (fits : i + j < UInt64.size) : add i j = .ok (i + j) := by
  rw [add, Checked.indexAdd, if_pos fits]
  rfl

/-- A guarded sum has the exact value. -/
theorem eq_of_add_eq_ok {i j k : Nat} (sum : add i j = .ok k) : k = i + j := by
  by_cases fits : i + j < UInt64.size
  · rw [add_of_lt fits] at sum
    exact (Except.ok.inj sum).symm
  · rw [add, Checked.indexAdd, if_neg fits] at sum
    cases sum

/-! ## Slots -/

/-- The byte at a place of the memory behind a bitmap. -/
def load (b : Bitmap) (place : Nat) : Except Mishap UInt8 :=
  if h : place < b.data.size then .ok b.data[place] else .error (.outside place)

/-- The bitmap with another byte at a place of its memory. -/
def store (b : Bitmap) (place : Nat) (byte : UInt8) : Except Mishap Bitmap :=
  if h : place < b.data.size then
    .ok
      { data := b.data.set place byte h
        bits := b.bits
        bits_le := by
          rw [Array.size_set]
          exact b.bits_le }
  else .error (.outside place)

/-- Whether slot `i` is set. -/
def get (b : Bitmap) (i : Nat) : Except Mishap Bool := do
  if i < b.bits then
    let byte ← load b (i / 8)
    return byteBit byte (i % 8)
  else return false

/-- Changes the bit of slot `i`, if the slot exists. -/
def update (change : UInt8 → Nat → UInt8) (b : Bitmap) (i : Nat) : Except Mishap Bitmap := do
  if i < b.bits then
    let byte ← load b (i / 8)
    store b (i / 8) (change byte (i % 8))
  else return b

/-- The bitmap with slot `i` set. -/
def set (b : Bitmap) (i : Nat) : Except Mishap Bitmap :=
  update setByteBit b i

/-- The bitmap with slot `i` clear. -/
def unset (b : Bitmap) (i : Nat) : Except Mishap Bitmap :=
  update clearByteBit b i

/-! ## Loops -/

/-- Takes a value through `count` turns, numbered from `i`. -/
def each {α : Type} (turn : Nat → α → Except Mishap α) : (count i : Nat) → α → Except Mishap α
  | 0, _, value => .ok value
  | count + 1, i, value => do
      let value ← turn i value
      let next ← add i 1
      each turn count next value

/-- The search for `count` clear slots in a row at the `todo` slots from slot `i`. The `run` slots
before it, from slot `start`, are clear. -/
def scan (b : Bitmap) (count : Nat) : (todo i start run : Nat) → Except Mishap (Option Nat)
  | 0, _, _, _ => .ok none
  | todo + 1, i, start, run => do
      let used ← get b i
      let next ← add i 1
      if used then scan b count todo next start 0
      else
        let start := if run = 0 then i else start
        let run ← add run 1
        if run = count then return some start
        else scan b count todo next start run

/-- The length of the run of clear slots from slot `start`, the first `count` of which are known to
be clear. The slots that are left become fewer at every step. -/
def walk (b : Bitmap) (start count : Nat) : Except Mishap Nat :=
  match _sum : add start count with
  | .error cause => .error cause
  | .ok slot =>
      if slot < b.bits then
        match get b slot with
        | .error cause => .error cause
        | .ok true => .ok count
        | .ok false =>
            match _more : add count 1 with
            | .error cause => .error cause
            | .ok longer => walk b start longer
      else .ok count
termination_by b.bits - (start + count)
decreasing_by
  have here := eq_of_add_eq_ok _sum
  have next := eq_of_add_eq_ok _more
  omega

/-- Clears slot `i` and counts it, if it is set. -/
def releaseTurn (i : Nat) (state : Bitmap × Nat) : Except Mishap (Bitmap × Nat) := do
  if ← get state.1 i then
    let bitmap ← unset state.1 i
    let released ← add state.2 1
    return (bitmap, released)
  else return state

/-- Counts slot `i`, if it is clear. -/
def countTurn (b : Bitmap) (i count : Nat) : Except Mishap Nat := do
  if ← get b i then return count else add count 1

/-! ## Calls -/

/-- Takes the lowest run of `count` free frames, as `FrameAllocator.request` does. -/
def request (a : FrameAllocator) (count : Nat) :
    Except Mishap (Option UInt64 × FrameAllocator) := do
  if count = 0 then
    return (none, a)
  match ← scan a.bitmap count a.bitmap.bits 0 0 0 with
  | none => return (none, a)
  | some start =>
      let _ ← add start count
      let bitmap ← each (fun i b => set b i) count start a.bitmap
      let addr ← checked (Frame.start start)
      return (some addr, { a with bitmap })

/-- Walks the free frames from the frame of an address on, as `FrameAllocator.free` does. -/
def free (a : FrameAllocator) (addr : UInt64) : Except Mishap (Nat × FrameAllocator) := do
  let start := Frame.containing addr
  let count ← walk a.bitmap start 0
  let _ ← add start count
  let bitmap ← each (fun i b => unset b i) count start a.bitmap
  return (count, { a with bitmap })

/-- Frees the `count` frames from the frame of an address on, as `FrameAllocator.release` does. The
end of the range is the greatest index if the sum is none. -/
def release (a : FrameAllocator) (addr : UInt64) (count : Nat) :
    Except Mishap (Nat × FrameAllocator) := do
  let start := Frame.containing addr
  let stop := min (min (start + count) (UInt64.size - 1)) a.totalFrames
  let (bitmap, released) ← each releaseTurn (stop - start) start (a.bitmap, 0)
  return (released, { a with bitmap })

/-- The bytes in free frames, as `FrameAllocator.freeBytes` counts them. -/
def freeBytes (a : FrameAllocator) : Except Mishap UInt64 := do
  let count ← each (countTurn a.bitmap) a.bitmap.bits 0 0
  checked (pageBytes count)

/-- The answer to one use and the allocator after it. -/
def use (a : FrameAllocator) :
    FrameAllocator.Use → Except Mishap (FrameAllocator.Answer × FrameAllocator)
  | .call (.request count) => do
      let (addr, b) ← request a count.toNat
      return (.reply (.address addr), b)
  | .call (.free addr) => do
      let (count, b) ← free a addr
      return (.reply (.frames count), b)
  | .call (.release addr count) => do
      let (released, b) ← release a addr count.toNat
      return (.reply (.frames released), b)
  | .call (.isUsed frame) => do
      let used ← get a.bitmap frame.toNat
      return (.reply (.used used), a)
  | .freeBytes => do
      let bytes ← freeBytes a
      return (.bytes bytes, a)

end Guarded

end Bringup
