import Bringup.Memory.Bitmap
import Bringup.Memory.Page

/-!
# The frame allocator

One bitmap slot per page frame, set while the frame is used. `request` takes the lowest run of
free frames that is long enough, `release` gives a counted run back, and `free` walks the run of
frames that are free already: no length is kept with an allocation, so it cannot know where one
ends.

A holder of an allocator makes calls on it and asks for its free bytes, in any order.
`FrameAllocator.use` answers one such use; `FrameAllocator.run` answers a list of them, one after
the other, for any way of answering one.

A program that uses the allocator as it is meant to be used gives back only what it was given,
whole and once. `Ownership` is an allocator together with the allocations that are out;
`Ownership.deal` is one such use of it, and `Ownership.deals` a whole run.
-/

namespace Bringup

/-! ## Calls -/

/-- The state of the allocator: which frames are used, and where the bitmap itself is stored. -/
structure FrameAllocator where
  bitmap : Bitmap
  bitmapBase : UInt64
  bitmapSize : UInt64

namespace FrameAllocator

/-- How many frames the allocator keeps track of. -/
def totalFrames (a : FrameAllocator) : Nat :=
  a.bitmap.bits

/-- Whether a frame is used. Frames past the end read as not used. -/
def isUsed (a : FrameAllocator) (frame : Nat) : Bool :=
  a.bitmap.get frame

/-- The bytes in free frames. -/
def freeBytes (a : FrameAllocator) : Except Fault UInt64 :=
  pageBytes a.bitmap.clearCount

/-- Takes the lowest run of `count` free frames and gives its address. Without such a run, or for
no frames at all, there is no address and nothing changes. -/
def request (a : FrameAllocator) (count : Nat) :
    Except Fault (Option UInt64 × FrameAllocator) := do
  if count = 0 then
    return (none, a)
  match a.bitmap.firstFit count with
  | none => return (none, a)
  | some start =>
      let _ ← Checked.indexAdd start count
      let addr ← Frame.start start
      return (some addr, { a with bitmap := a.bitmap.setRange start count })

/-- Walks the free frames from the frame of an address on, leaves them free and gives their
number. -/
def free (a : FrameAllocator) (addr : UInt64) : Except Fault (Nat × FrameAllocator) := do
  let start := Frame.containing addr
  let count := a.bitmap.clearRunLength start
  let _ ← Checked.indexAdd start count
  return (count, { a with bitmap := a.bitmap.unsetRange start count })

/-- Frees the `count` frames from the frame of an address on, as far as they exist, and gives the
number of those that were used. -/
def release (a : FrameAllocator) (addr : UInt64) (count : Nat) : Nat × FrameAllocator :=
  let start := Frame.containing addr
  let length := min (start + count) a.totalFrames - start
  ((List.range' start length).countP a.bitmap.get,
    { a with bitmap := a.bitmap.unsetRange start length })

end FrameAllocator

/-- The calls on an allocator. -/
inductive FrameCall where
  | request (count : UInt64)
  | free (addr : UInt64)
  | release (addr : UInt64) (count : UInt64)
  | isUsed (frame : UInt64)
  deriving DecidableEq

/-- What a call on an allocator answers. -/
inductive FrameReply where
  | address (addr : Option UInt64)
  | frames (count : Nat)
  | used (isUsed : Bool)
  deriving DecidableEq

/-- The answer to one call and the allocator after it. -/
def FrameAllocator.call (a : FrameAllocator) :
    FrameCall → Except Fault (FrameReply × FrameAllocator)
  | .request count => do
      let (addr, a) ← a.request count.toNat
      return (.address addr, a)
  | .free addr => do
      let (count, a) ← a.free addr
      return (.frames count, a)
  | .release addr count =>
      let (released, a) := a.release addr count.toNat
      .ok (.frames released, a)
  | .isUsed frame => .ok (.used (a.isUsed frame.toNat), a)

/-! ## Runs -/

namespace FrameAllocator

/-- One use of an allocator. -/
inductive Use where
  | call (call : FrameCall)
  | freeBytes
  deriving DecidableEq

/-- What a use answers. -/
inductive Answer where
  | reply (reply : FrameReply)
  | bytes (count : UInt64)
  deriving DecidableEq

/-- The answer to one use and the allocator after it. -/
def use (a : FrameAllocator) : Use → Except Fault (Answer × FrameAllocator)
  | .call call => do
      let (reply, b) ← a.call call
      return (.reply reply, b)
  | .freeBytes => do
      let bytes ← a.freeBytes
      return (.bytes bytes, a)

/-- The answers to a list of uses and the allocator after them, as far as no use stops. -/
def run {ε : Type} (step : FrameAllocator → Use → Except ε (Answer × FrameAllocator))
    (a : FrameAllocator) : List Use → Except ε (List Answer × FrameAllocator)
  | [] => .ok ([], a)
  | u :: uses => do
      let (answer, b) ← step a u
      let (answers, c) ← run step b uses
      return (answer :: answers, c)

end FrameAllocator

/-! ## Ownership of frames -/

/-- Frames handed out in one piece: the address and the number of frames. -/
structure Allocation where
  addr : UInt64
  count : Nat
  deriving DecidableEq

/-- Whether a frame belongs to an allocation. -/
def Allocation.Covers (a : Allocation) (frame : Nat) : Prop :=
  Frame.containing a.addr ≤ frame ∧ frame < Frame.containing a.addr + a.count

/-- An allocator and the allocations that were not given back yet. -/
structure Ownership where
  allocator : FrameAllocator
  live : List Allocation

/-- One use of the allocator. -/
inductive Deal where
  /-- Asks for frames. -/
  | take (count : UInt64)
  /-- Gives back the live allocation at a place in the list. -/
  | giveBack (place : Nat)
  /-- Walks the free frames from an address on. -/
  | walk (addr : UInt64)
  deriving DecidableEq

namespace Ownership

/-- The allocator and the live allocations after one use. -/
def deal (o : Ownership) : Deal → Except Fault Ownership
  | .take count => do
      let (addr, allocator) ← o.allocator.request count.toNat
      match addr with
      | none => return { o with allocator }
      | some addr => return ⟨allocator, ⟨addr, count.toNat⟩ :: o.live⟩
  | .giveBack place =>
      match o.live[place]? with
      | none => .ok o
      | some allocation =>
          let (_, allocator) := o.allocator.release allocation.addr allocation.count
          .ok ⟨allocator, o.live.eraseIdx place⟩
  | .walk addr => do
      let (_, allocator) ← o.allocator.free addr
      return { o with allocator }

/-- The allocator and the live allocations after a run of uses. -/
def deals (o : Ownership) (uses : List Deal) : Except Fault Ownership :=
  uses.foldlM deal o

end Ownership

end Bringup
