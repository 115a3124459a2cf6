import Bringup.Memory.FrameAllocator.Notice

/-!
# Setting up the frame allocator

The allocator is built from the loader's memory map. The highest end of a usable region fixes how
many frames there are; the first usable region that is large enough gives up its front for the
bitmap; then page `k` of every usable region is released as frame `k`, so frame numbers count from
the base of the region and agree with addresses only for a region at address zero.

`FrameAllocator.setup` gives everything that can be seen of this: what was logged, what memory was
asked for, the regions afterwards and the allocator or the reason why there is none.
-/

namespace Bringup

namespace FrameAllocator

/-- The bases of the usable regions as far as their ends could be computed, and the highest of
these ends and of `high`. -/
def survey (high : UInt64) : List Region → List UInt64 × Except Fault UInt64
  | [] => ([], .ok high)
  | r :: regions =>
      if r.isUsable then
        match r.stop with
        | .error cause => ([r.base], .error cause)
        | .ok stop =>
            let (bases, highest) := survey (max high stop) regions
            (r.base :: bases, highest)
      else survey high regions

/-- The number of frames below an address and the whole pages that hold a bit for each. -/
def bitmapExtent (high : UInt64) : Except Fault (UInt64 × UInt64) := do
  let frames ← divCeil high pageSize
  let bytes ← divCeil frames 8
  let size ← alignUp bytes pageSize
  return (frames, size)

/-- Whether a region can hold a bitmap of `size` bytes. -/
def canHost (size : UInt64) (r : Region) : Bool :=
  r.isUsable && size ≤ r.length

/-- Clears the slot of every whole page of a region between `addr` and `stop`, where page `k` from
`base` has slot `k`. The distance to `stop` shrinks at every step. -/
def releasePages (base stop addr : UInt64) (bitmap : Bitmap) : Except Fault Bitmap :=
  match _sum : Checked.add addr pageSize with
  | .error cause => .error cause
  | .ok next =>
      if next ≤ stop then
        releasePages base stop next (bitmap.unset (Frame.containing (addr - base)))
      else .ok bitmap
termination_by stop.toNat - addr.toNat
decreasing_by
  have grown := Checked.toNat_of_add_eq_ok _sum
  have page : pageSize.toNat = 4096 := rfl
  have bound : next.toNat ≤ stop.toNat := UInt64.le_iff_toNat_le.1 (by assumption)
  omega

/-- Clears the slots of the pages of every usable region. -/
def releaseUsable (bitmap : Bitmap) : List Region → Except Fault Bitmap
  | [] => .ok bitmap
  | r :: regions =>
      if r.isUsable then
        match r.stop with
        | .error cause => .error cause
        | .ok stop =>
            match releasePages r.base stop r.base bitmap with
            | .error cause => .error cause
            | .ok bitmap => releaseUsable bitmap regions
      else releaseUsable bitmap regions

/-- The rest of the setup once the bitmap has its place: `host` gives up its first `size` bytes,
which are `memory`, and the pages of what is left are released. The regions around the host are
`before` and `after`. -/
def populate (bases : List UInt64) (frames size : UInt64) (before : List Region) (host : Region)
    (after : List Region) (memory : Array UInt8) : Setup :=
  let entries := bases.map .usableEntry
  let mapped := some (host.base, size)
  match host.dropFront size with
  | .error cause => ⟨entries, mapped, some (before ++ host :: after), .error (.fault cause)⟩
  | .ok shrunk =>
      let regions := before ++ shrunk :: after
      match releaseUsable (.full memory frames.toNat) regions with
      | .error cause => ⟨entries, mapped, some regions, .error (.fault cause)⟩
      | .ok bitmap =>
          { notices := entries ++ [.bitmapPlaced host.base frames size]
            mapped
            regions := some regions
            outcome := .ok ⟨bitmap, host.base, size⟩ }

/-- Builds the allocator for a memory map. `map` gives the memory at an address as a run of bytes
of a wanted length, and may give another number of them. -/
def setup (regions : Option (List Region)) (map : UInt64 → UInt64 → Array UInt8) : Setup :=
  match regions with
  | none => ⟨[], none, none, .error .missingMemoryMap⟩
  | some regions =>
      let (bases, highest) := survey 0 regions
      let entries := bases.map .usableEntry
      let refuse (cause : SetupError) : Setup := ⟨entries, none, some regions, .error cause⟩
      match highest with
      | .error cause => refuse (.fault cause)
      | .ok high =>
          if high = 0 then refuse .noUsableMemory
          else
            match bitmapExtent high with
            | .error cause => refuse (.fault cause)
            | .ok (frames, size) =>
                match regions.span fun r => !canHost size r with
                | (_, []) => refuse (.noRoomForBitmap size)
                | (before, host :: after) =>
                    populate bases frames size before host after (map host.base size)

end FrameAllocator

end Bringup
