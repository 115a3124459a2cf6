import Bringup.Encoding
import Bringup.Memory.Region

/-!
# The boot handoff

The loader leaves a record of what it prepared. Each part may be missing. `BootRecord.validate?`
gives the parts that the kernel cannot start without, or names the first one that is missing; the
loader's own name is a courtesy, and a record without a readable one is still accepted.
-/

namespace Bringup

/-- What the loader says about itself: the bytes at its name, up to the end of the name or
beyond. -/
structure Loader where
  name : Option (List UInt8)

/-- The framebuffer as the loader describes it. The pitch is in bytes; sizes and shifts are in
bits. -/
structure FramebufferDescription where
  address : UInt64
  width : UInt64
  height : UInt64
  pitch : UInt64
  bpp : UInt16
  redSize : UInt8
  redShift : UInt8
  greenSize : UInt8
  greenShift : UInt8
  blueSize : UInt8
  blueShift : UInt8
  deriving DecidableEq

/-- Where the archive lies that was loaded with the kernel. -/
structure Archive where
  address : UInt64
  size : UInt64
  deriving DecidableEq

/-- The memory map; the loader may have left out its regions. -/
structure MemoryMap where
  regions : Option (List Region)
  deriving DecidableEq

/-- The loader's record; every part may be missing. -/
structure BootRecord where
  loader : Option Loader
  framebuffer : Option FramebufferDescription
  memoryMap : Option MemoryMap
  archive : Option Archive

/-- The parts that the kernel cannot start without. -/
inductive BootError where
  | missingRecord
  | missingFramebuffer
  | missingMemoryMap
  | missingArchive
  deriving DecidableEq

namespace BootError

/-- The missing part in words. -/
def what : BootError → String
  | .missingRecord => "boot info"
  | .missingFramebuffer => "framebuffer"
  | .missingMemoryMap => "memory map"
  | .missingArchive => "ramfs"

/-- The line that a broken handoff is reported with. -/
def message (e : BootError) : String :=
  "Failed to get " ++ e.what

end BootError

/-- What the kernel keeps of an accepted record. -/
structure Handoff where
  loaderName : String
  framebuffer : FramebufferDescription
  memoryMap : MemoryMap
  archive : Archive
  deriving DecidableEq

/-- The loader's name: the text before the first zero byte, if there is one and it is valid. -/
def Loader.text? (loader : Loader) : Option String :=
  loader.name.bind fun bytes => Text.decode? (Text.untilZero bytes)

/-- The name shown for a loader. -/
def loaderName (loader : Option Loader) : String :=
  (loader.bind Loader.text?).getD "unknown"

/-- The parts of a record, or the first one that is missing. A framebuffer at address zero is
none. -/
def BootRecord.validate? : Option BootRecord → Except BootError Handoff
  | none => .error .missingRecord
  | some record =>
      match record.framebuffer.filter (·.address != 0) with
      | none => .error .missingFramebuffer
      | some framebuffer =>
          match record.memoryMap with
          | none => .error .missingMemoryMap
          | some memoryMap =>
              match record.archive with
              | none => .error .missingArchive
              | some archive => .ok ⟨loaderName record.loader, framebuffer, memoryMap, archive⟩

end Bringup
