import Bringup.Encoding
import Bringup.Fault

/-!
# Memory regions

A memory map lists what each stretch of the physical address space is used for. The kind of a
region is a code; a map may hold codes that this kernel does not know, which is no error. A region
whose end does not fit in a word has no end and no description.
-/

namespace Bringup

/-- The uses of memory that this kernel knows. -/
inductive RegionKind where
  | usable
  | reserved
  | acpiReclaimable
  | acpiNvs
  | badMemory
  | bootloaderReclaimable
  | kernelAndModules
  | framebuffer
  deriving DecidableEq

namespace RegionKind

/-- The code of a kind in a memory map. -/
def code : RegionKind → UInt64
  | .usable => 1
  | .reserved => 2
  | .acpiReclaimable => 3
  | .acpiNvs => 4
  | .badMemory => 5
  | .bootloaderReclaimable => 0x1000
  | .kernelAndModules => 0x1001
  | .framebuffer => 0x1002

/-- Every kind, in the order of the codes. -/
def all : List RegionKind :=
  [.usable, .reserved, .acpiReclaimable, .acpiNvs, .badMemory, .bootloaderReclaimable,
    .kernelAndModules, .framebuffer]

/-- The kind with a given code. -/
def ofCode? (code : UInt64) : Option RegionKind :=
  all.find? (·.code == code)

/-- The name of a kind in descriptions. -/
def name : RegionKind → String
  | .usable => "Usable"
  | .reserved => "Reserved"
  | .acpiReclaimable => "AcpiReclaimable"
  | .acpiNvs => "AcpiNvs"
  | .badMemory => "BadMemory"
  | .bootloaderReclaimable => "BootloaderReclaimable"
  | .kernelAndModules => "KernelAndModules"
  | .framebuffer => "Framebuffer"

theorem ofCode?_code (kind : RegionKind) : ofCode? kind.code = some kind := by
  cases kind <;> decide

end RegionKind

/-- A stretch of physical memory and the code of its use. -/
structure Region where
  base : UInt64
  length : UInt64
  code : UInt64
  deriving DecidableEq

namespace Region

/-- The region of a known kind. -/
def ofKind (base length : UInt64) (kind : RegionKind) : Region :=
  ⟨base, length, kind.code⟩

/-- The use of a region, if its code is known. -/
def kind (r : Region) : Option RegionKind :=
  RegionKind.ofCode? r.code

/-- Whether the region is free for the kernel's use. -/
def isUsable (r : Region) : Bool :=
  r.kind == some .usable

/-- The first address after the region. -/
def stop (r : Region) : Except Fault UInt64 :=
  Checked.add r.base r.length

/-- The region without its first `size` bytes. -/
def dropFront (r : Region) (size : UInt64) : Except Fault Region := do
  let base ← Checked.add r.base size
  let length ← Checked.sub r.length size
  return { r with base, length }

/-- The use of a region in words, with the code if it is unknown. -/
def use (r : Region) : String :=
  match r.kind with
  | some kind => kind.name
  | none => "Unknown(" ++ Hex.marked r.code.toNat ++ ")"

/-- The bounds of a region and its use. -/
def describe (r : Region) : Except Fault String := do
  let stop ← r.stop
  return Hex.word r.base ++ ".." ++ Hex.word stop ++ " " ++ r.use

end Region

end Bringup
