import Bringup.Fault

/-!
# Pages and frames

Physical memory is handed out in pages of 4096 bytes. A frame is the page-sized slot of the
address space with a given index; frame `i` starts at `4096 * i`. `alignUp` and `divCeil` round to
whole units under checked arithmetic: each intermediate sum has to fit, not only the result.
-/

namespace Bringup

/-- Bytes in a page. -/
def pageSize : UInt64 := 4096

/-- The least multiple of a power of two `base` that is not below `x`. -/
def alignUp (x base : UInt64) : Except Fault UInt64 := do
  let sum ← Checked.add x base
  let last ← Checked.sub sum 1
  let mask ← Checked.sub base 1
  return last &&& ~~~mask

/-- The quotient of `x` by `y`, rounded up. -/
def divCeil (x y : UInt64) : Except Fault UInt64 := do
  let sum ← Checked.add x y
  let last ← Checked.sub sum 1
  Checked.div last y

/-- Whether an address is the first of a page. -/
def isPageAligned (addr : UInt64) : Bool :=
  addr % pageSize == 0

/-- The bytes of `count` pages, if they can be counted in a word. -/
def pageBytes (count : Nat) : Except Fault UInt64 :=
  if count * pageSize.toNat < UInt64.size then .ok (UInt64.ofNat (count * pageSize.toNat))
  else .error .mulOverflow

namespace Frame

/-- The index of the frame that holds an address. -/
def containing (addr : UInt64) : Nat :=
  (addr / pageSize).toNat

/-- The index of the frame that starts at an address, if one does. -/
def ofStart? (addr : UInt64) : Option Nat :=
  if isPageAligned addr then some (containing addr) else none

/-- The address at which a frame starts. -/
def start (index : Nat) : Except Fault UInt64 :=
  pageBytes index

end Frame

end Bringup
