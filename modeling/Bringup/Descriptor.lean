import Bringup.Encoding

/-!
# Descriptors

The processor finds segments and interrupt handlers through tables in memory.

A selector names an entry of the segment table: its index from bit 3 up, and in the two low bits
the privilege ring that is asked for. A segment descriptor is eight bytes that scatter a base, a
limit and two groups of flags. Only the flags named here are ever set by this library; a descriptor
read from raw bytes keeps its access byte as it is, and shows of its upper flags the ones named
here.

A gate is sixteen bytes that scatter the address of a handler around the segment, stack and
attributes it is entered with. `Gate.handler` puts the address together again
(`Gate.handler_make`). The kernel's table has a gate for each of the 256 vectors: trap gates for
the processor's exceptions, which leave interrupts as they are, and interrupt gates for the rest.

The processor finds the parts of a gate by their places among its raw bytes. `GateView` is what it
finds, said with byte places and powers of 256 alone, without the fields that this library keeps a
gate in.
-/

namespace Bringup

/-! ## Selectors -/

/-- The privilege rings in use. -/
inductive Ring where
  | kernel
  | user
  deriving DecidableEq

/-- The number of a ring. -/
def Ring.level : Ring → UInt16
  | .kernel => 0
  | .user => 3

namespace Selector

/-- The selector of an entry at a ring. -/
def make (index : UInt16) (ring : Ring) : UInt16 :=
  index <<< 3 ||| ring.level

/-- The kernel's code segment. -/
def kernelCode : UInt16 := make 1 .kernel

/-- The kernel's data segment. -/
def kernelData : UInt16 := make 2 .kernel

/-- The code segment of user programs. -/
def userCode : UInt16 := make 3 .user

/-- The data segment of user programs. -/
def userData : UInt16 := make 4 .user

end Selector

/-- The segment registers that hold a data selector. -/
inductive DataSegment where
  | ds
  | es
  | fs
  | gs
  | ss
  deriving DecidableEq

/-- The name of a segment register. -/
def DataSegment.name : DataSegment → String
  | .ds => "ds"
  | .es => "es"
  | .fs => "fs"
  | .gs => "gs"
  | .ss => "ss"

/-- The bytes of the operand that loads a table: a 16-bit limit and a 64-bit address. -/
def tableRegisterSize : Nat := 2 + 8

/-- Whether a byte of flags has every flag of another. -/
def hasFlags (flags wanted : UInt8) : Bool :=
  flags &&& wanted == wanted

/-! ## Segments -/

namespace SegmentFlag

/-- The segment exists. -/
def present : UInt8 := 0x80

/-- The segment belongs to ring 3. -/
def ring3 : UInt8 := 0x60

/-- The segment holds code or data, not a system structure. -/
def codeOrData : UInt8 := 0x10

/-- The segment holds code. -/
def execute : UInt8 := 0x08

/-- Code may be read, or data written. -/
def accessible : UInt8 := 0x02

/-- The access byte of kernel code. -/
def kernelCode : UInt8 := present ||| codeOrData ||| execute ||| accessible

/-- The access byte of kernel data. -/
def kernelData : UInt8 := present ||| codeOrData ||| accessible

/-- The access byte of user code. -/
def userCode : UInt8 := present ||| ring3 ||| codeOrData ||| execute ||| accessible

/-- The access byte of user data. -/
def userData : UInt8 := present ||| ring3 ||| codeOrData ||| accessible

/-- All access flags named here. -/
def accessMask : UInt8 := present ||| ring3 ||| codeOrData ||| execute ||| accessible

/-- The segment runs 64-bit code. -/
def longMode : UInt8 := 0x20

/-- The limit counts pages. -/
def granularity : UInt8 := 0x80

/-- The upper flags of a flat 64-bit segment. -/
def flat64 : UInt8 := longMode ||| granularity

/-- All upper flags named here. -/
def upperMask : UInt8 := longMode ||| granularity

end SegmentFlag

/-- The eight bytes of a descriptor as the fields they hold. The sixth byte has the top of the
limit in its low half and the upper flags in its high half. -/
structure Segment where
  limitLow : UInt16
  baseLow : UInt16
  baseMiddle : UInt8
  access : UInt8
  limitHighAndFlags : UInt8
  baseHigh : UInt8
  deriving DecidableEq

namespace Segment

/-- The entry that every table starts with. -/
def null : Segment := ⟨0, 0, 0, 0, 0, 0⟩

/-- The largest limit. -/
def maxLimit : UInt32 := 0xfffff

/-- A segment of all memory with the given flags. -/
def flat (upper access : UInt8) : Segment where
  limitLow := maxLimit.toUInt16
  baseLow := 0
  baseMiddle := 0
  access := access
  limitHighAndFlags := upper ||| (maxLimit >>> 16).toUInt8
  baseHigh := 0

/-- The descriptor with these bytes, lowest address first. -/
def ofBytes (raw : Vector UInt8 8) : Segment where
  limitLow := LittleEndian.word16 raw[0] raw[1]
  baseLow := LittleEndian.word16 raw[2] raw[3]
  baseMiddle := raw[4]
  access := raw[5]
  limitHighAndFlags := raw[6]
  baseHigh := raw[7]

/-- The bytes of a descriptor, lowest address first. -/
def bytes (s : Segment) : List UInt8 :=
  LittleEndian.bytesOf16 s.limitLow ++ LittleEndian.bytesOf16 s.baseLow ++
    [s.baseMiddle, s.access, s.limitHighAndFlags, s.baseHigh]

/-- The first address of a segment. -/
def base (s : Segment) : UInt32 :=
  s.baseHigh.toUInt32 <<< 24 ||| s.baseMiddle.toUInt32 <<< 16 ||| s.baseLow.toUInt32

/-- The last unit of a segment. -/
def limit (s : Segment) : UInt32 :=
  (s.limitHighAndFlags &&& 0x0f).toUInt32 <<< 16 ||| s.limitLow.toUInt32

/-- The upper flags of a segment that are named here. -/
def upperFlags (s : Segment) : UInt8 :=
  s.limitHighAndFlags &&& 0xf0 &&& SegmentFlag.upperMask

/-- The flags tested when a descriptor is shown. -/
def shownFlags : List UInt8 :=
  [SegmentFlag.present, SegmentFlag.ring3, SegmentFlag.execute, SegmentFlag.kernelCode,
    SegmentFlag.kernelData, SegmentFlag.userCode, SegmentFlag.userData]

/-- The bytes of a descriptor in memory. -/
def byteSize : Nat := 8

end Segment

namespace SegmentTable

/-- The kernel's table: the null entry, then code and data for the kernel and for user programs. -/
def entries : List Segment :=
  [.null, .flat SegmentFlag.flat64 SegmentFlag.kernelCode,
    .flat SegmentFlag.flat64 SegmentFlag.kernelData, .flat SegmentFlag.flat64 SegmentFlag.userCode,
    .flat SegmentFlag.flat64 SegmentFlag.userData]

/-- The limit of the table as its register holds it: its size in bytes, less one. -/
def limit : UInt16 :=
  (Segment.byteSize * entries.length - 1).toUInt16

end SegmentTable

/-! ## Gates -/

namespace GateFlag

/-- The type of a gate that masks interrupts on entry. -/
def interruptGate : UInt8 := 0x0e

/-- The type of a gate that does not. -/
def trapGate : UInt8 := 0x0f

/-- User programs may use the gate. -/
def ring3 : UInt8 := 0x60

/-- The gate exists. -/
def present : UInt8 := 0x80

/-- The attributes of the kernel's trap gates. -/
def kernelTrap : UInt8 := present ||| trapGate

/-- The attributes of the kernel's interrupt gates. -/
def kernelInterrupt : UInt8 := present ||| interruptGate

/-- All attributes named here. -/
def mask : UInt8 := present ||| ring3 ||| trapGate

end GateFlag

/-- The sixteen bytes of a gate as the fields they hold. -/
structure Gate where
  offsetLow : UInt16
  selector : UInt16
  ist : UInt8
  attributes : UInt8
  offsetMiddle : UInt16
  offsetHigh : UInt32
  reserved : UInt32
  deriving DecidableEq

namespace Gate

/-- The gate that leads nowhere. -/
def missing : Gate := ⟨0, 0, 0, 0, 0, 0, 0⟩

/-- The gate to a handler in the kernel's code segment. Of the stack number three bits count. -/
def make (handler : UInt64) (ist attributes : UInt8) : Gate where
  offsetLow := handler.toUInt16
  selector := Selector.kernelCode
  ist := ist &&& 7
  attributes := attributes
  offsetMiddle := (handler >>> 16).toUInt16
  offsetHigh := (handler >>> 32).toUInt32
  reserved := 0

/-- The address that a gate leads to. -/
def handler (g : Gate) : UInt64 :=
  g.offsetHigh.toUInt64 <<< 32 ||| g.offsetMiddle.toUInt64 <<< 16 ||| g.offsetLow.toUInt64

/-- The bytes of a gate, lowest address first. -/
def bytes (g : Gate) : List UInt8 :=
  LittleEndian.bytesOf16 g.offsetLow ++ LittleEndian.bytesOf16 g.selector ++
    [g.ist, g.attributes] ++ LittleEndian.bytesOf16 g.offsetMiddle ++
    LittleEndian.bytesOf32 g.offsetHigh ++ LittleEndian.bytesOf32 g.reserved

/-- The scattered address comes together again. -/
theorem handler_make (h : UInt64) (ist attributes : UInt8) :
    (make h ist attributes).handler = h := by
  apply UInt64.toNat_inj.1
  have low : (16 : UInt64).toNat % 64 = 16 := rfl
  have high : (32 : UInt64).toNat % 64 = 32 := rfl
  simp only [handler, make, UInt64.toNat_or, UInt64.toNat_shiftLeft,
    UInt64.toNat_shiftRight, UInt32.toNat_toUInt64, UInt16.toNat_toUInt64, UInt64.toNat_toUInt16,
    UInt64.toNat_toUInt32, low, high]
  apply Nat.eq_of_testBit_eq
  intro i
  simp only [Nat.testBit_or, Nat.testBit_mod_two_pow, Nat.testBit_shiftLeft, Nat.testBit_shiftRight]
  by_cases inWord : i < 64
  · by_cases inHigh : 32 ≤ i
    · have offset : 32 + (i - 32) = i := by omega
      have room : i - 32 < 32 := by omega
      have notMiddle : ¬ i - 16 < 16 := by omega
      have notLow : ¬ i < 16 := by omega
      simp [inWord, inHigh, offset, room, notMiddle, notLow]
    · by_cases inMiddle : 16 ≤ i
      · have offset : 16 + (i - 16) = i := by omega
        have room : i - 16 < 16 := by omega
        have notLow : ¬ i < 16 := by omega
        simp [inWord, inHigh, inMiddle, offset, room, notLow]
      · have inLow : i < 16 := by omega
        simp [inHigh, inMiddle, inLow]
  · have outside : h.toNat.testBit i = false :=
      Nat.testBit_lt_two_pow
        (Nat.lt_of_lt_of_le h.toNat_lt (Nat.pow_le_pow_right (by decide) (by omega)))
    have notLow : ¬ i < 16 := by omega
    simp [inWord, outside, notLow]

/-- The bytes of a gate in memory. -/
def byteSize : Nat := 16

end Gate

/-- The number of vectors, and of gates in a table. -/
def vectorCount : Nat := 256

/-- The number of vectors that belong to the processor's exceptions, the lowest ones. -/
def exceptionCount : Nat := 32

/-- A gate for every vector. -/
abbrev GateTable := Vector Gate 256

namespace GateTable

/-- The table that leads each vector to its handler. -/
def ofHandlers (handlers : Vector UInt64 256) : GateTable :=
  Vector.ofFn fun v : Fin 256 =>
    Gate.make handlers[v] 0
      (if v.val < exceptionCount then GateFlag.kernelTrap else GateFlag.kernelInterrupt)

/-- The limit of a table as its register holds it: its size in bytes, less one. -/
def limit : UInt16 :=
  (Gate.byteSize * vectorCount - 1).toUInt16

end GateTable

/-! ## How the processor reads descriptors -/

/-- The number that bytes stand for, lowest byte first. -/
def littleEndianNat (bytes : List UInt8) : Nat :=
  bytes.foldr (fun byte rest => byte.toNat + 256 * rest) 0

/-- The bytes of a raw descriptor at the given places. -/
def bytesAt (raw : List UInt8) (places : List Nat) : List UInt8 :=
  places.map fun i => raw.getD i 0

/-- The parts of a gate. -/
structure GateView where
  handler : Nat
  selector : Nat
  ist : UInt8
  attributes : UInt8
  reserved : Nat
  deriving DecidableEq

/-- What the processor reads from the sixteen bytes of a gate. -/
def GateView.ofBytes (raw : List UInt8) : GateView where
  handler := littleEndianNat (bytesAt raw [0, 1, 6, 7, 8, 9, 10, 11])
  selector := littleEndianNat (bytesAt raw [2, 3])
  ist := raw.getD 4 0
  attributes := raw.getD 5 0
  reserved := littleEndianNat (bytesAt raw [12, 13, 14, 15])

end Bringup
