import Bringup.Descriptor

/-!
# Trap frames and vectors

A trap frame is the state of the processor at an interrupt: thirty words, kept in memory in the
order of the fields below. `TrapFrame.words` lists them in that order and `TrapFrame.ofWords`
reads a stretch of memory as a frame (`TrapFrame.ofWords_words`).

The vector of a frame tells what the interrupt stands for: the first 32 are the processor's
exceptions, the next 16 are the lines of the interrupt controllers, one is for system calls, and
nobody listens to the others. A frame may hold a vector past the end of the table; it is unhandled
too.
-/

namespace Bringup

/-! ## Frames -/

/-- The vector on frames that no interrupt made. -/
def noFrameVector : UInt64 := 0xdeadbeef

/-- The processor's state at an interrupt; the first field has the lowest address. -/
structure TrapFrame where
  ds : UInt64
  es : UInt64
  fs : UInt64
  gs : UInt64
  cr0 : UInt64
  cr2 : UInt64
  cr3 : UInt64
  cr4 : UInt64
  r15 : UInt64
  r14 : UInt64
  r13 : UInt64
  r12 : UInt64
  r11 : UInt64
  r10 : UInt64
  r9 : UInt64
  r8 : UInt64
  rbp : UInt64
  rdi : UInt64
  rsi : UInt64
  rdx : UInt64
  rcx : UInt64
  rbx : UInt64
  rax : UInt64
  vector : UInt64
  err : UInt64
  rip : UInt64
  cs : UInt64
  rflags : UInt64
  rsp : UInt64
  ss : UInt64
  deriving DecidableEq

namespace TrapFrame

/-- The names of the fields in memory order. -/
def names : List String :=
  ["ds", "es", "fs", "gs", "cr0", "cr2", "cr3", "cr4", "r15", "r14", "r13", "r12", "r11", "r10",
    "r9", "r8", "rbp", "rdi", "rsi", "rdx", "rcx", "rbx", "rax", "vector", "err", "rip", "cs",
    "rflags", "rsp", "ss"]

/-- The words of a frame in memory order. -/
def words (f : TrapFrame) : List UInt64 :=
  [f.ds, f.es, f.fs, f.gs, f.cr0, f.cr2, f.cr3, f.cr4, f.r15, f.r14, f.r13, f.r12, f.r11, f.r10,
    f.r9, f.r8, f.rbp, f.rdi, f.rsi, f.rdx, f.rcx, f.rbx, f.rax, f.vector, f.err, f.rip, f.cs,
    f.rflags, f.rsp, f.ss]

/-- The frame laid over these words; words that are not there read as zero. -/
def ofWords (memory : List UInt64) : TrapFrame where
  ds := memory.getD 0 0
  es := memory.getD 1 0
  fs := memory.getD 2 0
  gs := memory.getD 3 0
  cr0 := memory.getD 4 0
  cr2 := memory.getD 5 0
  cr3 := memory.getD 6 0
  cr4 := memory.getD 7 0
  r15 := memory.getD 8 0
  r14 := memory.getD 9 0
  r13 := memory.getD 10 0
  r12 := memory.getD 11 0
  r11 := memory.getD 12 0
  r10 := memory.getD 13 0
  r9 := memory.getD 14 0
  r8 := memory.getD 15 0
  rbp := memory.getD 16 0
  rdi := memory.getD 17 0
  rsi := memory.getD 18 0
  rdx := memory.getD 19 0
  rcx := memory.getD 20 0
  rbx := memory.getD 21 0
  rax := memory.getD 22 0
  vector := memory.getD 23 0
  err := memory.getD 24 0
  rip := memory.getD 25 0
  cs := memory.getD 26 0
  rflags := memory.getD 27 0
  rsp := memory.getD 28 0
  ss := memory.getD 29 0

/-- The frame of zeroes. -/
def zero : TrapFrame := ofWords []

/-- The frame of zeroes, marked as made by no interrupt. -/
def sentinel : TrapFrame := { zero with vector := noFrameVector }

/-- The bytes of a frame in memory. -/
def byteSize : Nat := 8 * names.length

theorem ofWords_words (f : TrapFrame) : ofWords f.words = f := rfl

end TrapFrame

/-! ## Vectors -/

/-- The vector of a page fault. -/
def pageFaultVector : UInt64 := 14

/-- The vector of a system call. -/
def syscallVector : UInt64 := 0x80

/-- The vector of the first line of the first interrupt controller. -/
def firstLineVector : UInt8 := 0x20

/-- The vector of the first line of the second interrupt controller. -/
def secondLineVector : UInt8 := firstLineVector + 8

/-- What a vector stands for. -/
inductive TrapKind where
  | exception (number : UInt8)
  | line (number : UInt8)
  | syscall
  | unhandled (vector : UInt64)
  deriving DecidableEq

/-- The meaning of a vector. -/
def TrapKind.ofVector (vector : UInt64) : TrapKind :=
  if vector.toNat < exceptionCount then .exception vector.toUInt8
  else if vector ≤ (secondLineVector + 7).toUInt64 then .line (vector.toUInt8 - firstLineVector)
  else if vector = syscallVector then .syscall
  else .unhandled vector

/-- The names of the processor's exceptions, by vector. -/
def exceptionNames : List String :=
  ["Division by Zero", "Debug", "Non-Maskable-Interrupt", "Breakpoint", "Overflow",
    "Bound Range Exceeded", "Invalid opcode", "Device (FPU) not available", "Double Fault",
    "Reserved Vector", "Invalid TSS", "Segment not present", "Stack Segment Fault",
    "General Protection Fault", "Page Fault", "Reserved Vector", "x87 FP Exception",
    "Alignment Check", "Machine Check (Internal Error)", "SIMD FP Exception",
    "Virtualization Exception", "Control Protection Exception", "Reserved Vector",
    "Reserved Vector", "Reserved Vector", "Reserved Vector", "Reserved Vector", "Reserved Vector",
    "Hypervisor Injection Exception", "VMM Communication Exception", "Security Exception",
    "Reserved Vector"]

/-- The name of an exception. -/
def exceptionName (vector : UInt8) : String :=
  exceptionNames.getD vector.toNat "Unknown Exception"

end Bringup
