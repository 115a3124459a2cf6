import Bringup.Trap.Frame

/-!
# Entry stubs

When the processor takes an interrupt it pushes five words, and for some vectors an error code,
and jumps to the vector's entry stub. The stub and the code shared by all stubs save the rest of
the processor's state below these words, so that the stack holds a `TrapFrame`; on the way out
they restore the general registers and drop what was pushed.

The code is given as data (`Stub.entry`, `Stub.exit`) and executed by `Instruction.exec` on a
`Context`, the part of the processor that the code reads and writes.
-/

namespace Bringup

/-- The general registers, without the stack pointer, in the order in which the stubs save them. -/
inductive Register where
  | rax
  | rbx
  | rcx
  | rdx
  | rsi
  | rdi
  | rbp
  | r8
  | r9
  | r10
  | r11
  | r12
  | r13
  | r14
  | r15
  deriving DecidableEq

/-- Every general register in the order of saving. -/
def Register.all : List Register :=
  [.rax, .rbx, .rcx, .rdx, .rsi, .rdi, .rbp, .r8, .r9, .r10, .r11, .r12, .r13, .r14, .r15]

/-- The contents of the general registers. -/
structure Registers where
  rax : UInt64
  rbx : UInt64
  rcx : UInt64
  rdx : UInt64
  rsi : UInt64
  rdi : UInt64
  rbp : UInt64
  r8 : UInt64
  r9 : UInt64
  r10 : UInt64
  r11 : UInt64
  r12 : UInt64
  r13 : UInt64
  r14 : UInt64
  r15 : UInt64
  deriving DecidableEq

namespace Registers

/-- The contents of one register. -/
def get (regs : Registers) : Register → UInt64
  | .rax => regs.rax
  | .rbx => regs.rbx
  | .rcx => regs.rcx
  | .rdx => regs.rdx
  | .rsi => regs.rsi
  | .rdi => regs.rdi
  | .rbp => regs.rbp
  | .r8 => regs.r8
  | .r9 => regs.r9
  | .r10 => regs.r10
  | .r11 => regs.r11
  | .r12 => regs.r12
  | .r13 => regs.r13
  | .r14 => regs.r14
  | .r15 => regs.r15

/-- The registers with a new value in one of them. -/
def set (regs : Registers) (r : Register) (value : UInt64) : Registers :=
  match r with
  | .rax => { regs with rax := value }
  | .rbx => { regs with rbx := value }
  | .rcx => { regs with rcx := value }
  | .rdx => { regs with rdx := value }
  | .rsi => { regs with rsi := value }
  | .rdi => { regs with rdi := value }
  | .rbp => { regs with rbp := value }
  | .r8 => { regs with r8 := value }
  | .r9 => { regs with r9 := value }
  | .r10 => { regs with r10 := value }
  | .r11 => { regs with r11 := value }
  | .r12 => { regs with r12 := value }
  | .r13 => { regs with r13 := value }
  | .r14 => { regs with r14 := value }
  | .r15 => { regs with r15 := value }

/-- The general registers of a frame. -/
def ofFrame (f : TrapFrame) : Registers :=
  ⟨f.rax, f.rbx, f.rcx, f.rdx, f.rsi, f.rdi, f.rbp, f.r8, f.r9, f.r10, f.r11, f.r12, f.r13, f.r14,
    f.r15⟩

end Registers

/-- The control registers that a frame records. -/
structure ControlRegisters where
  cr0 : UInt64
  cr2 : UInt64
  cr3 : UInt64
  cr4 : UInt64
  deriving DecidableEq

/-- The data segment registers that a frame records. -/
structure DataSelectors where
  ds : UInt16
  es : UInt16
  fs : UInt16
  gs : UInt16
  deriving DecidableEq

/-- Where the interrupted program goes on: the words that the processor itself pushes. -/
structure ReturnPoint where
  rip : UInt64
  cs : UInt64
  rflags : UInt64
  rsp : UInt64
  ss : UInt64
  deriving DecidableEq

/-- The return point of a frame. -/
def ReturnPoint.ofFrame (f : TrapFrame) : ReturnPoint :=
  ⟨f.rip, f.cs, f.rflags, f.rsp, f.ss⟩

/-- What a stub works on: the registers and the stack, whose head is the word at the stack
pointer. -/
structure Context where
  regs : Registers
  control : ControlRegisters
  selectors : DataSelectors
  stack : List UInt64
  deriving DecidableEq

/-- The instructions that the stubs are made of. -/
inductive Instruction where
  /-- Pushes a constant. -/
  | pushConstant (value : UInt64)
  /-- Pushes a general register. -/
  | push (r : Register)
  /-- Pops into a general register. -/
  | pop (r : Register)
  /-- Moves a control register to `rax`. -/
  | readControl (read : ControlRegisters → UInt64)
  /-- Makes `rax` zero. -/
  | zeroRax
  /-- Moves a segment register to the low sixteen bits of `rax`. -/
  | readSelector (read : DataSelectors → UInt16)
  /-- Moves the stack pointer past a number of words. -/
  | drop (count : Nat)

/-- The context after one instruction. -/
def Instruction.exec : Instruction → Context → Context
  | .pushConstant value, c => { c with stack := value :: c.stack }
  | .push r, c => { c with stack := c.regs.get r :: c.stack }
  | .pop r, c => { c with regs := c.regs.set r (c.stack.headD 0), stack := c.stack.tail }
  | .readControl read, c => { c with regs := { c.regs with rax := read c.control } }
  | .zeroRax, c => { c with regs := { c.regs with rax := 0 } }
  | .readSelector read, c =>
      let high := c.regs.rax &&& 0xffffffffffff0000
      { c with regs := { c.regs with rax := high ||| (read c.selectors).toUInt64 } }
  | .drop count, c => { c with stack := c.stack.drop count }

/-- The context after a sequence of instructions. -/
def runInstructions (code : List Instruction) (c : Context) : Context :=
  code.foldl (fun c i => i.exec c) c

/-- The vectors for which the processor pushes an error code. -/
def errorCodeVectors : List Nat :=
  [8, 10, 11, 12, 13, 14, 17, 21, 29, 30]

/-- The stack when the stub starts: the return point in reverse, and the error code where there is
one. -/
def interruptStack (vector : UInt8) (err : UInt64) (back : ReturnPoint) (stack : List UInt64) :
    List UInt64 :=
  let words := back.rip :: back.cs :: back.rflags :: back.rsp :: back.ss :: stack
  if vector.toNat ∈ errorCodeVectors then err :: words else words

namespace Stub

/-- Whether the stub of a vector finds an error code on the stack. -/
def expectsErrorCode (vector : UInt8) : Bool :=
  match vector with
  | 8 | 10 | 11 | 12 | 13 | 14 | 17 | 21 | 29 | 30 => true
  | _ => false

/-- Pushes a word that has to go through `rax`. -/
def pushControl (read : ControlRegisters → UInt64) : List Instruction :=
  [.readControl read, .push .rax]

/-- Pushes a segment register, whose high bits are those of `rax`. -/
def pushSelector (read : DataSelectors → UInt16) : List Instruction :=
  [.readSelector read, .push .rax]

/-- The code of a vector's own stub: a zero where the processor pushed no error code, then the
vector. -/
def head (vector : UInt8) : List Instruction :=
  (if expectsErrorCode vector then [] else [.pushConstant 0]) ++ [.pushConstant vector.toUInt64]

/-- The code shared by all stubs up to the call of the handler. -/
def save : List Instruction :=
  Register.all.map .push ++ pushControl ControlRegisters.cr4 ++ pushControl ControlRegisters.cr3 ++
    pushControl ControlRegisters.cr2 ++ pushControl ControlRegisters.cr0 ++ [.zeroRax] ++
    pushSelector DataSelectors.gs ++ pushSelector DataSelectors.fs ++
    pushSelector DataSelectors.es ++ pushSelector DataSelectors.ds

/-- What runs between the interrupt and the handler. -/
def entry (vector : UInt8) : List Instruction :=
  head vector ++ save

/-- What runs between the handler and the return: the selectors and control registers are dropped,
the general registers popped, the vector and the error code dropped. -/
def exit : List Instruction :=
  [.drop 8] ++ Register.all.reverse.map .pop ++ [.drop 2]

/-- The address of the first stub. -/
def firstAddress : UInt64 := 0xffffffff80000000

/-- The addresses of the stubs, which lie sixteen bytes apart. -/
def addresses : Vector UInt64 256 :=
  Vector.ofFn fun v : Fin 256 => firstAddress + 16 * UInt64.ofNat v.val

end Stub

/-- The return point on top of a stack. -/
def ReturnPoint.ofStack (stack : List UInt64) : ReturnPoint :=
  ⟨stack.getD 0 0, stack.getD 1 0, stack.getD 2 0, stack.getD 3 0, stack.getD 4 0⟩

end Bringup
