import Bringup.Kernel.Traps

/-!
# Self tests

Tests that the running kernel does on itself, in order, until one fails. Each prints its name
before and a mark after it. The test of software interrupts fires two of them and only then
compares the last vector with the first one's, so it always fails, and the tests that the header
counts after it are never started.
-/

namespace Bringup.Kernel

/-- The port whose writes make the emulator exit. -/
def exitPort : UInt16 := 0xf4

/-- The word that makes the emulator exit, for success or failure. -/
def exitCode (success : Bool) : UInt32 :=
  if success then 0x10 else 0x11

/-- Makes the emulator exit. -/
def exitEmulator (success : Bool) : KernelActivity Unit :=
  onPorts (Port.writeWord exitPort (exitCode success))

/-- The text of a failed comparison. -/
def unequalMessage (left right : UInt64) : String :=
  "assertion `left == right` failed\n  left: " ++ Nat.repr left.toNat ++ "\n right: "
    ++ Nat.repr right.toNat

/-- Stops unless two words are equal. -/
def assertEqual (left right : UInt64) : KernelActivity Unit :=
  if left = right then pure () else Activity.stop (.assertion (unequalMessage left right))

/-- Stops unless interrupts are enabled. -/
def assertInterruptsEnabled : KernelActivity Unit := do
  unless (← Activity.getState).processor.interruptsEnabled do
    Activity.stop (.assertion "assertion failed: x86::interrupts_enabled()")

/-- The kernel's own segments are in force. -/
def segmentsAreActive : KernelActivity Unit := do
  let p := (← Activity.getState).processor
  assertEqual p.cs.toUInt64 Selector.kernelCode.toUInt64
  assertEqual p.ds.toUInt64 Selector.kernelData.toUInt64
  assertEqual p.es.toUInt64 Selector.kernelData.toUInt64
  assertEqual p.ss.toUInt64 Selector.kernelData.toUInt64

/-- The kernel's own gates are in force. -/
def gatesAreLoaded : KernelActivity Unit := do
  if (← Activity.getState).processor.gates.isNone then
    Activity.stop (.assertion "IDT was never built")

/-- What the registers hold when a test interrupt is fired. -/
def firedRegisters : Registers where
  rax := 0x1111111111111111
  rbx := 0
  rcx := 0x2222222222222222
  rdx := 0x3333333333333333
  rsi := 0x4444444444444444
  rdi := 0x5555555555555555
  rbp := 0
  r8 := 0x6666666666666666
  r9 := 0
  r10 := 0
  r11 := 0x7777777777777777
  r12 := 0
  r13 := 0
  r14 := 0
  r15 := 0x8888888888888888

/-- The registers that a test interrupt must leave alone. -/
def watchedRegisters : List Register :=
  [.rax, .rcx, .rdx, .rsi, .rdi, .r8, .r11, .r15]

/-- Fires a software interrupt and gives the registers after it. -/
def fire (vector : UInt8) : KernelActivity Registers := do
  let (regs, _) ← takeInterrupt ⟨vector, 0, firedRegisters, ⟨0, 0, 0, 0⟩, ⟨0, 0, 0, 0, 0⟩⟩
  return regs

/-- A software interrupt is noted, returns, and leaves the registers and the interrupt flag
alone. -/
def softwareInterruptsReturn : KernelActivity Unit := do
  let first ← fire 0x80
  let second ← fire 0x21
  for (vector, regs) in [((0x80 : UInt64), first), (0x21, second)] do
    assertEqual (← Activity.getState).lastVector vector
    for register in watchedRegisters do
      assertEqual (regs.get register) (firedRegisters.get register)
    assertInterruptsEnabled

/-- How many tests the header counts. -/
def testCount : Nat := 7

/-- The tests up to the one that always fails, with their names. -/
def selfTests : List (String × KernelActivity Unit) :=
  [("gdt_is_active", segmentsAreActive), ("idt_is_loaded", gatesAreLoaded),
    ("interrupts_are_enabled", assertInterruptsEnabled),
    ("software_interrupts_return", softwareInterruptsReturn)]

/-- Runs one test between its name and its mark. -/
def runTest (name : String) (test : KernelActivity Unit) : KernelActivity Unit := do
  print ("sphynx::selftest::" ++ name ++ "...\t")
  test
  print "[ok]\n"

/-- Runs the tests over a frame allocator built from a memory map. -/
def selfTest {α : Type} (regions : Option (List Region)) : KernelActivity α := do
  let setup := FrameAllocator.setup regions fun _ size => Array.replicate size.toNat 0
  let frames ← Activity.ofExcept (setup.outcome.mapError Stop.setup)
  Activity.modifyState fun k => { k with frames := some frames }
  print ("Running " ++ Nat.repr testCount ++ " tests\n")
  for (name, test) in selfTests do
    runTest name test
  exitEmulator true
  haltForever

end Bringup.Kernel
