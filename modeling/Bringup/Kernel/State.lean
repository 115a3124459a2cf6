import Bringup.Device.InterruptController
import Bringup.Device.Uart
import Bringup.Display.Framebuffer
import Bringup.Identity
import Bringup.Memory.FrameAllocator.Setup
import Bringup.Trap.Stub

/-!
# Kernel state

Everything that one activity of the kernel can leave for a later one: the text sinks and their
locks, the console, the panic flag, the last vector, and what was loaded into the processor.
`Kernel.boot` is the state right after start-up.

An activity of the kernel ends early for one of the reasons in `Stop`. A lock whose holder never
gives it back stops whoever asks for it for good.
-/

namespace Bringup

/-- The locks that guard the text sinks. -/
inductive Lock where
  | console
  | com1
  deriving DecidableEq

/-- Why an activity of the kernel did not come to its end. -/
inductive Stop where
  /-- An arithmetic fault. -/
  | fault (cause : Fault)
  /-- An assertion that did not hold, with its text. -/
  | assertion (message : String)
  /-- There is no frame allocator to go on with. -/
  | setup (cause : SetupError)
  /-- The processor was halted. -/
  | halted
  /-- A lock was asked for that is held. -/
  | blocked (lock : Lock)
  deriving DecidableEq

/-- The text console: the colours in force and the screen, once one is attached. -/
structure Console where
  foreground : Color
  background : Color
  screen : Option Screen
  deriving DecidableEq

/-- What was loaded into the processor. -/
structure Processor where
  cs : UInt16
  ds : UInt16
  es : UInt16
  ss : UInt16
  gates : Option GateTable
  interruptsEnabled : Bool

/-- The state of the kernel. The control registers and the frame at a call without a trap are
given by the machine, and the driver of the interrupt controllers by whoever builds the kernel. They
never change. -/
structure Kernel where
  /-- What ports still have to read as. -/
  input : List UInt8
  /-- Whether the UART at `com1Port` came up, or why not. -/
  com1 : Except LoopbackError Unit
  com1Held : Bool
  console : Console
  consoleHeld : Bool
  panicking : Bool
  lastVector : UInt64
  processor : Processor
  frames : Option FrameAllocator
  control : ControlRegisters
  callSite : TrapFrame
  controllers : ControllerDriver

/-- An activity of the kernel. -/
abbrev KernelActivity (α : Type) := Activity Stop Kernel α

namespace Kernel

/-- The kernel right after start-up on a machine with the given control registers: COM1 is up,
nothing is loaded, no screen is attached. -/
def boot (control : ControlRegisters) (callSite : TrapFrame)
    (controllers : ControllerDriver := .standard) : Kernel where
  input := []
  com1 := .ok ()
  com1Held := false
  console := ⟨.white, .black, none⟩
  consoleHeld := false
  panicking := false
  lastVector := noFrameVector
  processor := ⟨0, 0, 0, 0, none, false⟩
  frames := none
  control := control
  callSite := callSite
  controllers := controllers

/-- Whether a lock is held. -/
def holds (k : Kernel) : Lock → Bool
  | .console => k.consoleHeld
  | .com1 => k.com1Held

/-- The kernel with a lock held or free. -/
def setHeld (k : Kernel) (held : Bool) : Lock → Kernel
  | .console => { k with consoleHeld := held }
  | .com1 => { k with com1Held := held }

/-- The pixels of the attached screen, if there is one. -/
def screenPixels (k : Kernel) : Option (Array UInt32) :=
  k.console.screen.map (·.pixels)

/-- Goes on only if a lock is free. -/
def requireFree (lock : Lock) : KernelActivity Unit := do
  if (← Activity.getState).holds lock then
    Activity.stop (.blocked lock)

/-- Takes a lock and never gives it back. -/
def holdForever (lock : Lock) : KernelActivity Unit := do
  requireFree lock
  Activity.modifyState fun k => k.setHeld true lock

/-- The outcome of an activity that had a lock, with the lock given back. A fault gives it back on
the way out; whoever is halted or blocked keeps it. -/
def giveBack {α : Type} (lock : Lock) (o : Outcome Stop Kernel α) : Outcome Stop Kernel α :=
  match o.result with
  | .error .halted => o
  | .error (.blocked _) => o
  | _ => { o with state := o.state.setHeld false lock }

/-- An activity that holds a free lock while it lasts. -/
def whileHolding {α : Type} (lock : Lock) (x : KernelActivity α) : KernelActivity α :=
  fun k => giveBack lock (x (k.setHeld true lock))

/-- An activity that asks for a lock first and gives it back at its end. -/
def withLock {α : Type} (lock : Lock) (x : KernelActivity α) : KernelActivity α := do
  requireFree lock
  whileHolding lock x

/-- Runs device code. -/
def onPorts {α : Type} (x : PortActivity α) : KernelActivity α :=
  x.onPart Kernel.input (fun input k => { k with input }) Stop.fault

/-- Changes the console. -/
def modifyConsole (f : Console → Console) : KernelActivity Unit :=
  Activity.modifyState fun k => { k with console := f k.console }

/-- Changes what is loaded into the processor. -/
def modifyProcessor (f : Processor → Processor) : KernelActivity Unit :=
  Activity.modifyState fun k => { k with processor := f k.processor }

/-- Masks interrupts. -/
def maskInterrupts : KernelActivity Unit := do
  Activity.emit .cli
  modifyProcessor fun p => { p with interruptsEnabled := false }

/-- Unmasks interrupts. -/
def unmaskInterrupts : KernelActivity Unit := do
  Activity.emit .sti
  modifyProcessor fun p => { p with interruptsEnabled := true }

/-- Masks interrupts and halts for good. -/
def haltForever {α : Type} : KernelActivity α := do
  maskInterrupts
  Activity.emit .hlt
  Activity.stop .halted

end Kernel

end Bringup
