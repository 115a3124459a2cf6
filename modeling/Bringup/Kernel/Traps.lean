import Bringup.Kernel.Panic

/-!
# Interrupts in the kernel

`Kernel.handleTrap` is what every interrupt ends up in: an exception is fatal, anything else is
noted and returns. `Kernel.takeInterrupt` runs the whole way from the processor's first push to
the return. The rest brings interrupts up: segments, gates, controllers, and only then the
interrupt flag.
-/

namespace Bringup

/-- An interrupt as the processor takes it: the vector, the error code if the vector has one, and
the state that was interrupted. -/
structure Interrupt where
  vector : UInt8
  err : UInt64
  regs : Registers
  selectors : DataSelectors
  back : ReturnPoint
  deriving DecidableEq

namespace Kernel

/-- Where a fatal exception is reported to come from. -/
def trapPlace : Log.Location := ⟨"src/interrupts/dispatch.rs", 0⟩

/-- Handles a trap by its vector and notes the vector. -/
def handleTrap (frame : TrapFrame) : KernelActivity Unit := do
  Activity.modifyState fun k => { k with lastVector := frame.vector }
  match TrapKind.ofVector frame.vector with
  | .exception number => panicAt (some frame) (exceptionName number) trapPlace
  | .line _ => pure ()
  | .syscall => pure ()
  | .unhandled _ => pure ()

/-- The processor when the entry stub of an interrupt starts. -/
def arrival (control : ControlRegisters) (i : Interrupt) (stack : List UInt64) : Context where
  regs := i.regs
  control := control
  selectors := i.selectors
  stack := interruptStack i.vector i.err i.back stack

/-- Takes an interrupt: enters through the stub, handles the frame on the stack, and leaves. -/
def takeInterrupt (i : Interrupt) : KernelActivity (Registers × ReturnPoint) := do
  let saved := runInstructions (Stub.entry i.vector) (arrival (← Activity.getState).control i [])
  handleTrap (TrapFrame.ofWords saved.stack)
  let left := runInstructions Stub.exit saved
  return (left.regs, ReturnPoint.ofStack left.stack)

/-- Loads the segment table and every segment register from it. -/
def loadSegments : KernelActivity Unit := do
  Activity.emit (.loadSegments SegmentTable.limit SegmentTable.entries)
  Activity.emit (.farReturn Selector.kernelCode)
  for register in [DataSegment.ds, .es, .fs, .gs, .ss] do
    Activity.emit (.loadSelector register Selector.kernelData)
  modifyProcessor fun p =>
    { p with
      cs := Selector.kernelCode
      ds := Selector.kernelData
      es := Selector.kernelData
      ss := Selector.kernelData }

/-- The kernel's gates, one to each entry stub. -/
def gates : GateTable := GateTable.ofHandlers Stub.addresses

/-- Sets the interrupt controllers up. -/
def setUpControllers : KernelActivity Unit := do
  onPorts (← Activity.getState).controllers.setUp

/-- Loads the gates, sets the interrupt controllers up and unmasks interrupts. -/
def loadGates : KernelActivity Unit := do
  Activity.emit (.loadGates GateTable.limit gates)
  modifyProcessor fun p => { p with gates := some gates }
  setUpControllers
  unmaskInterrupts

/-- The head of the log lines about bringing interrupts up. -/
def bringUpRecord : Log.Record := ⟨.debug, ⟨"src/interrupts/mod.rs", 0⟩⟩

/-- Brings segmentation and interrupts up. Interrupts stay masked until the gates are there. -/
def bringUpInterrupts : KernelActivity Unit := do
  maskInterrupts
  let _ ← log bringUpRecord "Initializing GDT"
  loadSegments
  let _ ← log bringUpRecord "Initializing IDT"
  loadGates

end Kernel

end Bringup
