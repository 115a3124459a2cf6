import Bringup.Kernel.Output
import Bringup.Panic.Report

/-!
# Kernel panics

The first panic takes the console over, whoever holds its locks, shows the report and halts. A
panic after that may come from the report itself, so it only leaves a line on the debug console.
-/

namespace Bringup.Kernel

/-- The line that a panic after the first leaves on the debug console. -/
def repeatedPanicText : String := "\nKernel panic while panicking\n"

/-- The frame shown for a panic without a trap: the state at the call, marked as made by no
interrupt. -/
def callFrame (k : Kernel) : TrapFrame :=
  { k.callSite with
    cr0 := k.control.cr0
    cr2 := k.control.cr2
    cr3 := k.control.cr3
    cr4 := k.control.cr4
    vector := noFrameVector
    err := 0 }

/-- Frees both locks, whose holders are never coming back. -/
def breakLocks : KernelActivity Unit :=
  Activity.modifyState fun k => { k with consoleHeld := false, com1Held := false }

/-- Shows texts on a cleared console in the panic colours. The console stays locked all the
while. -/
def showOnPanicScreen (texts : List String) : KernelActivity Unit :=
  withLock .console do
    modifyConsole fun c => { c with foreground := panicColors.1, background := panicColors.2 }
    wipe
    printAll texts

/-- Reports and halts. Without a frame the state at the call is shown. -/
def panicAt {α : Type} (frame : Option TrapFrame) (reason : String) (place : Log.Location) :
    KernelActivity α := do
  maskInterrupts
  let k ← Activity.getState
  if k.panicking then
    debugPrint repeatedPanicText
    haltForever
  else
    Activity.modifyState fun k => { k with panicking := true }
    breakLocks
    showOnPanicScreen (Report.shown ⟨frame.getD k.callFrame, reason, place⟩)
    haltForever

end Bringup.Kernel
