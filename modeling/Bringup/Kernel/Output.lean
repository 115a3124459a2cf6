import Bringup.Kernel.State

/-!
# Text output

Text goes to two sinks: COM1, if it came up, and the debug console. `Kernel.print` writes to both
and has the lock of COM1 only while COM1 is written to; a text in pieces takes it anew for each
piece (`Kernel.printAll`). `Kernel.consolePrint` prints on behalf of the console, `Kernel.log`
writes log lines, and `Kernel.debugPrint` writes to the debug console alone and needs no lock.
Clearing the console fills the screen first, so a fill that faults leaves both sinks silent.
-/

namespace Bringup.Kernel

/-- Writes a text to the debug console. -/
def debugPrint (text : String) : KernelActivity Unit :=
  onPorts (Port.writeAll debugConsolePort (Text.encode text))

/-- Writes a text to COM1, if it is up. -/
def com1Print (text : String) : KernelActivity Unit := do
  match (← Activity.getState).com1 with
  | .ok _ => onPorts (Uart.send ⟨com1Port⟩ text)
  | .error _ => pure ()

/-- Writes a text to COM1, if it is up, and to the debug console. -/
def print (text : String) : KernelActivity Unit := do
  withLock .com1 (com1Print text)
  debugPrint text

/-- Writes texts one after the other. -/
def printAll : List String → KernelActivity Unit
  | [] => pure ()
  | text :: texts => do
      print text
      printAll texts

/-- Sets COM1 up. Until the next time it takes text only if the check went well. -/
def setUpCom1 : KernelActivity (Except LoopbackError Unit) := do
  requireFree .com1
  let uart ← onPorts (Uart.setUp com1Port com1Baud)
  let com1 := uart.map fun _ => ()
  Activity.modifyState fun k => { k with com1 }
  return com1

/-- Whether COM1 is up, or why not. -/
def com1Status : KernelActivity (Except LoopbackError Unit) :=
  withLock .com1 do
    return (← Activity.getState).com1

/-- Writes a log line, if its level is written, and tells whether it is. -/
def log (record : Log.Record) (message : String) : KernelActivity Bool := do
  if record.level.isEnabled then
    printAll (record.pieces message)
    return true
  else
    return false

/-- Prints a text on the console. -/
def consolePrint (text : String) : KernelActivity Unit :=
  withLock .console (print text)

/-- Attaches a screen. -/
def attach (screen : Screen) : KernelActivity Unit :=
  withLock .console (modifyConsole fun c => { c with screen := some screen })

/-- Changes the colours in force. -/
def setColors (foreground background : Color) : KernelActivity Unit :=
  withLock .console (modifyConsole fun c => { c with foreground, background })

/-- Fills the attached screen, if there is one, with the background colour. -/
def fillScreen : KernelActivity Unit := do
  let console := (← Activity.getState).console
  match console.screen with
  | none => pure ()
  | some screen =>
      let filled ← Activity.ofExcept ((screen.fill console.background).mapError Stop.fault)
      modifyConsole fun c => { c with screen := some filled }

/-- Fills the screen and clears the terminals behind the text sinks, in the colours in force. -/
def wipe : KernelActivity Unit := do
  fillScreen
  let console := (← Activity.getState).console
  print (clearSequence console.foreground console.background)

/-- Clears the console. -/
def clear : KernelActivity Unit :=
  withLock .console wipe

end Bringup.Kernel
