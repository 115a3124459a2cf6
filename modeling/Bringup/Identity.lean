import Bringup.Display.Color
import Bringup.Log

/-!
# Identity

What is fixed when the kernel is built: the name and version that it goes by, the ports of its text
sinks, the level from which on log lines are written, and the form and colours of the panic screen.
-/

namespace Bringup

namespace Identity

/-- The name of the kernel. -/
def name : String := "Sphynx"

/-- The version of the kernel. -/
def version : String := "0.0.1"

/-- Whether a panic shows the full report. -/
def verbosePanic : Bool := true

end Identity

/-- The base port of COM1, the UART that takes the kernel's text. -/
def com1Port : UInt16 := 0x3f8

/-- The rate of COM1. -/
def com1Baud : UInt32 := 115200

/-- The port of the emulator's debug console. Every byte written to it is shown; it needs no
setup. -/
def debugConsolePort : UInt16 := 0xe9

/-- The colours of the panic screen, foreground first. -/
def Kernel.panicColors : Color × Color := (.red, .black)

namespace Log.Level

/-- The lowest level that is written. -/
def threshold : Level := .debug

/-- Whether records of a level are written. -/
def isEnabled (level : Level) : Bool :=
  threshold.rank ≤ level.rank

end Log.Level

end Bringup
