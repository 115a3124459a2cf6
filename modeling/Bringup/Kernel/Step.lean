import Bringup.Kernel.SelfTest

/-!
# Steps of the kernel

A run of the kernel is a list of steps, each an activity that starts from the state the one before
left, whether that came to its end or not. `Kernel.step` is one step and `Kernel.run` a whole run,
with what every step ended with.
-/

namespace Bringup

/-- What the kernel can be asked to do. -/
inductive Step where
  | setUpCom1
  | com1Status
  | print (text : String)
  | debugPrint (text : String)
  | debugWrite (text : String)
  | consolePrint (text : String)
  | log (record : Log.Record) (message : String)
  | showConsole
  | setColors (foreground background : Color)
  | attach (screen : Screen)
  | clear
  | setUpControllers
  | loadSegments
  | loadGates
  | bringUpInterrupts
  | maskInterrupts
  | unmaskInterrupts
  | exitEmulator (success : Bool)
  | lastVector
  | holdLock (lock : Lock)
  | dispatch (frame : TrapFrame)
  | interrupt (i : Interrupt)
  | panic (frame : Option TrapFrame) (reason : String) (place : Log.Location)
  | selfTest (regions : Option (List Region))

/-- What a step answers when it comes to its end. -/
inductive Reply where
  | done
  | flag (value : Bool)
  | com1 (status : Except LoopbackError Unit)
  | console (foreground background : Color) (size : Option (UInt64 × UInt64))
  | vector (value : UInt64)
  | frame (value : TrapFrame)
  | resumed (regs : Registers) (back : ReturnPoint)

namespace Kernel

/-- The colours in force and the size of the attached screen. -/
def describeConsole : KernelActivity Reply :=
  withLock .console do
    let c := (← Activity.getState).console
    return .console c.foreground c.background
      (c.screen.map fun s => (s.framebuffer.width, s.framebuffer.height))

/-- An activity that answers only that it came to its end. -/
def andReply (x : KernelActivity Unit) (reply : Reply) : KernelActivity Reply := do
  x
  return reply

/-- What the kernel does in a step. -/
def perform : Step → KernelActivity Reply
  | .setUpCom1 => do return .com1 (← setUpCom1)
  | .com1Status => do return .com1 (← com1Status)
  | .print text => andReply (print text) .done
  | .debugPrint text => andReply (debugPrint text) .done
  | .debugWrite text => andReply (debugPrint text) (.flag true)
  | .consolePrint text => andReply (consolePrint text) .done
  | .log record message => do return .flag (← log record message)
  | .showConsole => describeConsole
  | .setColors foreground background => andReply (setColors foreground background) .done
  | .attach screen => andReply (attach screen) .done
  | .clear => andReply clear .done
  | .setUpControllers => andReply setUpControllers .done
  | .loadSegments => andReply loadSegments .done
  | .loadGates => andReply loadGates .done
  | .bringUpInterrupts => andReply bringUpInterrupts .done
  | .maskInterrupts => andReply maskInterrupts .done
  | .unmaskInterrupts => andReply unmaskInterrupts .done
  | .exitEmulator success => andReply (exitEmulator success) .done
  | .lastVector => do return .vector (← Activity.getState).lastVector
  | .holdLock lock => andReply (holdForever lock) .done
  | .dispatch frame => andReply (handleTrap frame) (.frame frame)
  | .interrupt i => do
      let (regs, back) ← takeInterrupt i
      return .resumed regs back
  | .panic frame reason place => panicAt frame reason place
  | .selfTest regions => selfTest regions

/-- One step, in which ports read as `input`. -/
def step (k : Kernel) (s : Step) (input : List UInt8) : Outcome Stop Kernel Reply :=
  perform s { k with input }

/-- A run of steps, each with what ports read as, and how each step ended. -/
def run (k : Kernel) : List (Step × List UInt8) → List (Outcome Stop Kernel Reply)
  | [] => []
  | (s, input) :: steps =>
      let ran := k.step s input
      ran :: run ran.state steps

end Kernel

end Bringup
