import Bringup.Proofs.PanicOnce
import Bringup.Proofs.Twins

/-!
# The two sinks

COM1 takes a copy of what the debug console shows, and nothing depends on it: a run with COM1 up and
a run with a COM1 that failed differ in what COM1 got and in nothing else (`Kernel.sinks_agree`).
Every part of the kernel is in step, but for two kinds of text that COM1 gets no copy of: what is
written to the debug console alone, and the line of a panic after the first (`Step.copies`).
-/

namespace Bringup

open Event (written)

namespace Kernel

variable {α : Type} {failure : LoopbackError} {up down : Kernel}

/-! ## Device code -/

/-- Device code that neither depends on what it reads nor writes to a sink. -/
theorem inStep_onPorts {x : PortActivity α}
    (result : ∀ input input', (x input').result = (x input).result)
    (noText : ∀ port, port = debugConsolePort ∨ port = com1Port →
      ∀ input, written port (x input).events = []) : InStep (onPorts x) := by
  intro failure up down twins
  refine .of_silent ?_ (twins.withInput _ _) fun port sink => ⟨noText port sink up.input, ?_⟩
  · exact congrArg (Except.mapError Stop.fault) (result up.input down.input)
  · exact noText port sink down.input

/-- The interrupt controllers are none of the ports that text goes to. -/
theorem inStep_setUpControllers : InStep setUpControllers := by
  refine inStep_getState (fun _ _ _ => rfl) fun k => inStep_onPorts (fun input input' => ?_) ?_
  · rw [ControllerDriver.setUp_apply, ControllerDriver.setUp_apply]
  · rintro port (rfl | rfl) input
    · exact k.controllers.written_setUp_of_not_mem (by decide) input
    · exact k.controllers.written_setUp_of_not_mem (by decide) input

/-! ## Text output -/

/-- A text on the debug console alone. COM1 gets no copy. -/
theorem twinOutcomes_debugPrint (twins : Twins failure up down) (text : String) :
    TwinOutcomes failure false (debugPrint text up) (debugPrint text down) := by
  have upText := (emits_debugPrint up text).written
  have downText := (emits_debugPrint down text).written
  have apart : ¬ com1Port = debugConsolePort := by decide
  refine ⟨rfl, twins.withInput _ _, ?_, ?_, ?_⟩
  · rw [upText, downText]
  · rw [upText, if_neg apart]
    rfl
  · rw [downText, if_neg apart]

/-- A text goes to both sinks in both kernels, except to the COM1 that failed. -/
theorem inStep_print (text : String) : InStep (print text) := by
  intro failure up down twins
  have sameLock : down.holds .com1 = up.holds .com1 :=
    twins.read (fun k => k.holds .com1) (holds_withCom1 .com1)
  cases held : up.holds .com1 with
  | true =>
      rw [held] at sameLock
      -- whoever asks for the lock is stopped before anything is written
      have stopped : ∀ k : Kernel, k.holds .com1 = true →
          print text k = ⟨.error (.blocked .com1), k, []⟩ :=
        fun k heldHere => Activity.bind_of_error (withLock_of_held heldHere _)
      rw [stopped up held, stopped down sameLock]
      exact .of_silent rfl twins fun _ _ => ⟨rfl, rfl⟩
  | false =>
      rw [held] at sameLock
      obtain ⟨upOk, upState, upText⟩ := emits_print held text
      obtain ⟨downOk, downState, downText⟩ := emits_print sameLock text
      have failed : down.com1 = .error failure := by
        rw [twins.same]
        rfl
      have apart : ¬ com1Port = debugConsolePort := by decide
      -- what each port received is known, and a failed COM1 is not among those that did
      refine ⟨upOk ▸ downOk, ?_, ?_, ?_, ?_⟩
      · rw [upState, downState]
        exact twins.withInput _ _
      · rw [upText, downText]
        simp [received]
      · rw [upText, upText]
        simp [received, twins.com1, Except.isOk, Except.toBool]
      · rw [downText]
        simp [received, failed, apart, Except.isOk, Except.toBool]

/-! ## Everything away from traps -/

theorem inStep_modifyProcessor (f : Processor → Processor) : InStep (modifyProcessor f) :=
  inStep_modifyState fun _ _ _ => rfl

theorem inStep_unmaskInterrupts : InStep unmaskInterrupts :=
  inStep_of_silent (fun _ _ _ => rfl) (fun _ _ _ => rfl) fun _ _ => rfl

theorem inStep_loadGates : InStep loadGates := by
  have loaded : InStep (Activity.emit (.loadGates GateTable.limit gates)) :=
    inStep_of_silent (fun _ _ _ => rfl) (fun _ _ _ => rfl) fun _ _ => rfl
  exact loadGates_of_parts (P := InStep) InStep.bind loaded (inStep_modifyProcessor _)
    inStep_setUpControllers inStep_unmaskInterrupts

theorem offscreen_inStep : Offscreen InStep where
  pure := inStep_pure
  stop := inStep_stop
  bind := InStep.bind
  withLock := InStep.withLock
  holdForever := inStep_holdForever
  read := fun same next => inStep_getState (fun k _ _ => same _ k rfl rfl) next
  print := inStep_print
  setColors := fun _ _ => inStep_modifyState fun _ _ _ => rfl
  maskInterrupts := inStep_of_silent (fun _ _ _ => rfl) (fun _ _ _ => rfl) fun _ _ => rfl
  halt := inStep_of_silent (fun _ _ _ => rfl) (fun _ _ _ => rfl) fun _ _ => rfl
  setUpControllers := inStep_setUpControllers
  loadSegments := inStep_of_silent (fun _ _ _ => rfl) (fun _ _ _ => rfl) fun _ _ => rfl
  loadGates := inStep_loadGates
  exitEmulator := fun _ => inStep_onPorts (fun _ _ => rfl) fun _ _ _ => rfl
  useFrames := fun _ => inStep_modifyState fun _ _ _ => rfl

theorem pervasive_inStep : Pervasive InStep where
  toOffscreen := offscreen_inStep
  fillScreen := offscreen_inStep.fillScreen fun _ => inStep_modifyState fun _ _ _ => rfl

/-! ## Panics and traps -/

/-- The first panic tells both sinks, a later one the debug console alone. -/
theorem twinOutcomes_panicAt (twins : Twins failure up down) (frame : Option TrapFrame)
    (reason : String) (place : Log.Location) :
    TwinOutcomes failure (!up.panicking) (panicAt frame reason place up : Outcome Stop Kernel α)
      (panicAt frame reason place down) := by
  have sameFlag : down.panicking = up.panicking := twins.read panicking fun _ _ _ => rfl
  cases flag : up.panicking with
  | true =>
      rw [flag] at sameFlag
      rw [panicAt_of_repeated flag, panicAt_of_repeated sameFlag]
      have com1Text : written com1Port repeatedPanicEvents = [] := by
        rw [written_repeatedPanicEvents]
        rfl
      refine ⟨rfl, ?_, rfl, com1Text, com1Text⟩
      exact twins.map (fun k => { k with
        processor := { k.processor with interruptsEnabled := false } }) fun _ _ _ => rfl
  | false =>
      rw [flag] at sameFlag
      have sameCall : down.callFrame = up.callFrame := twins.read callFrame fun _ _ _ => rfl
      have shown : InStep (do
          showOnPanicScreen (Report.pieces ⟨frame.getD up.callFrame, reason, place⟩)
          haltForever : KernelActivity α) :=
        (pervasive_inStep.showOnPanicScreen _).bind fun _ => pervasive_inStep.haltForever
      rw [panicAt_of_first flag, panicAt_of_first sameFlag, sameCall]
      -- masking interrupts comes before the report and writes nothing
      have reported := shown failure _ _ (twins.map takenOver fun _ _ _ => rfl)
      show TwinOutcomes failure true ⟨_, _, [.cli] ++ _⟩ ⟨_, _, [.cli] ++ _⟩
      exact reported.append rfl rfl rfl

theorem twinOutcomes_handleTrap (twins : Twins failure up down) (frame : TrapFrame) :
    TwinOutcomes failure (!(decide (frame.vector.toNat < 32) && up.panicking))
      (handleTrap frame up) (handleTrap frame down) := by
  have noted : Twins failure { up with lastVector := frame.vector }
      { down with lastVector := frame.vector } :=
    twins.map (fun k => { k with lastVector := frame.vector }) fun _ _ _ => rfl
  by_cases exception : frame.vector.toNat < 32
  · rw [handleTrap_of_lt exception, decide_eq_true exception, Bool.true_and]
    exact twinOutcomes_panicAt noted _ _ _
  · have past := Nat.not_lt.1 exception
    rw [handleTrap_of_le past, handleTrap_of_le past]
    exact .of_silent rfl noted fun _ _ => ⟨rfl, rfl⟩

theorem twinOutcomes_takeInterrupt (twins : Twins failure up down) (i : Interrupt) :
    TwinOutcomes failure (!(decide (i.vector.toNat < 32) && up.panicking))
      (takeInterrupt i up) (takeInterrupt i down) := by
  have sameControl : down.control = up.control := twins.read control fun _ _ _ => rfl
  have handled := twinOutcomes_handleTrap twins (i.frame up.control)
  rw [toNat_frame_vector] at handled
  rw [takeInterrupt_apply, takeInterrupt_apply, sameControl]
  exact handled.map _

/-- An interrupt that is no exception prints nothing. -/
theorem inStep_fire {vector : UInt8} (past : 32 ≤ vector.toNat) : InStep (fire vector) := by
  refine InStep.bind (fun failure up down twins => ?_) fun _ => inStep_pure _
  have taken := twinOutcomes_takeInterrupt twins
    ⟨vector, 0, firedRegisters, ⟨0, 0, 0, 0⟩, ⟨0, 0, 0, 0, 0⟩⟩
  rw [decide_eq_false (Nat.not_lt.2 past), Bool.false_and] at taken
  exact taken

theorem inStep_softwareInterruptsReturn : InStep softwareInterruptsReturn :=
  pervasive_inStep.softwareInterruptsReturn (fun _ past => inStep_fire past)
    fun same next => inStep_getState (fun k _ _ => same _ k rfl) next

end Kernel

/-! ## Steps -/

/-- Whether a step sets COM1 up or asks how that went. -/
def Step.asksCom1 : Step → Bool
  | .setUpCom1 => true
  | .com1Status => true
  | _ => false

/-- Whether COM1 gets a copy of what a step writes to the debug console. It depends on whether the
kernel is panicking already. -/
def Step.copies (panicking : Bool) : Step → Bool
  | .debugPrint _ => false
  | .debugWrite _ => false
  | s => !(s.panics && panicking)

namespace Kernel

variable {failure : LoopbackError} {up down : Kernel}

/-- Twins do the same in a step, and COM1 gets its copy. -/
theorem twinOutcomes_perform (twins : Twins failure up down) {s : Step}
    (quiet : s.asksCom1 = false) :
    TwinOutcomes failure (s.copies up.panicking) (perform s up) (perform s down) := by
  have everywhere := pervasive_inStep
  cases routine : s.isRoutine with
  | true =>
      -- a routine step is no panic and writes nothing to the debug console alone
      have copied : s.copies up.panicking = true := by
        cases s <;> first | rfl | cases routine
      rw [copied]
      exact everywhere.perform routine failure up down twins
  | false =>
      cases s with
      | debugPrint text =>
          rw [perform, andReply_apply, andReply_apply]
          exact (twinOutcomes_debugPrint twins text).map _
      | debugWrite text =>
          rw [perform, andReply_apply, andReply_apply]
          exact (twinOutcomes_debugPrint twins text).map _
      | dispatch frame =>
          rw [perform_dispatch_apply, perform_dispatch_apply]
          exact (twinOutcomes_handleTrap twins frame).map _
      | interrupt i =>
          rw [perform_interrupt_apply, perform_interrupt_apply]
          exact (twinOutcomes_takeInterrupt twins i).map _
      | panic frame reason place => exact twinOutcomes_panicAt twins frame reason place
      | attach screen =>
          have attached : InStep (modifyConsole fun c => { c with screen := some screen }) :=
            inStep_modifyState fun _ _ _ => rfl
          exact everywhere.andReply attached.withLock _ failure up down twins
      | unmaskInterrupts =>
          exact everywhere.andReply inStep_unmaskInterrupts _ failure up down twins
      | lastVector =>
          have read : InStep (perform .lastVector) :=
            inStep_getState (fun _ _ _ => rfl) fun _ => inStep_pure _
          exact read failure up down twins
      | selfTest regions =>
          exact everywhere.selfTest inStep_softwareInterruptsReturn regions failure up down twins
      | setUpCom1 => cases quiet
      | com1Status => cases quiet
      | _ => cases routine

end Kernel

/-! ## Runs -/

/-- A step that two kernels take, with what ports read as in each. -/
structure TwinStep where
  step : Step
  upInput : List UInt8
  downInput : List UInt8

/-- The step as the first kernel takes it. -/
def TwinStep.up (t : TwinStep) : Step × List UInt8 :=
  (t.step, t.upInput)

/-- The step as the second kernel takes it. -/
def TwinStep.down (t : TwinStep) : Step × List UInt8 :=
  (t.step, t.downInput)

namespace Kernel

variable {failure : LoopbackError} {up down : Kernel}

theorem twinOutcomes_step (twins : Twins failure up down) {t : TwinStep}
    (quiet : t.step.asksCom1 = false) :
    TwinOutcomes failure (t.step.copies up.panicking) (up.step t.step t.upInput)
      (down.step t.step t.downInput) :=
  twinOutcomes_perform (twins.withInput t.upInput t.downInput) quiet

/-- Twins are twins after any number of steps. -/
theorem twins_after (twins : Twins failure up down) (steps : List TwinStep)
    (quiet : ∀ t ∈ steps, t.step.asksCom1 = false) :
    Twins failure (up.after (steps.map TwinStep.up)) (down.after (steps.map TwinStep.down)) := by
  induction steps generalizing up down with
  | nil => exact twins
  | cons t steps ih =>
      have stepped := twinOutcomes_step twins (quiet t List.mem_cons_self)
      exact ih stepped.state fun t mem => quiet t (List.mem_cons_of_mem _ mem)

/-- **The two sinks agree.** Take any kernel, once with COM1 up and once with a COM1 that failed,
and any steps that do not ask COM1 itself, with any values at the ports in either run. Every step
ends with the same result, the same text on the debug console, and kernels that differ only in COM1
and in what is left to be read. The failed COM1 never gets a byte. The other gets the text of the
debug console, except from a step that prints on the debug console alone and from a panic when an
earlier step, or one before the run, has panicked: then it gets nothing. -/
theorem sinks_agree (k : Kernel) (failure : LoopbackError) (steps : List TwinStep)
    (quiet : ∀ t ∈ steps, t.step.asksCom1 = false) (j : Nat) (t : TwinStep)
    (here : steps[j]? = some t) :
    ∃ o p, (run { k with com1 := .ok () } (steps.map TwinStep.up))[j]? = some o ∧
      (run { k with com1 := .error failure } (steps.map TwinStep.down))[j]? = some p ∧
      TwinOutcomes failure
        (t.step.copies (k.panicking || (steps.take j).any fun t => t.step.panics)) o p := by
  let up : Kernel := { k with com1 := .ok () }
  let down : Kernel := { k with com1 := .error failure }
  have twins : Twins failure up down := ⟨rfl, rfl⟩
  have before : Twins failure (up.after ((steps.take j).map TwinStep.up))
      (down.after ((steps.take j).map TwinStep.down)) :=
    twins_after twins (steps.take j) fun t mem => quiet t (List.mem_of_mem_take mem)
  -- the kernel is panicking exactly if it was at the start or an earlier step has panicked
  have flag : (up.after ((steps.take j).map TwinStep.up)).panicking =
      (k.panicking || (steps.take j).any fun t => t.step.panics) := by
    rw [panicking_after, List.any_map]
    rfl
  have stepped := twinOutcomes_step before (quiet t (List.mem_of_getElem? here))
  rw [flag] at stepped
  refine ⟨_, _, ?_, ?_, stepped⟩
  · rw [getElem?_run, List.getElem?_map, here, List.map_take]
    rfl
  · rw [getElem?_run, List.getElem?_map, here, List.map_take]
    rfl

/-- A text, a panic and a page fault. In the run with COM1 the transmitter is busy for a while. -/
def panicThenFault : List TwinStep :=
  [⟨.print "up\n", [0x00, 0x20], []⟩, ⟨.panic none "No memory" ⟨"setup", 7⟩, [0x00], [0x01]⟩,
    ⟨.dispatch pageFaultFrame, [], [0x00]⟩]

/-- COM1 gets a copy of the panic but not of the page fault after it. -/
theorem copies_of_panicThenFault :
    let fresh := boot ⟨0xa0, 0xa2, 0xa3, 0xa4⟩ .zero
    let failure : LoopbackError := ⟨0x69, 0xff⟩
    let withCom1 := run { fresh with com1 := .ok () } (panicThenFault.map TwinStep.up)
    let without := run { fresh with com1 := .error failure } (panicThenFault.map TwinStep.down)
    (∀ t ∈ panicThenFault, t.step.asksCom1 = false) ∧
      (∃ o p, withCom1[1]? = some o ∧ without[1]? = some p ∧ TwinOutcomes failure true o p) ∧
      ∃ o p, withCom1[2]? = some o ∧ without[2]? = some p ∧ TwinOutcomes failure false o p := by
  intro fresh failure withCom1 without
  have quiet : ∀ t ∈ panicThenFault, t.step.asksCom1 = false := by
    intro t mem
    simp only [panicThenFault, List.mem_cons, List.not_mem_nil, or_false] at mem
    rcases mem with rfl | rfl | rfl <;> rfl
  exact ⟨quiet, sinks_agree fresh failure panicThenFault quiet 1 _ rfl,
    sinks_agree fresh failure panicThenFault quiet 2 _ rfl⟩

end Kernel

end Bringup
