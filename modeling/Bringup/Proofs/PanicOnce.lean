import Bringup.Proofs.PanicReport
import Bringup.Proofs.Runs

/-!
# One report per boot

The panic flag of a fresh kernel is set by the first step that panics, directly or through the frame
of an exception, even if that panic itself faults; no step clears it (`Kernel.panicking_step`,
`Kernel.panicking_after`). With the flag set a panic asks for no lock and leaves the console alone:
it is one line on the debug console and a halt (`Kernel.step_of_repeated`). So there is at most one
report in a run (`Kernel.one_report_per_boot`).
-/

namespace Bringup

open Activity (Keeps keeps_pure keeps_getState)

/-- Whether a step panics: directly, or because it handles a trap with the vector of an
exception. -/
def Step.panics : Step → Bool
  | .panic .. => true
  | .dispatch frame => frame.vector.toNat < 32
  | .interrupt i => i.vector.toNat < 32
  | _ => false

/-- The vector that a step hands to the trap handler, if it does. -/
def Step.trapVector? : Step → Option UInt64
  | .dispatch frame => some frame.vector
  | .interrupt i => some i.vector.toUInt64
  | _ => none

namespace Kernel

/-! ## The flag in one step -/

/-- Away from traps, everything keeps the flag. -/
theorem pervasive_keeps_panicking : Pervasive (Keeps panicking) :=
  pervasive_keeps Prod.fst

theorem keeps_handleTrap_of_le {frame : TrapFrame} (past : 32 ≤ frame.vector.toNat) :
    Keeps panicking (handleTrap frame) := by
  intro k
  rw [handleTrap_of_le past]

/-- A panic sets the flag, whatever becomes of its report. -/
theorem panicking_panicAt {α : Type} (frame : Option TrapFrame) (reason : String)
    (place : Log.Location) (k : Kernel) :
    (panicAt frame reason place k : Outcome Stop Kernel α).state.panicking = true := by
  cases flag : k.panicking with
  | true =>
      rw [panicAt_of_repeated flag]
      exact flag
  | false =>
      -- the flag is set before the report is started, and a report that faults keeps it
      have shown : Keeps panicking (do
          showOnPanicScreen (Report.pieces ⟨frame.getD k.callFrame, reason, place⟩)
          haltForever : KernelActivity α) :=
        (pervasive_keeps_panicking.showOnPanicScreen _).bind fun _ =>
          pervasive_keeps_panicking.haltForever
      rw [panicAt_of_first flag]
      exact shown k.takenOver

theorem panicking_handleTrap (frame : TrapFrame) (k : Kernel) :
    (handleTrap frame k).state.panicking = (k.panicking || decide (frame.vector.toNat < 32)) := by
  by_cases exception : frame.vector.toNat < 32
  · rw [handleTrap_of_lt exception, decide_eq_true exception, Bool.or_true]
    exact panicking_panicAt _ _ _ { k with lastVector := frame.vector }
  · rw [decide_eq_false exception, Bool.or_false]
    exact keeps_handleTrap_of_le (Nat.not_lt.1 exception) k

theorem panicking_takeInterrupt (i : Interrupt) (k : Kernel) :
    (takeInterrupt i k).state.panicking = (k.panicking || decide (i.vector.toNat < 32)) := by
  rw [takeInterrupt_apply, panicking_handleTrap, toNat_frame_vector]

/-- The interrupts that the self tests fire are no exceptions. -/
theorem keeps_fire {vector : UInt8} (past : 32 ≤ vector.toNat) : Keeps panicking (fire vector) := by
  refine Keeps.bind (fun k => ?_) fun _ => keeps_pure _
  rw [panicking_takeInterrupt, decide_eq_false (Nat.not_lt.2 past), Bool.or_false]

theorem keeps_softwareInterruptsReturn : Keeps panicking softwareInterruptsReturn :=
  pervasive_keeps_panicking.softwareInterruptsReturn (fun _ past => keeps_fire past)
    fun _ next => keeps_getState.bind next

theorem panicking_perform_of_quiet {s : Step} (quiet : s.canTrap = false) (k : Kernel) :
    (perform s k).state.panicking = k.panicking :=
  congrArg Prod.fst (keeps_perform quiet k)

theorem panicking_perform (s : Step) (k : Kernel) :
    (perform s k).state.panicking = (k.panicking || s.panics) := by
  cases s with
  | dispatch frame =>
      rw [perform_dispatch_apply]
      exact panicking_handleTrap frame k
  | interrupt i =>
      rw [perform_interrupt_apply]
      exact panicking_takeInterrupt i k
  | panic frame reason place =>
      have set : (perform (.panic frame reason place) k).state.panicking = true :=
        panicking_panicAt frame reason place k
      rw [set]
      exact (Bool.or_true _).symm
  | selfTest regions =>
      have kept : (perform (.selfTest regions) k).state.panicking = k.panicking :=
        pervasive_keeps_panicking.selfTest keeps_softwareInterruptsReturn regions k
      rw [kept]
      exact (Bool.or_false _).symm
  | _ =>
      rw [panicking_perform_of_quiet rfl k]
      exact (Bool.or_false _).symm

/-- The flag after a step is set if it was set before or the step panics. -/
theorem panicking_step (k : Kernel) (s : Step) (input : List UInt8) :
    (k.step s input).state.panicking = (k.panicking || s.panics) :=
  panicking_perform s { k with input }

/-- The flag is set after a run if it was set before or some step panicked. -/
theorem panicking_after (k : Kernel) (steps : List (Step × List UInt8)) :
    (k.after steps).panicking = (k.panicking || steps.any fun s => s.1.panics) := by
  induction steps generalizing k with
  | nil => rw [after_nil, List.any_nil, Bool.or_false]
  | cons s steps ih => rw [after_cons, ih, panicking_step, List.any_cons, Bool.or_assoc]

/-! ## The panic of a step -/

/-- Nothing comes after a panic. -/
theorem panicAt_bind {α β : Type} (frame : Option TrapFrame) (reason : String)
    (place : Log.Location) (f : α → KernelActivity β) :
    (panicAt frame reason place >>= f) = panicAt frame reason place := by
  have halted : (haltForever >>= f) = haltForever := rfl
  unfold panicAt
  simp only [bind_assoc]
  congr 1
  funext _
  congr 1
  funext k
  split
  · rw [bind_assoc, halted]
  · simp only [bind_assoc, halted]

/-- A step that panics comes to a panic, with the vector of the trap noted if there was one. -/
theorem perform_of_panics {s : Step} (panics : s.panics = true) (k : Kernel) :
    ∃ frame reason place, perform s k =
      panicAt frame reason place { k with lastVector := s.trapVector?.getD k.lastVector } := by
  cases s with
  | dispatch frame =>
      have exception : frame.vector.toNat < 32 := of_decide_eq_true panics
      refine ⟨some frame, exceptionName frame.vector.toUInt8, trapPlace, ?_⟩
      rw [perform, andReply, handleTrap_of_lt exception, bind_assoc, panicAt_bind]
      rfl
  | interrupt i =>
      have exception : ∀ control, (i.frame control).vector.toNat < 32 := by
        intro control
        rw [toNat_frame_vector]
        exact of_decide_eq_true panics
      let frame := i.frame k.control
      refine ⟨some frame, exceptionName frame.vector.toUInt8, trapPlace, ?_⟩
      rw [perform, takeInterrupt_eq]
      simp only [fun control => handleTrap_of_lt (exception control), bind_assoc, panicAt_bind]
      rfl
  | panic frame reason place => exact ⟨frame, reason, place, rfl⟩
  | _ => cases panics

/-! ## Panics after the first -/

/-- With the flag set a step that panics leaves a line on the debug console and halts. -/
theorem step_of_repeated {k : Kernel} (again : k.panicking = true) {s : Step}
    (panics : s.panics = true) (input : List UInt8) :
    k.step s input =
      ⟨.error .halted,
        { k with
          input
          lastVector := s.trapVector?.getD k.lastVector
          processor := { k.processor with interruptsEnabled := false } },
        repeatedPanicEvents⟩ := by
  obtain ⟨frame, reason, place, same⟩ := perform_of_panics panics { k with input }
  rw [step, same]
  apply panicAt_of_repeated
  exact again

/-- An outcome of a panic after the first: a line on the debug console and nothing anywhere else,
and the console, the screen on it and both locks as they were. -/
structure OnlyRepeats (k : Kernel) (o : Outcome Stop Kernel Reply) : Prop where
  halted : o.result = .error .halted
  debugText : Event.written 0xe9 o.events = Text.encode "\nKernel panic while panicking\n"
  silent : ∀ port, port ≠ 0xe9 → Event.written port o.events = []
  console : o.state.console = k.console
  locks : ∀ lock, o.state.holds lock = k.holds lock
  panicking : o.state.panicking = true

theorem written_repeatedPanicEvents (port : UInt16) :
    Event.written port repeatedPanicEvents =
      if port = 0xe9 then Text.encode "\nKernel panic while panicking\n" else [] := by
  show Event.written port (_ ++ [.cli, .hlt]) = _
  rw [Event.written_append, Event.written_map_out8]
  exact List.append_nil _

theorem onlyRepeats_step {k : Kernel} (again : k.panicking = true) {s : Step}
    (panics : s.panics = true) (input : List UInt8) : k.OnlyRepeats (k.step s input) := by
  rw [step_of_repeated again panics]
  refine ⟨rfl, ?_, fun port other => ?_, rfl, fun lock => ?_, again⟩
  · exact (written_repeatedPanicEvents _).trans (if_pos rfl)
  · exact (written_repeatedPanicEvents _).trans (if_neg other)
  · cases lock <;> rfl

/-- Who holds a lock makes no difference to it. -/
theorem step_setHeld_of_repeated {k : Kernel} (again : k.panicking = true) {s : Step}
    (panics : s.panics = true) (input : List UInt8) (held : Bool) (lock : Lock) :
    (k.setHeld held lock).step s input =
      { k.step s input with state := (k.step s input).state.setHeld held lock } := by
  have still : (k.setHeld held lock).panicking = true := by
    cases lock <;> exact again
  rw [step_of_repeated again panics, step_of_repeated still panics]
  cases lock <;> rfl

/-- **One report per boot.** In every run from a fresh boot, after any number of steps, the panic
flag is set exactly if one of these steps panicked, so the first panic sets it and nothing clears
it. Every later step that panics, be it directly or through the frame of an exception, sends one
line to the debug console and nothing to any other port, leaves console, screen and locks as they
were, and ends halted; and it would do the same whoever held a lock. -/
theorem one_report_per_boot (control : ControlRegisters) (callSite : TrapFrame)
    (controllers : ControllerDriver) (steps : List (Step × List UInt8)) (j : Nat) :
    let k := (boot control callSite controllers).after (steps.take j)
    k.panicking = ((steps.take j).any fun s => s.1.panics) ∧
      ∀ s input, steps[j]? = some (s, input) → s.panics = true →
        (∃ i < j, ∃ earlier, steps[i]? = some earlier ∧ earlier.1.panics = true) →
          ∃ o, (run (boot control callSite controllers) steps)[j]? = some o ∧ k.OnlyRepeats o ∧
            ∀ held lock,
              (k.setHeld held lock).step s input =
                { o with state := o.state.setHeld held lock } := by
  intro k
  have flag : k.panicking = ((steps.take j).any fun s => s.1.panics) :=
    panicking_after (boot control callSite controllers) (steps.take j)
  refine ⟨flag, ?_⟩
  rintro s input here panics ⟨i, before, earlier, there, panicked⟩
  -- the earlier panic is among the steps before this one, so the flag is set
  have again : k.panicking = true := by
    have taken : (steps.take j)[i]? = some earlier := by
      rw [List.getElem?_take_of_lt before, there]
    rw [flag, List.any_eq_true]
    exact ⟨earlier, List.mem_of_getElem? taken, panicked⟩
  refine ⟨k.step s input, ?_, onlyRepeats_step again panics input,
    step_setHeld_of_repeated again panics input⟩
  rw [getElem?_run, here]
  rfl

/-- The frame of a page fault. -/
def pageFaultFrame : TrapFrame :=
  { TrapFrame.zero with vector := pageFaultVector }

/-- A run in which the kernel panics while the lock of COM1 is held, then the lock of the console is
taken for good, and a page fault comes in. -/
def faultAfterPanic : List (Step × List UInt8) :=
  [(.holdLock .com1, []), (.panic none "No memory" ⟨"setup", 7⟩, []), (.holdLock .console, []),
    (.dispatch pageFaultFrame, [])]

/-- The page fault only leaves its line, and leaves the same with the lock of COM1 held as well. -/
theorem line_of_faultAfterPanic :
    let fresh := boot ⟨0xa0, 0xa2, 0xa3, 0xa4⟩ .zero .standard
    let k := fresh.after (faultAfterPanic.take 3)
    k.panicking = true ∧
      ∃ o, (run fresh faultAfterPanic)[3]? = some o ∧ k.OnlyRepeats o ∧
        Event.written 0xe9 o.events = Text.encode "\nKernel panic while panicking\n" ∧
        Event.written 0x3f8 o.events = [] ∧
        ((k.setHeld true .com1).step (.dispatch pageFaultFrame) []).events = o.events := by
  obtain ⟨flag, later⟩ :=
    one_report_per_boot ⟨0xa0, 0xa2, 0xa3, 0xa4⟩ .zero .standard faultAfterPanic 3
  obtain ⟨o, ran, repeats, blocked⟩ := later (.dispatch pageFaultFrame) [] rfl (by decide)
    ⟨1, by decide, _, rfl, by decide⟩
  refine ⟨flag.trans (by decide), o, ran, repeats, repeats.debugText, ?_, ?_⟩
  · exact repeats.silent 0x3f8 (by decide)
  · rw [blocked true .com1]

end Kernel

end Bringup
