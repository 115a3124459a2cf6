import Bringup.Kernel.Step

/-!
# Properties of all activities

Away from traps the kernel's activities are put together from a few parts, in sequences, loops and
under locks. `Kernel.Pervasive` collects what such a property has to be shown for; it then holds of
whatever prints, clears, loads or tests, however that is put together, and of every routine step
(`Kernel.Pervasive.perform`). Steps that ask or bypass COM1, attach a screen, unmask interrupts or
reach the trap handler are not routine. A property that filling the screen does not have can still
be `Kernel.Offscreen`, and then holds of whatever does not clear.
-/

namespace Bringup

/-- Whether a step is put together from the parts that `Kernel.Pervasive` lists. -/
def Step.isRoutine : Step → Bool
  | .print _ => true
  | .consolePrint _ => true
  | .log .. => true
  | .showConsole => true
  | .setColors .. => true
  | .clear => true
  | .setUpControllers => true
  | .loadSegments => true
  | .loadGates => true
  | .bringUpInterrupts => true
  | .maskInterrupts => true
  | .exitEmulator _ => true
  | .holdLock _ => true
  | _ => false

namespace Kernel

/-- A property of activities that sequences and locks hand on, and that the parts have which the
kernel's activities are put together from, except for filling the screen. Of the state only the
console and the processor may be read on the way. -/
structure Offscreen (P : ∀ {α : Type}, KernelActivity α → Prop) : Prop where
  pure : ∀ {α : Type} (a : α), P (pure a : KernelActivity α)
  stop : ∀ {α : Type} (reason : Stop), P (Activity.stop reason : KernelActivity α)
  bind : ∀ {α β : Type} {x : KernelActivity α} {f : α → KernelActivity β},
    P x → (∀ a, P (f a)) → P (x >>= f)
  withLock : ∀ {α : Type} {lock : Lock} {x : KernelActivity α}, P x → P (withLock lock x)
  holdForever : ∀ lock, P (holdForever lock)
  read : ∀ {α : Type} {f : Kernel → KernelActivity α},
    (∀ k l, k.console = l.console → k.processor = l.processor → f k = f l) →
      (∀ k, P (f k)) → P (Activity.getState >>= f)
  print : ∀ text, P (print text)
  setColors : ∀ foreground background,
    P (modifyConsole fun c => { c with foreground, background })
  maskInterrupts : P maskInterrupts
  halt : P (Activity.emit .hlt : KernelActivity Unit)
  setUpControllers : P setUpControllers
  loadSegments : P loadSegments
  loadGates : P loadGates
  exitEmulator : ∀ success, P (exitEmulator success)
  useFrames : ∀ frames, P (Activity.modifyState fun k : Kernel => { k with frames := some frames })

/-- The same of all parts. -/
structure Pervasive (P : ∀ {α : Type}, KernelActivity α → Prop) : Prop extends Offscreen @P where
  fillScreen : P fillScreen

variable {α β δ : Type} {P : ∀ {α : Type}, KernelActivity α → Prop}

/-- Loading the gates has a property that sequences hand on, if its parts have it. -/
theorem loadGates_of_parts
    (bind : ∀ {x : KernelActivity Unit} {f : Unit → KernelActivity Unit},
      P x → (∀ a, P (f a)) → P (x >>= f))
    (loaded : P (Activity.emit (.loadGates GateTable.limit gates) : KernelActivity Unit))
    (kept : P (modifyProcessor fun p => { p with gates := some gates }))
    (controllers : P setUpControllers) (unmasked : P unmaskInterrupts) : P loadGates :=
  bind loaded fun _ => bind kept fun _ => bind controllers fun _ => unmasked

namespace Offscreen

theorem ofExcept (h : Offscreen @P) (r : Except Stop α) :
    P (Activity.ofExcept r : KernelActivity α) := by
  cases r with
  | ok a => exact h.pure a
  | error reason => exact h.stop reason

/-- A loop over a list has the property if its body has. -/
theorem forIn (h : Offscreen @P) {f : δ → β → KernelActivity (ForInStep β)} (l : List δ) (b : β)
    (body : ∀ d ∈ l, ∀ b, P (f d b)) : P (forIn l b f) := by
  induction l generalizing b with
  | nil => exact h.pure b
  | cons d l ih =>
      rw [List.forIn_cons]
      refine h.bind (body d List.mem_cons_self b) fun stepped => ?_
      cases stepped with
      | done b => exact h.pure b
      | yield b => exact ih b fun d mem => body d (List.mem_cons_of_mem _ mem)

theorem andReply (h : Offscreen @P) {x : KernelActivity Unit} (holds : P x) (reply : Reply) :
    P (andReply x reply) :=
  h.bind holds fun _ => h.pure reply

/-! ## Text output -/

theorem printAll (h : Offscreen @P) (texts : List String) : P (printAll texts) := by
  induction texts with
  | nil => exact h.pure ()
  | cons text texts ih => exact h.bind (h.print text) fun _ => ih

theorem log (h : Offscreen @P) (record : Log.Record) (message : String) :
    P (log record message) := by
  unfold Kernel.log
  split
  · exact h.bind (h.printAll _) fun _ => h.pure true
  · exact h.pure false

theorem describeConsole (h : Offscreen @P) : P describeConsole := by
  refine h.withLock (h.read (fun k l console _ => ?_) fun k => h.pure _)
  rw [console]

/-! ## Filling the screen -/

/-- Filling the screen has the property if putting a screen in place of another does. -/
theorem fillScreen (h : Offscreen @P)
    (replace : ∀ screen, P (modifyConsole fun c => { c with screen := some screen })) :
    P fillScreen := by
  refine h.read (fun k l console _ => ?_) fun k => ?_
  · rw [console]
  · dsimp only
    cases k.console.screen with
    | none => exact h.pure ()
    | some screen => exact h.bind (h.ofExcept _) fun filled => replace filled

/-! ## Panics and interrupts -/

theorem haltForever (h : Offscreen @P) : P (haltForever : KernelActivity α) :=
  h.bind h.maskInterrupts fun _ => h.bind h.halt fun _ => h.stop .halted

theorem bringUpInterrupts (h : Offscreen @P) : P bringUpInterrupts :=
  h.bind h.maskInterrupts fun _ => h.bind (h.log _ _) fun _ => h.bind h.loadSegments fun _ =>
    h.bind (h.log _ _) fun _ => h.loadGates

/-! ## Steps -/

/-- A routine step that does not clear has the property. -/
theorem perform (h : Offscreen @P) {s : Step} (routine : s.isRoutine = true) (other : s ≠ .clear) :
    P (perform s) := by
  cases s with
  | print text => exact h.andReply (h.print text) _
  | consolePrint text => exact h.andReply (h.withLock (h.print text)) _
  | log record message => exact h.bind (h.log record message) fun _ => h.pure _
  | showConsole => exact h.describeConsole
  | setColors foreground background =>
      exact h.andReply (h.withLock (h.setColors foreground background)) _
  | clear => exact absurd rfl other
  | setUpControllers => exact h.andReply h.setUpControllers _
  | loadSegments => exact h.andReply h.loadSegments _
  | loadGates => exact h.andReply h.loadGates _
  | bringUpInterrupts => exact h.andReply h.bringUpInterrupts _
  | maskInterrupts => exact h.andReply h.maskInterrupts _
  | exitEmulator success => exact h.andReply (h.exitEmulator success) _
  | holdLock lock => exact h.andReply (h.holdForever lock) _
  | _ => cases routine

/-! ## Self tests -/

theorem assertEqual (h : Offscreen @P) (left right : UInt64) : P (assertEqual left right) := by
  unfold Kernel.assertEqual
  split
  · exact h.pure ()
  · exact h.stop _

theorem assertInterruptsEnabled (h : Offscreen @P) : P assertInterruptsEnabled := by
  refine h.read (fun k l _ processor => ?_) fun k => ?_
  · rw [processor]
  · split
    · exact h.pure ()
    · exact h.stop _

theorem segmentsAreActive (h : Offscreen @P) : P segmentsAreActive := by
  refine h.read (fun k l _ processor => ?_) fun k => ?_
  · rw [processor]
  · exact h.bind (h.assertEqual _ _) fun _ => h.bind (h.assertEqual _ _) fun _ =>
      h.bind (h.assertEqual _ _) fun _ => h.assertEqual _ _

theorem gatesAreLoaded (h : Offscreen @P) : P gatesAreLoaded := by
  refine h.read (fun k l _ processor => ?_) fun k => ?_
  · rw [processor]
  · split
    · exact h.stop _
    · exact h.pure ()

/-- The test of software interrupts has the property if it holds of firing an interrupt that is no
exception and of reading the last vector. -/
theorem softwareInterruptsReturn (h : Offscreen @P)
    (fires : ∀ vector : UInt8, 32 ≤ vector.toNat → P (fire vector))
    (readVector : ∀ {α : Type} {f : Kernel → KernelActivity α},
      (∀ k l, k.lastVector = l.lastVector → f k = f l) → (∀ k, P (f k)) →
        P (Activity.getState >>= f)) : P softwareInterruptsReturn := by
  refine h.bind (fires 0x80 (by decide)) fun first => ?_
  refine h.bind (fires 0x21 (by decide)) fun second => ?_
  refine h.bind (h.forIn _ _ fun test _ _ => ?_) fun _ => h.pure ()
  refine readVector (fun k l same => ?_) fun k => h.bind (h.assertEqual _ _) fun _ => ?_
  · rw [same]
  · refine h.bind (h.forIn _ _ fun register _ _ => ?_) fun _ => ?_
    · exact h.bind (h.assertEqual _ _) fun _ => h.pure _
    · exact h.bind h.assertInterruptsEnabled fun _ => h.pure _

/-- The self tests have the property if the one that fires interrupts has. -/
theorem selfTest (h : Offscreen @P) (fires : P Kernel.softwareInterruptsReturn)
    (regions : Option (List Region)) : P (selfTest regions : KernelActivity α) := by
  have tests : ∀ test ∈ selfTests, P test.2 := by
    intro test mem
    simp only [selfTests, List.mem_cons, List.not_mem_nil, or_false] at mem
    rcases mem with rfl | rfl | rfl | rfl
    · exact h.segmentsAreActive
    · exact h.gatesAreLoaded
    · exact h.assertInterruptsEnabled
    · exact fires
  refine h.bind (h.ofExcept _) fun frames => h.bind (h.useFrames frames) fun _ => ?_
  refine h.bind (h.print _) fun _ => h.bind (h.forIn _ _ fun test mem _ => ?_) fun _ => ?_
  · have ran : P (runTest test.1 test.2) :=
      h.bind (h.print _) fun _ => h.bind (tests test mem) fun _ => h.print _
    exact h.bind ran fun _ => h.pure _
  · exact h.bind (h.exitEmulator true) fun _ => h.haltForever

end Offscreen

namespace Pervasive

/-! ## Painting -/

theorem wipe (h : Pervasive @P) : P wipe := by
  refine h.bind h.fillScreen fun _ => h.read (fun k l console _ => ?_) fun k => h.print _
  rw [console]

theorem showOnPanicScreen (h : Pervasive @P) (texts : List String) :
    P (showOnPanicScreen texts) :=
  h.withLock (h.bind (h.setColors _ _) fun _ => h.bind h.wipe fun _ => h.printAll texts)

/-- A panic has the property if the parts that only panics have do, and if the panic flag and the
state at the call may be read. -/
theorem panicAt (h : Pervasive @P)
    (read : ∀ {α : Type} {f : Kernel → KernelActivity α},
      (∀ k l, k.panicking = l.panicking → k.callFrame = l.callFrame → f k = f l) →
        (∀ k, P (f k)) → P (Activity.getState >>= f))
    (flag : P (Activity.modifyState fun k : Kernel => { k with panicking := true }))
    (breakLocks : P breakLocks) (debugPrint : P (debugPrint repeatedPanicText))
    (frame : Option TrapFrame) (reason : String) (place : Log.Location) :
    P (panicAt frame reason place : KernelActivity α) := by
  refine h.bind h.maskInterrupts fun _ => read (fun k l flag call => ?_) fun k => ?_
  · rw [flag, call]
  · split
    · exact h.bind debugPrint fun _ => h.haltForever
    · exact h.bind flag fun _ => h.bind breakLocks fun _ =>
        h.bind (h.showOnPanicScreen _) fun _ => h.haltForever

/-- A routine step has the property. -/
theorem perform (h : Pervasive @P) {s : Step} (routine : s.isRoutine = true) : P (perform s) := by
  by_cases clears : s = .clear
  · subst clears
    exact h.andReply (h.withLock h.wipe) _
  · exact h.toOffscreen.perform routine clears

end Pervasive

end Kernel

end Bringup
