import Bringup.Proofs.PanicOnce
import Bringup.Proofs.TestInterrupts

/-!
# The last vector

A trap that is no exception leaves the last vector behind and nothing else. Nothing but the question
for the last vector depends on it (`Kernel.IgnoresVector`, `Kernel.ignoresVector_perform`), so traps
put in between the steps of a run make no difference to the steps (`Kernel.alike_after`). What the
question gets at any point of a run is the vector of the frame that was handled last, fatal or not
(`Kernel.lastVector_after`). `Kernel.harmless_traps_leave_no_trace` puts this together.
-/

namespace Bringup

open Activity (Keeps keeps_getState)

namespace Kernel

variable {α β : Type}

/-! ## Outcomes that differ in the last vector -/

/-- The kernel with another last vector. -/
def withLastVector (k : Kernel) (vector : UInt64) : Kernel :=
  { k with lastVector := vector }

/-- Two kernels that are the same but for the last vector. -/
def SameButVector (k l : Kernel) : Prop :=
  ∃ vector, l = k.withLastVector vector

/-- Two outcomes that are the same but for the last vector that is left behind. -/
structure Alike (o p : Outcome Stop Kernel α) : Prop where
  result : p.result = o.result
  state : o.state.SameButVector p.state
  events : p.events = o.events

/-- The activity takes no account of the last vector. -/
def IgnoresVector (x : KernelActivity α) : Prop :=
  ∀ k vector, Alike (x k) (x (k.withLastVector vector))

/-- What never changes the last vector and comes to the same with every other takes no account of
it. -/
theorem ignoresVector_of_eq {x : KernelActivity α}
    (same : ∀ k vector, x (k.withLastVector vector) =
      ⟨(x k).result, (x k).state.withLastVector vector, (x k).events⟩) : IgnoresVector x := by
  intro k vector
  rw [same]
  exact ⟨rfl, ⟨vector, rfl⟩, rfl⟩

/-- What replaces the last vector before anything else takes no account of it. -/
theorem ignoresVector_of_overwrites {x : KernelActivity α}
    (same : ∀ k vector, x (k.withLastVector vector) = x k) : IgnoresVector x := by
  intro k vector
  rw [same]
  exact ⟨rfl, ⟨(x k).state.lastVector, rfl⟩, rfl⟩

theorem ignoresVector_pure (a : α) : IgnoresVector (pure a : KernelActivity α) :=
  ignoresVector_of_eq fun _ _ => rfl

theorem ignoresVector_stop (reason : Stop) :
    IgnoresVector (Activity.stop reason : KernelActivity α) :=
  ignoresVector_of_eq fun _ _ => rfl

theorem IgnoresVector.bind {x : KernelActivity α} {f : α → KernelActivity β}
    (first : IgnoresVector x) (next : ∀ a, IgnoresVector (f a)) : IgnoresVector (x >>= f) := by
  intro k vector
  have alike := first k vector
  rcases ran : x k with ⟨result, l, events⟩
  rcases ranToo : x (k.withLastVector vector) with ⟨result', l', events'⟩
  rw [ran, ranToo] at alike
  obtain ⟨sameResult, ⟨left, rfl⟩, sameEvents⟩ := alike
  dsimp only at sameResult sameEvents
  subst sameResult sameEvents
  cases result' with
  | error reason =>
      rw [Activity.bind_of_error ran, Activity.bind_of_error ranToo]
      exact ⟨rfl, ⟨left, rfl⟩, rfl⟩
  | ok a =>
      rw [Activity.bind_of_ok ran, Activity.bind_of_ok ranToo]
      obtain ⟨result, state, events⟩ := next a l left
      exact ⟨result, state, congrArg (events' ++ ·) events⟩

/-- Going on from what is read of the state, if that is not the last vector. -/
theorem ignoresVector_getState {f : Kernel → KernelActivity α}
    (shared : ∀ k vector, f (withLastVector k vector) = f k) (next : ∀ k, IgnoresVector (f k)) :
    IgnoresVector (Activity.getState >>= f) := by
  intro k vector
  rw [Activity.getState_bind_apply, Activity.getState_bind_apply, shared]
  exact next k k vector

theorem ignoresVector_onPorts (x : PortActivity α) : IgnoresVector (onPorts x) :=
  ignoresVector_of_eq fun _ _ => rfl

/-! ## Locks -/

theorem setHeld_withLastVector (k : Kernel) (vector : UInt64) (held : Bool) (lock : Lock) :
    (k.withLastVector vector).setHeld held lock = (k.setHeld held lock).withLastVector vector := by
  cases lock <;> rfl

theorem ignoresVector_requireFree (lock : Lock) : IgnoresVector (requireFree lock) := by
  refine ignoresVector_getState (fun k vector => ?_) fun k => ?_
  · cases lock <;> rfl
  · cases k.holds lock with
    | true => exact ignoresVector_stop _
    | false => exact ignoresVector_pure ()

theorem alike_giveBack {o p : Outcome Stop Kernel α} (lock : Lock) (alike : Alike o p) :
    Alike (giveBack lock o) (giveBack lock p) := by
  rcases o with ⟨result, k, events⟩
  rcases p with ⟨result', l, events'⟩
  obtain ⟨sameResult, ⟨vector, rfl⟩, sameEvents⟩ := alike
  dsimp only at sameResult sameEvents
  subst sameResult sameEvents
  have freed : (k.setHeld false lock).SameButVector
      ((k.withLastVector vector).setHeld false lock) :=
    ⟨vector, setHeld_withLastVector k vector false lock⟩
  rcases result' with (cause | message | cause | _ | held) | a
  case error.halted => exact ⟨rfl, ⟨vector, rfl⟩, rfl⟩
  case error.blocked => exact ⟨rfl, ⟨vector, rfl⟩, rfl⟩
  all_goals exact ⟨rfl, freed, rfl⟩

theorem IgnoresVector.withLock {lock : Lock} {x : KernelActivity α} (ignores : IgnoresVector x) :
    IgnoresVector (withLock lock x) := by
  refine (ignoresVector_requireFree lock).bind fun _ => ?_
  intro k vector
  apply alike_giveBack
  rw [setHeld_withLastVector]
  exact ignores (k.setHeld true lock) vector

/-! ## Everything away from traps -/

theorem ignoresVector_print (text : String) : IgnoresVector (print text) := by
  have com1 : IgnoresVector (com1Print text) := by
    refine ignoresVector_getState (fun _ _ => rfl) fun k => ?_
    cases k.com1 with
    | ok _ => exact ignoresVector_onPorts _
    | error _ => exact ignoresVector_pure ()
  exact com1.withLock.bind fun _ => ignoresVector_onPorts _

theorem ignoresVector_setUpControllers : IgnoresVector setUpControllers :=
  ignoresVector_getState (fun _ _ => rfl) fun _ => ignoresVector_onPorts _

theorem ignoresVector_loadGates : IgnoresVector loadGates := by
  have loaded : IgnoresVector (Activity.emit (.loadGates GateTable.limit gates)) :=
    ignoresVector_of_eq fun _ _ => rfl
  have kept : IgnoresVector (modifyProcessor fun p => { p with gates := some gates }) :=
    ignoresVector_of_eq fun _ _ => rfl
  have unmasked : IgnoresVector unmaskInterrupts := ignoresVector_of_eq fun _ _ => rfl
  exact loadGates_of_parts (P := IgnoresVector) IgnoresVector.bind loaded kept
    ignoresVector_setUpControllers unmasked

theorem offscreen_ignoresVector : Offscreen IgnoresVector where
  pure := ignoresVector_pure
  stop := ignoresVector_stop
  bind := IgnoresVector.bind
  withLock := IgnoresVector.withLock
  holdForever lock := (ignoresVector_requireFree lock).bind fun _ =>
    ignoresVector_of_eq fun k vector => by
      show Outcome.mk _ ((k.withLastVector vector).setHeld true lock) _ = _
      rw [setHeld_withLastVector]
      rfl
  read := fun same next => ignoresVector_getState (fun k _ => same _ k rfl rfl) next
  print := ignoresVector_print
  setColors := fun _ _ => ignoresVector_of_eq fun _ _ => rfl
  maskInterrupts := ignoresVector_of_eq fun _ _ => rfl
  halt := ignoresVector_of_eq fun _ _ => rfl
  setUpControllers := ignoresVector_setUpControllers
  loadSegments := ignoresVector_of_eq fun _ _ => rfl
  loadGates := ignoresVector_loadGates
  exitEmulator := fun _ => ignoresVector_onPorts _
  useFrames := fun _ => ignoresVector_of_eq fun _ _ => rfl

theorem pervasive_ignoresVector : Pervasive IgnoresVector where
  toOffscreen := offscreen_ignoresVector
  fillScreen := offscreen_ignoresVector.fillScreen fun _ => ignoresVector_of_eq fun _ _ => rfl

/-! ## Panics, traps and self tests -/

theorem ignoresVector_panicAt (frame : Option TrapFrame) (reason : String) (place : Log.Location) :
    IgnoresVector (panicAt frame reason place : KernelActivity α) := by
  refine pervasive_ignoresVector.panicAt (fun same next => ?_) ?_ ?_ (ignoresVector_onPorts _) frame
    reason place
  · exact ignoresVector_getState (fun k _ => same _ k rfl rfl) next
  · exact ignoresVector_of_eq fun _ _ => rfl
  · exact ignoresVector_of_eq fun _ _ => rfl

/-- The handler notes its own vector first. -/
theorem handleTrap_withLastVector (frame : TrapFrame) (k : Kernel) (vector : UInt64) :
    handleTrap frame (k.withLastVector vector) = handleTrap frame k := rfl

theorem ignoresVector_takeInterrupt (i : Interrupt) : IgnoresVector (takeInterrupt i) := by
  refine ignoresVector_of_overwrites fun k vector => ?_
  rw [takeInterrupt_apply, takeInterrupt_apply]
  rfl

theorem ignoresVector_selfTest (regions : Option (List Region)) :
    IgnoresVector (selfTest regions : KernelActivity α) := by
  -- the test that looks at the last vector has replaced it before
  have fires : IgnoresVector softwareInterruptsReturn := by
    refine ignoresVector_of_overwrites fun k vector => ?_
    rw [softwareInterruptsReturn_apply, softwareInterruptsReturn_apply]
    rfl
  exact pervasive_ignoresVector.selfTest fires regions

/-! ## Steps -/

theorem ignoresVector_perform {s : Step} (other : s ≠ .lastVector) :
    IgnoresVector (perform s) := by
  have everywhere : Pervasive IgnoresVector := pervasive_ignoresVector
  cases routine : s.isRoutine with
  | true => exact everywhere.perform routine
  | false =>
      cases s with
      | setUpCom1 =>
          refine IgnoresVector.bind ?_ fun _ => ignoresVector_pure _
          exact (ignoresVector_requireFree _).bind fun _ => (ignoresVector_onPorts _).bind fun _ =>
            IgnoresVector.bind (ignoresVector_of_eq fun _ _ => rfl) fun _ => ignoresVector_pure _
      | com1Status =>
          have asked : IgnoresVector com1Status :=
            (ignoresVector_getState (fun _ _ => rfl) fun _ => ignoresVector_pure _).withLock
          exact asked.bind fun _ => ignoresVector_pure _
      | debugPrint text => exact everywhere.andReply (ignoresVector_onPorts _) _
      | debugWrite text => exact everywhere.andReply (ignoresVector_onPorts _) _
      | attach screen =>
          have attached : IgnoresVector (modifyConsole fun c => { c with screen := some screen }) :=
            ignoresVector_of_eq fun _ _ => rfl
          exact everywhere.andReply attached.withLock _
      | unmaskInterrupts => exact everywhere.andReply (ignoresVector_of_eq fun _ _ => rfl) _
      | lastVector => exact absurd rfl other
      | dispatch frame =>
          have handled : IgnoresVector (handleTrap frame) :=
            ignoresVector_of_overwrites (handleTrap_withLastVector frame)
          exact everywhere.andReply handled _
      | interrupt i => exact (ignoresVector_takeInterrupt i).bind fun _ => ignoresVector_pure _
      | panic frame reason place => exact ignoresVector_panicAt frame reason place
      | selfTest regions => exact ignoresVector_selfTest regions
      | _ => cases routine

/-- Between two steps of a run, two kernels that are the same but for the last vector and for what
was left to be read, which the next step replaces. -/
def Undisturbed (k l : Kernel) : Prop :=
  ∃ vector input, l = (k.withLastVector vector).withInput input

theorem SameButVector.undisturbed {k l : Kernel} (same : k.SameButVector l) : k.Undisturbed l := by
  obtain ⟨vector, rfl⟩ := same
  exact ⟨vector, k.input, rfl⟩

/-- A step other than the question for the last vector does the same in both. -/
theorem alike_step {k l : Kernel} (undisturbed : k.Undisturbed l) {s : Step}
    (other : s ≠ .lastVector) (input : List UInt8) : Alike (k.step s input) (l.step s input) := by
  obtain ⟨vector, left, rfl⟩ := undisturbed
  exact ignoresVector_perform other (k.withInput input) vector

/-- What a step leaves behind is the same in both, be it that question or not. -/
theorem sameButVector_step {k l : Kernel} (undisturbed : k.Undisturbed l) (s : Step)
    (input : List UInt8) :
    (k.step s input).state.SameButVector (l.step s input).state ∧
      (l.step s input).events = (k.step s input).events := by
  by_cases asks : s = .lastVector
  · subst asks
    obtain ⟨vector, left, rfl⟩ := undisturbed
    exact ⟨⟨vector, rfl⟩, rfl⟩
  · exact ⟨(alike_step undisturbed asks input).state, (alike_step undisturbed asks input).events⟩

/-- A trap that is no exception comes back with its frame and leaves its vector behind. -/
theorem step_dispatch_of_le {frame : TrapFrame} (past : 32 ≤ frame.vector.toNat) (k : Kernel)
    (input : List UInt8) :
    k.step (.dispatch frame) input =
      ⟨.ok (.frame frame), (k.withInput input).withLastVector frame.vector, []⟩ := by
  rw [step, perform_dispatch_apply, handleTrap_of_le past]
  rfl

end Kernel

/-! ## Runs with traps put in between -/

/-- An item of a run: a step of the run itself or a trap put in between, with what ports read as. -/
inductive RunItem where
  | own (s : Step × List UInt8)
  | trap (frame : TrapFrame) (input : List UInt8)

namespace RunItem

/-- The step that is taken for an item. -/
def step : RunItem → Step × List UInt8
  | .own s => s
  | .trap frame input => (.dispatch frame, input)

/-- The step, if it belongs to the run itself. -/
def own? : RunItem → Option (Step × List UInt8)
  | .own s => some s
  | .trap .. => none

/-- Whether an item is no trap, or a trap that is no exception. -/
def Harmless : RunItem → Prop
  | .own _ => True
  | .trap frame _ => 32 ≤ frame.vector.toNat

/-- The steps of a run with the traps in between. -/
def allSteps (items : List RunItem) : List (Step × List UInt8) :=
  items.map step

/-- The steps of the run itself. -/
def ownSteps (items : List RunItem) : List (Step × List UInt8) :=
  items.filterMap own?

/-- Where an item of the run itself stands when the traps are left out. -/
theorem getElem?_ownSteps {items : List RunItem} {j : Nat} {s : Step × List UInt8}
    (here : items[j]? = some (.own s)) :
    (ownSteps items)[(ownSteps (items.take j)).length]? = some s ∧
      (ownSteps items).take (ownSteps (items.take j)).length = ownSteps (items.take j) := by
  obtain ⟨inside, found⟩ := List.getElem?_eq_some_iff.1 here
  have split : items = items.take j ++ .own s :: items.drop (j + 1) := by
    rw [← found, List.getElem_cons_drop, List.take_append_drop]
  have steps : ownSteps items = ownSteps (items.take j) ++ s :: ownSteps (items.drop (j + 1)) := by
    conv_lhs => rw [split]
    exact List.filterMap_append
  rw [steps]
  exact ⟨List.getElem?_append_right (Nat.le_refl _) |>.trans (by simp), List.take_left⟩

end RunItem

namespace Kernel

open RunItem (allSteps ownSteps)

/-- Traps put in between leave the kernel undisturbed. -/
theorem undisturbed_after {k l : Kernel} (undisturbed : k.Undisturbed l) (items : List RunItem)
    (harmless : ∀ item ∈ items, item.Harmless) :
    (k.after (ownSteps items)).Undisturbed (l.after (allSteps items)) := by
  induction items generalizing k l with
  | nil => exact undisturbed
  | cons item items ih =>
      have others : ∀ item ∈ items, item.Harmless := by
        intro item mem
        exact harmless item (List.mem_cons_of_mem _ mem)
      cases item with
      | own s =>
          have stepped := (sameButVector_step undisturbed s.1 s.2).1
          exact ih stepped.undisturbed others
      | trap frame input =>
          have past : 32 ≤ frame.vector.toNat := harmless _ List.mem_cons_self
          have trapped : k.Undisturbed (l.step (.dispatch frame) input).state := by
            obtain ⟨vector, left, rfl⟩ := undisturbed
            rw [step_dispatch_of_le past]
            exact ⟨frame.vector, input, rfl⟩
          exact ih trapped others

/-! ## The vector handled last -/

/-- The vectors of the frames that are handled in a step, in order. -/
def trapVectors (k : Kernel) : Step → List UInt64
  | .dispatch frame => [frame.vector]
  | .interrupt i => [i.vector.toUInt64]
  | .selfTest regions => if k.firesInterrupts regions then [0x80, 0x21] else []
  | _ => []

/-- The vectors of the frames that are handled in a run, in order. -/
def handled (k : Kernel) : List (Step × List UInt8) → List UInt64
  | [] => []
  | (s, input) :: steps => k.trapVectors s ++ (k.step s input).state.handled steps

/-- A panic keeps the last vector. -/
theorem keeps_lastVector_panicAt (frame : Option TrapFrame) (reason : String)
    (place : Log.Location) : Keeps lastVector (panicAt frame reason place : KernelActivity α) := by
  have everywhere : Pervasive (Keeps lastVector) := pervasive_keeps Prod.snd
  refine everywhere.panicAt (fun _ next => keeps_getState.bind next) ?_ ?_ ?_ frame reason place
  · exact fun _ => rfl
  · exact fun _ => rfl
  · exact (settled_trapMarks Prod.snd).onPorts _

theorem lastVector_handleTrap (frame : TrapFrame) (k : Kernel) :
    (handleTrap frame k).state.lastVector = frame.vector := by
  by_cases exception : frame.vector.toNat < 32
  · rw [handleTrap_of_lt exception]
    exact keeps_lastVector_panicAt (α := Unit) _ _ _ { k with lastVector := frame.vector }
  · rw [handleTrap_of_le (Nat.not_lt.1 exception)]

theorem lastVector_perform_of_quiet {s : Step} (quiet : s.canTrap = false) (k : Kernel) :
    (perform s k).state.lastVector = k.lastVector :=
  congrArg Prod.snd (keeps_perform quiet k)

theorem lastVector_perform (s : Step) (k : Kernel) :
    (perform s k).state.lastVector = (k.trapVectors s).getLastD k.lastVector := by
  cases s with
  | dispatch frame =>
      rw [perform_dispatch_apply]
      exact lastVector_handleTrap frame k
  | interrupt i =>
      rw [perform_interrupt_apply, takeInterrupt_apply]
      exact lastVector_handleTrap (i.frame k.control) k
  | panic frame reason place => exact keeps_lastVector_panicAt frame reason place k
  | selfTest regions =>
      show (selfTest regions k : Outcome Stop Kernel Reply).state.lastVector =
        List.getLastD (if _ then _ else _) _
      rw [lastVector_selfTest]
      split <;> rfl
  | _ => exact lastVector_perform_of_quiet rfl k

/-- After a run the last vector is that of the frame handled last, if any was. -/
theorem lastVector_after (k : Kernel) (steps : List (Step × List UInt8)) :
    (k.after steps).lastVector = (k.handled steps).getLastD k.lastVector := by
  induction steps generalizing k with
  | nil => rfl
  | cons s steps ih =>
      have stepped : (k.step s.1 s.2).state.lastVector =
          (k.trapVectors s.1).getLastD k.lastVector := lastVector_perform s.1 (k.withInput s.2)
      rw [after_cons, ih, stepped, handled]
      simp [List.getLastD_eq_getLast?, List.getLast?_append]

/-! ## Traps that are no exceptions -/

/-- **Harmless traps.** A trap with any vector from 32 on comes back with its frame as it was,
leaves no event behind and changes nothing but the last vector. Put any number of such traps in
between the steps of any run: every step of the run itself leaves the same events and, but for the
last vector, the same kernel as without them, and ends with the same result unless it asks for the
last vector. And at every point of every run from a fresh boot, that question gets the vector of the
frame that was handled last, whether or not it was fatal, or the mark of no frame if none was. -/
theorem harmless_traps_leave_no_trace :
    (∀ (k : Kernel) (frame : TrapFrame) (input : List UInt8), 32 ≤ frame.vector.toNat →
      k.step (.dispatch frame) input =
        ⟨.ok (.frame frame), { k with input, lastVector := frame.vector }, []⟩) ∧
    (∀ (k : Kernel) (items : List RunItem), (∀ item ∈ items, item.Harmless) →
      ∀ j s, items[j]? = some (.own s) →
        ∃ o p, (run k (allSteps items))[j]? = some o ∧
          (run k (ownSteps items))[(ownSteps (items.take j)).length]? = some p ∧
          o.events = p.events ∧ p.state.SameButVector o.state ∧
          (s.1 ≠ .lastVector → o.result = p.result)) ∧
    ∀ control callSite controllers (steps : List (Step × List UInt8)),
      let fresh := boot control callSite controllers
      (fresh.after steps).lastVector = (fresh.handled steps).getLastD 0xdeadbeef ∧
        ∀ (j : Nat) input, steps[j]? = some (.lastVector, input) →
          ∃ o, (run fresh steps)[j]? = some o ∧
            o.result = .ok (.vector ((fresh.handled (steps.take j)).getLastD 0xdeadbeef)) := by
  refine ⟨fun k frame input past => step_dispatch_of_le past k input, ?_, ?_⟩
  · intro k items harmless j s here
    have own := RunItem.getElem?_ownSteps here
    have start : k.Undisturbed k := ⟨k.lastVector, k.input, rfl⟩
    have before : (k.after (ownSteps (items.take j))).Undisturbed
        (k.after (allSteps (items.take j))) :=
      undisturbed_after start _ fun item mem => harmless item (List.mem_of_mem_take mem)
    obtain ⟨state, events⟩ := sameButVector_step before s.1 s.2
    refine ⟨_, _, ?_, ?_, events, state, fun other => (alike_step before other s.2).result⟩
    · rw [getElem?_run, allSteps, List.getElem?_map, here, ← List.map_take]
      rfl
    · rw [getElem?_run, own.1, own.2]
      rfl
  · intro control callSite controllers steps fresh
    refine ⟨lastVector_after fresh steps, fun j input here => ?_⟩
    have noted := lastVector_after fresh (steps.take j)
    refine ⟨(fresh.after (steps.take j)).step .lastVector input, ?_, ?_⟩
    · rw [getElem?_run, here]
      rfl
    · exact congrArg (fun vector => Except.ok (Reply.vector vector)) noted

/-- A trap with the highest vector there is. -/
def strayFrame : TrapFrame :=
  { TrapFrame.zero with vector := 0xffffffffffffffff }

/-- Two texts and a question for the last vector, with a trap after the first text, which leaves the
transmitter of COM1 busy, and one before the question. -/
def strayTraps : List RunItem :=
  [.own (.print "up", [0x00, 0x20]), .trap strayFrame [0x00], .own (.print "on", [0x00]),
    .trap strayFrame [], .own (.lastVector, [])]

/-- The second text comes out as it would have without the traps, and the question gets the stray
vector; after a page fault it would have got that of the page fault. -/
theorem texts_between_stray_traps :
    let fresh := boot ⟨0xa0, 0xa2, 0xa3, 0xa4⟩ .zero .standard
    (∀ item ∈ strayTraps, item.Harmless) ∧
      fresh.step (.dispatch strayFrame) [] =
        ⟨.ok (.frame strayFrame), { fresh with lastVector := 0xffffffffffffffff }, []⟩ ∧
      (∃ o p, (run fresh (allSteps strayTraps))[2]? = some o ∧
        (run fresh (ownSteps strayTraps))[1]? = some p ∧ o.events = p.events ∧
        o.result = p.result) ∧
      (∃ o, (run fresh (allSteps strayTraps))[4]? = some o ∧
        o.result = .ok (.vector 0xffffffffffffffff)) ∧
      (fresh.after [(.dispatch strayFrame, []), (.dispatch pageFaultFrame, [])]).lastVector =
        14 := by
  intro fresh
  have past : 32 ≤ strayFrame.vector.toNat := by decide
  have harmless : ∀ item ∈ strayTraps, item.Harmless := by
    intro item mem
    simp only [strayTraps, List.mem_cons, List.not_mem_nil, or_false] at mem
    rcases mem with rfl | rfl | rfl | rfl | rfl
    · exact trivial
    · exact past
    · exact trivial
    · exact past
    · exact trivial
  obtain ⟨returns, unnoticed, noted⟩ := harmless_traps_leave_no_trace
  obtain ⟨o, p, ran, ranAlone, events, -, result⟩ := unnoticed fresh strayTraps harmless 2 _ rfl
  obtain ⟨-, asked⟩ := noted ⟨0xa0, 0xa2, 0xa3, 0xa4⟩ .zero .standard (allSteps strayTraps)
  refine ⟨harmless, returns fresh strayFrame [] past, ?_, asked 4 [] rfl, ?_⟩
  · exact ⟨o, p, ran, ranAlone, events, result (by simp)⟩
  · exact (noted ⟨0xa0, 0xa2, 0xa3, 0xa4⟩ .zero .standard _).1

end Kernel

end Bringup
