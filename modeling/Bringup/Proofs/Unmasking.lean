import Bringup.Proofs.TestInterrupts
import Bringup.Proofs.UartReach

/-!
# Unmasked interrupts

Interrupts are left unmasked only behind a loaded gate table and with all lines of both interrupt
controllers masked. `GuardedUnmasking` says so of a list of events: if interrupts were unmasked
last, a table of 256 gates was loaded before, and the last bytes that the mask ports took mask every
line. Events that unmask nothing and leave no line unmasked can follow such a list
(`GuardedUnmasking.append`), and so can loading the gates, although the driver of the controllers
writes their old masks back on the way, whichever driver it is. So every step but the one that only
unmasks interrupts keeps the guard (`Kernel.leaves_perform`), and it holds at every point of a run
without that step (`Kernel.unmasked_behind_gates`).
-/

namespace Bringup

open Event (written)

/-! ## Lists of events -/

/-- The ports that hold the masks of the interrupt controllers. -/
def maskPorts : List UInt16 := [0x21, 0xa1]

theorem mem_maskPorts {port : UInt16} : port ∈ maskPorts ↔ port = 0x21 ∨ port = 0xa1 := by
  simp [maskPorts]

/-- The last bytes that the mask ports took, as far as they took any, mask every line. -/
def LeavesLinesMasked (events : List Event) : Prop :=
  ∀ port ∈ maskPorts, ∀ byte, (written port events).getLast? = some byte → byte = 0xff

/-- If interrupts were unmasked last, then behind the loaded table of the gates to the entry stubs,
which are 256 of sixteen bytes, and both mask ports took bytes of which the last masks every
line. -/
def GuardedUnmasking (events : List Event) : Prop :=
  ∀ before after, events = before ++ .sti :: after → .cli ∉ after → .sti ∉ after →
    .loadGates 4095 (.ofHandlers Stub.addresses) ∈ before ∧
      ∀ port ∈ maskPorts, (written port events).getLast? = some 0xff

theorem guardedUnmasking_nil : GuardedUnmasking [] := by
  intro before after split
  simp at split

/-- Events that unmask nothing keep the guard, if the masks they leave behind cover every line. -/
theorem GuardedUnmasking.append {past events : List Event} (guarded : GuardedUnmasking past)
    (masked : .sti ∉ events) (lines : LeavesLinesMasked events) :
    GuardedUnmasking (past ++ events) := by
  intro before after split noCli noSti
  rcases List.append_eq_append_iff.1 split with ⟨more, rfl, rest⟩ | ⟨more, rfl, rest⟩
  · -- the unmasking would be among the new events
    have mem : .sti ∈ events := by
      rw [rest]
      simp
    exact absurd mem masked
  · cases more with
    | nil =>
        have mem : .sti ∈ events := by
          rw [← List.nil_append events, ← rest]
          simp
        exact absurd mem masked
    | cons event more =>
        simp only [List.cons_append, List.cons.injEq] at rest
        obtain ⟨rfl, rfl⟩ := rest
        simp only [List.mem_append, not_or] at noCli noSti
        obtain ⟨loaded, last⟩ := guarded before more rfl noCli.1 noSti.1
        refine ⟨loaded, fun port mem => ?_⟩
        rw [Event.written_append, List.getLast?_append]
        cases taken : (written port events).getLast? with
        | none => exact last port mem
        | some byte =>
            rw [lines port mem byte taken]
            rfl

/-- Unmasking right after the gates were loaded and the lines masked is guarded, whatever was
before. -/
theorem guardedUnmasking_concat {past events : List Event}
    (loaded : .loadGates 4095 (.ofHandlers Stub.addresses) ∈ events)
    (last : ∀ port ∈ maskPorts, (written port events).getLast? = some 0xff) :
    GuardedUnmasking (past ++ (events ++ [.sti])) := by
  intro before after split noCli noSti
  rw [← List.append_assoc] at split
  -- the list ends with the unmasking, so nothing comes after it
  rcases List.eq_nil_or_concat after with rfl | ⟨front, event, rfl⟩
  case inr =>
    have ends : (past ++ events) ++ [Event.sti] = (before ++ .sti :: front) ++ [event] := by
      simp [split]
    have same : Event.sti = event := by
      simpa using (List.append_inj' ends rfl).2
    simp [same] at noSti
  obtain rfl : past ++ events = before := (List.append_inj' split rfl).1
  refine ⟨List.mem_append_right _ loaded, fun port mem => ?_⟩
  have taken : written port [Event.sti] = [] := rfl
  simp [Event.written_append, taken, last port mem]

/-! ## The interrupt controllers -/

theorem ControllerDriver.sti_not_mem_setUp (driver : ControllerDriver) (input : List UInt8) :
    .sti ∉ (driver.setUp input).events := by
  rw [driver.setUp_apply]
  simp

/-- Setting the controllers up ends with every line masked, whatever the masks were before. -/
theorem ControllerDriver.getLast?_written_setUp (driver : ControllerDriver) {port : UInt16}
    (mem : port ∈ maskPorts) (input : List UInt8) :
    (written port (driver.setUp input).events).getLast? = some 0xff := by
  rw [driver.setUp_apply]
  dsimp only
  rw [Event.written_append, List.getLast?_append]
  rcases mem_maskPorts.1 mem with rfl | rfl
  · rfl
  · rfl

/-! ## What activities leave behind -/

/-- A property of lists of events that lists hand on to what they make up together. -/
structure Accumulating (Q : List Event → Prop) : Prop where
  nil : Q []
  append : ∀ {first second}, Q first → Q second → Q (first ++ second)

/-- Events among which nothing is unmasked, and that leave no line unmasked at the controllers. -/
structure KeepsMasked (events : List Event) : Prop where
  masked : .sti ∉ events
  lines : LeavesLinesMasked events

/-- Events that can come after a guarded list. -/
def KeepsGuard (events : List Event) : Prop :=
  ∀ past, GuardedUnmasking past → GuardedUnmasking (past ++ events)

theorem keepsMasked_of_silent {events : List Event} (masked : .sti ∉ events)
    (silent : ∀ port ∈ maskPorts, written port events = []) : KeepsMasked events := by
  refine ⟨masked, fun port mem byte taken => ?_⟩
  simp [silent port mem] at taken

theorem accumulating_keepsMasked : Accumulating KeepsMasked where
  nil := keepsMasked_of_silent (by simp) fun _ _ => rfl
  append := by
    intro first second before later
    constructor
    · simp [before.masked, later.masked]
    · intro port mem byte taken
      rw [Event.written_append, List.getLast?_append] at taken
      cases last : (written port second).getLast? with
      | none =>
          simp [last] at taken
          exact before.lines port mem byte taken
      | some other =>
          simp [last] at taken
          subst taken
          exact later.lines port mem other last

theorem accumulating_keepsGuard : Accumulating KeepsGuard where
  nil := by
    intro past guarded
    rwa [List.append_nil]
  append := by
    intro first second before later past guarded
    rw [← List.append_assoc]
    exact later _ (before past guarded)

theorem KeepsMasked.keepsGuard {events : List Event} (kept : KeepsMasked events) :
    KeepsGuard events :=
  fun _ guarded => guarded.append kept.masked kept.lines

namespace Kernel

variable {α β : Type} {Q : List Event → Prop}

/-- The events that the activity leaves behind have the property, however it ends. -/
def Leaves (Q : List Event → Prop) (x : KernelActivity α) : Prop :=
  ∀ k, Q (x k).events

section Accumulating

variable (accumulating : Accumulating Q)

include accumulating

theorem leaves_of_silent {x : KernelActivity α} (silent : ∀ k, (x k).events = []) :
    Leaves Q x := by
  intro k
  rw [silent]
  exact accumulating.nil

theorem Leaves.bind {x : KernelActivity α} {f : α → KernelActivity β} (first : Leaves Q x)
    (next : ∀ a, Leaves Q (f a)) : Leaves Q (x >>= f) := by
  intro k
  have left := first k
  rcases ran : x k with ⟨result, l, events⟩
  rw [ran] at left
  cases result with
  | error reason =>
      rw [Activity.bind_of_error ran]
      exact left
  | ok a =>
      rw [Activity.bind_of_ok ran]
      exact accumulating.append left (next a l)

theorem leaves_getState {f : Kernel → KernelActivity α} (next : ∀ k, Leaves Q (f k)) :
    Leaves Q (Activity.getState >>= f) :=
  Leaves.bind accumulating (leaves_of_silent accumulating fun _ => rfl) next

theorem leaves_requireFree (lock : Lock) : Leaves Q (requireFree lock) := by
  apply leaves_of_silent accumulating
  intro k
  rw [requireFree_apply]

theorem Leaves.withLock {lock : Lock} {x : KernelActivity α} (left : Leaves Q x) :
    Leaves Q (withLock lock x) := by
  refine Leaves.bind accumulating (leaves_requireFree accumulating lock) fun _ k => ?_
  have same : (giveBack lock (x (k.setHeld true lock))).events =
      (x (k.setHeld true lock)).events := by
    unfold giveBack
    split <;> rfl
  show Q (giveBack lock (x (k.setHeld true lock))).events
  rw [same]
  exact left _

theorem leaves_printAll (each : ∀ text, Leaves Q (print text)) (texts : List String) :
    Leaves Q (printAll texts) := by
  induction texts with
  | nil => exact leaves_of_silent accumulating fun _ => rfl
  | cons text texts ih => exact (each text).bind accumulating fun _ => ih

end Accumulating

theorem Leaves.keepsGuard {x : KernelActivity α} (left : Leaves KeepsMasked x) :
    Leaves KeepsGuard x :=
  fun k => (left k).keepsGuard

/-- An activity that always leaves the same events, of which none unmasks interrupts or writes to a
mask port. -/
theorem leaves_of_events {x : KernelActivity α} (events : List Event)
    (same : ∀ k, (x k).events = events) (masked : .sti ∉ events)
    (silent : ∀ port ∈ maskPorts, written port events = []) : Leaves KeepsMasked x := by
  intro k
  rw [same]
  exact keepsMasked_of_silent masked silent

end Kernel

/-! ## Text output -/

/-- Sending unmasks nothing. -/
theorem Uart.sti_not_mem_sendBytes {uart : Uart} (inRange : uart.InRange) (bytes : List UInt8)
    (input : List UInt8) : .sti ∉ (uart.sendBytes bytes input).events := by
  intro mem
  rcases (transmission_sendBytes inRange bytes input).eq_of_mem mem with ⟨_, other⟩ | ⟨_, other⟩
  · cases other
  · cases other

/-- The mask ports are none of the ports that text goes to. -/
theorem ne_of_mem_maskPorts {port : UInt16} (mem : port ∈ maskPorts) :
    port ≠ com1Port ∧ port ≠ debugConsolePort := by
  rcases mem_maskPorts.1 mem with rfl | rfl
  · decide
  · decide

namespace Kernel

variable {α β : Type}

theorem leaves_debugPrint (text : String) : Leaves KeepsMasked (debugPrint text) := by
  intro k
  apply keepsMasked_of_silent
  · show .sti ∉ (Text.encode text).map (Event.out8 debugConsolePort)
    simp
  · intro port mem
    rw [(emits_debugPrint k text).written, if_neg (ne_of_mem_maskPorts mem).2]

theorem leaves_com1Print (text : String) : Leaves KeepsMasked (com1Print text) := by
  intro k
  apply keepsMasked_of_silent
  · cases up : k.com1 with
    | error failure =>
        rw [com1Print_of_down up]
        exact List.not_mem_nil
    | ok _ =>
        rw [com1Print_of_up up]
        exact Uart.sti_not_mem_sendBytes inRange_com1 (Text.encode text) k.input
  · intro port mem
    rw [(emits_com1Print k text).written, if_neg fun same => (ne_of_mem_maskPorts mem).1 same.1]

theorem leaves_print (text : String) : Leaves KeepsMasked (print text) := by
  have com1 : Leaves KeepsMasked (Kernel.withLock .com1 (com1Print text)) :=
    (leaves_com1Print text).withLock accumulating_keepsMasked
  exact com1.bind accumulating_keepsMasked fun _ => leaves_debugPrint text

theorem leaves_log (record : Log.Record) (message : String) :
    Leaves KeepsMasked (log record message) := by
  unfold log
  split
  · have line := leaves_printAll accumulating_keepsMasked leaves_print (record.pieces message)
    exact line.bind accumulating_keepsMasked fun _ =>
      leaves_of_silent accumulating_keepsMasked fun _ => rfl
  · exact leaves_of_silent accumulating_keepsMasked fun _ => rfl

/-- The kernel with a processor in place of its own. -/
def withProcessor (k : Kernel) (processor : Processor) : Kernel :=
  { k with processor }

theorem maskInterrupts_apply (k : Kernel) :
    maskInterrupts k =
      ⟨.ok (), k.withProcessor { k.processor with interruptsEnabled := false }, [.cli]⟩ := rfl

theorem leaves_maskInterrupts : Leaves KeepsMasked maskInterrupts :=
  leaves_of_events [.cli] (fun _ => rfl) (by simp) fun _ _ => rfl

/-! ## Loading tables -/

/-- The instructions that load the segments. -/
def segmentsLoadedEvents : List Event :=
  [.loadSegments SegmentTable.limit SegmentTable.entries, .farReturn Selector.kernelCode] ++
    [DataSegment.ds, .es, .fs, .gs, .ss].map (Event.loadSelector · Selector.kernelData)

theorem sti_not_mem_segmentsLoadedEvents : .sti ∉ segmentsLoadedEvents := by
  simp [segmentsLoadedEvents]

theorem loadSegments_apply (k : Kernel) :
    loadSegments k =
      ⟨.ok (),
        k.withProcessor { k.processor with
          cs := Selector.kernelCode
          ds := Selector.kernelData
          es := Selector.kernelData
          ss := Selector.kernelData },
        segmentsLoadedEvents⟩ := rfl

theorem leaves_loadSegments : Leaves KeepsMasked loadSegments := by
  refine leaves_of_events segmentsLoadedEvents (fun k => ?_) sti_not_mem_segmentsLoadedEvents
    fun _ _ => rfl
  rw [loadSegments_apply]

/-- The driver takes two values from the input, the old masks. -/
theorem setUpControllers_apply (k : Kernel) :
    setUpControllers k =
      ⟨.ok (), k.withInput k.input.tail.tail, (k.controllers.setUp k.input).events⟩ := by
  unfold setUpControllers
  rw [Activity.getState_bind_apply]
  unfold onPorts Activity.onPart
  rw [ControllerDriver.setUp_apply]
  rfl

theorem leaves_setUpControllers : Leaves KeepsMasked setUpControllers := by
  intro k
  rw [setUpControllers_apply]
  refine ⟨k.controllers.sti_not_mem_setUp k.input, fun port mem byte taken => ?_⟩
  have last := (k.controllers.getLast?_written_setUp mem k.input).symm.trans taken
  exact (Option.some.inj last).symm

/-- What loading the gates does before interrupts are unmasked. -/
def gatesLoadedEvents (driver : ControllerDriver) (input : List UInt8) : List Event :=
  .loadGates GateTable.limit gates :: (driver.setUp input).events

theorem loadGates_apply (k : Kernel) :
    loadGates k =
      ⟨.ok (),
        (k.withInput k.input.tail.tail).withProcessor { k.processor with
          gates := some gates
          interruptsEnabled := true },
        gatesLoadedEvents k.controllers k.input ++ [.sti]⟩ := by
  let loaded : Kernel := k.withProcessor { k.processor with gates := some gates }
  have emitted : (Activity.emit (.loadGates GateTable.limit gates) : KernelActivity Unit) k =
      ⟨.ok (), k, [.loadGates GateTable.limit gates]⟩ := rfl
  have kept : modifyProcessor (fun p => { p with gates := some gates }) k = ⟨.ok (), loaded, []⟩ :=
    rfl
  rw [loadGates, Activity.bind_of_ok emitted, Activity.bind_of_ok kept,
    Activity.bind_of_ok (setUpControllers_apply loaded)]
  rfl

/-- An outcome that comes to its end, and to interrupts being unmasked only as the last event, after
the gates were loaded and every line was masked. -/
structure UnmasksLast {α : Type} (a : α) (o : Outcome Stop Kernel α) : Prop where
  result : o.result = .ok a
  events : ∃ before, o.events = before ++ [.sti] ∧ .sti ∉ before ∧
    .loadGates 4095 (.ofHandlers Stub.addresses) ∈ before ∧
      ∀ port ∈ maskPorts, (written port before).getLast? = some 0xff

theorem unmasksLast_loadGates (k : Kernel) : UnmasksLast () (loadGates k) := by
  rw [loadGates_apply]
  refine ⟨rfl, gatesLoadedEvents k.controllers k.input, rfl, ?_, ?_, fun port mem => ?_⟩
  · simp [gatesLoadedEvents, ControllerDriver.sti_not_mem_setUp]
  · have size : GateTable.limit = 4095 := by decide
    rw [gatesLoadedEvents, size]
    exact List.mem_cons_self
  · exact k.controllers.getLast?_written_setUp mem k.input

theorem UnmasksLast.keepsGuard {a : α} {o : Outcome Stop Kernel α} (unmasks : UnmasksLast a o) :
    KeepsGuard o.events := by
  intro past _
  obtain ⟨before, events, -, loaded, last⟩ := unmasks.events
  rw [events]
  exact guardedUnmasking_concat loaded last

/-- Something that unmasks nothing may come before. -/
theorem UnmasksLast.bind {x : KernelActivity β} {f : β → KernelActivity α} {k l : Kernel} {b : β}
    {a : α} {events : List Event} (ran : x k = ⟨.ok b, l, events⟩) (masked : .sti ∉ events)
    (next : UnmasksLast a (f b l)) : UnmasksLast a ((x >>= f) k) := by
  obtain ⟨before, split, noSti, loaded, last⟩ := next.events
  rw [Activity.bind_of_ok ran]
  refine ⟨next.result, events ++ before, ?_, ?_, ?_, fun port mem => ?_⟩
  · simp [split]
  · simp [masked, noSti]
  · simp [loaded]
  · simp [last port mem]

theorem UnmasksLast.andReply {x : KernelActivity Unit} {k : Kernel}
    (unmasks : UnmasksLast () (x k)) (reply : Reply) : UnmasksLast reply (andReply x reply k) := by
  rw [andReply_apply]
  exact ⟨congrArg (Except.map fun _ => reply) unmasks.result, unmasks.events⟩

/-! ## Bringing interrupts up -/

section BringUp

variable {k : Kernel} (record : Log.Record) (message : String)

theorem log_of_free (free : k.holds .com1 = false) :
    ∃ input events, log record message k =
      ⟨.ok record.level.isEnabled, k.withInput input, events⟩ := by
  unfold log
  cases record.level.isEnabled with
  | false => exact ⟨k.input, [], rfl⟩
  | true =>
      obtain ⟨input, events, -, ran⟩ :=
        (emits_printAll free (record.pieces message)).bind (pure true : KernelActivity Bool)
      exact ⟨input, events ++ [], ran⟩

/-- A line that is written takes the lock of COM1 first. -/
theorem log_of_held (held : k.holds .com1 = true) (enabled : record.level.isEnabled = true) :
    log record message k = ⟨.error (.blocked .com1), k, []⟩ := by
  have stopped : ∀ text, print text k = ⟨.error (.blocked .com1), k, []⟩ :=
    fun text => Activity.bind_of_error (withLock_of_held held _)
  rw [log, enabled, if_pos rfl]
  exact Activity.bind_of_error (Activity.bind_of_error (stopped record.level.tag))

/-- Bringing interrupts up unmasks them last, if COM1 is free for the log lines. -/
theorem unmasksLast_bringUpInterrupts (free : k.holds .com1 = false) :
    UnmasksLast () (bringUpInterrupts k) := by
  -- the log lines are written in kernels in which COM1 is still free
  have logged : ∀ (message : String) {y : KernelActivity Unit} {l : Kernel},
      (∀ input, UnmasksLast () (y (l.withInput input))) → l.holds .com1 = false →
        UnmasksLast () ((do let _ ← log bringUpRecord message; y) l) := by
    intro message y l next freeHere
    obtain ⟨input, events, ran⟩ := log_of_free bringUpRecord message freeHere
    have masked := (leaves_log bringUpRecord message l).masked
    rw [ran] at masked
    exact .bind ran masked (next input)
  refine UnmasksLast.bind (maskInterrupts_apply k) (by simp) ?_
  refine logged _ (fun input => ?_) free
  refine UnmasksLast.bind (loadSegments_apply _) sti_not_mem_segmentsLoadedEvents ?_
  exact logged _ (fun input => unmasksLast_loadGates _) free

/-- With COM1 held it gets no further than masking interrupts. -/
theorem bringUpInterrupts_of_held (held : k.holds .com1 = true) :
    bringUpInterrupts k =
      ⟨.error (.blocked .com1), k.withProcessor { k.processor with interruptsEnabled := false },
        [.cli]⟩ := by
  have stopped := log_of_held bringUpRecord "Initializing GDT"
    (k := k.withProcessor { k.processor with interruptsEnabled := false }) held rfl
  rw [bringUpInterrupts, Activity.bind_of_ok (maskInterrupts_apply k),
    Activity.bind_of_error stopped]
  rfl

end BringUp

/-! ## Activities and steps -/

/-- Away from traps, everything that does not fill the screen keeps the guard. -/
theorem offscreen_keepsGuard : Offscreen (Leaves KeepsGuard) where
  pure _ := leaves_of_silent accumulating_keepsGuard fun _ => rfl
  stop _ := leaves_of_silent accumulating_keepsGuard fun _ => rfl
  bind first := first.bind accumulating_keepsGuard
  withLock left := left.withLock accumulating_keepsGuard
  holdForever _ := (leaves_requireFree accumulating_keepsGuard _).bind accumulating_keepsGuard
    fun _ => leaves_of_silent accumulating_keepsGuard fun _ => rfl
  read _ := leaves_getState accumulating_keepsGuard
  print text := (leaves_print text).keepsGuard
  setColors _ _ := leaves_of_silent accumulating_keepsGuard fun _ => rfl
  maskInterrupts := leaves_maskInterrupts.keepsGuard
  halt := (leaves_of_events [.hlt] (fun _ => rfl) (by simp) fun _ _ => rfl).keepsGuard
  setUpControllers := leaves_setUpControllers.keepsGuard
  loadSegments := leaves_loadSegments.keepsGuard
  loadGates k := (unmasksLast_loadGates k).keepsGuard
  exitEmulator success :=
    (leaves_of_events [.out32 exitPort (exitCode success)] (fun _ => rfl) (by simp)
      fun _ _ => rfl).keepsGuard
  useFrames _ := leaves_of_silent accumulating_keepsGuard fun _ => rfl

/-- Away from traps, everything keeps the guard. -/
theorem pervasive_keepsGuard : Pervasive (Leaves KeepsGuard) where
  toOffscreen := offscreen_keepsGuard
  fillScreen := offscreen_keepsGuard.fillScreen fun _ =>
    leaves_of_silent accumulating_keepsGuard fun _ => rfl

theorem leaves_panicAt (frame : Option TrapFrame) (reason : String) (place : Log.Location) :
    Leaves KeepsGuard (panicAt frame reason place : KernelActivity α) := by
  refine pervasive_keepsGuard.panicAt (fun _ => leaves_getState accumulating_keepsGuard) ?_ ?_
    (leaves_debugPrint _).keepsGuard frame reason place
  · exact leaves_of_silent accumulating_keepsGuard fun _ => rfl
  · exact leaves_of_silent accumulating_keepsGuard fun _ => rfl

theorem leaves_handleTrap (frame : TrapFrame) : Leaves KeepsGuard (handleTrap frame) := by
  intro k
  by_cases exception : frame.vector.toNat < 32
  · rw [handleTrap_of_lt exception]
    exact leaves_panicAt _ _ _ _
  · rw [handleTrap_of_le (Nat.not_lt.1 exception)]
    exact accumulating_keepsGuard.nil

theorem leaves_setUpCom1 : Leaves KeepsGuard setUpCom1 := by
  have everywhere := pervasive_keepsGuard
  have fits : Uart.Programmable com1Port := by
    unfold Uart.Programmable
    decide
  have programmed : Leaves KeepsMasked (onPorts (Uart.setUp com1Port com1Baud)) := by
    intro k
    have ran : (onPorts (Uart.setUp com1Port com1Baud) k).events =
        (Uart.setUp com1Port com1Baud k.input).events := rfl
    rw [ran, Uart.setUp_of_programmable fits]
    apply keepsMasked_of_silent
    · dsimp only
      split <;> simp [Uart.setUpEvents]
    · intro port mem
      dsimp only
      split
      · rcases mem_maskPorts.1 mem with rfl | rfl <;> rfl
      · rcases mem_maskPorts.1 mem with rfl | rfl <;> rfl
  refine everywhere.bind (leaves_requireFree accumulating_keepsGuard _) fun _ => ?_
  refine everywhere.bind programmed.keepsGuard fun uart => ?_
  exact leaves_of_silent accumulating_keepsGuard fun _ => rfl

/-- Every step keeps the guard but the one that only unmasks interrupts. -/
theorem leaves_perform {s : Step} (other : s ≠ .unmaskInterrupts) :
    Leaves KeepsGuard (perform s) := by
  have everywhere := pervasive_keepsGuard
  cases routine : s.isRoutine with
  | true => exact everywhere.perform routine
  | false =>
      cases s with
      | setUpCom1 => exact everywhere.bind leaves_setUpCom1 fun _ => everywhere.pure _
      | com1Status =>
          have read : Leaves KeepsGuard com1Status :=
            everywhere.withLock (leaves_of_silent accumulating_keepsGuard fun _ => rfl)
          exact everywhere.bind read fun _ => everywhere.pure _
      | debugPrint text => exact everywhere.andReply (leaves_debugPrint text).keepsGuard _
      | debugWrite text => exact everywhere.andReply (leaves_debugPrint text).keepsGuard _
      | attach screen =>
          have attached :
              Leaves KeepsGuard (modifyConsole fun c => { c with screen := some screen }) :=
            leaves_of_silent accumulating_keepsGuard fun _ => rfl
          exact everywhere.andReply (everywhere.withLock attached) _
      | unmaskInterrupts => exact absurd rfl other
      | lastVector => exact leaves_of_silent accumulating_keepsGuard fun _ => rfl
      | dispatch frame => exact everywhere.andReply (leaves_handleTrap frame) _
      | interrupt i =>
          intro k
          rw [perform_interrupt_apply, takeInterrupt_apply]
          exact leaves_handleTrap _ k
      | panic frame reason place => exact leaves_panicAt frame reason place
      | selfTest regions =>
          refine everywhere.selfTest (fun k => ?_) regions
          rw [softwareInterruptsReturn_apply]
          exact accumulating_keepsGuard.nil
      | _ => cases routine

/-! ## Runs -/

/-- The events of a whole run, in order. -/
def trace (k : Kernel) (steps : List (Step × List UInt8)) : List Event :=
  (k.run steps).flatMap (·.events)

/-- Without a step that only unmasks interrupts a run keeps the guard. -/
theorem keepsGuard_trace (k : Kernel) (steps : List (Step × List UInt8))
    (others : ∀ s ∈ steps, s.1 ≠ .unmaskInterrupts) : KeepsGuard (k.trace steps) := by
  induction steps generalizing k with
  | nil => exact accumulating_keepsGuard.nil
  | cons s steps ih =>
      have first : KeepsGuard (k.step s.1 s.2).events :=
        leaves_perform (others s List.mem_cons_self) _
      have rest := ih (k.step s.1 s.2).state fun t mem => others t (List.mem_cons_of_mem _ mem)
      exact accumulating_keepsGuard.append first rest

/-- **Interrupts are unmasked behind gates.** In a run from a fresh boot with any driver of the
interrupt controllers, in which no step only unmasks interrupts, whatever ports read as, at every
point: if interrupts were unmasked last, the gates were loaded before, and the last byte that either
mask port took masks every line, although the controllers' own masks are written back in between. In
any kernel, loading the gates comes to its end, with interrupts unmasked as the last event and at no
time before, after the gates were loaded and every line was masked. So does bringing interrupts up,
unless COM1 is held: then it only masks interrupts. -/
theorem unmasked_behind_gates (control : ControlRegisters) (callSite : TrapFrame)
    (controllers : ControllerDriver) (steps : List (Step × List UInt8))
    (others : ∀ s ∈ steps, s.1 ≠ .unmaskInterrupts) :
    (∀ j, GuardedUnmasking ((boot control callSite controllers).trace (steps.take j))) ∧
      ∀ k input,
        UnmasksLast .done (step k .loadGates input) ∧
        (k.holds .com1 = false → UnmasksLast .done (step k .bringUpInterrupts input)) ∧
        (k.holds .com1 = true →
          (step k .bringUpInterrupts input).result = .error (.blocked .com1) ∧
          (step k .bringUpInterrupts input).events = [.cli]) := by
  refine ⟨fun j => ?_, fun k input => ⟨?_, fun free => ?_, fun held => ?_⟩⟩
  · have kept := keepsGuard_trace (boot control callSite controllers) (steps.take j) fun s mem =>
      others s (List.mem_of_mem_take mem)
    simpa using kept [] guardedUnmasking_nil
  · exact (unmasksLast_loadGates _).andReply .done
  · exact (unmasksLast_bringUpInterrupts (k := { k with input }) free).andReply .done
  · have stopped := bringUpInterrupts_of_held (k := { k with input }) held
    rw [step, perform, andReply_apply, stopped]
    exact ⟨rfl, rfl⟩

/-- A run on controllers with open lines, whose masks are read and written back while the gates are
loaded. -/
def openLines : List (Step × List UInt8) :=
  [(.print "Hello", [0, 0x20]), (.loadGates, [0xb8, 0x8e])]

/-- With the usual words the masks are written back, and after them those that cover every line. -/
theorem masked_of_openLines :
    let fresh := boot ⟨0xa0, 0xa2, 0xa3, 0xa4⟩ .zero .standard
    written 0x21 (fresh.trace openLines) = [0x20, 4, 1, 0xb8, 0xff] ∧
      written 0xa1 (fresh.trace openLines) = [0x28, 2, 1, 0x8e, 0xff] ∧
      written 0x20 (fresh.trace openLines) = [0x11] ∧
      written 0xa0 (fresh.trace openLines) = [0x11] ∧
      (∃ before, fresh.trace openLines = before ++ [.sti] ∧
        .loadGates 4095 (.ofHandlers Stub.addresses) ∈ before) ∧
      UnmasksLast .done (fresh.step .bringUpInterrupts [0xb8, 0x8e]) ∧
      ((fresh.setHeld true .com1).step .bringUpInterrupts []).events = [.cli] := by
  intro fresh
  have others : ∀ s ∈ openLines, s.1 ≠ .unmaskInterrupts := by
    simp [openLines]
  obtain ⟨guarded, later⟩ :=
    unmasked_behind_gates ⟨0xa0, 0xa2, 0xa3, 0xa4⟩ .zero .standard openLines others
  have split : fresh.trace openLines =
      ((fresh.step (.print "Hello") [0, 0x20]).events ++
        gatesLoadedEvents .standard [0xb8, 0x8e]) ++ [.sti] := rfl
  have loaded := (guarded 2 _ [] split (by simp) (by simp)).1
  refine ⟨by decide, by decide, by decide, by decide, ⟨_, split, loaded⟩, ?_, ?_⟩
  · exact (later fresh [0xb8, 0x8e]).2.1 rfl
  · exact ((later (fresh.setHeld true .com1) []).2.2 rfl).2

end Kernel

end Bringup
