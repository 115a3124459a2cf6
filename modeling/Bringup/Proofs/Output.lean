import Bringup.Kernel.Output
import Bringup.Proofs.Transmission

/-!
# Text output

What text leaves behind at the ports. `Kernel.received` is what each port gets of a text: everything
at the debug console, the same at COM1 if it is up, and nothing anywhere else. Printing leaves
exactly that behind and the kernel as it was, and how a text is cut into pieces makes no difference
(`Kernel.emits_print`, `Kernel.emits_printAll`).
-/

namespace Bringup

/-! ## The sinks of the kernel -/

namespace Kernel

/-- What a port gets of a text: all of it at the debug console, and at COM1 if that is up. -/
def received (k : Kernel) (text : String) (port : UInt16) : List UInt8 :=
  if port = debugConsolePort ∨ (port = com1Port ∧ k.com1.isOk) then Text.encode text else []

theorem received_empty (k : Kernel) (port : UInt16) : k.received "" port = [] :=
  ite_self _

theorem received_append (k : Kernel) (first second : String) (port : UInt16) :
    k.received (first ++ second) port = k.received first port ++ k.received second port := by
  unfold received
  split
  · exact Text.encode_append first second
  · rfl

/-- The kernel with other values left to be read from ports. -/
def withInput (k : Kernel) (input : List UInt8) : Kernel :=
  { k with input }

/-- An outcome that comes to its end in a given kernel, but for what is left to read, and in which
each port took its bytes. -/
structure Emits (k : Kernel) (bytes : UInt16 → List UInt8) (o : Outcome Stop Kernel Unit) :
    Prop where
  result : o.result = .ok ()
  state : o.state = k.withInput o.state.input
  written : ∀ port, Event.written port o.events = bytes port

variable {k l m : Kernel} {first second : UInt16 → List UInt8}

theorem Emits.congr {o : Outcome Stop Kernel Unit} (emitted : k.Emits first o)
    (same : ∀ port, first port = second port) : k.Emits second o :=
  (funext same : first = second) ▸ emitted

/-- What follows an activity that came to its end starts in the kernel it ended in, and its events
come after the bytes that were taken. -/
theorem Emits.bind {α : Type} {x : KernelActivity Unit} (emitted : l.Emits first (x k))
    (y : KernelActivity α) :
    ∃ input events, (∀ port, Event.written port events = first port) ∧
      (do x; y) k =
        let o := y (l.withInput input)
        ⟨o.result, o.state, events ++ o.events⟩ := by
  rcases ran : x k with ⟨result, t, events⟩
  rw [ran] at emitted
  obtain ⟨result_ok, state, written⟩ := emitted
  dsimp only at result_ok state written
  subst result_ok
  rw [state] at ran
  exact ⟨t.input, events, written, Activity.bind_of_ok ran⟩

/-- Activities one after the other: each port takes the bytes of the first and then those of the
second. -/
theorem Emits.andThen {x y : KernelActivity Unit} (emitted : l.Emits first (x k))
    (next : ∀ input, (m.withInput input).Emits second (y (l.withInput input))) :
    m.Emits (fun port => first port ++ second port) ((do x; y) k) := by
  obtain ⟨input, events, written, both⟩ := emitted.bind y
  obtain ⟨next_ok, next_state, next_written⟩ := next input
  rw [both]
  refine ⟨next_ok, next_state, fun port => ?_⟩
  rw [Event.written_append, written, next_written]

theorem emits_debugPrint (k : Kernel) (text : String) :
    k.Emits (fun port => if port = debugConsolePort then Text.encode text else [])
      (debugPrint text k) :=
  ⟨rfl, rfl, fun port => Event.written_map_out8 port debugConsolePort (Text.encode text)⟩

theorem inRange_com1 : Uart.InRange ⟨com1Port⟩ := by
  unfold Uart.InRange
  decide

theorem com1Print_of_up (up : k.com1 = .ok ()) (text : String) :
    com1Print text k = onPorts (Uart.send ⟨com1Port⟩ text) k := by
  rw [com1Print, Activity.getState_bind_apply, up]

theorem com1Print_of_down {failure : LoopbackError} (down : k.com1 = .error failure)
    (text : String) : com1Print text k = ⟨.ok (), k, []⟩ := by
  rw [com1Print, Activity.getState_bind_apply, down]
  rfl

theorem emits_com1Print (k : Kernel) (text : String) :
    k.Emits (fun port => if port = com1Port ∧ k.com1.isOk then Text.encode text else [])
      (com1Print text k) := by
  cases up : k.com1 with
  | error failure =>
      rw [com1Print_of_down up]
      exact ⟨rfl, rfl, fun port => by simp [Except.isOk, Except.toBool]⟩
  | ok _ =>
      have sent := Uart.sends_sendBytes inRange_com1 (Text.encode text) k.input
      rw [com1Print_of_up up]
      refine ⟨?_, rfl, fun port => ?_⟩
      · exact congrArg (Except.mapError Stop.fault) sent.result
      · rw [show Event.written port (onPorts (Uart.send ⟨com1Port⟩ text) k).events = _ from
          sent.written port]
        simp [Except.isOk, Except.toBool]

/-! ## Locks -/

theorem requireFree_apply (lock : Lock) (k : Kernel) :
    requireFree lock k = ⟨if k.holds lock then .error (.blocked lock) else .ok (), k, []⟩ := by
  show (if k.holds lock then Activity.stop (.blocked lock) else pure () :
    KernelActivity Unit) k = _
  cases k.holds lock with
  | true => rfl
  | false => rfl

theorem withLock_of_free {α : Type} {lock : Lock} (free : k.holds lock = false)
    (x : KernelActivity α) :
    withLock lock x k = giveBack lock (x (k.setHeld true lock)) := by
  have go := requireFree_apply lock k
  rw [free] at go
  rw [withLock, Activity.bind_of_ok go]
  rfl

/-- Whoever asks for a lock that is held gets no further. -/
theorem withLock_of_held {α : Type} {lock : Lock} (held : k.holds lock = true)
    (x : KernelActivity α) : withLock lock x k = ⟨.error (.blocked lock), k, []⟩ := by
  have stopped := requireFree_apply lock k
  rw [held] at stopped
  exact Activity.bind_of_error stopped

theorem giveBack_of_ok {α : Type} {lock : Lock} {o : Outcome Stop Kernel α} {a : α}
    (ended : o.result = .ok a) :
    giveBack lock o = { o with state := o.state.setHeld false lock } := by
  rcases o with ⟨result, t, events⟩
  cases ended
  rfl

theorem setHeld_setHeld (k : Kernel) (held again : Bool) (lock : Lock) :
    (k.setHeld held lock).setHeld again lock = k.setHeld again lock := by
  cases lock <;> rfl

theorem setHeld_of_holds {held : Bool} {lock : Lock} (same : k.holds lock = held) :
    k.setHeld held lock = k := by
  subst same
  cases lock <;> rfl

theorem setHeld_withInput (k : Kernel) (held : Bool) (lock : Lock) (input : List UInt8) :
    (k.withInput input).setHeld held lock = (k.setHeld held lock).withInput input := by
  cases lock <;> rfl

/-- What ends well under a free lock ends well with it, and the lock is free again. -/
theorem Emits.withLock {lock : Lock} {x : KernelActivity Unit} (free : k.holds lock = false)
    (freeAfter : l.holds lock = false)
    (emitted : Emits (l.setHeld true lock) first (x (k.setHeld true lock))) :
    l.Emits first (withLock lock x k) := by
  -- the lock was free before, so freeing it undoes what taking it did
  have back : (x (k.setHeld true lock)).state.setHeld false lock =
      l.withInput (x (k.setHeld true lock)).state.input := by
    rw [emitted.state, setHeld_withInput, setHeld_setHeld, setHeld_of_holds freeAfter]
    rfl
  rw [withLock_of_free free, giveBack_of_ok emitted.result, back]
  exact ⟨emitted.result, rfl, emitted.written⟩

/-! ## Printing -/

/-- A text goes to both sinks. -/
theorem emits_print (free : k.holds .com1 = false) (text : String) :
    k.Emits (k.received text) (print text k) := by
  have com1 : k.Emits (fun port => if port = com1Port ∧ k.com1.isOk then Text.encode text else [])
      (Kernel.withLock .com1 (com1Print text) k) :=
    .withLock free free (emits_com1Print (k.setHeld true .com1) text)
  have both : k.Emits _ (print text k) :=
    com1.andThen fun input => emits_debugPrint (k.withInput input) text
  -- the two sinks have different ports, so neither gets the text twice
  refine both.congr fun port => ?_
  by_cases debug : port = debugConsolePort
  · have apart : ¬ debugConsolePort = com1Port := by decide
    simp [received, debug, apart]
  · simp [received, debug]

/-- How a text is cut makes no difference: the ports get what they would get of the whole. -/
theorem emits_printAll (free : k.holds .com1 = false) (texts : List String) :
    k.Emits (k.received (String.join texts)) (printAll texts k) := by
  induction texts generalizing k with
  | nil => exact ⟨rfl, rfl, fun port => (received_empty k port).symm⟩
  | cons text texts ih =>
      have others : ∀ input, (k.withInput input).Emits (k.received (String.join texts))
          (printAll texts (k.withInput input)) := fun input => ih (k := k.withInput input) free
      have all : k.Emits _ (printAll (text :: texts) k) := (emits_print free text).andThen others
      refine all.congr fun port => ?_
      rw [String.join_cons, received_append]

end Kernel

end Bringup
