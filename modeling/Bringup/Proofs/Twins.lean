import Bringup.Proofs.Output

/-!
# Kernels with and without COM1

Two kernels are twins if they differ only in whether COM1 came up and in what their ports still read
as (`Kernel.Twins`). An activity is in step if twins come out of it with the same result, the same
text on the debug console, a copy of that text at the COM1 that is up, and as twins again
(`Kernel.InStep`). Sequences and locks hand this on, and it holds of whatever is read or changed
without regard to COM1 and the ports, as long as no text goes to one sink alone.
-/

namespace Bringup

open Event (written)

/-! ## Twins -/

namespace Kernel

/-- The kernel with another state of COM1 and other values left to be read from ports. -/
def withCom1 (k : Kernel) (com1 : Except LoopbackError Unit) (input : List UInt8) : Kernel :=
  { k with com1, input }

/-- Two kernels that are the same but for COM1, which is up in the first and failed in the second,
and for what is left to be read. -/
structure Twins (failure : LoopbackError) (up down : Kernel) : Prop where
  com1 : up.com1 = .ok ()
  same : down = up.withCom1 (.error failure) down.input

variable {failure : LoopbackError} {up down : Kernel}

theorem Twins.eq_up (twins : Twins failure up down) : up = up.withCom1 (.ok ()) up.input := by
  rw [← twins.com1]
  rfl

/-- What is read without regard to COM1 and the ports is the same in both. -/
theorem Twins.read {γ : Type} (part : Kernel → γ) (twins : Twins failure up down)
    (shared : ∀ k com1 input, part (withCom1 k com1 input) = part k) : part down = part up := by
  rw [twins.same, shared]

/-- What is changed without regard to COM1 and the ports leaves twins. -/
theorem Twins.map (f : Kernel → Kernel) (twins : Twins failure up down)
    (shared : ∀ k com1 input, f (withCom1 k com1 input) = (f k).withCom1 com1 input) :
    Twins failure (f up) (f down) := by
  have changed : f down = (f up).withCom1 (.error failure) down.input := by
    rw [← shared, ← twins.same]
  constructor
  · rw [twins.eq_up, shared]
    rfl
  · rw [changed]
    rfl

theorem Twins.withInput (twins : Twins failure up down) (input input' : List UInt8) :
    Twins failure (up.withInput input) (down.withInput input') := by
  constructor
  · exact twins.com1
  · rw [twins.same]
    rfl

theorem holds_withCom1 (lock : Lock) (k : Kernel) (com1 : Except LoopbackError Unit)
    (input : List UInt8) : (k.withCom1 com1 input).holds lock = k.holds lock := by
  cases lock <;> rfl

theorem Twins.setHeld (twins : Twins failure up down) (held : Bool) (lock : Lock) :
    Twins failure (up.setHeld held lock) (down.setHeld held lock) := by
  refine twins.map (fun k => k.setHeld held lock) fun k com1 input => ?_
  cases lock <;> rfl

end Kernel

/-- What an activity comes to in two kernels of which only the first has COM1. If the activity
copies, COM1 gets what the debug console gets, else nothing; a failed COM1 gets nothing in any
case. -/
structure TwinOutcomes {α : Type} (failure : LoopbackError) (copies : Bool)
    (o p : Outcome Stop Kernel α) : Prop where
  result : p.result = o.result
  state : Kernel.Twins failure o.state p.state
  debugText : written debugConsolePort p.events = written debugConsolePort o.events
  com1Text : written com1Port o.events = if copies then written debugConsolePort o.events else []
  silent : written com1Port p.events = []

namespace TwinOutcomes

variable {α β : Type} {failure : LoopbackError} {copies : Bool}

/-- A value made from the result is the same in both. -/
theorem map {o p : Outcome Stop Kernel α} (twins : TwinOutcomes failure copies o p)
    (f : Except Stop α → Except Stop β) :
    TwinOutcomes failure copies (⟨f o.result, o.state, o.events⟩ : Outcome Stop Kernel β)
      ⟨f p.result, p.state, p.events⟩ :=
  ⟨congrArg f twins.result, twins.state, twins.debugText, twins.com1Text, twins.silent⟩

/-- Outcomes that leave no text behind. -/
theorem of_silent {o p : Outcome Stop Kernel α} (result : p.result = o.result)
    (state : Kernel.Twins failure o.state p.state)
    (noText : ∀ port, port = debugConsolePort ∨ port = com1Port →
      written port o.events = [] ∧ written port p.events = []) :
    TwinOutcomes failure copies o p := by
  obtain ⟨debugUp, debugDown⟩ := noText debugConsolePort (.inl rfl)
  obtain ⟨com1Up, com1Down⟩ := noText com1Port (.inr rfl)
  refine ⟨result, state, ?_, ?_, com1Down⟩
  · rw [debugUp, debugDown]
  · rw [com1Up, debugUp, ite_self]

/-- What comes first is put before what follows, in both. -/
theorem append {o p : Outcome Stop Kernel α} {events events' : List Event}
    (twins : TwinOutcomes failure copies o p)
    (debugText : written debugConsolePort events' = written debugConsolePort events)
    (com1Text : written com1Port events =
      if copies then written debugConsolePort events else [])
    (silent : written com1Port events' = []) :
    TwinOutcomes failure copies ⟨o.result, o.state, events ++ o.events⟩
      ⟨p.result, p.state, events' ++ p.events⟩ := by
  refine ⟨twins.result, twins.state, ?_, ?_, ?_⟩
  · simp only [Event.written_append, debugText, twins.debugText]
  · simp only [Event.written_append, com1Text, twins.com1Text]
    cases copies <;> rfl
  · simp only [Event.written_append, silent, twins.silent, List.append_nil]

end TwinOutcomes

namespace Kernel

variable {α β : Type} {failure : LoopbackError} {up down : Kernel}

/-! ## Activities in step -/

/-- The activity is the same with and without COM1, which gets a copy of all its text. -/
def InStep (x : KernelActivity α) : Prop :=
  ∀ failure up down, Twins failure up down → TwinOutcomes failure true (x up) (x down)

/-- What leaves no text behind is in step if it takes no account of COM1 and the ports. -/
theorem inStep_of_silent {x : KernelActivity α}
    (result : ∀ k com1 input, (x (withCom1 k com1 input)).result = (x k).result)
    (state : ∀ k com1 input, (x (withCom1 k com1 input)).state = (x k).state.withCom1 com1 input)
    (noText : ∀ k port, written port (x k).events = []) : InStep x := by
  intro failure up down twins
  have sameResult : (x down).result = (x up).result := twins.read (fun k => (x k).result) result
  have twinStates := twins.map (fun k => (x k).state) state
  exact .of_silent sameResult twinStates fun port _ => ⟨noText up port, noText down port⟩

theorem inStep_pure (a : α) : InStep (pure a : KernelActivity α) :=
  inStep_of_silent (fun _ _ _ => rfl) (fun _ _ _ => rfl) fun _ _ => rfl

theorem inStep_stop (reason : Stop) : InStep (Activity.stop reason : KernelActivity α) :=
  inStep_of_silent (fun _ _ _ => rfl) (fun _ _ _ => rfl) fun _ _ => rfl

theorem inStep_modifyState {f : Kernel → Kernel}
    (shared : ∀ k com1 input, f (withCom1 k com1 input) = (f k).withCom1 com1 input) :
    InStep (Activity.modifyState f) :=
  inStep_of_silent (fun _ _ _ => rfl) shared fun _ _ => rfl

theorem InStep.bind {x : KernelActivity α} {f : α → KernelActivity β} (first : InStep x)
    (next : ∀ a, InStep (f a)) : InStep (x >>= f) := by
  intro failure up down twins
  have agree := first failure up down twins
  rcases ranUp : x up with ⟨result, up', events⟩
  rcases ranDown : x down with ⟨result', down', events'⟩
  rw [ranUp, ranDown] at agree
  obtain ⟨sameResult, twins', debugText, com1Text, silent⟩ := agree
  dsimp only at sameResult twins' debugText com1Text silent
  subst sameResult
  -- both stop, or both go on with the same value
  cases result' with
  | error reason =>
      rw [Activity.bind_of_error ranUp, Activity.bind_of_error ranDown]
      exact ⟨rfl, twins', debugText, com1Text, silent⟩
  | ok a =>
      rw [Activity.bind_of_ok ranUp, Activity.bind_of_ok ranDown]
      exact (next a failure up' down' twins').append debugText com1Text silent

/-- Going on from what is read of the state, without regard to COM1 and the ports. -/
theorem inStep_getState {f : Kernel → KernelActivity α}
    (shared : ∀ k com1 input, f (withCom1 k com1 input) = f k) (next : ∀ k, InStep (f k)) :
    InStep (Activity.getState >>= f) := by
  intro failure up down twins
  rw [Activity.getState_bind_apply, Activity.getState_bind_apply, twins.read f shared]
  exact next up failure up down twins

/-! ## Locks -/

theorem inStep_requireFree (lock : Lock) : InStep (requireFree lock) := by
  refine inStep_getState (fun k com1 input => ?_) fun k => ?_
  · rw [holds_withCom1]
  · cases k.holds lock with
    | true => exact inStep_stop _
    | false => exact inStep_pure ()

theorem inStep_holdForever (lock : Lock) : InStep (holdForever lock) := by
  refine (inStep_requireFree lock).bind fun _ => inStep_modifyState fun k com1 input => ?_
  cases lock <;> rfl

theorem giveBack_twins {o p : Outcome Stop Kernel α} (lock : Lock)
    (twins : TwinOutcomes failure true o p) :
    TwinOutcomes failure true (giveBack lock o) (giveBack lock p) := by
  obtain ⟨result, state, debugText, com1Text, silent⟩ := twins
  rcases o with ⟨ended, up, events⟩
  rcases p with ⟨ended', down, events'⟩
  dsimp only at result state debugText com1Text silent
  subst result
  have freed := state.setHeld false lock
  rcases ended' with (cause | message | cause | _ | held) | a
  case error.halted => exact ⟨rfl, state, debugText, com1Text, silent⟩
  case error.blocked => exact ⟨rfl, state, debugText, com1Text, silent⟩
  all_goals exact ⟨rfl, freed, debugText, com1Text, silent⟩

theorem InStep.withLock {lock : Lock} {x : KernelActivity α} (inStep : InStep x) :
    InStep (withLock lock x) := by
  refine (inStep_requireFree lock).bind fun _ => ?_
  intro failure up down twins
  exact giveBack_twins lock (inStep failure _ _ (twins.setHeld true lock))

end Kernel

end Bringup
