import Bringup.Proofs.Pervasive
import Bringup.Proofs.TrapStack

/-!
# Runs

The kernel in the middle of a run (`Kernel.after`), and what the steps of a run leave alone. An
activity keeps a part of the state if that part is the same before and after, however the activity
ends (`Activity.Keeps`). What prints or loads keeps every part that has nothing to do with the
sinks, the processor and the frames (`Kernel.Settled.perform`). The marks of a trap are such a part,
the panic flag and the last vector, and only a trap or a panic changes them in a run
(`Kernel.keeps_perform`).
-/

namespace Bringup

/-! ## What an activity keeps -/

namespace Activity

variable {ε σ α β γ : Type} {part : σ → γ}

/-- The activity leaves a part of the state as it was, however it ends. -/
def Keeps (part : σ → γ) (x : Activity ε σ α) : Prop :=
  ∀ s, part (x s).state = part s

theorem keeps_pure (a : α) : Keeps part (pure a : Activity ε σ α) := fun _ => rfl

theorem keeps_stop (e : ε) : Keeps part (stop e : Activity ε σ α) := fun _ => rfl

theorem keeps_emit (event : Event) : Keeps part (emit event : Activity ε σ Unit) := fun _ => rfl

theorem keeps_getState : Keeps part (getState : Activity ε σ σ) := fun _ => rfl

theorem keeps_modifyState {f : σ → σ} (same : ∀ s, part (f s) = part s) :
    Keeps part (modifyState f : Activity ε σ Unit) := same

theorem Keeps.bind {x : Activity ε σ α} {f : α → Activity ε σ β} (first : Keeps part x)
    (next : ∀ a, Keeps part (f a)) : Keeps part (x >>= f) := by
  intro s
  rcases ran : x s with ⟨result, t, events⟩
  have kept := first s
  rw [ran] at kept
  cases result with
  | error e =>
      rw [bind_of_error ran]
      exact kept
  | ok a =>
      rw [bind_of_ok ran]
      exact (next a t).trans kept

end Activity

open Activity (Keeps keeps_pure keeps_stop keeps_emit keeps_getState keeps_modifyState)

namespace Kernel

/-! ## Parts that most activities keep -/

/-- What can be read of the state without regard to ports, COM1, locks, colours, the processor and
the frame allocator. -/
structure Settled {γ : Type} (part : Kernel → γ) : Prop where
  input : ∀ (k : Kernel) input, part { k with input } = part k
  com1 : ∀ (k : Kernel) com1, part { k with com1 } = part k
  setHeld : ∀ (k : Kernel) held lock, part (k.setHeld held lock) = part k
  colors : ∀ (k : Kernel) foreground background,
    part { k with console := { k.console with foreground, background } } = part k
  processor : ∀ (k : Kernel) processor, part { k with processor } = part k
  frames : ∀ (k : Kernel) frames, part { k with frames } = part k

namespace Settled

variable {α γ : Type} {part : Kernel → γ}

theorem onPorts (h : Settled part) (x : PortActivity α) : Keeps part (onPorts x) :=
  fun k => h.input k _

theorem requireFree (lock : Lock) : Keeps part (requireFree lock) := by
  refine keeps_getState.bind fun k => ?_
  cases k.holds lock with
  | true => exact keeps_stop _
  | false => exact keeps_pure ()

theorem giveBack (h : Settled part) (lock : Lock) (o : Outcome Stop Kernel α) :
    part (giveBack lock o).state = part o.state := by
  unfold Kernel.giveBack
  split
  · rfl
  · rfl
  · exact h.setHeld o.state false lock

theorem withLock (h : Settled part) {lock : Lock} {x : KernelActivity α} (kept : Keeps part x) :
    Keeps part (withLock lock x) := by
  refine (requireFree lock).bind fun _ k => ?_
  have inside : part (x (k.setHeld true lock)).state = part (k.setHeld true lock) :=
    kept (k.setHeld true lock)
  rw [h.setHeld] at inside
  show part (Kernel.giveBack lock (x (k.setHeld true lock))).state = part k
  rw [h.giveBack]
  exact inside

theorem print (h : Settled part) (text : String) : Keeps part (print text) := by
  refine (h.withLock (keeps_getState.bind fun k => ?_)).bind fun _ => h.onPorts _
  cases k.com1 with
  | ok _ => exact h.onPorts _
  | error _ => exact keeps_pure ()

theorem setUpControllers (h : Settled part) : Keeps part setUpControllers :=
  keeps_getState.bind fun _ => h.onPorts _

theorem loadGates (h : Settled part) : Keeps part loadGates := by
  have kept : Keeps part (modifyProcessor fun p => { p with gates := some gates }) :=
    keeps_modifyState fun k => h.processor k _
  have unmasked : Keeps part unmaskInterrupts :=
    (keeps_emit _).bind fun _ => keeps_modifyState fun k => h.processor k _
  exact loadGates_of_parts (P := Keeps part) Keeps.bind (keeps_emit _) kept h.setUpControllers
    unmasked

/-- Away from traps, everything but filling the screen keeps such a part. -/
theorem offscreen (h : Settled part) : Offscreen (Keeps part) where
  pure := keeps_pure
  stop := keeps_stop
  bind := Keeps.bind
  withLock := h.withLock
  holdForever lock := (requireFree lock).bind fun _ =>
    keeps_modifyState fun k => h.setHeld k true lock
  read := fun _ next => keeps_getState.bind next
  print := h.print
  setColors foreground background := keeps_modifyState fun k => h.colors k foreground background
  maskInterrupts := (keeps_emit _).bind fun _ => keeps_modifyState fun k => h.processor k _
  halt := keeps_emit _
  setUpControllers := h.setUpControllers
  loadSegments k := h.processor k _
  loadGates := h.loadGates
  exitEmulator _ := h.onPorts _
  useFrames frames := keeps_modifyState fun k => h.frames k (some frames)

end Settled

/-! ## The marks of a trap -/

/-- What a trap or a panic leaves behind in the kernel: the panic flag and the last vector. -/
def trapMarks (k : Kernel) : Bool × UInt64 :=
  (k.panicking, k.lastVector)

section Marks

variable {γ : Type} (read : Bool × UInt64 → γ)

theorem settled_trapMarks : Settled fun k : Kernel => read k.trapMarks where
  input _ _ := rfl
  com1 _ _ := rfl
  setHeld k held lock := by
    cases lock <;> rfl
  colors _ _ _ := rfl
  processor _ _ := rfl
  frames _ _ := rfl

/-- Away from traps, everything keeps what can be read off the marks of a trap. -/
theorem pervasive_keeps : Pervasive (Keeps fun k : Kernel => read k.trapMarks) where
  toOffscreen := (settled_trapMarks read).offscreen
  fillScreen :=
    (settled_trapMarks read).offscreen.fillScreen fun _ => keeps_modifyState fun _ => rfl

end Marks

end Kernel

/-! ## Steps -/

/-- Whether a step can reach the trap handler or the reporter. -/
def Step.canTrap : Step → Bool
  | .dispatch _ => true
  | .interrupt _ => true
  | .panic .. => true
  | .selfTest _ => true
  | _ => false

/-- Whether a step attaches a screen or clears it. A panic does so too, on its way. -/
def Step.changesScreen : Step → Bool
  | .attach _ => true
  | .clear => true
  | _ => false

namespace Kernel

theorem andReply_apply (x : KernelActivity Unit) (reply : Reply) (k : Kernel) :
    andReply x reply k =
      let o := x k
      ⟨o.result.map fun _ => reply, o.state, o.events⟩ :=
  Activity.bind_pure_apply x (fun _ => reply) k

/-- Away from traps and from the screen, all steps keep a settled part. -/
theorem Settled.perform {γ : Type} {part : Kernel → γ} (h : Settled part) {s : Step}
    (quiet : s.canTrap = false) (still : s.changesScreen = false) : Keeps part (perform s) := by
  have everywhere := h.offscreen
  cases routine : s.isRoutine with
  | true =>
      refine everywhere.perform routine ?_
      rintro rfl
      cases still
  | false =>
      cases s with
      | setUpCom1 =>
          refine Keeps.bind ?_ fun _ => keeps_pure _
          exact (requireFree _).bind fun _ => (h.onPorts _).bind fun _ =>
            Keeps.bind (keeps_modifyState fun k => h.com1 k _) fun _ => keeps_pure _
      | com1Status =>
          refine Keeps.bind ?_ fun _ => keeps_pure _
          exact h.withLock (keeps_getState.bind fun _ => keeps_pure _)
      | debugPrint text => exact everywhere.andReply (h.onPorts _) _
      | debugWrite text => exact everywhere.andReply (h.onPorts _) _
      | attach screen => cases still
      | unmaskInterrupts =>
          refine everywhere.andReply ?_ _
          exact (keeps_emit _).bind fun _ => keeps_modifyState fun k => h.processor k _
      | lastVector => exact keeps_getState.bind fun _ => keeps_pure _
      | dispatch frame => cases quiet
      | interrupt i => cases quiet
      | panic frame reason place => cases quiet
      | selfTest regions => cases quiet
      | _ => cases routine

/-- All steps away from traps keep the marks of a trap. -/
theorem keeps_perform {s : Step} (quiet : s.canTrap = false) : Keeps trapMarks (perform s) := by
  have everywhere : Pervasive (Keeps trapMarks) := pervasive_keeps id
  cases still : s.changesScreen with
  | false => exact (settled_trapMarks id).perform quiet still
  | true =>
      cases s with
      | clear => exact everywhere.perform rfl
      | attach screen => exact everywhere.andReply (everywhere.withLock fun _ => rfl) _
      | _ => cases still

/-! ## Steps that reach the trap handler -/

/-- An interrupt comes to what the handler comes to with its frame. -/
theorem takeInterrupt_apply (i : Interrupt) (k : Kernel) :
    takeInterrupt i k =
      let o := handleTrap (i.frame k.control) k
      ⟨o.result.map fun _ => (i.regs, i.back), o.state, o.events⟩ := by
  rw [takeInterrupt_eq]
  exact Activity.bind_pure_apply (handleTrap (i.frame k.control)) (fun _ => (i.regs, i.back)) k

theorem perform_interrupt_apply (i : Interrupt) (k : Kernel) :
    perform (.interrupt i) k =
      let o := takeInterrupt i k
      ⟨o.result.map fun taken => .resumed taken.1 taken.2, o.state, o.events⟩ :=
  Activity.bind_pure_apply (takeInterrupt i) (fun taken => Reply.resumed taken.1 taken.2) k

theorem perform_dispatch_apply (frame : TrapFrame) (k : Kernel) :
    perform (.dispatch frame) k =
      let o := handleTrap frame k
      ⟨o.result.map fun _ => .frame frame, o.state, o.events⟩ :=
  Activity.bind_pure_apply (handleTrap frame) (fun _ => Reply.frame frame) k

/-! ## The kernel in the middle of a run -/

/-- The kernel after some steps. -/
def after (k : Kernel) (steps : List (Step × List UInt8)) : Kernel :=
  steps.foldl (fun k s => (k.step s.1 s.2).state) k

@[simp]
theorem after_nil (k : Kernel) : k.after [] = k := rfl

@[simp]
theorem after_cons (k : Kernel) (s : Step × List UInt8) (steps : List (Step × List UInt8)) :
    k.after (s :: steps) = (k.step s.1 s.2).state.after steps := rfl

/-- Each step of a run starts from the kernel after the steps before it. -/
theorem getElem?_run (k : Kernel) (steps : List (Step × List UInt8)) (j : Nat) :
    (k.run steps)[j]? = steps[j]?.map fun s => (k.after (steps.take j)).step s.1 s.2 := by
  induction steps generalizing k j with
  | nil => rfl
  | cons s steps ih =>
      cases j with
      | zero => rfl
      | succ j => exact ih (k.step s.1 s.2).state j

end Kernel

end Bringup
