import Bringup.Descriptor
import Bringup.Fault

/-!
# The machine around the kernel

What the kernel does to the machine around it is a list of events, port accesses and privileged
instructions in order (`Event`).

An activity changes a state, leaves events behind and ends with a value or a reason why it stopped
short. It is a function of the state it starts from, so what it does can be reasoned about without
the events that came before. `Activity` is a monad: in a sequence the events of the parts follow
each other, and nothing happens after a part that stopped (`Activity.bind_of_ok`,
`Activity.bind_of_error`).

Device code talks to ports. What it reads is given beforehand as a list of values; when the list
is used up, every read gives `restingValue`. A device activity stops only at an arithmetic fault.
-/

namespace Bringup

/-! ## Events -/

/-- One access to a port or one privileged instruction. -/
inductive Event where
  /-- A byte was read from a port. -/
  | in8 (port : UInt16) (value : UInt8)
  /-- A byte was written to a port. -/
  | out8 (port : UInt16) (value : UInt8)
  /-- A 32-bit word was written to a port. -/
  | out32 (port : UInt16) (value : UInt32)
  /-- Interrupts were masked. -/
  | cli
  /-- Interrupts were unmasked. -/
  | sti
  /-- The processor was halted. -/
  | hlt
  /-- A segment table was loaded. -/
  | loadSegments (limit : UInt16) (entries : List Segment)
  /-- A far return loaded the code segment register. -/
  | farReturn (selector : UInt16)
  /-- A data segment register was loaded. -/
  | loadSelector (register : DataSegment) (selector : UInt16)
  /-- A gate table was loaded. -/
  | loadGates (limit : UInt16) (gates : GateTable)
  deriving DecidableEq

namespace Event

/-- The bytes that a list of events writes to a port, in order. -/
def written (port : UInt16) (events : List Event) : List UInt8 :=
  events.filterMap fun
    | .out8 p value => if p = port then some value else none
    | _ => none

@[simp]
theorem written_nil (port : UInt16) : written port [] = [] := rfl

@[simp]
theorem written_append (port : UInt16) (first second : List Event) :
    written port (first ++ second) = written port first ++ written port second :=
  List.filterMap_append

@[simp]
theorem written_in8_cons (port p : UInt16) (value : UInt8) (events : List Event) :
    written port (.in8 p value :: events) = written port events := rfl

theorem written_out8_cons (port p : UInt16) (value : UInt8) (events : List Event) :
    written port (.out8 p value :: events) =
      (if port = p then [value] else []) ++ written port events := by
  by_cases same : port = p
  · subst same
    simp [written]
  · have other : ¬ p = port := fun h => same h.symm
    simp [written, same, other]

/-- Bytes that all go to one port. -/
theorem written_map_out8 (port p : UInt16) (bytes : List UInt8) :
    written port (bytes.map (.out8 p)) = if port = p then bytes else [] := by
  induction bytes with
  | nil => exact (ite_self _).symm
  | cons value bytes ih =>
      rw [List.map_cons, written_out8_cons, ih]
      split <;> rfl

end Event

/-! ## Activities -/

/-- What an activity ends with: a value or a stop, the state, and the events in order. -/
structure Outcome (ε σ α : Type) where
  result : Except ε α
  state : σ
  events : List Event

/-- An activity on states `σ` that ends with a value in `α` or stops with a reason in `ε`. -/
def Activity (ε σ α : Type) : Type :=
  σ → Outcome ε σ α

namespace Activity

variable {ε ε' σ τ α β γ : Type}

/-- Does nothing and ends with a value. -/
def done (a : α) : Activity ε σ α :=
  fun s => ⟨.ok a, s, []⟩

/-- One activity and then, if it did not stop, the one that its value leads to. -/
def andThen (x : Activity ε σ α) (f : α → Activity ε σ β) : Activity ε σ β :=
  fun s =>
    match x s with
    | ⟨.error e, s, events⟩ => ⟨.error e, s, events⟩
    | ⟨.ok a, s, events⟩ =>
        let ⟨result, s, more⟩ := f a s
        ⟨result, s, events ++ more⟩

instance : Monad (Activity ε σ) where
  pure := done
  bind := andThen

/-- Stops. -/
def stop (e : ε) : Activity ε σ α :=
  fun s => ⟨.error e, s, []⟩

/-- Leaves one event behind. -/
def emit (event : Event) : Activity ε σ Unit :=
  fun s => ⟨.ok (), s, [event]⟩

/-- The state. -/
def getState : Activity ε σ σ :=
  fun s => ⟨.ok s, s, []⟩

/-- Changes the state. -/
def modifyState (f : σ → σ) : Activity ε σ Unit :=
  fun s => ⟨.ok (), f s, []⟩

/-- Ends with a value, or stops for the reason why there is none. -/
def ofExcept : Except ε α → Activity ε σ α
  | .ok a => done a
  | .error e => stop e

/-- An activity on a part of the state, with its reasons to stop among others. -/
def onPart (get : τ → σ) (put : σ → τ → τ) (reason : ε → ε') (x : Activity ε σ α) :
    Activity ε' τ α :=
  fun t =>
    let ⟨result, s, events⟩ := x (get t)
    ⟨result.mapError reason, put s t, events⟩

theorem pure_apply (a : α) (s : σ) : (pure a : Activity ε σ α) s = ⟨.ok a, s, []⟩ := rfl

theorem bind_of_ok {x : Activity ε σ α} {f : α → Activity ε σ β} {s s' : σ} {a : α}
    {events : List Event} (h : x s = ⟨.ok a, s', events⟩) :
    (x >>= f) s = ⟨(f a s').result, (f a s').state, events ++ (f a s').events⟩ := by
  show andThen x f s = _
  unfold andThen
  rw [h]

theorem bind_of_error {x : Activity ε σ α} {f : α → Activity ε σ β} {s s' : σ} {e : ε}
    {events : List Event} (h : x s = ⟨.error e, s', events⟩) :
    (x >>= f) s = ⟨.error e, s', events⟩ := by
  show andThen x f s = _
  unfold andThen
  rw [h]

/-- What follows a look at the state starts from that state. -/
theorem getState_bind_apply (f : σ → Activity ε σ α) (s : σ) : (getState >>= f) s = f s s := by
  have read : (getState : Activity ε σ σ) s = ⟨.ok s, s, []⟩ := rfl
  rw [bind_of_ok read]
  rfl

/-- A sequence is the same from two states if its first part is. -/
theorem bind_congr_state {x : Activity ε σ α} {f : α → Activity ε σ β} {s t : σ}
    (same : x s = x t) : (x >>= f) s = (x >>= f) t := by
  show andThen x f s = andThen x f t
  unfold andThen
  rw [same]

/-- A value made from the value of an activity costs nothing more. -/
theorem bind_pure_apply (x : Activity ε σ α) (f : α → β) (s : σ) :
    (x >>= fun a => pure (f a)) s = ⟨(x s).result.map f, (x s).state, (x s).events⟩ := by
  rcases ran : x s with ⟨result, t, events⟩
  cases result with
  | error e => exact bind_of_error ran
  | ok a =>
      rw [bind_of_ok ran, pure_apply, List.append_nil]
      rfl

theorem map_id_eq (x : Activity ε σ α) : id <$> x = x := by
  funext s
  show andThen x _ s = x s
  unfold andThen
  rcases x s with ⟨_ | a, s', events⟩
  · rfl
  · show Outcome.mk _ _ _ = _
    simp

theorem done_andThen (a : α) (f : α → Activity ε σ β) : andThen (done a) f = f a := by
  funext s
  simp [andThen, done]

/-- How a sequence is bracketed does not matter. -/
theorem andThen_assoc (x : Activity ε σ α) (f : α → Activity ε σ β) (g : β → Activity ε σ γ) :
    andThen (andThen x f) g = andThen x fun a => andThen (f a) g := by
  funext s
  unfold andThen
  rcases x s with ⟨_ | a, s', events⟩
  · rfl
  · rcases h : f a s' with ⟨_ | b, s'', more⟩ <;> simp [h]

instance : LawfulMonad (Activity ε σ) :=
  LawfulMonad.mk' _ map_id_eq done_andThen andThen_assoc

end Activity

/-! ## Ports -/

/-- What a port reads as when no other value is given. Its bit 5 is set. -/
def restingValue : UInt8 := 0x60

/-- An activity of device code; the state is the list of values still to be read. -/
abbrev PortActivity (α : Type) := Activity Fault (List UInt8) α

namespace Port

/-- Writes a byte to a port. -/
def write (port : UInt16) (value : UInt8) : PortActivity Unit :=
  Activity.emit (.out8 port value)

/-- Writes a 32-bit word to a port. -/
def writeWord (port : UInt16) (value : UInt32) : PortActivity Unit :=
  Activity.emit (.out32 port value)

/-- Reads a byte from a port. -/
def read (port : UInt16) : PortActivity UInt8 :=
  fun input =>
    let value := input.headD restingValue
    ⟨.ok value, input.tail, [.in8 port value]⟩

/-- Writes bytes to a port, one after the other. -/
def writeAll (port : UInt16) (bytes : List UInt8) : PortActivity Unit :=
  fun input => ⟨.ok (), input, bytes.map (.out8 port)⟩

/-- Writes bytes to ports, one after the other. -/
def writeEach (writes : List (UInt16 × UInt8)) : PortActivity Unit :=
  fun input => ⟨.ok (), input, writes.map fun word => .out8 word.1 word.2⟩

end Port

end Bringup
