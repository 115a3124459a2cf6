import Bringup.Kernel.Traps
import Bringup.Proofs.Rounding

/-!
# The stack of an interrupt

The words that an entry stub leaves on the stack are those of one frame, named here field by field
(`Interrupt.frame`), on top of the stack that was interrupted (`run_entry`). The exit code takes
such a frame off again: it restores every general register from the frame, whatever the handler
left in the registers, and stops at the words that the processor pushed (`run_exit`).

Only exceptions do not come back from the handler (`returns_handleTrap_iff`). For all other vectors
the interrupted program goes on as it was (`interrupt_round_trip`).
-/

namespace Bringup

/-! ## Registers -/

namespace Registers

theorem get_set (regs : Registers) (r q : Register) (value : UInt64) :
    (regs.set r value).get q = if q = r then value else regs.get q := by
  cases r <;> cases q <;> rfl

/-- Registers with the same contents are the same. -/
theorem ext_get {x y : Registers} (same : ∀ r, x.get r = y.get r) : x = y := by
  cases x
  cases y
  simp only [mk.injEq]
  exact ⟨same .rax, same .rbx, same .rcx, same .rdx, same .rsi, same .rdi, same .rbp, same .r8,
    same .r9, same .r10, same .r11, same .r12, same .r13, same .r14, same .r15⟩

end Registers

theorem Register.mem_all (r : Register) : r ∈ Register.all := by
  cases r <;> decide

/-! ## Runs of pushes and pops -/

theorem runInstructions_append (first second : List Instruction) (c : Context) :
    runInstructions (first ++ second) c = runInstructions second (runInstructions first c) :=
  List.foldl_append

/-- Registers that are pushed in order lie on the stack in reverse. -/
theorem run_pushes (rs : List Register) (c : Context) :
    runInstructions (rs.map .push) c =
      { c with stack := (rs.map c.regs.get).reverse ++ c.stack } := by
  induction rs generalizing c with
  | nil => rfl
  | cons r rs ih =>
      have first : runInstructions ((r :: rs).map .push) c =
          runInstructions (rs.map .push) { c with stack := c.regs.get r :: c.stack } := rfl
      rw [first, ih]
      simp

/-- Registers that are popped have what the stack held for them; the others are left alone. -/
theorem run_pops (regs : Registers) (rs : List Register) (c : Context) (rest : List UInt64)
    (saved : c.stack = rs.map regs.get ++ rest) :
    ∃ popped : Registers,
      runInstructions (rs.map .pop) c = { c with regs := popped, stack := rest } ∧
        ∀ q, popped.get q = if q ∈ rs then regs.get q else c.regs.get q := by
  induction rs generalizing c with
  | nil =>
      refine ⟨c.regs, ?_, fun q => rfl⟩
      have stack : c.stack = rest := saved
      rw [← stack]
      rfl
  | cons r rs ih =>
      have top : (Instruction.pop r).exec c =
          { c with regs := c.regs.set r (regs.get r), stack := rs.map regs.get ++ rest } := by
        show Context.mk (c.regs.set r (c.stack.headD 0)) c.control c.selectors c.stack.tail = _
        rw [saved]
        rfl
      have first : runInstructions ((r :: rs).map .pop) c =
          runInstructions (rs.map .pop) ((Instruction.pop r).exec c) := rfl
      obtain ⟨popped, run, holds⟩ := ih
        { c with regs := c.regs.set r (regs.get r), stack := rs.map regs.get ++ rest } rfl
      refine ⟨popped, first.trans (top ▸ run), fun q => ?_⟩
      rw [holds q, Registers.get_set]
      by_cases same : q = r
      · subst same
        simp
      · simp [same]

/-! ## Words that go through `rax` -/

/-- A selector has no bits above its sixteen. -/
theorem toUInt64_and_high (selector : UInt16) : selector.toUInt64 &&& 0xffffffffffff0000 = 0 := by
  have mask : (0xffffffffffff0000 : UInt64) = ~~~(0x10000 - 1) := by decide
  have width : (0x10000 : UInt64).toNat = 2 ^ 16 := rfl
  have small : selector.toUInt64.toNat < 2 ^ 16 := by
    rw [UInt16.toNat_toUInt64]
    exact selector.toNat_lt
  apply UInt64.toNat_inj.1
  rw [mask, toNat_clearLow width, width, Nat.div_eq_of_lt small]
  rfl

theorem run_zeroRax (c : Context) :
    runInstructions [.zeroRax] c = { c with regs := { c.regs with rax := 0 } } := rfl

theorem run_pushControl (read : ControlRegisters → UInt64) (c : Context) :
    runInstructions (Stub.pushControl read) c =
      { c with
        regs := { c.regs with rax := read c.control }
        stack := read c.control :: c.stack } := rfl

/-- With the high bits of `rax` clear, a selector is pushed with zeroes above it. -/
theorem run_pushSelector (read : DataSelectors → UInt16) (c : Context)
    (high : c.regs.rax &&& 0xffffffffffff0000 = 0) :
    runInstructions (Stub.pushSelector read) c =
      { c with
        regs := { c.regs with rax := (read c.selectors).toUInt64 }
        stack := (read c.selectors).toUInt64 :: c.stack } := by
  have value : c.regs.rax &&& 0xffffffffffff0000 ||| (read c.selectors).toUInt64 =
      (read c.selectors).toUInt64 := by
    rw [high, UInt64.zero_or]
  show Context.mk { c.regs with rax := _ ||| _ } c.control c.selectors ((_ ||| _) :: c.stack) = _
  rw [value]

/-! ## Entry and exit -/

/-- The stub of a vector reckons with an error code exactly if the processor pushes one. -/
theorem Stub.expectsErrorCode_iff (vector : UInt8) :
    Stub.expectsErrorCode vector = true ↔ vector.toNat ∈ errorCodeVectors := by
  have every : ∀ n < 256, Stub.expectsErrorCode (UInt8.ofNat n) = true ↔
      (UInt8.ofNat n).toNat ∈ errorCodeVectors := by decide +kernel
  have here := every vector.toNat vector.toNat_lt
  rwa [UInt8.ofNat_toNat] at here

/-- The words of a return point as the processor leaves them, the first at the stack pointer. -/
def ReturnPoint.words (back : ReturnPoint) : List UInt64 :=
  [back.rip, back.cs, back.rflags, back.rsp, back.ss]

/-- The frame that an interrupt should be shown as. -/
def Interrupt.frame (control : ControlRegisters) (i : Interrupt) : TrapFrame where
  ds := i.selectors.ds.toUInt64
  es := i.selectors.es.toUInt64
  fs := i.selectors.fs.toUInt64
  gs := i.selectors.gs.toUInt64
  cr0 := control.cr0
  cr2 := control.cr2
  cr3 := control.cr3
  cr4 := control.cr4
  r15 := i.regs.r15
  r14 := i.regs.r14
  r13 := i.regs.r13
  r12 := i.regs.r12
  r11 := i.regs.r11
  r10 := i.regs.r10
  r9 := i.regs.r9
  r8 := i.regs.r8
  rbp := i.regs.rbp
  rdi := i.regs.rdi
  rsi := i.regs.rsi
  rdx := i.regs.rdx
  rcx := i.regs.rcx
  rbx := i.regs.rbx
  rax := i.regs.rax
  vector := i.vector.toUInt64
  err := if i.vector.toNat ∈ errorCodeVectors then i.err else 0
  rip := i.back.rip
  cs := i.back.cs
  rflags := i.back.rflags
  rsp := i.back.rsp
  ss := i.back.ss

/-- After its own code each stub has the same shape of stack: the vector, an error code, and the
return point. -/
theorem run_head (control : ControlRegisters) (i : Interrupt) (stack : List UInt64) :
    runInstructions (Stub.head i.vector) (Kernel.arrival control i stack) =
      { regs := i.regs
        control := control
        selectors := i.selectors
        stack := i.vector.toUInt64 :: (if i.vector.toNat ∈ errorCodeVectors then i.err else 0) ::
          (i.back.words ++ stack) } := by
  by_cases coded : i.vector.toNat ∈ errorCodeVectors
  · have expects := (Stub.expectsErrorCode_iff i.vector).2 coded
    unfold Stub.head Kernel.arrival interruptStack
    rw [if_pos coded, if_pos coded, if_pos expects]
    rfl
  · have expects : ¬ Stub.expectsErrorCode i.vector = true := fun h =>
      coded ((Stub.expectsErrorCode_iff i.vector).1 h)
    unfold Stub.head Kernel.arrival interruptStack
    rw [if_neg coded, if_neg coded, if_neg expects]
    rfl

/-- What is saved on top of a stack: the selectors, the control registers and the general
registers. -/
theorem run_save (c : Context) :
    runInstructions Stub.save c =
      { c with
        regs := { c.regs with rax := c.selectors.ds.toUInt64 }
        stack := c.selectors.ds.toUInt64 :: c.selectors.es.toUInt64 :: c.selectors.fs.toUInt64 ::
          c.selectors.gs.toUInt64 :: c.control.cr0 :: c.control.cr2 :: c.control.cr3 ::
          c.control.cr4 :: ((Register.all.map c.regs.get).reverse ++ c.stack) } := by
  unfold Stub.save
  simp only [runInstructions_append, run_pushes, run_pushControl, run_zeroRax]
  -- `rax` is zero before the first selector, and then holds the selector before
  rw [run_pushSelector DataSelectors.gs _ UInt64.zero_and,
    run_pushSelector DataSelectors.fs _ (toUInt64_and_high _),
    run_pushSelector DataSelectors.es _ (toUInt64_and_high _),
    run_pushSelector DataSelectors.ds _ (toUInt64_and_high _)]

/-- The entry code leaves the interrupt's frame on the stack. -/
theorem run_entry (control : ControlRegisters) (i : Interrupt) (stack : List UInt64) :
    runInstructions (Stub.entry i.vector) (Kernel.arrival control i stack) =
      { regs := { i.regs with rax := i.selectors.ds.toUInt64 }
        control := control
        selectors := i.selectors
        stack := (i.frame control).words ++ stack } := by
  unfold Stub.entry
  rw [runInstructions_append, run_head, run_save]
  rfl

theorem ofWords_words_append (f : TrapFrame) (stack : List UInt64) :
    TrapFrame.ofWords (f.words ++ stack) = f := rfl

/-- The exit code takes a frame off the stack: the general registers are the frame's, and the stack
pointer is at the frame's return point. -/
theorem run_exit (f : TrapFrame) (c : Context) (stack : List UInt64)
    (framed : c.stack = f.words ++ stack) :
    runInstructions Stub.exit c =
      { c with regs := .ofFrame f, stack := (ReturnPoint.ofFrame f).words ++ stack } := by
  have below : (c.stack.drop 8) = Register.all.reverse.map (Registers.ofFrame f).get ++
      (f.vector :: f.err :: ((ReturnPoint.ofFrame f).words ++ stack)) := by
    rw [framed]
    rfl
  obtain ⟨popped, run, holds⟩ := run_pops (.ofFrame f) Register.all.reverse
    { c with stack := c.stack.drop 8 } _ below
  have every : popped = .ofFrame f := Registers.ext_get fun r => by
    rw [holds r, if_pos (List.mem_reverse.2 r.mem_all)]
  have dropped : runInstructions [.drop 8] c = { c with stack := c.stack.drop 8 } := rfl
  unfold Stub.exit
  rw [runInstructions_append, runInstructions_append, dropped, run, every]
  rfl

/-! ## The handler -/

namespace Activity

variable {ε σ α β : Type}

/-- The activity stops before its end from every state. -/
def NeverReturns (x : Activity ε σ α) : Prop :=
  ∀ s a, (x s).result ≠ .ok a

theorem NeverReturns.bind {x : Activity ε σ α} {f : α → Activity ε σ β}
    (never : ∀ a, NeverReturns (f a)) : NeverReturns (x >>= f) := by
  intro s b
  rcases ran : x s with ⟨result, t, events⟩
  cases result with
  | error e =>
      rw [bind_of_error ran]
      exact nofun
  | ok a =>
      rw [bind_of_ok ran]
      exact never a t b

end Activity

namespace Kernel

theorem neverReturns_haltForever {α : Type} :
    Activity.NeverReturns (haltForever : KernelActivity α) :=
  .bind fun _ => .bind fun _ => fun _ _ => nofun

/-- Nobody comes back from a panic. -/
theorem neverReturns_panicAt {α : Type} (frame : Option TrapFrame) (reason : String)
    (place : Log.Location) :
    Activity.NeverReturns (panicAt frame reason place : KernelActivity α) := by
  refine .bind fun _ => .bind fun k => ?_
  cases k.panicking with
  | true => exact .bind fun _ => neverReturns_haltForever
  | false => exact .bind fun _ => .bind fun _ => .bind fun _ => neverReturns_haltForever

/-- A vector past the exceptions is noted and nothing else happens. -/
theorem handleTrap_of_le {frame : TrapFrame} (past : 32 ≤ frame.vector.toNat) (k : Kernel) :
    handleTrap frame k = ⟨.ok (), { k with lastVector := frame.vector }, []⟩ := by
  have noException : ¬ frame.vector.toNat < exceptionCount := Nat.not_lt.2 past
  unfold handleTrap TrapKind.ofVector
  rw [if_neg noException]
  split_ifs <;> rfl

theorem handleTrap_of_lt {frame : TrapFrame} (exception : frame.vector.toNat < 32) :
    handleTrap frame = (do
      Activity.modifyState fun k => { k with lastVector := frame.vector }
      panicAt (some frame) (exceptionName frame.vector.toUInt8) trapPlace) := by
  have isException : frame.vector.toNat < exceptionCount := exception
  unfold handleTrap TrapKind.ofVector
  rw [if_pos isException]

/-- The handler comes back exactly for the vectors past the exceptions. -/
theorem returns_handleTrap_iff (frame : TrapFrame) (k : Kernel) :
    (handleTrap frame k).result = .ok () ↔ 32 ≤ frame.vector.toNat := by
  constructor
  · intro returned
    by_contra exception
    rw [handleTrap_of_lt (Nat.lt_of_not_le exception)] at returned
    exact (Activity.NeverReturns.bind fun _ => neverReturns_panicAt _ _ _) k () returned
  · intro past
    rw [handleTrap_of_le past]

theorem toNat_frame_vector (control : ControlRegisters) (i : Interrupt) :
    (i.frame control).vector.toNat = i.vector.toNat :=
  UInt8.toNat_toUInt64 i.vector

/-- The frame that the handler is given. -/
theorem takeInterrupt_eq (i : Interrupt) :
    takeInterrupt i = (do
      let k ← Activity.getState
      handleTrap (i.frame k.control)
      return (i.regs, i.back)) := by
  unfold takeInterrupt
  simp only [run_entry, ofWords_words_append]
  simp only [fun control => run_exit (i.frame control)
    ⟨{ i.regs with rax := i.selectors.ds.toUInt64 }, control, i.selectors,
      (i.frame control).words ++ []⟩ [] rfl]
  rfl

end Kernel

/-- **An interrupt and its frame.** For every vector and every state of the processor, the stub
leaves one frame on the interrupted stack, in which each register stands under its own name, the
selectors are extended by zeroes, the vector is the one taken, the error code is what the processor
pushed or zero where it pushed none, and the five words of the processor are as they were. The
handler comes back exactly for the vectors from 32 on. Whatever it leaves in the registers, the exit
code then gives all of them the contents that were interrupted and stops at the return point, and
the kernel has changed in nothing but the last vector. -/
theorem interrupt_round_trip (control : ControlRegisters) (i : Interrupt) (stack : List UInt64) :
    let saved := runInstructions (Stub.entry i.vector) (Kernel.arrival control i stack)
    saved.stack = (i.frame control).words ++ stack ∧
      TrapFrame.ofWords saved.stack = i.frame control ∧
      (∀ k, (Kernel.handleTrap (TrapFrame.ofWords saved.stack) k).result = .ok () ↔
        32 ≤ i.vector.toNat) ∧
      (∀ clobbered, runInstructions Stub.exit { saved with regs := clobbered } =
        { saved with regs := i.regs, stack := i.back.words ++ stack }) ∧
      ∀ k : Kernel, 32 ≤ i.vector.toNat →
        Kernel.takeInterrupt i k =
          ⟨.ok (i.regs, i.back), { k with lastVector := i.vector.toUInt64 }, []⟩ := by
  intro saved
  have framed : saved.stack = (i.frame control).words ++ stack := by
    show (runInstructions _ _).stack = _
    rw [run_entry]
  have read : TrapFrame.ofWords saved.stack = i.frame control := by
    rw [framed, ofWords_words_append]
  refine ⟨framed, read, fun k => ?_, fun clobbered => ?_, fun k past => ?_⟩
  · rw [read, Kernel.returns_handleTrap_iff, Kernel.toNat_frame_vector]
  · exact run_exit (i.frame control) { saved with regs := clobbered } stack framed
  · have handled : Kernel.handleTrap (i.frame k.control) k =
        ⟨.ok (), { k with lastVector := i.vector.toUInt64 }, []⟩ := by
      apply Kernel.handleTrap_of_le
      rw [Kernel.toNat_frame_vector]
      exact past
    rw [Kernel.takeInterrupt_eq]
    show ((Kernel.handleTrap (i.frame k.control) >>= fun _ => pure (i.regs, i.back)) k) = _
    rw [Activity.bind_of_ok handled]
    rfl

/-- A system call from a program with a different value in every register. -/
def systemCall : Interrupt where
  vector := 0x80
  err := 7
  regs := ⟨1, 2, 3, 4, 5, 6, 7, 8, 9, 10, 11, 12, 13, 14, 15⟩
  selectors := ⟨0x10, 0x18, 0x20, 0xfff8⟩
  back := ⟨0x401000, 0x08, 0x202, 0x7000, 0x10⟩

/-- No error code is pushed for a system call, so the frame has zero in its place. -/
theorem round_trip_of_system_call :
    32 ≤ systemCall.vector.toNat ∧
      (runInstructions (Stub.entry 0x80)
        (Kernel.arrival ⟨0xa0, 0xa2, 0xa3, 0xa4⟩ systemCall [0x77])).stack =
        [0x10, 0x18, 0x20, 0xfff8, 0xa0, 0xa2, 0xa3, 0xa4, 15, 14, 13, 12, 11, 10, 9, 8, 7, 6, 5,
          4, 3, 2, 1, 0x80, 0, 0x401000, 0x08, 0x202, 0x7000, 0x10, 0x77] ∧
      Kernel.takeInterrupt systemCall (.boot ⟨0xa0, 0xa2, 0xa3, 0xa4⟩ .zero) =
        ⟨.ok (systemCall.regs, systemCall.back),
          { Kernel.boot ⟨0xa0, 0xa2, 0xa3, 0xa4⟩ .zero with lastVector := 0x80 }, []⟩ := by
  obtain ⟨stack, -, -, -, returns⟩ :=
    interrupt_round_trip ⟨0xa0, 0xa2, 0xa3, 0xa4⟩ systemCall [0x77]
  have past : 32 ≤ systemCall.vector.toNat := by decide
  exact ⟨past, stack, returns (.boot ⟨0xa0, 0xa2, 0xa3, 0xa4⟩ .zero) past⟩

end Bringup
