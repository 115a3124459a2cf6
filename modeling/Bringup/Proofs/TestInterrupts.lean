import Bringup.Proofs.PanicReport
import Bringup.Proofs.Runs

/-!
# The interrupts of the self tests

The self tests reach the one that fires software interrupts exactly if the tests before it pass.
Each part of them comes to its end under a condition on the kernel and else stops with the last
vector as it was (`Kernel.StopsUnless`), and conditions of parts that follow each other add up. So a
self test leaves the vector of its second interrupt behind exactly if it can be printed, segments
and gates are loaded and interrupts are enabled (`Kernel.lastVector_selfTest`).
-/

namespace Bringup

open Activity (Keeps keeps_pure keeps_getState)

namespace Kernel

/-! ## Firing interrupts -/

theorem fire_apply {vector : UInt8} (past : 32 ≤ vector.toNat) (k : Kernel) :
    fire vector k = ⟨.ok firedRegisters, { k with lastVector := vector.toUInt64 }, []⟩ := by
  let i : Interrupt := ⟨vector, 0, firedRegisters, ⟨0, 0, 0, 0⟩, ⟨0, 0, 0, 0, 0⟩⟩
  have handled : handleTrap (i.frame k.control) k =
      ⟨.ok (), { k with lastVector := vector.toUInt64 }, []⟩ := by
    apply handleTrap_of_le
    rw [toNat_frame_vector]
    exact past
  have taken : takeInterrupt i k =
      ⟨.ok (firedRegisters, i.back), { k with lastVector := vector.toUInt64 }, []⟩ := by
    rw [takeInterrupt_apply, handled]
    rfl
  exact Activity.bind_of_ok taken

/-- Both interrupts are fired before the first vector is looked at, so the test always fails. -/
theorem softwareInterruptsReturn_apply (k : Kernel) :
    softwareInterruptsReturn k =
      ⟨.error (.assertion (unequalMessage 0x21 0x80)), { k with lastVector := 0x21 }, []⟩ := by
  have first : fire 0x80 k = _ := fire_apply (by decide) k
  have second : fire 0x21 { k with lastVector := 0x80 } = _ := fire_apply (by decide) _
  rw [softwareInterruptsReturn, Activity.bind_of_ok first]
  dsimp only
  rw [show (0x80 : UInt8).toUInt64 = 0x80 from rfl, Activity.bind_of_ok second]
  rfl

/-! ## Parts that stop unless a condition holds -/

/-- Under a condition the activity comes to its end in the kernel it started from, but for what is
left to be read. Else it stops, with the last vector as it was. -/
structure StopsUnless (c : Kernel → Prop) (x : KernelActivity Unit) : Prop where
  passes : ∀ k, c k → ∃ input events, x k = ⟨.ok (), k.withInput input, events⟩
  stops : ∀ k, ¬ c k → ∃ reason, (x k).result = .error reason
  keeps : Keeps lastVector x

variable {c d : Kernel → Prop} {x y : KernelActivity Unit}

/-- Conditions that do not depend on what is left to be read add up. -/
theorem StopsUnless.andThen (first : StopsUnless c x) (second : StopsUnless d y)
    (settled : ∀ k input, d (k.withInput input) ↔ d k) :
    StopsUnless (fun k => c k ∧ d k) (do x; y) where
  passes := by
    rintro k ⟨here, there⟩
    obtain ⟨input, events, ran⟩ := first.passes k here
    obtain ⟨input', events', ranOn⟩ := second.passes _ ((settled k input).2 there)
    refine ⟨input', events ++ events', ?_⟩
    rw [Activity.bind_of_ok ran, ranOn]
    rfl
  stops := by
    intro k fails
    by_cases here : c k
    · obtain ⟨input, events, ran⟩ := first.passes k here
      have stuck : ¬ d (k.withInput input) := fun there =>
        fails ⟨here, (settled k input).1 there⟩
      rw [Activity.bind_of_ok ran]
      exact second.stops _ stuck
    · obtain ⟨reason, stopped⟩ := first.stops k here
      rcases ran : x k with ⟨result, l, events⟩
      rw [ran] at stopped
      dsimp only at stopped
      subst stopped
      rw [Activity.bind_of_error ran]
      exact ⟨reason, rfl⟩
  keeps := first.keeps.bind fun _ => second.keeps

theorem StopsUnless.congr (stops : StopsUnless c x) (same : ∀ k, c k ↔ d k) : StopsUnless d x :=
  (funext fun k => propext (same k) : c = d) ▸ stops

/-- What is decided by what is read of the state. -/
theorem stopsUnless_getState {f : Kernel → KernelActivity Unit}
    (next : ∀ k, StopsUnless (fun _ => c k) (f k)) :
    StopsUnless c (Activity.getState >>= f) := by
  constructor
  · intro k here
    rw [Activity.getState_bind_apply]
    exact (next k).passes k here
  · intro k fails
    rw [Activity.getState_bind_apply]
    exact (next k).stops k fails
  · exact keeps_getState.bind fun k => (next k).keeps

theorem stopsUnless_pure {p : Prop} (holds : p) :
    StopsUnless (fun _ => p) (pure () : KernelActivity Unit) :=
  ⟨fun k _ => ⟨k.input, [], rfl⟩, fun _ fails => absurd holds fails, keeps_pure ()⟩

theorem stopsUnless_stop {p : Prop} (fails : ¬ p) (reason : Stop) :
    StopsUnless (fun _ => p) (Activity.stop reason) :=
  ⟨fun _ holds => absurd holds fails, fun _ _ => ⟨reason, rfl⟩, Activity.keeps_stop reason⟩

theorem stopsUnless_assertEqual (left right : UInt64) :
    StopsUnless (fun _ => left = right) (assertEqual left right) := by
  unfold assertEqual
  split
  case isTrue same => exact stopsUnless_pure same
  case isFalse other => exact stopsUnless_stop other _

theorem stopsUnless_print (text : String) :
    StopsUnless (fun k => k.holds .com1 = false) (print text) where
  passes k free := by
    obtain ⟨result, state, -⟩ := emits_print free text
    refine ⟨(print text k).state.input, (print text k).events, ?_⟩
    rw [← result, ← state]
  stops k held := by
    have blocked := withLock_of_held (Bool.eq_true_of_not_eq_false held) (com1Print text)
    exact ⟨.blocked .com1, congrArg Outcome.result (Activity.bind_of_error blocked)⟩
  keeps := (settled_trapMarks Prod.snd).print text

/-! ## The tests -/

/-- Whether the kernel's own segments are in force. -/
def hasSegments (k : Kernel) : Prop :=
  k.processor.cs = Selector.kernelCode ∧ k.processor.ds = Selector.kernelData ∧
    k.processor.es = Selector.kernelData ∧ k.processor.ss = Selector.kernelData

instance (k : Kernel) : Decidable k.hasSegments :=
  inferInstanceAs (Decidable (_ ∧ _))

theorem stopsUnless_segmentsAreActive : StopsUnless hasSegments segmentsAreActive := by
  refine stopsUnless_getState fun k => ?_
  have widened : ∀ selector other : UInt16,
      selector.toUInt64 = other.toUInt64 ↔ selector = other := by
    intro selector other
    rw [← UInt64.toNat_inj, UInt16.toNat_toUInt64, UInt16.toNat_toUInt64, UInt16.toNat_inj]
  let p := k.processor
  have stack := stopsUnless_assertEqual p.ss.toUInt64 Selector.kernelData.toUInt64
  have extra := (stopsUnless_assertEqual p.es.toUInt64 Selector.kernelData.toUInt64).andThen stack
    fun _ _ => Iff.rfl
  have data := (stopsUnless_assertEqual p.ds.toUInt64 Selector.kernelData.toUInt64).andThen extra
    fun _ _ => Iff.rfl
  have compared := (stopsUnless_assertEqual p.cs.toUInt64 Selector.kernelCode.toUInt64).andThen data
    fun _ _ => Iff.rfl
  simp only [widened] at compared
  exact compared

theorem stopsUnless_gatesAreLoaded :
    StopsUnless (fun k => k.processor.gates.isSome) gatesAreLoaded := by
  refine stopsUnless_getState fun k => ?_
  cases k.processor.gates with
  | none => exact stopsUnless_stop (by decide) _
  | some gates => exact stopsUnless_pure rfl

theorem stopsUnless_assertInterruptsEnabled :
    StopsUnless (fun k => k.processor.interruptsEnabled = true) assertInterruptsEnabled := by
  refine stopsUnless_getState fun k => ?_
  cases k.processor.interruptsEnabled with
  | true => exact stopsUnless_pure rfl
  | false => exact stopsUnless_stop (by decide) _

/-- What the self tests do before the first interrupt is fired. -/
def earlierTests : KernelActivity Unit := do
  print ("Running " ++ Nat.repr testCount ++ " tests\n")
  runTest "gdt_is_active" segmentsAreActive
  runTest "idt_is_loaded" gatesAreLoaded
  runTest "interrupts_are_enabled" assertInterruptsEnabled
  print ("sphynx::selftest::" ++ "software_interrupts_return" ++ "...\t")

/-- The frame allocator that the self tests run over. -/
def testFrames (regions : Option (List Region)) : Except SetupError FrameAllocator :=
  (FrameAllocator.setup regions fun _ size => Array.replicate size.toNat 0).outcome

theorem selfTest_eq {α : Type} (regions : Option (List Region)) :
    (selfTest regions : KernelActivity α) = (do
      let frames ← Activity.ofExcept ((testFrames regions).mapError Stop.setup)
      Activity.modifyState fun k => { k with frames := some frames }
      earlierTests
      softwareInterruptsReturn
      print "[ok]\n"
      exitEmulator true
      haltForever) := by
  simp only [selfTest, selfTests, earlierTests, runTest, testFrames, List.forIn_cons,
    List.forIn_nil, bind_assoc, pure_bind]

/-- Whether the tests before the first interrupt pass. -/
def readyForInterrupts (k : Kernel) : Bool :=
  !k.holds .com1 && decide k.hasSegments && k.processor.gates.isSome &&
    k.processor.interruptsEnabled

theorem stopsUnless_runTest (test : StopsUnless c x)
    (settled : ∀ k input, c (k.withInput input) ↔ c k) (name : String) :
    StopsUnless (fun k => k.holds .com1 = false ∧ c k) (runTest name x) := by
  have marked := test.andThen (stopsUnless_print "[ok]\n") fun _ _ => Iff.rfl
  have named := (stopsUnless_print ("sphynx::selftest::" ++ name ++ "...\t")).andThen marked
    fun k input => and_congr_left fun _ => settled k input
  refine named.congr fun k => ?_
  constructor
  · rintro ⟨free, passes, -⟩
    exact ⟨free, passes⟩
  · rintro ⟨free, passes⟩
    exact ⟨free, passes, free⟩

theorem stopsUnless_earlierTests :
    StopsUnless (fun k => k.readyForInterrupts = true) earlierTests := by
  have segments := stopsUnless_runTest stopsUnless_segmentsAreActive
    (fun _ _ => Iff.rfl) "gdt_is_active"
  have gates := stopsUnless_runTest stopsUnless_gatesAreLoaded
    (fun _ _ => Iff.rfl) "idt_is_loaded"
  have enabled := stopsUnless_runTest stopsUnless_assertInterruptsEnabled
    (fun _ _ => Iff.rfl) "interrupts_are_enabled"
  have all := (stopsUnless_print ("Running " ++ Nat.repr testCount ++ " tests\n")).andThen
    (segments.andThen (gates.andThen (enabled.andThen
      (stopsUnless_print ("sphynx::selftest::" ++ "software_interrupts_return" ++ "...\t"))
      fun _ _ => Iff.rfl) fun _ _ => Iff.rfl) fun _ _ => Iff.rfl) fun _ _ => Iff.rfl
  refine all.congr fun k => ?_
  simp only [readyForInterrupts, Bool.and_eq_true, Bool.not_eq_true', decide_eq_true_eq]
  tauto

/-- Whether a self test over a memory map fires its interrupts. -/
def firesInterrupts (k : Kernel) (regions : Option (List Region)) : Bool :=
  (testFrames regions).isOk && k.readyForInterrupts

/-- A self test leaves the vector of its second interrupt behind if it fires any. -/
theorem lastVector_selfTest {α : Type} (regions : Option (List Region)) (k : Kernel) :
    (selfTest regions k : Outcome Stop Kernel α).state.lastVector =
      if k.firesInterrupts regions then 0x21 else k.lastVector := by
  unfold firesInterrupts
  rw [selfTest_eq]
  cases built : testFrames regions with
  | error cause => rfl
  | ok frames =>
      let l : Kernel := { k with frames := some frames }
      show ((do
        earlierTests
        softwareInterruptsReturn
        print "[ok]\n"
        exitEmulator true
        haltForever : KernelActivity α) l).state.lastVector = if k.readyForInterrupts then _ else _
      by_cases ready : k.readyForInterrupts = true
      · obtain ⟨input, events, ran⟩ := stopsUnless_earlierTests.passes l ready
        rw [if_pos ready, Activity.bind_of_ok ran,
          Activity.bind_of_error (softwareInterruptsReturn_apply _)]
      · obtain ⟨reason, stopped⟩ := stopsUnless_earlierTests.stops l ready
        have kept : (earlierTests l).state.lastVector = k.lastVector :=
          stopsUnless_earlierTests.keeps l
        rcases ran : earlierTests l with ⟨result, m, events⟩
        rw [ran] at stopped kept
        dsimp only at stopped kept
        subst stopped
        rw [if_neg ready, Activity.bind_of_error ran]
        exact kept

end Kernel

end Bringup
