import Bringup.Proofs.FillWrites
import Bringup.Proofs.PanicOnce
import Bringup.Proofs.TestInterrupts

/-!
# The history of a screen

After it was attached a screen changes only by fills, and a fill either paints all shown pixels or
nothing. So the memory of a screen that was uniform when it was attached has at most two values at
any time, one at the shown positions and one at all others (`Screen.TwoToned`). The steps that fill
are those that clear with the lock of the console free, in the background colour, and the first that
panics, in black (`Kernel.fillColor?`). What is shown after a run is what the last fill that came to
its end left (`Kernel.screen_after_attach`).
-/

namespace Bringup

open Activity (Keeps keeps_getState)

/-! ## Two tones -/

/-- A screen whose memory holds one value at all shown positions and one at all others. -/
structure Screen.TwoToned (fb : Framebuffer) (size : Nat) (shown hidden : UInt32)
    (screen : Screen) : Prop where
  framebuffer : screen.framebuffer = fb
  size_eq : screen.pixels.size = size
  shown : ∀ p < size, fb.Shows p → screen.pixels[p]? = some shown
  hidden : ∀ p < size, ¬ fb.Shows p → screen.pixels[p]? = some hidden

namespace Screen

variable {fb : Framebuffer} {size : Nat} {shown hidden : UInt32} {before after : Screen}

theorem twoToned_replicate (fb : Framebuffer) (size : Nat) (value : UInt32) :
    TwoToned fb size value value ⟨fb, .replicate size value⟩ := by
  have everywhere : ∀ p < size, (Array.replicate size value)[p]? = some value := by
    intro p inMemory
    simp [inMemory]
  refine ⟨rfl, Array.size_replicate, ?_, ?_⟩
  · intro p inMemory _
    exact everywhere p inMemory
  · intro p inMemory _
    exact everywhere p inMemory

/-- A fill gives all shown pixels a new value and leaves the others. -/
theorem TwoToned.paintedIn {color : Color} (toned : before.TwoToned fb size shown hidden)
    (painted : before.PaintedIn color after) :
    ∃ pixel, fb.format.encode color = .ok pixel ∧ after.TwoToned fb size pixel hidden := by
  obtain ⟨rfl, rfl, -, rest⟩ := toned
  obtain ⟨framebuffer, pixel, encoded, size_eq, inside, outside⟩ := painted
  refine ⟨pixel, encoded, framebuffer, size_eq, inside, ?_⟩
  intro p inMemory notShown
  rw [outside p notShown]
  exact rest p inMemory notShown

end Screen

/-- From one value to another by fills in some colours: the last one decides, if there is any. -/
def PixelFormat.LeftBy (format : PixelFormat) (colors : List Color) (before after : UInt32) :
    Prop :=
  match colors.getLast? with
  | none => after = before
  | some color => format.encode color = .ok after

theorem PixelFormat.LeftBy.append {format : PixelFormat} {first second : List Color}
    {before middle after : UInt32} (left : format.LeftBy first before middle)
    (later : format.LeftBy second middle after) : format.LeftBy (first ++ second) before after := by
  unfold LeftBy at left later ⊢
  rw [List.getLast?_append]
  cases last : second.getLast? with
  | none =>
      rw [last] at later
      dsimp only at later
      subst later
      simpa using left
  | some color =>
      rw [last] at later
      exact later

/-- A fill that faults in a memory with all of its rows has not written anything. -/
theorem Framebuffer.writes_of_fault {fb : Framebuffer} {color : Color} {memory : Array UInt32}
    {cause : Fault} (faults : fb.fill color memory = .error cause)
    (indexed : memory.size < UInt64.size)
    (rows : ∀ y < fb.height.toNat, y * fb.stride.toNat + fb.width.toNat ≤ memory.size) :
    fb.writes color = [] := by
  by_cases fits : fb.format.Fits
  · obtain ⟨painted, filled⟩ := exists_fill fits
      (fun y below => by have inMemory := rows y below; omega) color memory
    rw [faults] at filled
    cases filled
  · rw [writes, PixelFormat.encode_of_not_fits fits]

namespace Kernel

variable {k : Kernel} {s : Step} {color : Color} {screen : Screen} {cause : Fault}

/-! ## Fills in a step -/

/-- The colour in which a step sets out to fill the screen, if it does: a clear that gets the lock
of the console in the background colour, the first panic in black. -/
def fillColor? (k : Kernel) : Step → Option Color
  | .clear => if k.holds .console then none else some k.console.background
  | s => if s.panics && !k.panicking then some .black else none

/-- The colour of the fill that comes to its end in a step, if there is one. -/
def completedFill? (k : Kernel) (s : Step) : Option Color :=
  (k.fillColor? s).filter fun color =>
    k.console.screen.any fun screen => (screen.fill color).isOk

/-- The colours of the fills that come to their end in a run, in order. -/
def fills (k : Kernel) : List (Step × List UInt8) → List Color
  | [] => []
  | s :: steps => (k.completedFill? s.1).toList ++ fills (k.step s.1 s.2).state steps

theorem fillColor?_eq_some_iff :
    k.fillColor? s = some color ↔
      (s = .clear ∧ k.holds .console = false ∧ k.console.background = color) ∨
        (s.panics = true ∧ k.panicking = false ∧ .black = color) := by
  by_cases clears : s = .clear
  · subst clears
    have noPanic : Step.panics .clear = false := rfl
    simp [fillColor?, noPanic]
  · have black : k.fillColor? s = if s.panics && !k.panicking then some .black else none := by
      cases s <;> first | rfl | exact absurd rfl clears
    simp [black, clears, and_assoc]

theorem settled_screen : Settled fun k : Kernel => k.console.screen where
  input _ _ := rfl
  com1 _ _ := rfl
  setHeld k held lock := by
    cases lock <;> rfl
  colors _ _ _ := rfl
  processor _ _ := rfl
  frames _ _ := rfl

/-! ## Clearing -/

theorem screen_wipe (fills : k.FillsWith k.console.background) :
    Option.Rel (Screen.PaintedIn k.console.background) k.console.screen
      (wipe k).state.console.screen := by
  obtain ⟨screen, painted, filled⟩ := fillScreen_eq fills
  have cleared : Keeps (fun k : Kernel => k.console.screen) (do
      let console := (← Activity.getState).console
      print (clearSequence console.foreground console.background)) :=
    keeps_getState.bind fun k => settled_screen.print _
  have wiped : wipe k = _ := Activity.bind_of_ok filled
  have kept : (wipe k).state.console.screen = screen := by
    rw [wiped]
    exact cleared _
  rwa [kept]

theorem screen_clear (free : k.holds .console = false) (fills : k.FillsWith k.console.background) :
    Option.Rel (Screen.PaintedIn k.console.background) k.console.screen
      (perform .clear k).state.console.screen := by
  rw [perform, andReply_apply, clear, withLock_of_free free]
  dsimp only
  rw [settled_screen.giveBack]
  exact screen_wipe (k := k.setHeld true .console) fills

theorem perform_clear_of_fault (free : k.holds .console = false)
    (attached : k.console.screen = some screen)
    (faults : screen.fill k.console.background = .error cause) :
    (perform .clear k).result = .error (.fault cause) ∧
      (perform .clear k).state.console.screen = k.console.screen := by
  have wiped : wipe (k.setHeld true .console) = _ :=
    Activity.bind_of_error (fillScreen_of_fault attached faults)
  rw [perform, andReply_apply, clear, withLock_of_free free, wiped]
  exact ⟨rfl, rfl⟩

/-! ## The first panic -/

section Panic

variable (panics : s.panics = true)

include panics

theorem screen_of_first_panic (first : k.panicking = false) (fills : k.FillsWith .black) :
    Option.Rel (Screen.PaintedIn .black) k.console.screen (perform s k).state.console.screen := by
  obtain ⟨frame, reason, place, same⟩ := perform_of_panics panics k
  have shows := showsReport_panicAt (α := Reply)
    (k := { k with lastVector := s.trapVector?.getD k.lastVector }) first fills frame reason place
  rw [same]
  exact shows.screen

theorem perform_first_panic_of_fault (first : k.panicking = false)
    (attached : k.console.screen = some screen) (faults : screen.fill .black = .error cause) :
    (perform s k).result = .error (.fault cause) ∧
      (perform s k).state.console.screen = k.console.screen := by
  obtain ⟨frame, reason, place, same⟩ := perform_of_panics panics k
  have ended := panicAt_of_fault (α := Reply)
    (k := { k with lastVector := s.trapVector?.getD k.lastVector }) first attached faults
    frame reason place
  rw [same, ended]
  exact ⟨rfl, rfl⟩

theorem screen_of_repeated_panic (again : k.panicking = true) :
    (perform s k).state.console.screen = k.console.screen := by
  obtain ⟨frame, reason, place, same⟩ := perform_of_panics panics k
  have ended := panicAt_of_repeated (α := Reply)
    (k := { k with lastVector := s.trapVector?.getD k.lastVector }) again frame reason place
  rw [same, ended]

end Panic

/-! ## The screen after a step -/

/-- A trap that is no exception leaves the screen alone, and so do the self tests. -/
theorem keeps_screen_of_trap (traps : s.canTrap = true) (noPanic : s.panics = false) :
    Keeps (fun k : Kernel => k.console.screen) (perform s) := by
  cases s with
  | dispatch frame =>
      have past : 32 ≤ frame.vector.toNat := Nat.not_lt.1 (of_decide_eq_false noPanic)
      intro k
      rw [perform_dispatch_apply, handleTrap_of_le past]
  | interrupt i =>
      intro k
      have past : 32 ≤ (i.frame k.control).vector.toNat := by
        rw [toNat_frame_vector]
        exact Nat.not_lt.1 (of_decide_eq_false noPanic)
      rw [perform_interrupt_apply, takeInterrupt_apply, handleTrap_of_le past]
  | panic frame reason place => cases noPanic
  | selfTest regions =>
      refine settled_screen.offscreen.selfTest (fun k => ?_) regions
      rw [softwareInterruptsReturn_apply]
  | _ => cases traps

/-- A step that neither attaches a screen nor sets out to fill it leaves it alone. -/
theorem screen_of_no_fill (stays : ∀ screen, s ≠ .attach screen) (noFill : k.fillColor? s = none) :
    (perform s k).state.console.screen = k.console.screen := by
  have noColor : ∀ color, k.fillColor? s ≠ some color := by
    intro color
    rw [noFill]
    exact nofun
  cases traps : s.canTrap with
  | true =>
      cases panics : s.panics with
      | false => exact keeps_screen_of_trap traps panics k
      | true =>
          cases flag : k.panicking with
          | false => exact absurd (fillColor?_eq_some_iff.2 (.inr ⟨panics, flag, rfl⟩)) (noColor _)
          | true => exact screen_of_repeated_panic panics flag
  | false =>
      cases still : s.changesScreen with
      | false => exact settled_screen.perform traps still k
      | true =>
          cases s with
          | clear =>
              cases held : k.holds .console with
              | false =>
                  exact absurd (fillColor?_eq_some_iff.2 (.inl ⟨rfl, held, rfl⟩)) (noColor _)
              | true => rw [perform, andReply_apply, clear, withLock_of_held held]
          | attach screen => exact absurd rfl (stays screen)
          | _ => cases still

/-- A step that sets out to fill a screen that can be filled fills it. -/
theorem screen_of_fill (sets : k.fillColor? s = some color)
    (attached : k.console.screen = some screen) {filled : Screen}
    (fill : screen.fill color = .ok filled) :
    ∃ after, (perform s k).state.console.screen = some after ∧ screen.PaintedIn color after := by
  have fills : k.FillsWith color := by
    intro other same
    rw [attached] at same
    cases same
    exact ⟨filled, fill⟩
  have related :
      Option.Rel (Screen.PaintedIn color) k.console.screen (perform s k).state.console.screen := by
    rcases fillColor?_eq_some_iff.1 sets with ⟨rfl, free, rfl⟩ | ⟨panics, first, rfl⟩
    · exact screen_clear free fills
    · exact screen_of_first_panic panics first fills
  rw [attached] at related
  generalize (perform s k).state.console.screen = left at related
  cases related with
  | some painted => exact ⟨_, rfl, painted⟩

/-- A step that sets out to fill a screen that cannot be filled ends in the fault and leaves the
screen alone. -/
theorem screen_of_fault (sets : k.fillColor? s = some color)
    (attached : k.console.screen = some screen) (faults : screen.fill color = .error cause) :
    (perform s k).result = .error (.fault cause) ∧
      (perform s k).state.console.screen = k.console.screen := by
  rcases fillColor?_eq_some_iff.1 sets with ⟨rfl, free, rfl⟩ | ⟨panics, first, rfl⟩
  · exact perform_clear_of_fault free attached faults
  · exact perform_first_panic_of_fault panics first attached faults

/-! ## The screen after a run -/

/-- A screen is attached and its memory holds one value at the shown positions and one at all
others. -/
def Displays (k : Kernel) (fb : Framebuffer) (size : Nat) (shown hidden : UInt32) : Prop :=
  ∃ screen, k.console.screen = some screen ∧ screen.TwoToned fb size shown hidden

section Runs

variable {fb : Framebuffer} {size : Nat} {shown hidden : UInt32}

/-- A step leaves two tones, of which only the shown one may have changed. -/
theorem Displays.step (displays : k.Displays fb size shown hidden)
    (stays : ∀ screen, s ≠ .attach screen) (input : List UInt8) :
    ∃ after, (k.step s input).state.Displays fb size after hidden ∧
      fb.format.LeftBy (k.completedFill? s).toList shown after := by
  obtain ⟨screen, attached, toned⟩ := displays
  cases sets : k.fillColor? s with
  | none =>
      have same : (k.step s input).state.console.screen = k.console.screen :=
        screen_of_no_fill (k := { k with input }) stays sets
      refine ⟨shown, ⟨screen, same.trans attached, toned⟩, ?_⟩
      rw [completedFill?, sets]
      rfl
  | some color =>
      cases filled : screen.fill color with
      | error cause =>
          have ended := screen_of_fault (k := { k with input }) sets attached filled
          refine ⟨shown, ⟨screen, ended.2.trans attached, toned⟩, ?_⟩
          have none : k.completedFill? s = none := by
            simp [completedFill?, sets, attached, filled, Except.isOk, Except.toBool]
          rw [none]
          rfl
      | ok painted =>
          obtain ⟨after, here, painting⟩ :=
            screen_of_fill (k := { k with input }) sets attached filled
          have completed : k.completedFill? s = some color := by
            simp [completedFill?, sets, attached, filled, Except.isOk, Except.toBool]
          obtain ⟨pixel, encoded, after_toned⟩ := toned.paintedIn painting
          refine ⟨pixel, ⟨after, here, after_toned⟩, ?_⟩
          rw [completed]
          exact encoded

/-- A run leaves two tones, and the shown one is what the last fill left. -/
theorem Displays.after (displays : k.Displays fb size shown hidden)
    (steps : List (Step × List UInt8)) (stays : ∀ s ∈ steps, ∀ screen, s.1 ≠ .attach screen) :
    ∃ after, (k.after steps).Displays fb size after hidden ∧
      fb.format.LeftBy (k.fills steps) shown after := by
  induction steps generalizing k shown with
  | nil => exact ⟨shown, displays, rfl⟩
  | cons s steps ih =>
      obtain ⟨middle, there, stepped⟩ := displays.step (stays s List.mem_cons_self) s.2
      obtain ⟨after, here, later⟩ := ih there fun s mem => stays s (List.mem_cons_of_mem _ mem)
      exact ⟨after, here, stepped.append later⟩

/-- A screen that was attached is there, whatever was there before. -/
theorem displays_attach {input : List UInt8}
    (attached : (k.step (.attach screen) input).result = .ok .done)
    (toned : screen.TwoToned fb size shown hidden) :
    (k.step (.attach screen) input).state.Displays fb size shown hidden := by
  cases held : ({ k with input } : Kernel).holds .console with
  | false =>
      refine ⟨screen, ?_, toned⟩
      rw [step, perform, andReply_apply, attach, withLock_of_free held]
      rfl
  | true =>
      rw [step, perform, andReply_apply, attach, withLock_of_held held] at attached
      cases attached

end Runs

/-- **What is on the screen.** Attach a screen with any geometry and format, on any amount of memory
that holds one value, in any kernel in which the lock of the console is free, and then take any
steps that attach no other. After each of them the memory holds one value at all shown positions and
still the first value at all others. The shown positions hold the first value too, as long as no
fill has come to its end, and else the encoding of the colour of the last fill that did: of the
background colour in force if that was a clear, of black if it was the first panic. If the next step
sets out to fill a screen that cannot be filled, it ends in the fault and leaves the screen as it
was, and if all rows lie in the memory then nothing was written before the fault. -/
theorem screen_after_attach {k : Kernel} {fb : Framebuffer} {size : Nat} {value : UInt32}
    {input : List UInt8}
    (attached : (k.step (.attach ⟨fb, .replicate size value⟩) input).result = .ok .done)
    {steps : List (Step × List UInt8)}
    (stays : ∀ s ∈ steps, ∀ screen, s.1 ≠ .attach screen) (j : Nat) :
    let start := (k.step (.attach ⟨fb, .replicate size value⟩) input).state
    let l := start.after (steps.take j)
    (∃ shown, l.Displays fb size shown value ∧
        fb.format.LeftBy (start.fills (steps.take j)) value shown) ∧
      ∀ s input color screen cause, l.fillColor? s = some color →
        l.console.screen = some screen → screen.fill color = .error cause →
          (l.step s input).result = .error (.fault cause) ∧
          (l.step s input).state.console.screen = some screen ∧
          (size < UInt64.size →
            (∀ y < fb.height.toNat, y * fb.stride.toNat + fb.width.toNat ≤ size) →
              fb.writes color = []) := by
  intro start l
  have first : start.Displays fb size value value :=
    displays_attach attached (Screen.twoToned_replicate fb size value)
  obtain ⟨shown, displays, left⟩ := first.after (steps.take j)
    fun s mem => stays s (List.mem_of_mem_take mem)
  refine ⟨⟨shown, displays, left⟩, ?_⟩
  intro s input color screen cause sets here faults
  obtain ⟨ended, same⟩ := screen_of_fault (k := { l with input }) sets here faults
  refine ⟨ended, same.trans here, fun indexed rows => ?_⟩
  obtain ⟨other, there, toned⟩ := displays
  obtain rfl : screen = other := Option.some.inj (here.symm.trans there)
  obtain ⟨rfl, rfl, -, -⟩ := toned
  rw [Screen.fill_eq] at faults
  cases filled : screen.framebuffer.fill color screen.pixels with
  | ok pixels =>
      rw [filled] at faults
      cases faults
  | error cause => exact Framebuffer.writes_of_fault filled indexed rows

/-- A run on an attached screen: a clear in blue, other colours, and then a page fault. -/
def paintedRun : List (Step × List UInt8) :=
  [(.setColors .red .blue, []), (.clear, []), (.setColors .white .green, []),
    (.dispatch pageFaultFrame, [])]

/-- The screen is blue until the page fault and black after it, and the padding of its rows is what
it was. With red right after the pixel it is never filled, and the clear faults before its first
write. -/
theorem screen_of_paintedRun :
    let fresh := boot ⟨0xa0, 0xa2, 0xa3, 0xa4⟩ .zero
    let fb (format : PixelFormat) : Framebuffer := ⟨2, 2, 3, format⟩
    let start (format : PixelFormat) : Kernel :=
      (fresh.step (.attach ⟨fb format, .replicate 6 0xdeadbeef⟩) []).state
    let inPixel : PixelFormat := smallHandoff.framebuffer.format
    ((start inPixel).after (paintedRun.take 3)).Displays (fb inPixel) 6 0xaa 0xdeadbeef ∧
      ((start inPixel).after paintedRun).Displays (fb inPixel) 6 0 0xdeadbeef ∧
      (((start redPastPixel).after (paintedRun.take 1)).step .clear []).result =
        .error (.fault .shiftOverflow) ∧
      (fb redPastPixel).writes .blue = [] := by
  intro fresh fb start inPixel
  have attached : ∀ format,
      (fresh.step (.attach ⟨fb format, .replicate 6 0xdeadbeef⟩) []).result = .ok .done :=
    fun _ => rfl
  have stays : ∀ s ∈ paintedRun, ∀ screen, s.1 ≠ .attach screen := by
    simp [paintedRun]
  obtain ⟨⟨blue, blueDisplays, blueLeft⟩, -⟩ := screen_after_attach (attached inPixel) stays 3
  obtain ⟨⟨black, blackDisplays, blackLeft⟩, -⟩ := screen_after_attach (attached inPixel) stays 4
  obtain ⟨-, faults⟩ := screen_after_attach (attached redPastPixel) stays 1
  have blueFills : (start inPixel).fills (paintedRun.take 3) = [.blue] := by decide
  have blackFills : (start inPixel).fills (paintedRun.take 4) = [.blue, .black] := by decide
  rw [blueFills] at blueLeft
  rw [blackFills] at blackLeft
  obtain rfl : 0xaa = blue :=
    Except.ok.inj ((show (fb inPixel).format.encode .blue = .ok 0xaa by decide).symm.trans blueLeft)
  obtain rfl : 0 = black :=
    Except.ok.inj ((show (fb inPixel).format.encode .black = .ok 0 by decide).symm.trans blackLeft)
  obtain ⟨ended, -, nothing⟩ := faults .clear [] .blue ⟨fb redPastPixel, .replicate 6 0xdeadbeef⟩
    .shiftOverflow rfl rfl rfl
  exact ⟨blueDisplays, blackDisplays, ended, nothing (by decide) (by decide)⟩

end Kernel

end Bringup
