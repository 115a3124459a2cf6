import Bringup.Kernel.Panic
import Bringup.Proofs.Output
import Bringup.Proofs.Painting

/-!
# The report of a panic

What the first panic shows does not depend on what it interrupted. It breaks both locks before it
asks for them and sets its own colours before it clears, so it starts the report in the same kernel
whoever held a lock and whatever the colours were (`Kernel.panicAt_of_first`). From there on every
part comes to its end: the sinks get the clear sequence and the whole report, the screen turns
black, and the processor halts with both locks free (`Kernel.report_of_first_panic`).
-/

namespace Bringup

/-- The text of the panic screen: red on black, everything cleared, the cursor at home, and the
report. -/
def Report.screenText (r : Report) : String :=
  "\x1b[31m\x1b[40m\x1b[2J\x1b[H" ++ r.full

/-- It is what the console sends when it is cleared in the panic colours, and then the report line
by line. -/
theorem Report.screenText_eq (r : Report) :
    r.screenText = clearSequence .red .black ++ String.join r.pieces := by
  have codes : clearSequence .red .black = "\x1b[31m\x1b[40m\x1b[2J\x1b[H" := by decide
  rw [codes]
  rfl

namespace Kernel

variable {k : Kernel}

/-! ## Clearing the screen -/

/-- The kernel with a console in place of its own. -/
def withConsole (k : Kernel) (console : Console) : Kernel :=
  { k with console }

/-- Whether the attached screen, if there is one, can be filled with a colour. -/
def FillsWith (k : Kernel) (color : Color) : Prop :=
  ∀ screen, k.console.screen = some screen → ∃ filled, screen.fill color = .ok filled

/-- A screen that can be filled takes the background colour. -/
theorem fillScreen_eq (fills : k.FillsWith k.console.background) :
    ∃ screen, Option.Rel (Screen.PaintedIn k.console.background) k.console.screen screen ∧
      fillScreen k = ⟨.ok (), k.withConsole { k.console with screen }, []⟩ := by
  rcases k with ⟨input, com1, com1Held, ⟨foreground, background, screen⟩, consoleHeld⟩
  cases screen with
  | none => exact ⟨none, .none, rfl⟩
  | some screen =>
      obtain ⟨filled, painted⟩ := fills screen rfl
      refine ⟨some filled, .some (Screen.painted_of_fill painted), ?_⟩
      dsimp only at painted
      show (do
        let filled ← Activity.ofExcept ((screen.fill background).mapError Stop.fault)
        modifyConsole fun c => { c with screen := some filled } : KernelActivity Unit) _ = _
      rw [painted]
      rfl

/-- The screen takes the background colour and the sinks the sequence that clears a terminal. -/
theorem emits_wipe (free : k.holds .com1 = false) (fills : k.FillsWith k.console.background) :
    ∃ screen, Option.Rel (Screen.PaintedIn k.console.background) k.console.screen screen ∧
      (k.withConsole { k.console with screen }).Emits
        (k.received (clearSequence k.console.foreground k.console.background)) (wipe k) := by
  obtain ⟨screen, painted, filled⟩ := fillScreen_eq fills
  have wiped : wipe k = _ := Activity.bind_of_ok filled
  refine ⟨screen, painted, ?_⟩
  rw [wiped]
  exact emits_print (k := k.withConsole { k.console with screen }) free _

/-! ## The panic screen -/

/-- Texts on the panic screen: the colours are set, the screen is painted, and the sinks get the
clear sequence and then the texts. -/
theorem emits_showOnPanicScreen (freeConsole : k.holds .console = false)
    (freeCom1 : k.holds .com1 = false) (fills : k.FillsWith .black) (texts : List String) :
    ∃ screen, Option.Rel (Screen.PaintedIn .black) k.console.screen screen ∧
      (k.withConsole ⟨.red, .black, screen⟩).Emits
        (k.received (clearSequence .red .black ++ String.join texts))
        (showOnPanicScreen texts k) := by
  let locked : Kernel := k.setHeld true .console
  obtain ⟨screen, painted, wiped⟩ := emits_wipe
    (k := locked.withConsole ⟨.red, .black, k.console.screen⟩) freeCom1 fills
  have printed : ∀ input,
      ((locked.withConsole ⟨.red, .black, screen⟩).withInput input).Emits
        (k.received (String.join texts))
        (printAll texts ((locked.withConsole ⟨.red, .black, screen⟩).withInput input)) :=
    fun input => emits_printAll
      (k := (locked.withConsole ⟨.red, .black, screen⟩).withInput input) freeCom1 texts
  have shown := wiped.andThen printed
  refine ⟨screen, painted, .withLock freeConsole freeConsole ?_⟩
  exact shown.congr fun port => (received_append k _ _ port).symm

/-! ## The report -/

/-- The kernel that a panic has taken over: no interrupts, no locks, and the flag set. -/
def takenOver (k : Kernel) : Kernel :=
  { k with
    processor := { k.processor with interruptsEnabled := false }
    panicking := true
    consoleHeld := false
    com1Held := false }

/-- The first panic shows its report on a kernel that it has taken over. -/
theorem panicAt_of_first {α : Type} (first : k.panicking = false) (frame : Option TrapFrame)
    (reason : String) (place : Log.Location) :
    (panicAt frame reason place k : Outcome Stop Kernel α) =
      let o : Outcome Stop Kernel α :=
        (do showOnPanicScreen (Report.pieces ⟨frame.getD k.callFrame, reason, place⟩)
            haltForever) k.takenOver
      ⟨o.result, o.state, .cli :: o.events⟩ := by
  rw [← Report.shown_eq_pieces]
  rcases k with ⟨input, com1, com1Held, console, consoleHeld, panicking⟩
  cases first
  rfl

/-- What a panic after the first does to the machine. -/
def repeatedPanicEvents : List Event :=
  .cli :: ((Text.encode "\nKernel panic while panicking\n").map (.out8 0xe9) ++ [.cli, .hlt])

/-- A panic after the first leaves a line on the debug console and halts, whoever holds a lock. -/
theorem panicAt_of_repeated {α : Type} (again : k.panicking = true) (frame : Option TrapFrame)
    (reason : String) (place : Log.Location) :
    (panicAt frame reason place k : Outcome Stop Kernel α) =
      ⟨.error .halted, { k with processor := { k.processor with interruptsEnabled := false } },
        repeatedPanicEvents⟩ := by
  rcases k with ⟨input, com1, com1Held, console, consoleHeld, panicking⟩
  cases again
  rfl

/-- The kernel with other locks held and other colours in force. -/
def withLocksAndColors (k : Kernel) (consoleHeld com1Held : Bool) (foreground background : Color) :
    Kernel :=
  { k with
    consoleHeld
    com1Held
    console := { k.console with foreground, background } }

/-- What was held and which colours were in force is lost before anything is shown. -/
theorem showOnPanicScreen_takenOver (k : Kernel) (texts : List String) (consoleHeld com1Held : Bool)
    (foreground background : Color) :
    showOnPanicScreen texts
        (k.withLocksAndColors consoleHeld com1Held foreground background).takenOver =
      showOnPanicScreen texts k.takenOver := by
  -- the colours are set as soon as the lock is there, which leaves two equal kernels
  have free : ∀ l : Kernel, l.takenOver.holds .console = false := fun _ => rfl
  unfold showOnPanicScreen
  rw [withLock_of_free (free _), withLock_of_free (free _)]
  rfl

/-- An outcome of a panic that has shown a report: the debug console got all of its text, and so did
COM1 if it is up, and no other port got a byte, the screen turned black, and the kernel is halted
with both locks free and the flag set. -/
structure ShowsReport {α : Type} (k : Kernel) (report : Report) (o : Outcome Stop Kernel α) :
    Prop where
  halted : o.result = .error .halted
  debugText : Event.written 0xe9 o.events = Text.encode report.screenText
  com1Text : Event.written 0x3f8 o.events =
    if k.com1.isOk then Text.encode report.screenText else []
  silent : ∀ port, port ≠ 0xe9 → port ≠ 0x3f8 → Event.written port o.events = []
  screen : Option.Rel (Screen.PaintedIn .black) k.console.screen o.state.console.screen
  state : o.state =
    { k with
      input := o.state.input
      console := ⟨.red, .black, o.state.console.screen⟩
      consoleHeld := false
      com1Held := false
      panicking := true
      processor := { k.processor with interruptsEnabled := false } }

/-- The first panic shows its report, if the screen can be filled. -/
theorem showsReport_panicAt {α : Type} (first : k.panicking = false) (fills : k.FillsWith .black)
    (frame : Option TrapFrame) (reason : String) (place : Log.Location) :
    k.ShowsReport ⟨frame.getD k.callFrame, reason, place⟩
      (panicAt frame reason place k : Outcome Stop Kernel α) := by
  obtain ⟨screen, painted, shown⟩ := emits_showOnPanicScreen (k := k.takenOver) rfl rfl fills
    (Report.pieces ⟨frame.getD k.callFrame, reason, place⟩)
  rw [← Report.screenText_eq] at shown
  obtain ⟨input, events, written, ended⟩ := shown.bind (haltForever : KernelActivity α)
  have ran : (panicAt frame reason place k : Outcome Stop Kernel α) =
      ⟨.error .halted, (k.takenOver.withConsole ⟨.red, .black, screen⟩).withInput input,
        .cli :: (events ++ [.cli, .hlt])⟩ := by
    rw [panicAt_of_first first]
    show (⟨_, _, _⟩ : Outcome Stop Kernel α) = _
    rw [ended]
    rfl
  -- masking and halting write nothing, so the ports got what the screen sent
  have received : ∀ port, Event.written port (.cli :: (events ++ [.cli, .hlt])) =
      k.received (Report.screenText ⟨frame.getD k.callFrame, reason, place⟩) port := by
    intro port
    show Event.written port (events ++ [.cli, .hlt]) = _
    rw [Event.written_append, written]
    exact List.append_nil _
  rw [ran]
  refine ⟨rfl, ?_, ?_, ?_, painted, rfl⟩
  · rw [received]
    exact if_pos (.inl rfl)
  · rw [received]
    simp [Kernel.received, com1Port, debugConsolePort]
  · intro port notDebug notCom1
    rw [received]
    exact if_neg (by simp [com1Port, debugConsolePort, notDebug, notCom1])

/-- Held locks and earlier colours make no difference to the first panic, even if it faults. -/
theorem panicAt_withLocksAndColors {α : Type} (first : k.panicking = false)
    (frame : Option TrapFrame) (reason : String) (place : Log.Location)
    (consoleHeld com1Held : Bool) (foreground background : Color) :
    (panicAt frame reason place (k.withLocksAndColors consoleHeld com1Held foreground background) :
      Outcome Stop Kernel α) = panicAt frame reason place k := by
  have other :
      (k.withLocksAndColors consoleHeld com1Held foreground background).panicking = false := first
  have same := Activity.bind_congr_state (f := fun _ => (haltForever : KernelActivity α))
    (k.showOnPanicScreen_takenOver (Report.pieces ⟨frame.getD k.callFrame, reason, place⟩)
      consoleHeld com1Held foreground background)
  rw [panicAt_of_first first, panicAt_of_first other]
  exact congrArg (fun o => Outcome.mk o.result o.state (.cli :: o.events)) same

/-- **The first panic.** Take a kernel that is not yet panicking, whoever holds its locks and
whatever its colours are, and a panic with any frame, reason and place. If the attached screen can
be filled, the sinks get the clear sequence in red on black and then the full report, the shown
pixels turn black, and the kernel ends halted, with both locks free, the panic colours in force and
the flag set. And whether or not the screen can be filled, a kernel that differs only in held locks
and in colours comes out the same in every respect. -/
theorem report_of_first_panic {α : Type} {k : Kernel} (first : k.panicking = false)
    (frame : Option TrapFrame) (reason : String) (place : Log.Location) :
    (k.FillsWith .black →
        k.ShowsReport ⟨frame.getD k.callFrame, reason, place⟩
          (panicAt frame reason place k : Outcome Stop Kernel α)) ∧
      ∀ consoleHeld com1Held foreground background,
        (panicAt frame reason place
            (k.withLocksAndColors consoleHeld com1Held foreground background) :
          Outcome Stop Kernel α) = panicAt frame reason place k := by
  constructor
  · intro fills
    exact showsReport_panicAt first fills frame reason place
  · intro consoleHeld com1Held foreground background
    exact panicAt_withLocksAndColors first frame reason place consoleHeld com1Held foreground
      background

/-- A kernel in which both locks are held, in colours that are not those of a panic, on a screen of
two by two pixels with a pixel of padding after each row. -/
def deadlocked : Kernel :=
  { Kernel.boot ⟨0xa0, 0xa2, 0xa3, 0xa4⟩ .zero with
    com1Held := true
    consoleHeld := true
    console := ⟨.pink, .yellow, some ⟨⟨2, 2, 3, ⟨⟨8, 16⟩, ⟨8, 8⟩, ⟨8, 0⟩⟩⟩, #[1, 2, 3, 4, 5, 6]⟩⟩ }

/-- What a panic without a frame reports of it, line by line. -/
def deadlockedLines : List String :=
  ["==================== KERNEL PANIC ====================\n",
    "Kernel panic @ 0x0000000000000000: No memory (vector 0xdeadbeef)\n",
    "In file: setup, line: 7\n", "Register dump:\n",
    "  CR0         : 0x00000000000000a0\n", "  CR2         : 0x00000000000000a2\n",
    "  CR3         : 0x00000000000000a3\n", "  CR4         : 0x00000000000000a4\n",
    "  RAX         : 0x0000000000000000\n", "  RBX         : 0x0000000000000000\n",
    "  RCX         : 0x0000000000000000\n", "  RDX         : 0x0000000000000000\n",
    "  RSI         : 0x0000000000000000\n", "  RDI         : 0x0000000000000000\n",
    "  RBP         : 0x0000000000000000\n", "  R8          : 0x0000000000000000\n",
    "  R9          : 0x0000000000000000\n", "  R10         : 0x0000000000000000\n",
    "  R11         : 0x0000000000000000\n", "  R12         : 0x0000000000000000\n",
    "  R13         : 0x0000000000000000\n", "  R14         : 0x0000000000000000\n",
    "  R15         : 0x0000000000000000\n", "  RIP         : 0x0000000000000000\n",
    "  CS          : 0x0000000000000000\n", "  RFLAGS      : 0x0000000000000000\n",
    "  RSP         : 0x0000000000000000\n", "  SS          : 0x0000000000000000\n",
    "  DS          : 0x0000000000000000\n", "  ES          : 0x0000000000000000\n",
    "  FS          : 0x0000000000000000\n", "  GS          : 0x0000000000000000\n",
    "  ERR         : 0x0000000000000000\n", "  VECTOR      : 0x00000000deadbeef\n",
    "Stack trace:\n", "  (not available)\n",
    "======================================================\n"]

/-- The panic gets its report out, and the same one as if nothing had been held and the colours had
been those of the start. -/
theorem report_of_deadlocked :
    let text := "\x1b[31m\x1b[40m\x1b[2J\x1b[H" ++ String.join deadlockedLines
    let o : Outcome Stop Kernel Unit := panicAt none "No memory" ⟨"setup", 7⟩ deadlocked
    deadlocked.panicking = false ∧ deadlocked.FillsWith .black ∧
      deadlocked.ShowsReport ⟨deadlocked.callFrame, "No memory", ⟨"setup", 7⟩⟩ o ∧
      Event.written 0xe9 o.events = Text.encode text ∧
      Event.written 0x3f8 o.events = Text.encode text ∧
      panicAt none "No memory" ⟨"setup", 7⟩
        (deadlocked.withLocksAndColors false false .white .black) = o := by
  intro text o
  have first : deadlocked.panicking = false := rfl
  obtain ⟨shows, same⟩ := report_of_first_panic (α := Unit) first none "No memory" ⟨"setup", 7⟩
  have fills : deadlocked.FillsWith .black := by
    intro screen attached
    cases attached
    exact ⟨⟨⟨2, 2, 3, ⟨⟨8, 16⟩, ⟨8, 8⟩, ⟨8, 0⟩⟩⟩, #[0, 0, 3, 0, 0, 6]⟩, by rfl⟩
  have lines :
      Report.pieces ⟨deadlocked.callFrame, "No memory", ⟨"setup", 7⟩⟩ = deadlockedLines := by
    decide +kernel
  have screenText : Report.screenText ⟨deadlocked.callFrame, "No memory", ⟨"setup", 7⟩⟩ = text :=
    congrArg (fun lines => "\x1b[31m\x1b[40m\x1b[2J\x1b[H" ++ String.join lines) lines
  have shown := shows fills
  have debugText := shown.debugText.trans (congrArg Text.encode screenText)
  have com1Text := shown.com1Text.trans (congrArg Text.encode screenText)
  exact ⟨first, fills, shown, debugText, com1Text, same false false .white .black⟩

end Kernel

end Bringup
