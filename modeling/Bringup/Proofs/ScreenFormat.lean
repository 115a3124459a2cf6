import Bringup.Proofs.PanicReport

/-!
# Screens in the loader's format

The panic screen is painted before anything is written, so a report gets out only if the attached
screen can be filled. What decides that is the pixel format. Rows that lie in the memory of the
screen start where a row can be reached, so a fill ends well exactly if every channel starts inside
the pixel (`PixelFormat.Fits`, `Screen.exists_fill_iff`). The record that the loader hands over is
accepted with any channels, and on one that does not fit the first panic faults in black before its
first byte of text (`Kernel.report_on_loader_screen`).
-/

namespace Bringup

/-! ## Channels -/

/-- Whether a channel starts inside the pixel, if it has any bits at all. -/
def Channel.Fits (c : Channel) : Prop :=
  c.size = 0 ∨ c.shift < 32

/-- Whether every channel of a format fits. -/
structure PixelFormat.Fits (format : PixelFormat) : Prop where
  red : format.red.Fits
  green : format.green.Fits
  blue : format.blue.Fits

theorem Channel.exists_place {c : Channel} (fits : c.Fits) (component : UInt8) :
    ∃ bits, c.place component = .ok bits := by
  unfold Channel.place
  rcases fits with absent | inside
  · exact ⟨0, if_pos absent⟩
  · by_cases absent : c.size = 0
    · exact ⟨0, if_pos absent⟩
    · rw [if_neg absent]
      exact ⟨_, if_pos inside⟩

/-- A channel that does not fit is a fault for every component, zero included. -/
theorem Channel.place_of_not_fits {c : Channel} (misfit : ¬ c.Fits) (component : UInt8) :
    c.place component = .error .shiftOverflow := by
  have present : ¬ c.size = 0 := fun absent => misfit (.inl absent)
  have outside : ¬ c.shift < 32 := fun inside => misfit (.inr inside)
  rw [Channel.place, if_neg present]
  exact if_neg outside

namespace PixelFormat

variable {format : PixelFormat}

theorem exists_encode (fits : format.Fits) (color : Color) :
    ∃ pixel, format.encode color = .ok pixel := by
  obtain ⟨red, redPlaced⟩ := Channel.exists_place fits.red color.rgb.red
  obtain ⟨green, greenPlaced⟩ := Channel.exists_place fits.green color.rgb.green
  obtain ⟨blue, bluePlaced⟩ := Channel.exists_place fits.blue color.rgb.blue
  refine ⟨red ||| green ||| blue, ?_⟩
  rw [encode, redPlaced, greenPlaced, bluePlaced]
  rfl

/-- A format that does not fit encodes no colour. -/
theorem encode_of_not_fits (misfit : ¬ format.Fits) (color : Color) :
    format.encode color = .error .shiftOverflow := by
  unfold encode
  -- the channels before the first that does not fit are placed, and that one faults
  by_cases red : format.red.Fits
  · obtain ⟨_, redPlaced⟩ := Channel.exists_place red color.rgb.red
    rw [redPlaced]
    by_cases green : format.green.Fits
    · obtain ⟨_, greenPlaced⟩ := Channel.exists_place green color.rgb.green
      have blue : ¬ format.blue.Fits := fun blue => misfit ⟨red, green, blue⟩
      rw [greenPlaced, Channel.place_of_not_fits blue]
      rfl
    · rw [Channel.place_of_not_fits green]
      rfl
  · rw [Channel.place_of_not_fits red]
    rfl

theorem fits_of_encode {color : Color} {pixel : UInt32}
    (encoded : format.encode color = .ok pixel) : format.Fits := by
  by_cases fits : format.Fits
  · exact fits
  · rw [encode_of_not_fits fits] at encoded
    cases encoded

end PixelFormat

/-! ## The loader's record -/

/-- The description with another format in place of its own. -/
def FramebufferDescription.withFormat (d : FramebufferDescription) (format : PixelFormat) :
    FramebufferDescription :=
  { d with
    redSize := format.red.size
    redShift := format.red.shift
    greenSize := format.green.size
    greenShift := format.green.shift
    blueSize := format.blue.size
    blueShift := format.blue.shift }

/-- The record with another format for its framebuffer, if it has one. -/
def BootRecord.withFormat (record : BootRecord) (format : PixelFormat) : BootRecord :=
  { record with framebuffer := record.framebuffer.map fun d => d.withFormat format }

/-- The handoff with another format for its framebuffer. -/
def Handoff.withFormat (handoff : Handoff) (format : PixelFormat) : Handoff :=
  { handoff with framebuffer := handoff.framebuffer.withFormat format }

/-- A record is accepted if it has all three parts and its framebuffer is somewhere; nothing else
about them is looked at. -/
theorem BootRecord.validate?_eq_ok_iff {record : BootRecord} {handoff : Handoff} :
    validate? (some record) = .ok handoff ↔
      ∃ d memoryMap archive, record.framebuffer = some d ∧ d.address ≠ 0 ∧
        record.memoryMap = some memoryMap ∧ record.archive = some archive ∧
        handoff = ⟨loaderName record.loader, d, memoryMap, archive⟩ := by
  rcases record with ⟨loader, framebuffer, memoryMap, archive⟩
  cases framebuffer with
  | none => simp [validate?]
  | some d =>
      by_cases nowhere : d.address = 0
      · have dropped : (some d).filter (·.address != 0) = none := by
          simp [Option.filter, nowhere]
        simp [validate?, dropped, nowhere]
      · have kept : (some d).filter (·.address != 0) = some d := by
          simp [Option.filter, nowhere]
        rw [validate?]
        dsimp only
        rw [kept]
        cases memoryMap <;> cases archive <;> simp [nowhere, eq_comm]

/-- Nothing that a record says of its framebuffer but the address decides whether it is accepted. -/
theorem BootRecord.validate?_mapFramebuffer {record : BootRecord} {handoff : Handoff}
    (accepted : validate? (some record) = .ok handoff)
    (change : FramebufferDescription → FramebufferDescription)
    (stays : ∀ d, (change d).address = d.address) :
    validate? (some { record with framebuffer := record.framebuffer.map change }) =
      .ok { handoff with framebuffer := change handoff.framebuffer } := by
  obtain ⟨d, memoryMap, archive, framebuffer, somewhere, hasMap, hasArchive, rfl⟩ :=
    validate?_eq_ok_iff.1 accepted
  refine validate?_eq_ok_iff.2 ⟨change d, memoryMap, archive, ?_, ?_, hasMap, hasArchive, rfl⟩
  · rw [framebuffer]
    rfl
  · rwa [stays]

/-- A record is accepted whatever its format is. -/
theorem BootRecord.validate?_withFormat {record : BootRecord} {handoff : Handoff}
    (accepted : validate? (some record) = .ok handoff) (format : PixelFormat) :
    validate? (some (record.withFormat format)) = .ok (handoff.withFormat format) :=
  validate?_mapFramebuffer accepted (fun d => d.withFormat format) fun _ => rfl

/-! ## Fills -/

/-- Rows that start below the end of the address space can all be painted. -/
theorem exists_paintRows (fb : Framebuffer) (pixel : UInt32) {y rows : Nat}
    (below : y + rows < UInt64.size)
    (reachable : ∀ row, y ≤ row → row < y + rows → row * fb.stride.toNat < UInt64.size)
    (before : Array UInt32) : ∃ after, paintRows fb pixel y rows before = .ok after := by
  induction rows generalizing y before with
  | zero => exact ⟨before, rfl⟩
  | succ rows ih =>
      have index : (UInt64.ofNat y).toNat = y := UInt64.toNat_ofNat_of_lt' (by omega)
      have reached : Checked.mul (UInt64.ofNat y) fb.stride =
          .ok (UInt64.ofNat y * fb.stride) := by
        refine Checked.mul_eq_ok_iff.2 ⟨?_, rfl⟩
        rw [index]
        exact reachable y (Nat.le_refl y) (by omega)
      rw [paintRows, reached]
      exact ih (by omega) (fun row after before => reachable row (by omega) (by omega)) _

/-- A fill goes through if every channel fits and every row can be reached. -/
theorem Framebuffer.exists_fill {fb : Framebuffer} (fits : fb.format.Fits)
    (reachable : ∀ row < fb.height.toNat, row * fb.stride.toNat < UInt64.size) (color : Color)
    (before : Array UInt32) : ∃ after, fb.fill color before = .ok after := by
  obtain ⟨pixel, encoded⟩ := PixelFormat.exists_encode fits color
  have below : 0 + fb.height.toNat < UInt64.size := by
    rw [Nat.zero_add]
    exact fb.height.toNat_lt
  obtain ⟨after, painted⟩ := exists_paintRows fb pixel below
    (fun row _ early => reachable row (by omega)) before
  refine ⟨after, ?_⟩
  rw [fill, encoded]
  exact painted

/-- The screen is on the framebuffer that the loader describes: its memory begins at the address,
lies in the address space at four bytes to the pixel, and holds every row. -/
structure Screen.CameFrom (screen : Screen) (d : FramebufferDescription) : Prop where
  framebuffer : screen.framebuffer = Framebuffer.ofHandoff d
  addressable : d.address.toNat + 4 * screen.pixels.size ≤ UInt64.size
  rows : ∀ y < d.height.toNat,
    y * (d.pitch / 4).toNat + d.width.toNat ≤ screen.pixels.size

namespace Screen

variable {screen : Screen} {d : FramebufferDescription}

theorem fill_eq (screen : Screen) (color : Color) :
    screen.fill color =
      (screen.framebuffer.fill color screen.pixels).map fun pixels => { screen with pixels } := by
  unfold Screen.fill
  cases screen.framebuffer.fill color screen.pixels <;> rfl

theorem fill_of_not_fits (cameFrom : screen.CameFrom d) (misfit : ¬ d.format.Fits)
    (color : Color) : screen.fill color = .error .shiftOverflow := by
  have encoded : (Framebuffer.ofHandoff d).format.encode color = .error .shiftOverflow :=
    PixelFormat.encode_of_not_fits misfit color
  rw [fill_eq, cameFrom.framebuffer, Framebuffer.fill, encoded]
  rfl

/-- The screen that the loader described can be filled if every channel fits. -/
theorem exists_fill (cameFrom : screen.CameFrom d) (fits : d.format.Fits) (color : Color) :
    ∃ filled, screen.fill color = .ok filled := by
  rcases screen with ⟨fb, pixels⟩
  obtain ⟨same, addressable, rows⟩ := cameFrom
  dsimp only at same addressable rows
  subst same
  -- a row that lies in the memory starts at an index that a word can hold
  have reachable : ∀ row < d.height.toNat, row * (d.pitch / 4).toNat < UInt64.size := by
    intro row early
    have inMemory := rows row early
    have positive : 0 < UInt64.size := by decide
    omega
  obtain ⟨painted, filled⟩ : ∃ painted, (Framebuffer.ofHandoff d).fill color pixels = .ok painted :=
    Framebuffer.exists_fill fits reachable color pixels
  refine ⟨⟨Framebuffer.ofHandoff d, painted⟩, ?_⟩
  rw [fill_eq, filled]
  rfl

/-- The format alone decides whether the screen that the loader described can be filled. -/
theorem exists_fill_iff (cameFrom : screen.CameFrom d) (color : Color) :
    (∃ filled, screen.fill color = .ok filled) ↔ d.format.Fits := by
  constructor
  · rintro ⟨filled, painted⟩
    by_cases fits : d.format.Fits
    · exact fits
    · have faulted := fill_of_not_fits cameFrom fits color
      rw [painted] at faulted
      cases faulted
  · intro fits
    exact exists_fill cameFrom fits color

end Screen

/-! ## Faults on the panic screen -/

namespace Kernel

variable {k : Kernel} {screen : Screen} {cause : Fault}

theorem fillScreen_of_fault (attached : k.console.screen = some screen)
    (faults : screen.fill k.console.background = .error cause) :
    fillScreen k = ⟨.error (.fault cause), k, []⟩ := by
  rcases k with ⟨input, com1, com1Held, ⟨foreground, background, shown⟩, consoleHeld⟩
  cases attached
  dsimp only at faults
  show (do
    let filled ← Activity.ofExcept ((screen.fill background).mapError Stop.fault)
    modifyConsole fun c => { c with screen := some filled } : KernelActivity Unit) _ = _
  rw [faults]
  rfl

/-- A fill that faults leaves nothing behind but the panic colours: no text, and the lock of the
console free again. -/
theorem showOnPanicScreen_of_fault (free : k.holds .console = false)
    (attached : k.console.screen = some screen) (faults : screen.fill .black = .error cause)
    (texts : List String) :
    showOnPanicScreen texts k =
      ⟨.error (.fault cause), k.withConsole ⟨.red, .black, k.console.screen⟩, []⟩ := by
  let locked : Kernel := (k.setHeld true .console).withConsole ⟨.red, .black, k.console.screen⟩
  have wiped : wipe locked = ⟨.error (.fault cause), locked, []⟩ :=
    Activity.bind_of_error (fillScreen_of_fault attached faults)
  have stopped : (do wipe; printAll texts : KernelActivity Unit) locked =
      ⟨.error (.fault cause), locked, []⟩ := Activity.bind_of_error wiped
  have colored : modifyConsole (fun c => { c with foreground := .red, background := .black })
      (k.setHeld true .console) = ⟨.ok (), locked, []⟩ := rfl
  have body : (do
      modifyConsole fun c => { c with foreground := .red, background := .black }
      wipe
      printAll texts : KernelActivity Unit) (k.setHeld true .console) =
      ⟨.error (.fault cause), locked, []⟩ := by
    rw [Activity.bind_of_ok colored, stopped]
    rfl
  -- the lock was free before, so freeing it undoes what taking it did
  have back : locked.setHeld false .console = k.withConsole ⟨.red, .black, k.console.screen⟩ :=
    congrArg (fun l : Kernel => l.withConsole ⟨.red, .black, k.console.screen⟩)
      (setHeld_of_holds free)
  rw [showOnPanicScreen, withLock_of_free free]
  refine (congrArg (giveBack .console) body).trans ?_
  rw [← back]
  rfl

/-- A panic on a screen that cannot be painted black faults before its first byte of text. -/
theorem panicAt_of_fault {α : Type} (first : k.panicking = false)
    (attached : k.console.screen = some screen) (faults : screen.fill .black = .error cause)
    (frame : Option TrapFrame) (reason : String) (place : Log.Location) :
    (panicAt frame reason place k : Outcome Stop Kernel α) =
      ⟨.error (.fault cause), k.takenOver.withConsole ⟨.red, .black, k.console.screen⟩,
        [.cli]⟩ := by
  have shown := showOnPanicScreen_of_fault (k := k.takenOver) rfl attached faults
    (Report.pieces ⟨frame.getD k.callFrame, reason, place⟩)
  rw [panicAt_of_first first]
  dsimp only
  rw [Activity.bind_of_error shown]
  rfl

/-- An outcome of a panic whose report is lost: it faulted without a byte to any port, and all that
any later panic leaves is its line on the debug console. -/
structure LosesReport {α : Type} (o : Outcome Stop Kernel α) : Prop where
  result : o.result = .error (.fault .shiftOverflow)
  silent : ∀ port, Event.written port o.events = []
  later : ∀ frame reason place,
    (panicAt frame reason place o.state : Outcome Stop Kernel α).events = repeatedPanicEvents

/-- The first panic shows its report exactly if the screen, if there is one, can be painted
black. -/
theorem showsReport_iff_fillsWith {α : Type} (first : k.panicking = false)
    (frame : Option TrapFrame) (reason : String) (place : Log.Location) :
    k.ShowsReport ⟨frame.getD k.callFrame, reason, place⟩
        (panicAt frame reason place k : Outcome Stop Kernel α) ↔ k.FillsWith .black := by
  constructor
  · intro shows screen attached
    cases filled : screen.fill .black with
    | ok painted => exact ⟨painted, rfl⟩
    | error cause =>
        -- a report that is shown ends in a halt, and this one in a fault
        have halted := shows.halted
        rw [panicAt_of_fault first attached filled] at halted
        cases halted
  · intro fills
    exact showsReport_panicAt first fills frame reason place

theorem fillsWith_iff_fits {d : FramebufferDescription} (attached : k.console.screen = some screen)
    (cameFrom : screen.CameFrom d) (color : Color) : k.FillsWith color ↔ d.format.Fits := by
  rw [← Screen.exists_fill_iff cameFrom color]
  constructor
  · intro fills
    exact fills screen attached
  · intro filled shown same
    rw [attached] at same
    cases same
    exact filled

theorem losesReport_of_not_fits {α : Type} {d : FramebufferDescription}
    (first : k.panicking = false) (attached : k.console.screen = some screen)
    (cameFrom : screen.CameFrom d) (misfit : ¬ d.format.Fits) (frame : Option TrapFrame)
    (reason : String) (place : Log.Location) :
    LosesReport (panicAt frame reason place k : Outcome Stop Kernel α) := by
  rw [panicAt_of_fault first attached (Screen.fill_of_not_fits cameFrom misfit .black)]
  refine ⟨rfl, fun port => rfl, fun frame reason place => ?_⟩
  rw [panicAt_of_repeated rfl]

/-- **Whose report gets out.** Take a record of the loader that is accepted. With any other format
it is accepted as well. Attach a screen on the framebuffer that it then describes, over memory that
holds every row, to a kernel that is not yet panicking, and let it panic with any frame, reason and
place. The panic shows its full report and halts exactly if every channel of the format starts
inside the pixel. Otherwise it faults before its first byte of text, and the report is lost. -/
theorem report_on_loader_screen {α : Type} {record : BootRecord} {handoff : Handoff}
    (accepted : BootRecord.validate? (some record) = .ok handoff) (format : PixelFormat) :
    BootRecord.validate? (some (record.withFormat format)) = .ok (handoff.withFormat format) ∧
      ∀ (k : Kernel) (screen : Screen), k.console.screen = some screen →
        screen.CameFrom (handoff.withFormat format).framebuffer → k.panicking = false →
          ∀ frame reason place,
            (k.ShowsReport ⟨frame.getD k.callFrame, reason, place⟩
                (panicAt frame reason place k : Outcome Stop Kernel α) ↔ format.Fits) ∧
              (¬ format.Fits →
                LosesReport (panicAt frame reason place k : Outcome Stop Kernel α)) := by
  refine ⟨BootRecord.validate?_withFormat accepted format, ?_⟩
  intro k screen attached cameFrom first frame reason place
  constructor
  · rw [showsReport_iff_fillsWith first, fillsWith_iff_fits attached cameFrom]
    rfl
  · intro misfit
    exact losesReport_of_not_fits first attached cameFrom misfit frame reason place

/-- The handoff of a loader with a framebuffer of two by two pixels and a pixel of padding after
each row. -/
def smallHandoff : Handoff where
  loaderName := "unknown"
  framebuffer := ⟨0xfd000000, 2, 2, 12, 32, 8, 16, 8, 8, 8, 0⟩
  memoryMap := ⟨none⟩
  archive := ⟨0, 0⟩

/-- The record behind it. -/
def smallRecord : BootRecord where
  loader := none
  framebuffer := some smallHandoff.framebuffer
  memoryMap := some smallHandoff.memoryMap
  archive := some smallHandoff.archive

/-- The screen on that framebuffer, in some format. -/
def smallScreen (format : PixelFormat) : Screen :=
  .uniform ⟨2, 2, 3, format⟩ 0xdeadbeef

/-- A fresh kernel with that screen attached. -/
def smallScreenKernel (format : PixelFormat) : Kernel :=
  { Kernel.boot ⟨0xa0, 0xa2, 0xa3, 0xa4⟩ .zero with
    console := ⟨.white, .black, some (smallScreen format)⟩ }

/-- A format whose red channel starts right after the pixel. -/
def redPastPixel : PixelFormat :=
  ⟨⟨8, 32⟩, ⟨8, 8⟩, ⟨8, 0⟩⟩

/-- With red right after the pixel the loader's record is accepted and the report is lost; with red
in the pixel, it gets out. -/
theorem report_of_redPastPixel :
    BootRecord.validate? (some smallRecord) = .ok smallHandoff ∧
      LosesReport (panicAt none "No memory" ⟨"setup", 7⟩ (smallScreenKernel redPastPixel) :
        Outcome Stop Kernel Unit) ∧
      (smallScreenKernel smallHandoff.framebuffer.format).ShowsReport
        ⟨(smallScreenKernel redPastPixel).callFrame, "No memory", ⟨"setup", 7⟩⟩
        (panicAt none "No memory" ⟨"setup", 7⟩
          (smallScreenKernel smallHandoff.framebuffer.format) : Outcome Stop Kernel Unit) := by
  have accepted : BootRecord.validate? (some smallRecord) = .ok smallHandoff := rfl
  have cameFrom : ∀ format,
      (smallScreen format).CameFrom (smallHandoff.withFormat format).framebuffer := by
    intro format
    have size : (smallScreen format).pixels.size = 6 := Array.size_replicate
    have stride : (3 : UInt64) = 12 / 4 := by decide
    refine ⟨congrArg (fun stride => Framebuffer.mk 2 2 stride format) stride, ?_, ?_⟩
    · rw [size]
      show (0xfd000000 : UInt64).toNat + 4 * 6 ≤ UInt64.size
      decide
    · rw [size]
      show ∀ y < 2, y * ((12 : UInt64) / 4).toNat + 2 ≤ 6
      decide
  have misfit : ¬ redPastPixel.Fits := by
    rintro ⟨red, -, -⟩
    rcases red with absent | inside
    · exact absurd absent (by decide)
    · exact absurd inside (by decide)
  have fits : smallHandoff.framebuffer.format.Fits :=
    ⟨.inr (by decide), .inr (by decide), .inr (by decide)⟩
  obtain ⟨-, lost⟩ := report_on_loader_screen (α := Unit) accepted redPastPixel
  obtain ⟨-, shown⟩ := report_on_loader_screen (α := Unit) accepted smallHandoff.framebuffer.format
  refine ⟨accepted, ?_, ?_⟩
  · exact (lost _ _ rfl (cameFrom _) rfl none "No memory" ⟨"setup", 7⟩).2 misfit
  · exact (shown _ _ rfl (cameFrom _) rfl none "No memory" ⟨"setup", 7⟩).1.2 fits

end Kernel

end Bringup
