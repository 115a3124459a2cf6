import Bringup.Display.Framebuffer

/-!
# Painting

What a fill leaves in the memory of a screen. `Overpainted` says that exactly the positions with a
property took a pixel, as far as there is memory; it holds of one row, of rows one after the other,
whether or not they overlap, and so of a whole fill (`Screen.painted_of_fill`): the shown pixels
have the encoding of the colour, and the padding between the rows is what it was.
-/

namespace Bringup

/-- From one content of a memory to another, exactly the positions with a property took a pixel. -/
structure Overpainted (at? : Nat → Prop) (pixel : UInt32) (before after : Array UInt32) : Prop where
  size_eq : after.size = before.size
  inside : ∀ p < before.size, at? p → after[p]? = some pixel
  outside : ∀ p, ¬ at? p → after[p]? = before[p]?

namespace Overpainted

variable {here there : Nat → Prop} {pixel : UInt32} {before middle after : Array UInt32}

theorem refl (nowhere : ∀ p, ¬ here p) : Overpainted here pixel before before :=
  ⟨rfl, fun p _ painted => absurd painted (nowhere p), fun _ _ => rfl⟩

theorem trans (first : Overpainted here pixel before middle)
    (second : Overpainted there pixel middle after) :
    Overpainted (fun p => here p ∨ there p) pixel before after where
  size_eq := second.size_eq.trans first.size_eq
  inside p inMemory painted := by
    by_cases again : there p
    · exact second.inside p (first.size_eq ▸ inMemory) again
    · rw [second.outside p again]
      exact first.inside p inMemory (painted.resolve_right again)
  outside p untouched := by
    rw [not_or] at untouched
    rw [second.outside p untouched.2, first.outside p untouched.1]

theorem congr (painted : Overpainted here pixel before after) (same : ∀ p, here p ↔ there p) :
    Overpainted there pixel before after :=
  (funext fun p => propext (same p) : here = there) ▸ painted

end Overpainted

/-! ## Rows -/

theorem overpainted_setIfInBounds (pixel : UInt32) (i : Nat) (memory : Array UInt32) :
    Overpainted (fun p => p = i) pixel memory (memory.setIfInBounds i pixel) where
  size_eq := Array.size_setIfInBounds
  inside p inMemory here := by
    subst here
    exact Array.getElem?_setIfInBounds_self_of_lt inMemory
  outside _ other := Array.getElem?_setIfInBounds_ne (Ne.symm other)

/-- A row of `count` pixels takes the pixel from its start on. -/
theorem overpainted_paintRow (pixel : UInt32) (start count : Nat) (memory : Array UInt32) :
    Overpainted (fun p => start ≤ p ∧ p < start + count) pixel memory
      (paintRow pixel start count memory) := by
  induction count generalizing start memory with
  | zero => exact .refl fun p => by omega
  | succ count ih =>
      have first := overpainted_setIfInBounds pixel start memory
      exact (first.trans (ih (start + 1) _)).congr fun p => by omega

/-- Whether the pixel at position `p` is in one of the `rows` rows from row `y`. -/
def Framebuffer.InRows (fb : Framebuffer) (y rows p : Nat) : Prop :=
  ∃ row, (y ≤ row ∧ row < y + rows) ∧
    row * fb.stride.toNat ≤ p ∧ p < row * fb.stride.toNat + fb.width.toNat

namespace Framebuffer

variable {fb : Framebuffer}

theorem not_inRows_zero (y p : Nat) : ¬ fb.InRows y 0 p := by
  rintro ⟨row, bounds, -⟩
  omega

theorem inRows_succ (y rows p : Nat) :
    fb.InRows y (rows + 1) p ↔
      (y * fb.stride.toNat ≤ p ∧ p < y * fb.stride.toNat + fb.width.toNat) ∨
        fb.InRows (y + 1) rows p := by
  constructor
  · rintro ⟨row, bounds, inRow⟩
    rcases Nat.eq_or_lt_of_le bounds.1 with rfl | later
    · exact .inl inRow
    · exact .inr ⟨row, ⟨later, by omega⟩, inRow⟩
  · rintro (inRow | ⟨row, bounds, inRow⟩)
    · exact ⟨y, by omega, inRow⟩
    · exact ⟨row, by omega, inRow⟩

/-- The shown pixels are those of all rows from the first. -/
theorem shows_iff_inRows (p : Nat) : fb.Shows p ↔ fb.InRows 0 fb.height.toNat p := by
  constructor
  · rintro ⟨row, below, inRow⟩
    exact ⟨row, by omega, inRow⟩
  · rintro ⟨row, bounds, inRow⟩
    exact ⟨row, by omega, inRow⟩

end Framebuffer

/-- The first of some painted rows could be reached, and the others were painted after it. -/
theorem exists_start_of_paintRows {fb : Framebuffer} {pixel : UInt32} {y rows : Nat}
    {before after : Array UInt32} (painted : paintRows fb pixel y (rows + 1) before = .ok after) :
    ∃ start, Checked.mul (UInt64.ofNat y) fb.stride = .ok start ∧
      paintRows fb pixel (y + 1) rows (paintRow pixel start.toNat fb.width.toNat before) =
        .ok after := by
  rw [paintRows] at painted
  cases reached : Checked.mul (UInt64.ofNat y) fb.stride with
  | error cause =>
      rw [reached] at painted
      cases painted
  | ok start =>
      rw [reached] at painted
      exact ⟨start, rfl, painted⟩

/-- Rows that can be reached without a fault take the pixel. -/
theorem overpainted_paintRows {fb : Framebuffer} {pixel : UInt32} {y rows : Nat}
    {before after : Array UInt32} (below : y + rows < UInt64.size)
    (painted : paintRows fb pixel y rows before = .ok after) :
    Overpainted (fb.InRows y rows) pixel before after := by
  induction rows generalizing y before with
  | zero =>
      cases painted
      exact .refl fun p => fb.not_inRows_zero y p
  | succ rows ih =>
      obtain ⟨start, reached, painted⟩ := exists_start_of_paintRows painted
      -- a row below the height has an exact number, and its start did not overflow
      have rowStart : start.toNat = y * fb.stride.toNat := by
        obtain ⟨fits, rfl⟩ := Checked.mul_eq_ok_iff.1 reached
        have index : (UInt64.ofNat y).toNat = y := UInt64.toNat_ofNat_of_lt' (by omega)
        rw [UInt64.toNat_mul, Nat.mod_eq_of_lt fits, index]
      have first := overpainted_paintRow pixel start.toNat fb.width.toNat before
      have others := ih (by omega) painted
      refine (first.trans others).congr fun p => ?_
      rw [rowStart]
      exact (fb.inRows_succ y rows p).symm

/-! ## Fills -/

/-- A fill without a fault has found an encoding of the colour, and the shown pixels took it. -/
theorem overpainted_fill {fb : Framebuffer} {color : Color} {before after : Array UInt32}
    (filled : fb.fill color before = .ok after) :
    ∃ pixel, fb.format.encode color = .ok pixel ∧ Overpainted fb.Shows pixel before after := by
  cases encoded : fb.format.encode color with
  | error cause =>
      rw [Framebuffer.fill, encoded] at filled
      cases filled
  | ok pixel =>
      rw [Framebuffer.fill, encoded] at filled
      have below : 0 + fb.height.toNat < UInt64.size := by
        rw [Nat.zero_add]
        exact fb.height.toNat_lt
      have rows := overpainted_paintRows below filled
      exact ⟨pixel, rfl, rows.congr fun p => (Framebuffer.shows_iff_inRows p).symm⟩

/-- A screen after a fill in a colour: the colour has an encoding, the shown pixels took it, and
nothing else has changed. -/
def Screen.PaintedIn (color : Color) (before after : Screen) : Prop :=
  after.framebuffer = before.framebuffer ∧
    ∃ pixel, before.framebuffer.format.encode color = .ok pixel ∧
      Overpainted before.framebuffer.Shows pixel before.pixels after.pixels

/-- A fill that ends without a fault paints exactly the shown pixels. -/
theorem Screen.painted_of_fill {color : Color} {before after : Screen}
    (filled : before.fill color = .ok after) : before.PaintedIn color after := by
  rcases painting : before.framebuffer.fill color before.pixels with cause | pixels
  · have faulted : before.fill color = .error cause := by
      rw [Screen.fill, painting]
      rfl
    rw [faulted] at filled
    cases filled
  · have written : before.fill color = .ok { before with pixels } := by
      rw [Screen.fill, painting]
      rfl
    rw [written] at filled
    cases filled
    exact ⟨rfl, overpainted_fill painting⟩

end Bringup
