import Bringup.Proofs.FillWrites

/-!
# Repainting

A fill as it goes on: `Framebuffer.paint` changes the memory row by row, and where it faults the
memory stays as it is at that moment. `Framebuffer.fill` is its result
(`Framebuffer.fill_eq_paint`). In a memory that holds every row the only fault comes before the
first pixel is written, and otherwise every shown pixel takes the colour, so nothing is left of an
earlier fill (`Framebuffer.fill_of_held_rows`).
-/

namespace Bringup

namespace Framebuffer

/-! ## A fill as it goes on -/

/-- Paints the `rows` rows from row `y`. -/
def paintFrom (fb : Framebuffer) (pixel : UInt32) :
    (y rows : Nat) → Activity Fault (Array UInt32) Unit
  | _, 0 => pure ()
  | y, rows + 1 => do
      let start ← Activity.ofExcept (Checked.mul (UInt64.ofNat y) fb.stride)
      Activity.modifyState (paintRow pixel start.toNat fb.width.toNat)
      fb.paintFrom pixel (y + 1) rows

/-- Paints all rows in a colour. -/
def paint (fb : Framebuffer) (color : Color) : Activity Fault (Array UInt32) Unit := do
  let pixel ← Activity.ofExcept (fb.format.encode color)
  fb.paintFrom pixel 0 fb.height.toNat

/-- What a fill makes of a memory: the shown pixels have a new value, all others their old one. -/
structure Repainted (fb : Framebuffer) (pixel : UInt32) (before after : Array UInt32) : Prop where
  size_eq : after.size = before.size
  shown : ∀ p, fb.Shows p → after[p]? = some pixel
  hidden : ∀ p, ¬ fb.Shows p → after[p]? = before[p]?

/-- Whether a memory holds every row. -/
def RowsIn (fb : Framebuffer) (memory : Array UInt32) : Prop :=
  ∀ y < fb.height.toNat, y * fb.stride.toNat + fb.width.toNat ≤ memory.size

/-- Whether no row ends past the last index. -/
def RowsIndexed (fb : Framebuffer) : Prop :=
  ∀ y < fb.height.toNat, y * fb.stride.toNat + fb.width.toNat < UInt64.size

variable {fb : Framebuffer} {color : Color} {pixel : UInt32} {before after : Array UInt32}

theorem paintRows_eq_paintFrom (fb : Framebuffer) (pixel : UInt32) (y rows : Nat)
    (before : Array UInt32) :
    paintRows fb pixel y rows before =
      (fb.paintFrom pixel y rows before).result.map fun _ =>
        (fb.paintFrom pixel y rows before).state := by
  induction rows generalizing y before with
  | zero => rfl
  | succ rows ih =>
      -- a row whose start is no index ends both
      rw [paintRows, paintFrom]
      cases Checked.mul (UInt64.ofNat y) fb.stride with
      | error cause => rfl
      | ok start => exact ih (y + 1) (paintRow pixel start.toNat fb.width.toNat before)

/-- A fill is what painting leaves, if it comes to its end. -/
theorem fill_eq_paint (fb : Framebuffer) (color : Color) (before : Array UInt32) :
    fb.fill color before =
      (fb.paint color before).result.map fun _ => (fb.paint color before).state := by
  rw [fill, paint]
  cases fb.format.encode color with
  | error cause => rfl
  | ok pixel => exact paintRows_eq_paintFrom fb pixel 0 fb.height.toNat before

theorem state_paint_of_fill (filled : fb.fill color before = .ok after) :
    (fb.paint color before).state = after := by
  rw [fill_eq_paint] at filled
  cases ran : (fb.paint color before).result with
  | error cause =>
      rw [ran] at filled
      cases filled
  | ok _ =>
      rw [ran] at filled
      exact Except.ok.inj filled

/-- A painting that faults before its first row leaves the memory as it was. -/
theorem state_paint_of_no_encoding {cause : Fault}
    (noEncoding : fb.format.encode color = .error cause) (before : Array UInt32) :
    (fb.paint color before).state = before := by
  rw [paint, noEncoding]
  rfl

/-! ## Memories that hold every row -/

theorem repainted_of_overpainted (held : fb.RowsIn before)
    (painted : Overpainted fb.Shows pixel before after) : fb.Repainted pixel before after where
  size_eq := painted.size_eq
  shown := by
    intro p shows
    have ⟨y, early, _, inRow⟩ := shows
    exact painted.inside p (Nat.lt_of_lt_of_le inRow (held y early)) shows
  hidden := painted.outside

/-- The old values of the shown pixels do not matter. -/
theorem Repainted.eq_of_repainted {earlier : UInt32} {middle other : Array UInt32}
    (first : fb.Repainted earlier before middle) (second : fb.Repainted pixel middle after)
    (alone : fb.Repainted pixel before other) : after = other := by
  apply Array.ext_getElem?
  intro p
  by_cases shows : fb.Shows p
  · rw [second.shown p shows, alone.shown p shows]
  · rw [second.hidden p shows, first.hidden p shows, alone.hidden p shows]

theorem Repainted.rowsIn (painted : fb.Repainted pixel before after) (held : fb.RowsIn before) :
    fb.RowsIn after := by
  intro y early
  rw [painted.size_eq]
  exact held y early

/-- A colour that has an encoding can be painted, and it takes all shown pixels. -/
theorem exists_repainted (indexed : fb.RowsIndexed) (held : fb.RowsIn before)
    (encoded : fb.format.encode color = .ok pixel) :
    ∃ after, fb.fill color before = .ok after ∧ (fb.paint color before).state = after ∧
      fb.Repainted pixel before after := by
  have fits := PixelFormat.fits_of_encode encoded
  have reachable : ∀ y < fb.height.toNat, y * fb.stride.toNat < UInt64.size := fun y early =>
    Nat.lt_of_le_of_lt (Nat.le_add_right _ _) (indexed y early)
  obtain ⟨after, filled⟩ := exists_fill fits reachable color before
  obtain ⟨used, encodedAs, painted⟩ := overpainted_fill filled
  obtain rfl : used = pixel := Except.ok.inj (encodedAs.symm.trans encoded)
  exact ⟨after, filled, state_paint_of_fill filled, repainted_of_overpainted held painted⟩

/-- **A fill in a memory that holds every row.** If no row ends past the last index, only the
encoding of the colour can fail. Then the fill fails for that reason, and the memory is what it was.
Otherwise it comes to its end, every shown pixel has the encoded colour, and every other its old
value. So after an earlier fill in any colour a fill has the same result and leaves the same memory
as without it. -/
theorem fill_of_held_rows (indexed : fb.RowsIndexed) (held : fb.RowsIn before) (color : Color) :
    (∀ cause, fb.format.encode color = .error cause →
        fb.fill color before = .error cause ∧ (fb.paint color before).state = before) ∧
      (∀ pixel, fb.format.encode color = .ok pixel →
        ∃ after, fb.fill color before = .ok after ∧ (fb.paint color before).state = after ∧
          fb.Repainted pixel before after) ∧
      ∀ earlier, fb.fill color (fb.paint earlier before).state = fb.fill color before ∧
        (fb.paint color (fb.paint earlier before).state).state = (fb.paint color before).state := by
  refine ⟨?_, ?_, ?_⟩
  · intro cause noEncoding
    refine ⟨?_, state_paint_of_no_encoding noEncoding before⟩
    rw [fill, noEncoding]
    rfl
  · intro pixel encoded
    exact exists_repainted indexed held encoded
  · intro earlier
    by_cases fits : fb.format.Fits
    · -- the second fill meets a memory of the same size, so it goes through as well
      obtain ⟨earlierPixel, earlierEncoded⟩ := PixelFormat.exists_encode fits earlier
      obtain ⟨pixel, encoded⟩ := PixelFormat.exists_encode fits color
      obtain ⟨middle, -, left, first⟩ := exists_repainted indexed held earlierEncoded
      obtain ⟨after, filledAfter, leftAfter, second⟩ :=
        exists_repainted indexed (first.rowsIn held) encoded
      obtain ⟨other, filledAlone, leftAlone, alone⟩ := exists_repainted indexed held encoded
      obtain rfl : after = other := first.eq_of_repainted second alone
      rw [left, filledAfter, leftAfter, filledAlone, leftAlone]
      exact ⟨rfl, rfl⟩
    · -- a format that does not fit has no encoding of the earlier colour either
      rw [state_paint_of_no_encoding (PixelFormat.encode_of_not_fits fits earlier)]
      exact ⟨rfl, rfl⟩

/-- Two rows of three pixels, the second of which starts at the last pixel of the first. -/
def overlappingRows (redShift : UInt8) : Framebuffer :=
  ⟨3, 2, 2, ⟨⟨8, redShift⟩, ⟨8, 8⟩, ⟨8, 0⟩⟩⟩

/-- In overlapping rows red leaves nothing behind under blue; with red right after the pixel blue is
not painted either. -/
theorem repaint_of_overlappingRows :
    (∀ redShift, (overlappingRows redShift).RowsIndexed) ∧
      (∀ redShift, (overlappingRows redShift).RowsIn #[1, 2, 3, 4, 5, 6]) ∧
      (overlappingRows 16).fill .blue
          ((overlappingRows 16).paint .red #[1, 2, 3, 4, 5, 6]).state =
        .ok #[0xaa, 0xaa, 0xaa, 0xaa, 0xaa, 6] ∧
      (overlappingRows 32).fill .blue #[1, 2, 3, 4, 5, 6] = .error .shiftOverflow ∧
      ((overlappingRows 32).paint .blue #[1, 2, 3, 4, 5, 6]).state = #[1, 2, 3, 4, 5, 6] := by
  have indexed : ∀ redShift, (overlappingRows redShift).RowsIndexed := by
    intro redShift
    show ∀ y < 2, y * 2 + 3 < UInt64.size
    decide
  have held : ∀ redShift, (overlappingRows redShift).RowsIn #[1, 2, 3, 4, 5, 6] := by
    intro redShift
    show ∀ y < 2, y * 2 + 3 ≤ 6
    decide
  obtain ⟨-, -, again⟩ := fill_of_held_rows (indexed 16) (held 16) .blue
  obtain ⟨failed, -⟩ := fill_of_held_rows (indexed 32) (held 32) .blue
  refine ⟨indexed, held, ?_, failed .shiftOverflow rfl⟩
  rw [(again .red).1]
  rfl

end Framebuffer

end Bringup
