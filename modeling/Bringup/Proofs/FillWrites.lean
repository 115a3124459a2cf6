import Bringup.Proofs.ScreenFormat

/-!
# Where a fill writes

A framebuffer is made for memory of `stride * height` pixels, but a fill writes `width` pixels from
the start of every row. `Framebuffer.writes` is the list of the positions that a fill writes,
whatever memory there is, and `Framebuffer.fill_writes` says that it is all a fill does. Rows no
wider than the stride keep the writes inside the memory (`Framebuffer.writes_lt`); in rows that are
wider the last one runs past its end (`Framebuffer.writes_lt_iff`). The loader's record is accepted
with any width, height and pitch, so a fill of an accepted screen can leave its memory
(`fills_of_accepted_records`).
-/

namespace Bringup

/-- The positions written in the `rows` rows from row `y`, in order. A row whose start is no index
ends the fill. -/
def rowWrites (fb : Framebuffer) : (y rows : Nat) → List Nat
  | _, 0 => []
  | y, rows + 1 =>
      match Checked.mul (UInt64.ofNat y) fb.stride with
      | .error _ => []
      | .ok start => List.range' start.toNat fb.width.toNat ++ rowWrites fb (y + 1) rows

/-- The positions that a fill with a colour writes, in order. A colour without an encoding ends the
fill before its first row. -/
def Framebuffer.writes (fb : Framebuffer) (color : Color) : List Nat :=
  match fb.format.encode color with
  | .error _ => []
  | .ok _ => rowWrites fb 0 fb.height.toNat

/-- The memory after one pixel value was written to some positions, as far as they are in it. -/
def writeAll (pixel : UInt32) (positions : List Nat) (memory : Array UInt32) : Array UInt32 :=
  positions.foldl (fun memory p => memory.setIfInBounds p pixel) memory

theorem writeAll_append (pixel : UInt32) (first second : List Nat) (memory : Array UInt32) :
    writeAll pixel (first ++ second) memory = writeAll pixel second (writeAll pixel first memory) :=
  List.foldl_append

/-! ## What a fill does -/

theorem paintRow_eq_writeAll (pixel : UInt32) (start count : Nat) (memory : Array UInt32) :
    paintRow pixel start count memory = writeAll pixel (List.range' start count) memory := by
  induction count generalizing start memory with
  | zero => rfl
  | succ count ih =>
      rw [paintRow, ih]
      rfl

theorem paintRows_writes {fb : Framebuffer} {pixel : UInt32} {y rows : Nat}
    {before after : Array UInt32} (painted : paintRows fb pixel y rows before = .ok after) :
    after = writeAll pixel (rowWrites fb y rows) before := by
  induction rows generalizing y before with
  | zero =>
      cases painted
      rfl
  | succ rows ih =>
      obtain ⟨start, reached, painted⟩ := exists_start_of_paintRows painted
      rw [rowWrites, reached]
      dsimp only
      rw [writeAll_append, ← paintRow_eq_writeAll]
      exact ih painted

/-- A fill without a fault is its writes. -/
theorem Framebuffer.fill_writes {fb : Framebuffer} {color : Color} {before after : Array UInt32}
    (filled : fb.fill color before = .ok after) :
    ∃ pixel, fb.format.encode color = .ok pixel ∧
      after = writeAll pixel (fb.writes color) before := by
  unfold fill at filled
  unfold writes
  cases encoded : fb.format.encode color with
  | error cause =>
      rw [encoded] at filled
      cases filled
  | ok pixel =>
      rw [encoded] at filled
      exact ⟨pixel, rfl, paintRows_writes filled⟩

/-! ## The positions written -/

/-- The rows that are written are those that start at an index. -/
theorem mem_rowWrites {fb : Framebuffer} {y rows p : Nat} (below : y + rows ≤ UInt64.size) :
    p ∈ rowWrites fb y rows ↔
      ∃ row, (y ≤ row ∧ row < y + rows) ∧ row * fb.stride.toNat < UInt64.size ∧
        row * fb.stride.toNat ≤ p ∧ p < row * fb.stride.toNat + fb.width.toNat := by
  induction rows generalizing y with
  | zero =>
      constructor
      · exact fun mem => absurd mem List.not_mem_nil
      · rintro ⟨row, bounds, -⟩
        omega
  | succ rows ih =>
      have index : (UInt64.ofNat y).toNat = y := UInt64.toNat_ofNat_of_lt' (by omega)
      rw [rowWrites]
      by_cases fits : y * fb.stride.toNat < UInt64.size
      · have reached : Checked.mul (UInt64.ofNat y) fb.stride = .ok (UInt64.ofNat y * fb.stride) :=
          Checked.mul_eq_ok_iff.2 ⟨by rwa [index], rfl⟩
        have start : (UInt64.ofNat y * fb.stride).toNat = y * fb.stride.toNat := by
          rw [UInt64.toNat_mul, index, Nat.mod_eq_of_lt fits]
        rw [reached]
        dsimp only
        rw [List.mem_append, List.mem_range'_1, start, ih (by omega)]
        constructor
        · rintro (here | ⟨row, bounds, inRow⟩)
          · exact ⟨y, by omega, fits, here⟩
          · exact ⟨row, by omega, inRow⟩
        · rintro ⟨row, bounds, reach, inRow⟩
          rcases Nat.eq_or_lt_of_le bounds.1 with rfl | later
          · exact .inl inRow
          · exact .inr ⟨row, by omega, reach, inRow⟩
      · -- a later row starts no earlier, so it is not reached either
        have failed : Checked.mul (UInt64.ofNat y) fb.stride = .error .mulOverflow := by
          rw [Checked.mul, index, if_neg fits]
        rw [failed]
        constructor
        · exact fun mem => absurd mem List.not_mem_nil
        · rintro ⟨row, bounds, reach, -⟩
          have further := Nat.mul_le_mul_right fb.stride.toNat bounds.1
          omega

namespace Framebuffer

variable {fb : Framebuffer}

theorem mem_writes {color : Color} {p : Nat} :
    p ∈ fb.writes color ↔ fb.format.Fits ∧
      ∃ row < fb.height.toNat, row * fb.stride.toNat < UInt64.size ∧
        row * fb.stride.toNat ≤ p ∧ p < row * fb.stride.toNat + fb.width.toNat := by
  have below : 0 + fb.height.toNat ≤ UInt64.size := by
    rw [Nat.zero_add]
    exact Nat.le_of_lt fb.height.toNat_lt
  unfold writes
  by_cases fits : fb.format.Fits
  · obtain ⟨pixel, encoded⟩ := PixelFormat.exists_encode fits color
    rw [encoded]
    dsimp only
    rw [mem_rowWrites below]
    constructor
    · rintro ⟨row, bounds, inRow⟩
      exact ⟨fits, row, by omega, inRow⟩
    · rintro ⟨-, row, before, inRow⟩
      exact ⟨row, by omega, inRow⟩
  · rw [PixelFormat.encode_of_not_fits fits]
    exact ⟨fun mem => absurd mem List.not_mem_nil, fun written => absurd written.1 fits⟩

/-- Rows no wider than the stride lie in the memory. -/
theorem writes_lt (narrow : fb.width ≤ fb.stride) (color : Color) :
    ∀ p ∈ fb.writes color, p < fb.stride.toNat * fb.height.toNat := by
  intro p written
  obtain ⟨-, row, before, -, -, inRow⟩ := mem_writes.1 written
  have narrowNat := UInt64.le_iff_toNat_le.1 narrow
  calc
    p < row * fb.stride.toNat + fb.width.toNat := inRow
    _ ≤ (row + 1) * fb.stride.toNat := by
        rw [Nat.succ_mul]
        exact Nat.add_le_add_left narrowNat _
    _ ≤ fb.height.toNat * fb.stride.toNat := Nat.mul_le_mul_right _ before
    _ = fb.stride.toNat * fb.height.toNat := Nat.mul_comm _ _

section Last

variable (tall : 0 < fb.height.toNat) (wide : fb.stride < fb.width)

include tall wide

/-- The last pixel of the last row is written. -/
theorem last_mem_writes (fits : fb.format.Fits)
    (reachable : (fb.height.toNat - 1) * fb.stride.toNat < UInt64.size) (color : Color) :
    (fb.height.toNat - 1) * fb.stride.toNat + (fb.width.toNat - 1) ∈ fb.writes color := by
  have wideNat := UInt64.lt_iff_toNat_lt.1 wide
  exact mem_writes.2 ⟨fits, fb.height.toNat - 1, by omega, reachable, by omega, by omega⟩

/-- In rows wider than the stride the last pixel lies past the memory. -/
theorem le_last :
    fb.stride.toNat * fb.height.toNat ≤
      (fb.height.toNat - 1) * fb.stride.toNat + (fb.width.toNat - 1) := by
  have wideNat := UInt64.lt_iff_toNat_lt.1 wide
  have rows : fb.stride.toNat * fb.height.toNat =
      (fb.height.toNat - 1) * fb.stride.toNat + fb.stride.toNat := by
    rw [← Nat.succ_mul, Nat.succ_eq_add_one, Nat.sub_add_cancel tall, Nat.mul_comm]
  omega

end Last

/-- If all rows can be reached, a fill that writes at all stays in the memory exactly if its rows
are no wider than the stride. -/
theorem writes_lt_iff (reachable : (fb.height.toNat - 1) * fb.stride.toNat < UInt64.size)
    (color : Color) :
    (∀ p ∈ fb.writes color, p < fb.stride.toNat * fb.height.toNat) ↔
      ¬ fb.format.Fits ∨ fb.height.toNat = 0 ∨ fb.width ≤ fb.stride := by
  constructor
  · intro inside
    by_cases fits : fb.format.Fits
    · rcases Nat.eq_zero_or_pos fb.height.toNat with flat | tall
      · exact .inr (.inl flat)
      · refine .inr (.inr (UInt64.not_lt.1 fun wide => ?_))
        have last := inside _ (last_mem_writes tall wide fits reachable color)
        exact Nat.lt_irrefl _ (Nat.lt_of_lt_of_le last (le_last tall wide))
    · exact .inl fits
  · rintro (misfit | flat | narrow) p written
    · exact absurd (mem_writes.1 written).1 misfit
    · obtain ⟨-, row, before, -⟩ := mem_writes.1 written
      rw [flat] at before
      exact absurd before (Nat.not_lt_zero row)
    · exact writes_lt narrow color p written

end Framebuffer

/-! ## The loader's record -/

/-- The description with another width, height and pitch. -/
def FramebufferDescription.withGeometry (d : FramebufferDescription) (width height pitch : UInt64) :
    FramebufferDescription :=
  { d with width, height, pitch }

/-- The record with another width, height and pitch of its framebuffer, if it has one. -/
def BootRecord.withGeometry (record : BootRecord) (width height pitch : UInt64) : BootRecord :=
  { record with framebuffer := record.framebuffer.map fun d => d.withGeometry width height pitch }

/-- The handoff with another width, height and pitch of its framebuffer. -/
def Handoff.withGeometry (handoff : Handoff) (width height pitch : UInt64) : Handoff :=
  { handoff with framebuffer := handoff.framebuffer.withGeometry width height pitch }

/-- A record is accepted whatever its width, height and pitch are. -/
theorem BootRecord.validate?_withGeometry {record : BootRecord} {handoff : Handoff}
    (accepted : validate? (some record) = .ok handoff) (width height pitch : UInt64) :
    validate? (some (record.withGeometry width height pitch)) =
      .ok (handoff.withGeometry width height pitch) :=
  validate?_mapFramebuffer accepted (fun d => d.withGeometry width height pitch) fun _ => rfl

/-- **Where the fill of an accepted screen writes.** Take a record of the loader that is accepted.
With any other width, height and pitch it is accepted as well. A fill of the framebuffer that it
then describes is its list of writes, and these stay within the first `pitch / 4 * height` pixels if
no row is wider than `pitch / 4`. If all rows can be reached, a format that fits lets the fill go
through, and the writes stay there only then, or where nothing is written at all: in a format that
does not fit, or without rows. -/
theorem fills_of_accepted_records {record : BootRecord} {handoff : Handoff}
    (accepted : BootRecord.validate? (some record) = .ok handoff) (width height pitch : UInt64) :
    BootRecord.validate? (some (record.withGeometry width height pitch)) =
        .ok (handoff.withGeometry width height pitch) ∧
      ∀ (fb : Framebuffer) (color : Color),
        fb = .ofHandoff (handoff.withGeometry width height pitch).framebuffer →
          (∀ before after, fb.fill color before = .ok after →
            ∃ pixel, fb.format.encode color = .ok pixel ∧
              after = writeAll pixel (fb.writes color) before) ∧
          (width ≤ pitch / 4 →
            ∀ p ∈ fb.writes color, p < (pitch / 4).toNat * height.toNat) ∧
          ((height.toNat - 1) * (pitch / 4).toNat < UInt64.size →
            (handoff.framebuffer.format.Fits →
              ∀ before, ∃ after, fb.fill color before = .ok after) ∧
            ((∀ p ∈ fb.writes color, p < (pitch / 4).toNat * height.toNat) ↔
              ¬ handoff.framebuffer.format.Fits ∨ height.toNat = 0 ∨ width ≤ pitch / 4)) := by
  refine ⟨BootRecord.validate?_withGeometry accepted width height pitch, ?_⟩
  rintro fb color rfl
  refine ⟨fun before after => Framebuffer.fill_writes,
    fun narrow => Framebuffer.writes_lt narrow color,
    fun reachable => ⟨fun fits => ?_, Framebuffer.writes_lt_iff reachable color⟩⟩
  -- no row starts later than the last one
  refine Framebuffer.exists_fill fits (fun row early => ?_) color
  exact Nat.lt_of_le_of_lt (Nat.mul_le_mul_right _ (Nat.le_sub_one_of_lt early)) reachable

/-- The handoff of a loader with a row of four pixels at three bytes to the pixel. -/
def packedHandoff : Handoff where
  loaderName := "unknown"
  framebuffer := ⟨0xfd000000, 4, 1, 12, 24, 8, 16, 8, 8, 8, 0⟩
  memoryMap := ⟨none⟩
  archive := ⟨0, 0⟩

/-- The record behind it. -/
def packedRecord : BootRecord where
  loader := none
  framebuffer := some packedHandoff.framebuffer
  memoryMap := some packedHandoff.memoryMap
  archive := some packedHandoff.archive

/-- The memory of the row ends after three pixels, and a fill writes four. -/
theorem fill_of_packed_row :
    BootRecord.validate? (some packedRecord) = .ok packedHandoff ∧
      (Framebuffer.ofHandoff packedHandoff.framebuffer).stride.toNat *
        (Framebuffer.ofHandoff packedHandoff.framebuffer).height.toNat = 3 ∧
      (∀ color, ¬ ∀ p ∈ (Framebuffer.ofHandoff packedHandoff.framebuffer).writes color, p < 3) ∧
      (Framebuffer.ofHandoff packedHandoff.framebuffer).fill .blue (Array.replicate 4 0) =
        .ok (Array.replicate 4 0xaa) := by
  have accepted : BootRecord.validate? (some packedRecord) = .ok packedHandoff := rfl
  refine ⟨accepted, by decide, ?_, rfl⟩
  intro color inside
  obtain ⟨-, fills⟩ := fills_of_accepted_records accepted 4 1 12
  obtain ⟨-, -, reached⟩ := fills (.ofHandoff packedHandoff.framebuffer) color rfl
  obtain ⟨-, bound⟩ := reached (by decide)
  rcases bound.1 inside with misfit | flat | narrow
  · exact misfit ⟨.inr (by decide), .inr (by decide), .inr (by decide)⟩
  · exact absurd flat (by decide)
  · exact absurd narrow (by decide)

end Bringup
