import Bringup.Proofs.ScreenFormat
import Mathlib.Data.Fintype.Defs
import Mathlib.Data.Nat.Bitwise
import Mathlib.Order.Interval.Finset.Nat

/-!
# The bits of a pixel

What the pixel of a colour says about its components. A channel keeps the high bits of its
component, at most eight, and writes them from its lowest bit on (`Channel.keptBits`); nothing else
is set in a pixel. If the kept bits of the channels are apart and inside the pixel, each channel can
be read back (`PixelFormat.components_in_pixel`).

The loader reports how many bits a channel has (`Channel.allBits`), and a component belongs at their
top. That is where it is written if the channel has no more than eight bits. In a wider channel it
is written at the bottom, so its high bits are missing from the top unless it is zero
(`PixelFormat.high_bits_in_pixel`).
-/

namespace Bringup

/-! ## Components -/

/-- The components of a colour. -/
inductive Component where
  | red
  | green
  | blue
  deriving DecidableEq

instance : Fintype Component where
  elems := {.red, .green, .blue}
  complete part := by
    cases part <;> decide

/-- The value of one component. -/
def Rgb.part (rgb : Rgb) : Component → UInt8
  | .red => rgb.red
  | .green => rgb.green
  | .blue => rgb.blue

/-- The channel of one component. -/
def PixelFormat.channel (format : PixelFormat) : Component → Channel
  | .red => format.red
  | .green => format.green
  | .blue => format.blue

/-- The bits of a pixel that a channel writes. -/
def Channel.keptBits (c : Channel) : Finset Nat :=
  .Ico c.shift.toNat (c.shift.toNat + c.kept.toNat)

/-- The bits of a pixel that the loader reports for a channel. -/
def Channel.allBits (c : Channel) : Finset Nat :=
  .Ico c.shift.toNat (c.shift.toNat + c.size.toNat)

/-- The number that a pixel holds in the kept bits of a channel. -/
def Channel.read (c : Channel) (pixel : UInt32) : Nat :=
  (pixel.toNat >>> c.shift.toNat) % 2 ^ c.kept.toNat

/-- The high bits of a component, as many as a channel keeps. -/
def Channel.truncate (c : Channel) (component : UInt8) : Nat :=
  component.toNat >>> (8 - c.kept.toNat)

/-- Whether a pixel has the high bits of a component at the top of a channel. -/
def Channel.HasHighBits (c : Channel) (component : UInt8) (pixel : UInt32) : Prop :=
  ∀ j < min c.size.toNat 8,
    pixel.toNat.testBit (c.shift.toNat + c.size.toNat - 1 - j) = component.toNat.testBit (7 - j)

/-- Whether the channels have their bits apart from each other and inside the pixel. -/
structure PixelFormat.Separates (format : PixelFormat) (bits : Channel → Finset Nat) : Prop where
  apart : ∀ part other, part ≠ other →
    Disjoint (bits (format.channel part)) (bits (format.channel other))
  inside : ∀ part, bits (format.channel part) ⊆ Finset.range 32

instance (format : PixelFormat) (bits : Channel → Finset Nat) : Decidable (format.Separates bits) :=
  decidable_of_iff
    ((∀ part other, part ≠ other →
        Disjoint (bits (format.channel part)) (bits (format.channel other))) ∧
      ∀ part, bits (format.channel part) ⊆ Finset.range 32)
    ⟨fun separates => ⟨separates.1, separates.2⟩,
      fun separates => ⟨separates.apart, separates.inside⟩⟩

/-! ## One channel -/

/-- A component has eight bits. -/
theorem testBit_component_of_le {component : UInt8} {i : Nat} (past : 8 ≤ i) :
    component.toNat.testBit i = false :=
  Nat.testBit_lt_two_pow
    (Nat.lt_of_lt_of_le component.toNat_lt (Nat.pow_le_pow_right (by decide) past))

namespace Channel

variable {c : Channel} {component : UInt8} {bits : UInt32}

theorem toNat_kept (c : Channel) : c.kept.toNat = min c.size.toNat 8 := by
  rw [kept, UInt8.min_def]
  split
  next within =>
    rw [UInt8.le_iff_toNat_le] at within
    exact (Nat.min_eq_left within).symm
  next beyond =>
    rw [UInt8.le_iff_toNat_le] at beyond
    exact (Nat.min_eq_right (Nat.le_of_not_le beyond)).symm

theorem kept_le (c : Channel) : c.kept.toNat ≤ 8 := by
  rw [toNat_kept]
  exact Nat.min_le_right _ _

/-- How far a component is moved down before it is placed. -/
theorem toNat_dropped (c : Channel) : (8 - c.kept).toUInt32.toNat = 8 - c.kept.toNat := by
  have within : c.kept ≤ 8 := UInt8.le_iff_toNat_le.2 c.kept_le
  rw [UInt8.toNat_toUInt32, UInt8.toNat_sub_of_le _ _ within]
  rfl

theorem keptBits_subset_allBits (c : Channel) : c.keptBits ⊆ c.allBits := by
  have fewer : c.kept.toNat ≤ c.size.toNat := by
    rw [toNat_kept]
    exact Nat.min_le_left _ _
  exact Finset.Ico_subset_Ico_right (Nat.add_le_add_left fewer _)

/-- A channel without bits keeps none. -/
theorem size_ne_zero_of_mem_keptBits {i : Nat} (kept : i ∈ c.keptBits) : c.size ≠ 0 := by
  intro absent
  have none : c.kept.toNat = 0 := by
    rw [toNat_kept, absent]
    rfl
  rw [keptBits, none, Nat.add_zero, Finset.Ico_self] at kept
  exact Finset.notMem_empty i kept

theorem toNat_place (present : c.size ≠ 0) (placed : c.place component = .ok bits) :
    bits.toNat = c.truncate component <<< c.shift.toNat % 2 ^ 32 := by
  rw [place, if_neg present, Checked.shiftLeft32] at placed
  split at placed
  next inside =>
    cases placed
    -- both shifts are shorter than the word, so neither amount wraps
    have dropped : (8 - c.kept.toNat) % 32 = 8 - c.kept.toNat := Nat.mod_eq_of_lt (by omega)
    have shift : c.shift.toNat % 32 = c.shift.toNat :=
      Nat.mod_eq_of_lt (UInt8.lt_iff_toNat_lt.1 inside)
    rw [UInt32.toNat_shiftLeft, UInt32.toNat_shiftRight, toNat_dropped, dropped,
      UInt8.toNat_toUInt32, UInt8.toNat_toUInt32, shift]
    rfl
  next => cases placed

/-- What a channel contributes to a pixel: the kept bits of its component, from its lowest bit
on. -/
theorem testBit_place (placed : c.place component = .ok bits) (i : Nat) :
    bits.toNat.testBit i = true ↔
      i ∈ Finset.range 32 ∧ i ∈ c.keptBits ∧
        component.toNat.testBit (8 - c.kept.toNat + (i - c.shift.toNat)) = true := by
  by_cases absent : c.size = 0
  · -- nothing is written, and no bit is kept
    rw [place, if_pos absent] at placed
    cases placed
    constructor
    · intro set
      exact absurd set (by simp)
    · rintro ⟨-, kept, -⟩
      exact absurd absent (size_ne_zero_of_mem_keptBits kept)
  · rw [toNat_place absent placed, Nat.testBit_mod_two_pow, Nat.testBit_shiftLeft, truncate,
      Nat.testBit_shiftRight, keptBits, Finset.mem_range, Finset.mem_Ico]
    simp only [Bool.and_eq_true, decide_eq_true_eq, ge_iff_le]
    constructor
    · rintro ⟨inPixel, above, set⟩
      -- a bit of the component is one of eight
      have within : 8 - c.kept.toNat + (i - c.shift.toNat) < 8 := by
        by_contra past
        rw [testBit_component_of_le (Nat.le_of_not_lt past)] at set
        cases set
      have some := c.kept_le
      exact ⟨inPixel, ⟨above, by omega⟩, set⟩
    · rintro ⟨inPixel, ⟨above, -⟩, set⟩
      exact ⟨inPixel, above, set⟩

end Channel

/-! ## All channels -/

namespace PixelFormat

variable {format : PixelFormat} {color : Color} {pixel : UInt32} {part : Component}

theorem fits_iff : format.Fits ↔ ∀ part, (format.channel part).Fits := by
  constructor
  · rintro ⟨red, green, blue⟩ part
    cases part with
    | red => exact red
    | green => exact green
    | blue => exact blue
  · intro all
    exact ⟨all .red, all .green, all .blue⟩

theorem not_fits_iff :
    ¬ format.Fits ↔ ∃ part, (format.channel part).size ≠ 0 ∧ 32 ≤ (format.channel part).shift := by
  rw [fits_iff, not_forall]
  refine exists_congr fun part => ?_
  rw [Channel.Fits, not_or, UInt8.not_lt]

/-- A bit of a pixel is set if one of its channels has set it. -/
theorem testBit_encode (encoded : format.encode color = .ok pixel) (i : Nat) :
    pixel.toNat.testBit i = true ↔
      ∃ part bits, (format.channel part).place (color.rgb.part part) = .ok bits ∧
        bits.toNat.testBit i = true := by
  have fits := fits_of_encode encoded
  obtain ⟨red, redPlaced⟩ := Channel.exists_place fits.red color.rgb.red
  obtain ⟨green, greenPlaced⟩ := Channel.exists_place fits.green color.rgb.green
  obtain ⟨blue, bluePlaced⟩ := Channel.exists_place fits.blue color.rgb.blue
  have joined : pixel = red ||| green ||| blue := by
    rw [encode, redPlaced, greenPlaced, bluePlaced] at encoded
    cases encoded
    rfl
  rw [joined, UInt32.toNat_or, UInt32.toNat_or, Nat.testBit_or, Nat.testBit_or, Bool.or_eq_true,
    Bool.or_eq_true]
  constructor
  · rintro ((set | set) | set)
    · exact ⟨.red, red, redPlaced, set⟩
    · exact ⟨.green, green, greenPlaced, set⟩
    · exact ⟨.blue, blue, bluePlaced, set⟩
  · rintro ⟨part, bits, placed, set⟩
    cases part with
    | red =>
        cases redPlaced.symm.trans placed
        exact .inl (.inl set)
    | green =>
        cases greenPlaced.symm.trans placed
        exact .inl (.inr set)
    | blue =>
        cases bluePlaced.symm.trans placed
        exact .inr set

/-- Every bit that is set in a pixel is a kept bit of a channel. -/
theorem exists_mem_keptBits (encoded : format.encode color = .ok pixel) {i : Nat}
    (set : pixel.toNat.testBit i = true) : ∃ part, i ∈ (format.channel part).keptBits := by
  obtain ⟨part, bits, placed, setHere⟩ := (testBit_encode encoded i).1 set
  exact ⟨part, ((Channel.testBit_place placed i).1 setHere).2.1⟩

/-- A bit of the pixel that is no other channel's shows the bit of the component. -/
theorem testBit_encode_of_separates {i : Nat} (encoded : format.encode color = .ok pixel)
    (separates : format.Separates Channel.keptBits) (kept : i ∈ (format.channel part).keptBits) :
    pixel.toNat.testBit i =
      (color.rgb.part part).toNat.testBit
        (8 - (format.channel part).kept.toNat + (i - (format.channel part).shift.toNat)) := by
  rw [Bool.eq_iff_iff, testBit_encode encoded]
  constructor
  · rintro ⟨other, bits, placed, set⟩
    obtain ⟨-, keptThere, shown⟩ := (Channel.testBit_place placed i).1 set
    -- no other channel keeps this bit
    obtain rfl : part = other := by
      by_contra different
      exact Finset.disjoint_left.1 (separates.apart part other different) kept keptThere
    exact shown
  · intro shown
    have fits := fits_iff.1 (fits_of_encode encoded) part
    obtain ⟨bits, placed⟩ := Channel.exists_place fits (color.rgb.part part)
    exact ⟨part, bits, placed,
      (Channel.testBit_place placed i).2 ⟨separates.inside part kept, kept, shown⟩⟩

/-- What a pixel holds in a channel is what the channel keeps of the component. -/
theorem read_encode (encoded : format.encode color = .ok pixel)
    (separates : format.Separates Channel.keptBits) (part : Component) :
    (format.channel part).read pixel =
      (format.channel part).truncate (color.rgb.part part) := by
  apply Nat.eq_of_testBit_eq
  intro i
  rw [Channel.read, Channel.truncate, Nat.testBit_mod_two_pow, Nat.testBit_shiftRight,
    Nat.testBit_shiftRight]
  have some := (format.channel part).kept_le
  by_cases within : i < (format.channel part).kept.toNat
  · have kept : (format.channel part).shift.toNat + i ∈ (format.channel part).keptBits :=
      Finset.mem_Ico.2 (by omega)
    rw [testBit_encode_of_separates encoded separates kept, Nat.add_sub_cancel_left,
      decide_eq_true within, Bool.true_and]
  · -- past the kept bits both numbers end: one is cut there, the other has no bits left
    rw [testBit_component_of_le (by omega), decide_eq_false within, Bool.false_and]

/-- **Components in a pixel.** A colour has no pixel exactly if some channel that has any bits
starts past the last bit of a pixel. Otherwise every bit set in its pixel is a kept bit of such a
channel, and if the kept bits of the channels are apart and inside the pixel, the high bits of every
component can be read back from it. -/
theorem components_in_pixel (format : PixelFormat) (color : Color) :
    (format.encode color = .error .shiftOverflow ↔
        ∃ part, (format.channel part).size ≠ 0 ∧ 32 ≤ (format.channel part).shift) ∧
      ((¬ ∃ part, (format.channel part).size ≠ 0 ∧ 32 ≤ (format.channel part).shift) →
        ∃ pixel, format.encode color = .ok pixel ∧
          (∀ i, pixel.toNat.testBit i = true →
            ∃ part, (format.channel part).size ≠ 0 ∧ i ∈ (format.channel part).keptBits) ∧
          (format.Separates Channel.keptBits → ∀ part, (format.channel part).size ≠ 0 →
            (format.channel part).read pixel =
              (format.channel part).truncate (color.rgb.part part))) := by
  rw [← not_fits_iff, not_not]
  constructor
  · constructor
    · intro faulted fits
      obtain ⟨pixel, encoded⟩ := exists_encode fits color
      rw [encoded] at faulted
      cases faulted
    · intro misfit
      exact encode_of_not_fits misfit color
  · intro fits
    obtain ⟨pixel, encoded⟩ := exists_encode fits color
    refine ⟨pixel, encoded, ?_, ?_⟩
    · intro i set
      obtain ⟨part, kept⟩ := exists_mem_keptBits encoded set
      exact ⟨part, Channel.size_ne_zero_of_mem_keptBits kept, kept⟩
    · intro separates part _
      exact read_encode encoded separates part

/-- A wide red channel, a narrow green one, and no blue, whatever its shift says. -/
def wideRed : PixelFormat :=
  ⟨⟨10, 20⟩, ⟨3, 4⟩, ⟨0, 200⟩⟩

/-- Brown keeps all of its red and three bits of its green. With a single bit of blue right after
the pixel it has no pixel at all. -/
theorem brown_of_wideRed :
    (¬ ∃ part, (wideRed.channel part).size ≠ 0 ∧ 32 ≤ (wideRed.channel part).shift) ∧
      wideRed.Separates Channel.keptBits ∧
      wideRed.encode .brown = .ok 0x0aa00020 ∧
      wideRed.red.read 0x0aa00020 = 0xaa ∧ wideRed.green.read 0x0aa00020 = 0x55 >>> 5 ∧
      { wideRed with blue := ⟨1, 32⟩ }.encode .brown = .error .shiftOverflow := by
  have inside : ¬ ∃ part, (wideRed.channel part).size ≠ 0 ∧ 32 ≤ (wideRed.channel part).shift := by
    decide
  have separates : wideRed.Separates Channel.keptBits := by decide
  obtain ⟨-, shown⟩ := components_in_pixel wideRed .brown
  obtain ⟨pixel, encoded, -, readBack⟩ := shown inside
  have value : wideRed.encode .brown = .ok 0x0aa00020 := rfl
  obtain rfl : pixel = 0x0aa00020 := Except.ok.inj (encoded.symm.trans value)
  refine ⟨inside, separates, value, ?_, ?_, ?_⟩
  · exact readBack separates .red (by decide)
  · exact readBack separates .green (by decide)
  · exact (components_in_pixel _ _).1.2 ⟨.blue, by decide, by decide⟩

/-! ## The top of a channel -/

/-- A component whose bits are all repeated further up has none. -/
theorem eq_zero_of_testBit_add {component : UInt8} {distance : Nat} (apart : 0 < distance)
    (repeated : ∀ i < 8,
      component.toNat.testBit (i + distance) = component.toNat.testBit i) : component = 0 := by
  -- the number of bits from `i` to the top of the component bounds how often it can be repeated
  have clear : ∀ count i, 8 ≤ i + count → component.toNat.testBit i = false := by
    intro count
    induction count with
    | zero =>
        intro i past
        exact testBit_component_of_le past
    | succ count ih =>
        intro i past
        rcases Nat.lt_or_ge i 8 with within | beyond
        · rw [← repeated i within]
          exact ih (i + distance) (by omega)
        · exact testBit_component_of_le beyond
  apply UInt8.toNat_inj.1
  apply Nat.eq_of_testBit_eq
  intro i
  rw [clear 8 i (Nat.le_add_left 8 i)]
  exact (Nat.zero_testBit i).symm

theorem Separates.keptBits (separates : format.Separates Channel.allBits) :
    format.Separates Channel.keptBits where
  apart part other different :=
    Finset.disjoint_of_subset_left (Channel.keptBits_subset_allBits _)
      (Finset.disjoint_of_subset_right (Channel.keptBits_subset_allBits _)
        (separates.apart part other different))
  inside part := (Channel.keptBits_subset_allBits _).trans (separates.inside part)

/-- A channel of a pixel shows its component from the first kept bit on, with zeros above. -/
theorem testBit_encode_of_lt_size (encoded : format.encode color = .ok pixel)
    (separates : format.Separates Channel.allBits) {i : Nat}
    (reported : i < (format.channel part).size.toNat) :
    pixel.toNat.testBit ((format.channel part).shift.toNat + i) =
      (color.rgb.part part).toNat.testBit (8 - (format.channel part).kept.toNat + i) := by
  by_cases within : i < (format.channel part).kept.toNat
  · have kept : (format.channel part).shift.toNat + i ∈ (format.channel part).keptBits :=
      Finset.mem_Ico.2 (by omega)
    rw [testBit_encode_of_separates encoded separates.keptBits kept, Nat.add_sub_cancel_left]
  · -- only a channel of more than eight bits has bits that it does not keep
    have eight : (format.channel part).kept.toNat = 8 := by
      rw [Channel.toNat_kept] at within ⊢
      omega
    have inChannel : (format.channel part).shift.toNat + i ∈ (format.channel part).allBits :=
      Finset.mem_Ico.2 (by omega)
    rw [testBit_component_of_le (by omega), Bool.eq_false_iff]
    intro set
    obtain ⟨other, kept⟩ := exists_mem_keptBits encoded set
    by_cases same : part = other
    · subst same
      have below := (Finset.mem_Ico.1 kept).2
      omega
    · have there := Channel.keptBits_subset_allBits _ kept
      exact Finset.disjoint_left.1 (separates.apart part other same) inChannel there

/-- The high bits of a component are at the top of its channel if the channel keeps all of its bits,
or if there is nothing to see. -/
theorem hasHighBits_iff (encoded : format.encode color = .ok pixel)
    (separates : format.Separates Channel.allBits) (part : Component) :
    (format.channel part).HasHighBits (color.rgb.part part) pixel ↔
      (format.channel part).size ≤ 8 ∨ color.rgb.part part = 0 := by
  have kept := (format.channel part).toNat_kept
  have eight : (8 : UInt8).toNat = 8 := rfl
  have top : ∀ j < min (format.channel part).size.toNat 8,
      pixel.toNat.testBit ((format.channel part).shift.toNat + (format.channel part).size.toNat
          - 1 - j) =
        (color.rgb.part part).toNat.testBit
          (8 - (format.channel part).kept.toNat + ((format.channel part).size.toNat - 1 - j)) := by
    intro j early
    rw [← testBit_encode_of_lt_size encoded separates (by omega)]
    congr 1
    omega
  rw [UInt8.le_iff_toNat_le, eight]
  constructor
  · intro high
    rcases Nat.lt_or_ge 8 (format.channel part).size.toNat with wide | narrow
    · -- what should be at the top is at the bottom, so each bit repeats one further up
      refine .inr (eq_zero_of_testBit_add (Nat.sub_pos_of_lt wide) fun i within => ?_)
      have repeated := (top (7 - i) (by omega)).symm.trans (high (7 - i) (by omega))
      have further : 8 - (format.channel part).kept.toNat
          + ((format.channel part).size.toNat - 1 - (7 - i)) =
            i + ((format.channel part).size.toNat - 8) := by
        omega
      have mirrored : 7 - (7 - i) = i := by omega
      rwa [further, mirrored] at repeated
    · exact .inl narrow
  · rintro (narrow | black) j early
    · rw [top j early]
      congr 1
      omega
    · rw [top j early, black]
      exact (Nat.zero_testBit _).trans (Nat.zero_testBit _).symm

/-- **High bits in a pixel.** If every channel has bits, and these are apart from the others and
inside the pixel, then every colour has a pixel. From the lowest bit of a channel on it shows the
bits of the component that the channel keeps, and above these zeros. So the high bits of the
component are at the top of the channel exactly if the channel has at most eight bits or the
component is zero. -/
theorem high_bits_in_pixel {format : PixelFormat}
    (present : ∀ part, (format.channel part).size ≠ 0)
    (separates : format.Separates Channel.allBits) (color : Color) :
    ∃ pixel, format.encode color = .ok pixel ∧ ∀ part,
      (∀ i < (format.channel part).size.toNat,
        pixel.toNat.testBit ((format.channel part).shift.toNat + i) =
          (color.rgb.part part).toNat.testBit (8 - (format.channel part).kept.toNat + i)) ∧
      ((format.channel part).HasHighBits (color.rgb.part part) pixel ↔
        (format.channel part).size ≤ 8 ∨ color.rgb.part part = 0) := by
  have fits : format.Fits := by
    rw [fits_iff]
    intro part
    -- the lowest bit of a channel that has bits is one of them
    have lowest : (format.channel part).shift.toNat ∈ (format.channel part).allBits := by
      have positive : 0 < (format.channel part).size.toNat :=
        Nat.pos_of_ne_zero fun zero => present part (UInt8.toNat_inj.1 zero)
      exact Finset.mem_Ico.2 (by omega)
    exact .inr (UInt8.lt_iff_toNat_lt.2 (Finset.mem_range.1 (separates.inside part lowest)))
  obtain ⟨pixel, encoded⟩ := exists_encode fits color
  refine ⟨pixel, encoded, fun part => ⟨fun i reported => ?_, ?_⟩⟩
  · exact testBit_encode_of_lt_size encoded separates reported
  · exact hasHighBits_iff encoded separates part

/-- Ten bits for each component. -/
def deepColor : PixelFormat :=
  ⟨⟨10, 20⟩, ⟨10, 10⟩, ⟨10, 0⟩⟩

/-- In ten bits for each component white has a quarter of the value that a channel can hold, and no
component has its high bits at the top. -/
theorem white_of_deepColor :
    (∀ part, (deepColor.channel part).size ≠ 0) ∧ deepColor.Separates Channel.allBits ∧
      deepColor.encode .white = .ok 0x0ff3fcff ∧
      ∀ part, ¬ (deepColor.channel part).HasHighBits (Color.white.rgb.part part) 0x0ff3fcff := by
  have present : ∀ part, (deepColor.channel part).size ≠ 0 := by decide
  have separates : deepColor.Separates Channel.allBits := by decide
  obtain ⟨pixel, encoded, shown⟩ := high_bits_in_pixel present separates .white
  have value : deepColor.encode .white = .ok 0x0ff3fcff := rfl
  obtain rfl : pixel = 0x0ff3fcff := Except.ok.inj (encoded.symm.trans value)
  have wideAndLit : ∀ part,
      ¬ ((deepColor.channel part).size ≤ 8 ∨ Color.white.rgb.part part = 0) := by
    decide
  refine ⟨present, separates, value, fun part high => ?_⟩
  exact wideAndLit part ((shown part).2.1 high)

end PixelFormat

end Bringup
