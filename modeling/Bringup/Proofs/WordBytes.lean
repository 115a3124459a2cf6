import Mathlib.Data.Nat.Bitwise
import Bringup.Descriptor

/-!
# Words in bytes

The number that bytes stand for, lowest byte first. A word split into its bytes stands for itself
(`littleEndianNat_bytesOf16`, `littleEndianNat_bytesOf32`), bytes put together make the word that
they stand for (`toNat_word16`), and no other bytes of the same number stand for it
(`littleEndianNat_injective`).
-/

namespace Bringup

theorem littleEndianNat_nil : littleEndianNat [] = 0 := rfl

theorem littleEndianNat_cons (byte : UInt8) (bytes : List UInt8) :
    littleEndianNat (byte :: bytes) = byte.toNat + 256 * littleEndianNat bytes := rfl

theorem littleEndianNat_append (low high : List UInt8) :
    littleEndianNat (low ++ high) =
      littleEndianNat low + 256 ^ low.length * littleEndianNat high := by
  induction low with
  | nil =>
      show littleEndianNat high = 0 + 256 ^ 0 * littleEndianNat high
      omega
  | cons byte low ih =>
      show byte.toNat + 256 * littleEndianNat (low ++ high) =
        byte.toNat + 256 * littleEndianNat low + 256 ^ (low.length + 1) * littleEndianNat high
      rw [ih, Nat.mul_add, Nat.pow_succ', Nat.mul_assoc, Nat.add_assoc]

theorem littleEndianNat_bytesOf16 (w : UInt16) :
    littleEndianNat (LittleEndian.bytesOf16 w) = w.toNat := by
  have bound := w.toNat_lt
  have second : (w >>> 8).toUInt8.toNat = w.toNat / 256 % 256 := by
    rw [UInt16.toNat_toUInt8, UInt16.toNat_shiftRight, Nat.shiftRight_eq_div_pow]
    rfl
  show w.toUInt8.toNat + 256 * ((w >>> 8).toUInt8.toNat + 256 * 0) = w.toNat
  rw [second, UInt16.toNat_toUInt8]
  omega

theorem toNat_byte (w places : UInt32) :
    (w >>> places).toUInt8.toNat = w.toNat / 2 ^ (places.toNat % 32) % 256 := by
  rw [UInt32.toNat_toUInt8, UInt32.toNat_shiftRight, Nat.shiftRight_eq_div_pow]

theorem littleEndianNat_bytesOf32 (w : UInt32) :
    littleEndianNat (LittleEndian.bytesOf32 w) = w.toNat := by
  have bound := w.toNat_lt
  have second : (w >>> 8).toUInt8.toNat = w.toNat / 2 ^ 8 % 256 := toNat_byte w 8
  have third : (w >>> 16).toUInt8.toNat = w.toNat / 2 ^ 16 % 256 := toNat_byte w 16
  have fourth : (w >>> 24).toUInt8.toNat = w.toNat / 2 ^ 24 % 256 := toNat_byte w 24
  show w.toUInt8.toNat + 256 * ((w >>> 8).toUInt8.toNat + 256 * ((w >>> 16).toUInt8.toNat +
    256 * ((w >>> 24).toUInt8.toNat + 256 * 0))) = w.toNat
  rw [second, third, fourth, UInt32.toNat_toUInt8]
  omega

/-- Bytes of one number that stand for the same number are the same. -/
theorem littleEndianNat_injective {first second : List UInt8}
    (length : first.length = second.length)
    (value : littleEndianNat first = littleEndianNat second) : first = second := by
  induction first generalizing second with
  | nil => exact (List.length_eq_zero_iff.1 length.symm).symm
  | cons low first ih =>
      cases second with
      | nil => cases length
      | cons other second =>
          have lowLt := low.toNat_lt
          have otherLt := other.toNat_lt
          have sum : low.toNat + 256 * littleEndianNat first =
            other.toNat + 256 * littleEndianNat second := value
          have sameLow : low = other := UInt8.toNat_inj.1 (by omega)
          have rest : first = second := ih (Nat.succ.inj length) (by omega)
          rw [sameLow, rest]

theorem littleEndianNat_inj {first second : List UInt8} (length : first.length = second.length) :
    littleEndianNat first = littleEndianNat second ↔ first = second :=
  ⟨littleEndianNat_injective length, congrArg littleEndianNat⟩

/-- The bytes of a 32-bit word are the four that stand for it. -/
theorem bytesOf32_eq {w : UInt32} {bytes : List UInt8} (four : bytes.length = 4)
    (value : w.toNat = littleEndianNat bytes) : LittleEndian.bytesOf32 w = bytes :=
  littleEndianNat_injective four.symm ((littleEndianNat_bytesOf32 w).trans value)

/-- A byte moved up within a 32-bit word loses nothing. -/
theorem toNat_movedByte (byte : UInt8) {places : UInt32} (room : places.toNat ≤ 24) :
    (byte.toUInt32 <<< places).toNat = 2 ^ places.toNat * byte.toNat := by
  have width : places.toNat % 32 = places.toNat := Nat.mod_eq_of_lt (by omega)
  have fits : byte.toNat * 2 ^ places.toNat < 2 ^ 32 :=
    calc byte.toNat * 2 ^ places.toNat
        < 2 ^ 8 * 2 ^ places.toNat := Nat.mul_lt_mul_of_pos_right byte.toNat_lt (Nat.two_pow_pos _)
      _ ≤ 2 ^ 8 * 2 ^ 24 := Nat.mul_le_mul_left _ (Nat.pow_le_pow_right (by decide) room)
  rw [UInt32.toNat_shiftLeft, UInt8.toNat_toUInt32, Nat.shiftLeft_eq, width, Nat.mod_eq_of_lt fits,
    Nat.mul_comm]

theorem toNat_word16 (low high : UInt8) :
    (LittleEndian.word16 low high).toNat = littleEndianNat [low, high] := by
  have lowLt := low.toNat_lt
  have highLt := high.toNat_lt
  have shifted : (high.toUInt16 <<< 8).toNat = 2 ^ 8 * high.toNat := by
    rw [UInt16.toNat_shiftLeft, UInt8.toNat_toUInt16, Nat.shiftLeft_eq]
    show high.toNat * 2 ^ 8 % 2 ^ 16 = _
    omega
  rw [LittleEndian.word16, UInt16.toNat_or, shifted, UInt8.toNat_toUInt16,
    ← Nat.two_pow_add_eq_or_of_lt lowLt]
  show 2 ^ 8 * high.toNat + low.toNat = low.toNat + 256 * (high.toNat + 256 * 0)
  omega

end Bringup
