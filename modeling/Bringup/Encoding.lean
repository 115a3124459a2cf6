/-!
# Encodings

How texts and numbers are written down.

Text leaves the kernel byte by byte in UTF-8, and the loader's name enters it as bytes that end at
a zero. `Text.encode` gives the bytes of a text; `Text.decode?` gives the text whose encoding is
exactly the given bytes, if there is one; `Text.untilZero` cuts at the first zero byte.

Addresses and registers are printed in base sixteen with lower-case digits: in as few digits as
the number needs (`Hex.plain`), in a fixed number of digits (`Hex.fixed`), with the `0x` mark
(`Hex.marked`, `Hex.markedFixed`) or right-aligned in a column (`Hex.aligned`).

Descriptor tables hold words with the lowest byte first. `LittleEndian.bytesOf16` and
`LittleEndian.bytesOf32` split a word into its bytes and `LittleEndian.word16` puts two bytes
together again.
-/

namespace Bringup

/-! ## Text as bytes -/

namespace Text

/-- The UTF-8 bytes of a text. -/
def encode (text : String) : List UInt8 :=
  text.toUTF8.data.toList

theorem encode_append (first second : String) :
    encode (first ++ second) = encode first ++ encode second := by
  simp [encode]

/-- The text that the bytes encode. Overlong forms, surrogates, values above `0x10ffff` and
cut-off sequences encode no text. -/
def decode? (bytes : List UInt8) : Option String :=
  String.fromUTF8? ⟨bytes.toArray⟩

/-- The bytes before the first zero, all of them if there is none. -/
def untilZero (bytes : List UInt8) : List UInt8 :=
  bytes.takeWhile (· ≠ 0)

end Text

/-! ## Hexadecimal text -/

namespace Hex

/-- The digit of a value below sixteen. -/
def digit (n : Nat) : Char :=
  Nat.digitChar (n % 16)

/-- The last `width` digits of a number, most significant first. -/
def fixedDigits : (width : Nat) → Nat → List Char
  | 0, _ => []
  | width + 1, n => fixedDigits width (n / 16) ++ [digit n]

/-- How many digits a number needs, one for every four bits; zero needs one. -/
def digitCount (n : Nat) : Nat :=
  n.log2 / 4 + 1

/-- The number in as few digits as it needs. -/
def plain (n : Nat) : String :=
  String.ofList (fixedDigits (digitCount n) n)

/-- The number in `width` digits, or in more if it needs more. -/
def fixed (width n : Nat) : String :=
  String.ofList (fixedDigits (max width (digitCount n)) n)

/-- The number in as few digits as it needs, behind `0x`. -/
def marked (n : Nat) : String :=
  "0x" ++ plain n

/-- The number in at least `width` digits, behind `0x`. -/
def markedFixed (width n : Nat) : String :=
  "0x" ++ fixed width n

/-- A 64-bit word in its sixteen digits, behind `0x`. -/
def word (n : UInt64) : String :=
  markedFixed 16 n.toNat

/-- The number at the right edge of a column of `width` characters. -/
def aligned (width n : Nat) : String :=
  String.ofList (List.replicate (width - digitCount n) ' ') ++ plain n

end Hex

/-! ## Little-endian words -/

namespace LittleEndian

/-- The bytes of a 16-bit word, lowest first. -/
def bytesOf16 (w : UInt16) : List UInt8 :=
  [w.toUInt8, (w >>> 8).toUInt8]

/-- The bytes of a 32-bit word, lowest first. -/
def bytesOf32 (w : UInt32) : List UInt8 :=
  [w.toUInt8, (w >>> 8).toUInt8, (w >>> 16).toUInt8, (w >>> 24).toUInt8]

/-- The 16-bit word with these bytes. -/
def word16 (low high : UInt8) : UInt16 :=
  high.toUInt16 <<< 8 ||| low.toUInt16

end LittleEndian

end Bringup
