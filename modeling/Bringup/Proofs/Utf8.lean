import Bringup.Encoding

/-!
# Strict UTF-8

Which bytes are a text. A code point is written in one to four bytes: a first byte that shows how
many follow, and bytes that continue it with six bits each. Only the shortest form counts; a half of
a surrogate pair and a number above `0x10ffff` have none, and no form may be cut off
(`EncodesPoint`).

`decode?` gives the text that has the given bytes as its encoding (`decode?_eq_some_iff`), and it
gives one exactly for bytes that are such forms, one after the other (`decode?_eq_none_iff`). The
code points of that text are the ones that the forms stand for (`EncodesPoints.exists_text`).
-/

namespace Bringup.Text

/-- Whether a byte continues a form. -/
def IsContinuation (byte : UInt8) : Prop :=
  0x80 ≤ byte.toNat ∧ byte.toNat < 0xc0

/-- The number that begins with `upper` and goes on with the six bits of each byte. -/
def continued (upper : Nat) (bytes : List UInt8) : Nat :=
  bytes.foldl (fun point byte => 0x40 * point + (byte.toNat - 0x80)) upper

/-- The bytes are the form of a code point. -/
inductive EncodesPoint : List UInt8 → Nat → Prop where
  | one {a : UInt8} (first : a.toNat < 0x80) : EncodesPoint [a] a.toNat
  | two {a b : UInt8} {point : Nat} (first : 0xc0 ≤ a.toNat ∧ a.toNat < 0xe0)
      (second : IsContinuation b) (value : point = continued (a.toNat - 0xc0) [b])
      (shortest : 0x80 ≤ point) : EncodesPoint [a, b] point
  | three {a b c : UInt8} {point : Nat} (first : 0xe0 ≤ a.toNat ∧ a.toNat < 0xf0)
      (second : IsContinuation b) (third : IsContinuation c)
      (value : point = continued (a.toNat - 0xe0) [b, c]) (shortest : 0x800 ≤ point)
      (notSurrogate : point < 0xd800 ∨ 0xdfff < point) : EncodesPoint [a, b, c] point
  | four {a b c d : UInt8} {point : Nat} (first : 0xf0 ≤ a.toNat ∧ a.toNat < 0xf8)
      (second : IsContinuation b) (third : IsContinuation c) (fourth : IsContinuation d)
      (value : point = continued (a.toNat - 0xf0) [b, c, d]) (shortest : 0x10000 ≤ point)
      (bounded : point ≤ 0x10ffff) : EncodesPoint [a, b, c, d] point

/-- The bytes are the forms of code points, one after the other. -/
inductive EncodesPoints : List UInt8 → List Nat → Prop where
  | nil : EncodesPoints [] []
  | cons {form rest : List UInt8} {point : Nat} {points : List Nat}
      (first : EncodesPoint form point) (more : EncodesPoints rest points) :
      EncodesPoints (form ++ rest) (point :: points)

/-- Whether bytes are strictly valid UTF-8. -/
def IsStrictUtf8 (bytes : List UInt8) : Prop :=
  ∃ points, EncodesPoints bytes points

/-! ## One code point -/

theorem continued_one (upper : Nat) (b : UInt8) :
    continued upper [b] = 0x40 * upper + (b.toNat - 0x80) := rfl

theorem continued_two (upper : Nat) (b c : UInt8) :
    continued upper [b, c] = 0x40 * (0x40 * upper + (b.toNat - 0x80)) + (c.toNat - 0x80) := rfl

theorem continued_three (upper : Nat) (b c d : UInt8) :
    continued upper [b, c, d] =
      0x40 * (0x40 * (0x40 * upper + (b.toNat - 0x80)) + (c.toNat - 0x80)) + (d.toNat - 0x80) := rfl

/-- Only code points that are characters have a form. -/
theorem EncodesPoint.isValidChar {bytes : List UInt8} {point : Nat}
    (form : EncodesPoint bytes point) : point.isValidChar := by
  cases form with
  | one first => exact .inl (by omega)
  | two first second value shortest =>
      obtain ⟨-, high⟩ := second
      rw [continued_one] at value
      exact .inl (by omega)
  | three first second third value shortest notSurrogate =>
      obtain ⟨-, secondHigh⟩ := second
      obtain ⟨-, thirdHigh⟩ := third
      rw [continued_two] at value
      rcases notSurrogate with below | above
      · exact .inl below
      · exact .inr ⟨above, by omega⟩
  | four first second third fourth value shortest bounded => exact .inr (by omega)

/-- The byte that carries the low six bits of a number continues a form. -/
theorem isContinuation_ofNat (n : Nat) :
    IsContinuation (UInt8.ofNat (n % 0x40 + 0x80)) ∧
      (UInt8.ofNat (n % 0x40 + 0x80)).toNat = n % 0x40 + 0x80 := by
  have value : (UInt8.ofNat (n % 0x40 + 0x80)).toNat = n % 0x40 + 0x80 :=
    UInt8.toNat_ofNat_of_lt' (by show _ < 256; omega)
  exact ⟨⟨by omega, by omega⟩, value⟩

/-- Every character is written in the form of its code point. -/
theorem encodesPoint_utf8EncodeChar (c : Char) :
    EncodesPoint (String.utf8EncodeChar c) c.toNat := by
  have valid : c.val.toNat < 0xd800 ∨ 0xdfff < c.val.toNat ∧ c.val.toNat < 0x110000 := c.valid
  show EncodesPoint _ c.val.toNat
  unfold String.utf8EncodeChar
  generalize c.val.toNat = n at valid ⊢
  -- six bits at a time from the low end; what is left goes into the first byte
  obtain ⟨last, lastValue⟩ := isContinuation_ofNat n
  obtain ⟨middle, middleValue⟩ := isContinuation_ofNat (n / 64)
  obtain ⟨upper, upperValue⟩ := isContinuation_ofNat (n / 4096)
  have first : ∀ m < 256, (UInt8.ofNat m).toNat = m := fun m h => UInt8.toNat_ofNat_of_lt' h
  dsimp only
  split
  next one =>
    have value := first n (by omega)
    have form := EncodesPoint.one (a := UInt8.ofNat n) (by omega)
    rwa [value] at form
  next =>
    split
    next two =>
      have value := first (n / 64 % 0x20 + 0xc0) (by omega)
      refine .two (by omega) last ?_ (by omega)
      rw [continued_one]
      omega
    next =>
      split
      next three =>
        have value := first (n / 4096 % 0x10 + 0xe0) (by omega)
        refine .three (by omega) middle last ?_ (by omega) (by omega)
        rw [continued_two]
        omega
      next =>
        have value := first (n / 262144 % 0x08 + 0xf0) (by omega)
        refine .four (by omega) upper middle last ?_ (by omega) (by omega)
        rw [continued_three]
        omega

/-- No other bytes are the form of a character. -/
theorem EncodesPoint.eq_utf8EncodeChar {bytes : List UInt8} {c : Char}
    (form : EncodesPoint bytes c.toNat) : bytes = String.utf8EncodeChar c := by
  have byte : ∀ (b : UInt8) (n : Nat), b.toNat = n → b = UInt8.ofNat n := by
    rintro b n rfl
    exact UInt8.ofNat_toNat.symm
  have same : c.toNat = c.val.toNat := rfl
  rw [same] at form
  unfold String.utf8EncodeChar
  generalize c.val.toNat = n at form ⊢
  dsimp only
  cases form with
  | @one a first => rw [if_pos (by omega), ← byte a _ rfl]
  | @two a b _ first second value shortest =>
      obtain ⟨low, high⟩ := second
      rw [continued_one] at value
      rw [if_neg (by omega), if_pos (by omega), ← byte a _ (by omega), ← byte b _ (by omega)]
  | @three a b c _ first second third value shortest notSurrogate =>
      obtain ⟨secondLow, secondHigh⟩ := second
      obtain ⟨thirdLow, thirdHigh⟩ := third
      rw [continued_two] at value
      rw [if_neg (by omega), if_neg (by omega), if_pos (by omega), ← byte a _ (by omega),
        ← byte b _ (by omega), ← byte c _ (by omega)]
  | @four a b c d _ first second third fourth value shortest bounded =>
      obtain ⟨secondLow, secondHigh⟩ := second
      obtain ⟨thirdLow, thirdHigh⟩ := third
      obtain ⟨fourthLow, fourthHigh⟩ := fourth
      rw [continued_three] at value
      rw [if_neg (by omega), if_neg (by omega), if_neg (by omega), ← byte a _ (by omega),
        ← byte b _ (by omega), ← byte c _ (by omega), ← byte d _ (by omega)]

/-! ## Texts -/

theorem encode_eq_flatMap (text : String) :
    encode text = text.toList.flatMap String.utf8EncodeChar := by
  rw [encode, String.toUTF8_eq_toByteArray, ← String.utf8Encode_toList, List.utf8Encode,
    List.toList_data_toByteArray]

/-- A text is written in the forms of its characters. -/
theorem encodesPoints_encode (text : String) :
    EncodesPoints (encode text) (text.toList.map Char.toNat) := by
  rw [encode_eq_flatMap]
  induction text.toList with
  | nil => exact .nil
  | cons c rest ih =>
      rw [List.flatMap_cons, List.map_cons]
      exact .cons (encodesPoint_utf8EncodeChar c) ih

/-- Forms one after the other are the encoding of a text. -/
theorem EncodesPoints.exists_text {bytes : List UInt8} {points : List Nat}
    (forms : EncodesPoints bytes points) :
    ∃ text, encode text = bytes ∧ text.toList.map Char.toNat = points := by
  induction forms with
  | nil => exact ⟨"", rfl, rfl⟩
  | @cons form rest point points first more ih =>
      obtain ⟨text, rfl, rfl⟩ := ih
      obtain ⟨c, rfl⟩ : ∃ c : Char, c.toNat = point :=
        ⟨Char.ofNatAux point first.isValidChar, rfl⟩
      refine ⟨String.ofList (c :: text.toList), ?_, ?_⟩
      · rw [encode_eq_flatMap, encode_eq_flatMap, String.toList_ofList, List.flatMap_cons,
          first.eq_utf8EncodeChar]
      · rw [String.toList_ofList, List.map_cons]

/-- Bytes are strictly valid exactly if they are the encoding of a text. -/
theorem isStrictUtf8_iff {bytes : List UInt8} :
    IsStrictUtf8 bytes ↔ ∃ text, encode text = bytes := by
  constructor
  · rintro ⟨points, forms⟩
    obtain ⟨text, written, -⟩ := forms.exists_text
    exact ⟨text, written⟩
  · rintro ⟨text, rfl⟩
    exact ⟨_, encodesPoints_encode text⟩

/-! ## Decoding -/

/-- Bytes are decoded to the text that they are the encoding of. -/
theorem decode?_eq_some_iff {bytes : List UInt8} {text : String} :
    decode? bytes = some text ↔ encode text = bytes := by
  rw [decode?, String.fromUTF8?]
  constructor
  · intro decoded
    split at decoded
    next valid =>
      cases decoded
      rfl
    next => cases decoded
  · rintro rfl
    have array : (⟨(encode text).toArray⟩ : ByteArray) = text.toByteArray := rfl
    rw [array, dif_pos text.isValidUTF8]
    rfl

/-- Bytes that are not strictly valid are decoded to nothing. -/
theorem decode?_eq_none_iff {bytes : List UInt8} :
    decode? bytes = none ↔ ¬ IsStrictUtf8 bytes := by
  rw [isStrictUtf8_iff, not_exists, Option.eq_none_iff_forall_ne_some]
  simp only [ne_eq, decode?_eq_some_iff]

end Bringup.Text
