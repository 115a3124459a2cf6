import Bringup.Proofs.WordBytes

/-!
# The parts of a segment descriptor

Eight raw bytes hold a base, a limit, an access byte, two upper flags and two bits that no part
takes. A descriptor made of the bytes finds each part at its place (`Segment.toNat_base_ofBytes`,
`Segment.toNat_limit_ofBytes`, `Segment.upperFlags_ofBytes`). With the two bits that are left the
parts make the bytes again (`SegmentParts.bytes_ofBytes`), so descriptors with the same parts differ
in the two bits at most (`Segment.parts_of_bytes`).
-/

namespace Bringup

namespace Segment

/-! ## Reading -/

/-- The parts of the base stand one above the other. -/
theorem toNat_base (s : Segment) :
    s.base.toNat = s.baseLow.toNat + 2 ^ 16 * (s.baseMiddle.toNat + 2 ^ 8 * s.baseHigh.toNat) := by
  have low := s.baseLow.toNat_lt
  have middle := s.baseMiddle.toNat_lt
  have movedHigh : (s.baseHigh.toUInt32 <<< 24).toNat = 2 ^ 24 * s.baseHigh.toNat :=
    toNat_movedByte s.baseHigh (by decide)
  have movedMiddle : (s.baseMiddle.toUInt32 <<< 16).toNat = 2 ^ 16 * s.baseMiddle.toNat :=
    toNat_movedByte s.baseMiddle (by decide)
  -- no two parts share a bit, so to put them together is to add them
  have upper : 2 ^ 24 * s.baseHigh.toNat ||| 2 ^ 16 * s.baseMiddle.toNat =
      2 ^ 16 * (s.baseMiddle.toNat + 2 ^ 8 * s.baseHigh.toNat) := by
    rw [← Nat.two_pow_add_eq_or_of_lt (by omega)]
    omega
  rw [base, UInt32.toNat_or, UInt32.toNat_or, movedHigh, movedMiddle, UInt16.toNat_toUInt32,
    upper, ← Nat.two_pow_add_eq_or_of_lt low, Nat.add_comm]

/-- Of the byte that the limit shares with the flags, the lower half counts. -/
theorem toNat_limit (s : Segment) :
    s.limit.toNat = s.limitLow.toNat + 2 ^ 16 * (s.limitHighAndFlags &&& 0x0f).toNat := by
  have low := s.limitLow.toNat_lt
  have moved : ((s.limitHighAndFlags &&& 0x0f).toUInt32 <<< 16).toNat =
      2 ^ 16 * (s.limitHighAndFlags &&& 0x0f).toNat :=
    toNat_movedByte _ (by decide)
  rw [limit, UInt32.toNat_or, moved, UInt16.toNat_toUInt32,
    ← Nat.two_pow_add_eq_or_of_lt low, Nat.add_comm]

section Raw

variable (raw : Vector UInt8 8)

/-- The base stands in four bytes, the highest of them apart from the rest. -/
theorem toNat_base_ofBytes :
    (ofBytes raw).base.toNat = littleEndianNat [raw.get 2, raw.get 3, raw.get 4, raw.get 7] := by
  have low : (ofBytes raw).baseLow.toNat = littleEndianNat [raw.get 2, raw.get 3] :=
    toNat_word16 (raw.get 2) (raw.get 3)
  have middle : (ofBytes raw).baseMiddle = raw.get 4 := rfl
  have high : (ofBytes raw).baseHigh = raw.get 7 := rfl
  rw [toNat_base, low, middle, high]
  simp only [littleEndianNat_cons, littleEndianNat_nil]
  omega

/-- The limit stands in two bytes and the lower half of a third. -/
theorem toNat_limit_ofBytes :
    (ofBytes raw).limit.toNat = littleEndianNat [raw.get 0, raw.get 1, raw.get 6 &&& 0x0f] := by
  have low : (ofBytes raw).limitLow.toNat = littleEndianNat [raw.get 0, raw.get 1] :=
    toNat_word16 (raw.get 0) (raw.get 1)
  have shared : (ofBytes raw).limitHighAndFlags = raw.get 6 := rfl
  rw [toNat_limit, low, shared]
  simp only [littleEndianNat_cons, littleEndianNat_nil]
  omega

/-- Only the two named flags of the upper half are shown. -/
theorem upperFlags_ofBytes : (ofBytes raw).upperFlags = raw.get 6 &&& 0xa0 :=
  UInt8.and_assoc (raw.get 6) 0xf0 0xa0

theorem toNat_and_lowerHalf (byte : UInt8) : (byte &&& 0x0f).toNat = byte.toNat % 16 := by
  rw [UInt8.toNat_and]
  exact Nat.and_two_pow_sub_one_eq_mod byte.toNat 4

/-- The limit has at most twenty bits. -/
theorem toNat_limit_ofBytes_lt : (ofBytes raw).limit.toNat < 2 ^ 20 := by
  have low := (raw.get 0).toNat_lt
  have next := (raw.get 1).toNat_lt
  have half := toNat_and_lowerHalf (raw.get 6)
  rw [toNat_limit_ofBytes]
  simp only [littleEndianNat_cons, littleEndianNat_nil]
  omega

end Raw

end Segment

/-! ## Bits under masks -/

theorem and_or_and (byte first second : UInt8) :
    byte &&& first ||| byte &&& second = byte &&& (first ||| second) := by
  rw [← UInt8.toBitVec_inj, UInt8.toBitVec_or, UInt8.toBitVec_and, UInt8.toBitVec_and,
    UInt8.toBitVec_and, UInt8.toBitVec_or, BitVec.and_or_distrib_left]

/-! ## Parts and bytes -/

/-- The parts of eight raw bytes: what a descriptor shows, and the two bits that it never shows. -/
structure SegmentParts where
  base : UInt32
  limit : UInt32
  access : UInt8
  upper : UInt8
  spare : UInt8
  limit_lt : limit.toNat < 2 ^ 20
  upper_shown : upper &&& 0xa0 = upper
  spare_hidden : spare &&& 0x50 = spare

namespace SegmentParts

/-- The parts as a descriptor made of the bytes shows them, and the two bits left over. -/
def ofBytes (raw : Vector UInt8 8) : SegmentParts where
  base := (Segment.ofBytes raw).base
  limit := (Segment.ofBytes raw).limit
  access := (Segment.ofBytes raw).access
  upper := (Segment.ofBytes raw).upperFlags
  spare := raw.get 6 &&& 0x50
  limit_lt := Segment.toNat_limit_ofBytes_lt raw
  upper_shown := by
    rw [Segment.upperFlags_ofBytes, UInt8.and_assoc, UInt8.and_self]
  spare_hidden := by
    rw [UInt8.and_assoc, UInt8.and_self]

/-- The byte that three parts share. -/
def shared (p : SegmentParts) : UInt8 :=
  (p.limit >>> 16).toUInt8 ||| p.upper ||| p.spare

/-- The bytes that parts stand for. -/
def bytes (p : SegmentParts) : Vector UInt8 8 :=
  #v[p.limit.toUInt8, (p.limit >>> 8).toUInt8, p.base.toUInt8, (p.base >>> 8).toUInt8,
    (p.base >>> 16).toUInt8, p.access, p.shared, (p.base >>> 24).toUInt8]

/-- The bytes of the base of a descriptor are where the base stands. -/
theorem bytesOf32_base (raw : Vector UInt8 8) :
    LittleEndian.bytesOf32 (ofBytes raw).base = [raw.get 2, raw.get 3, raw.get 4, raw.get 7] :=
  bytesOf32_eq rfl (Segment.toNat_base_ofBytes raw)

/-- The bytes of the limit of a descriptor are where the limit stands, with nothing above. -/
theorem bytesOf32_limit (raw : Vector UInt8 8) :
    LittleEndian.bytesOf32 (ofBytes raw).limit =
      [raw.get 0, raw.get 1, raw.get 6 &&& 0x0f, 0] :=
  bytesOf32_eq rfl (Segment.toNat_limit_ofBytes raw)

/-- The three masks of the shared byte leave nothing out. -/
theorem shared_ofBytes (raw : Vector UInt8 8) :
    raw.get 6 &&& 0x0f ||| (ofBytes raw).upper ||| (ofBytes raw).spare = raw.get 6 := by
  have upper : (ofBytes raw).upper = raw.get 6 &&& 0xa0 := Segment.upperFlags_ofBytes raw
  have spare : (ofBytes raw).spare = raw.get 6 &&& 0x50 := rfl
  have all : (0x0f ||| 0xa0 ||| 0x50 : UInt8) = -1 := rfl
  rw [upper, spare, and_or_and, and_or_and, all, UInt8.and_neg_one]

/-- Put together again, the parts are the bytes that they were read from. -/
theorem bytes_ofBytes (raw : Vector UInt8 8) : (ofBytes raw).bytes = raw := by
  have base := bytesOf32_base raw
  have limit := bytesOf32_limit raw
  simp only [LittleEndian.bytesOf32, List.cons.injEq, and_true] at base limit
  obtain ⟨second, third, fourth, seventh⟩ := base
  obtain ⟨zeroth, first, lowerHalf, -⟩ := limit
  -- the shared byte is put together from three parts; every other one is a byte of a single part
  have sixth := shared_ofBytes raw
  rw [← lowerHalf] at sixth
  refine Vector.ext fun i inside => ?_
  match i with
  | 0 => exact zeroth
  | 1 => exact first
  | 2 => exact second
  | 3 => exact third
  | 4 => exact fourth
  | 5 => rfl
  | 6 => exact sixth
  | 7 => exact seventh

end SegmentParts

/-! ## Descriptors with the same parts -/

namespace Segment

/-- The bits of a raw descriptor that belong to none of the shown parts. -/
def IsSpareBit (place : Fin 8) (bit : Nat) : Prop :=
  place = 6 ∧ (bit = 4 ∨ bit = 6)

/-- All that is shown of two descriptors is the same. -/
structure SameShown (first second : Segment) : Prop where
  base : first.base = second.base
  limit : first.limit = second.limit
  access : first.access = second.access
  upper : first.upperFlags = second.upperFlags

theorem eq_iff_testBit (first second : UInt8) :
    first = second ↔ ∀ bit, first.toNat.testBit bit = second.toNat.testBit bit := by
  constructor
  · rintro rfl bit
    rfl
  · exact fun same => UInt8.toNat_inj.1 (Nat.eq_of_testBit_eq same)

/-- Under the masks of the limit and of the upper flags, all bits of a byte are seen but two. -/
theorem testBit_and_shown (byte : UInt8) (bit : Nat) :
    (byte &&& 0xaf).toNat.testBit bit =
      (byte.toNat.testBit bit && !decide (bit = 4 ∨ bit = 6)) := by
  have mask : ∀ bit < 8, Nat.testBit 0xaf bit = !decide (bit = 4 ∨ bit = 6) := by
    decide
  rw [UInt8.toNat_and, Nat.testBit_and]
  rcases Nat.lt_or_ge bit 8 with inside | beyond
  · rw [← mask bit inside]
    rfl
  · have none : byte.toNat.testBit bit = false := by
      apply Nat.testBit_lt_two_pow
      exact Nat.lt_of_lt_of_le byte.toNat_lt (Nat.pow_le_pow_right (by decide) beyond)
    rw [none, Bool.false_and, Bool.false_and]

theorem and_shown_eq_iff (first second : UInt8) :
    first &&& 0xaf = second &&& 0xaf ↔
      ∀ bit, first.toNat.testBit bit ≠ second.toNat.testBit bit → bit = 4 ∨ bit = 6 := by
  rw [eq_iff_testBit]
  refine forall_congr' fun bit => ?_
  rw [testBit_and_shown, testBit_and_shown]
  by_cases spare : bit = 4 ∨ bit = 6
  · simp [spare]
  · simp [spare]

/-- The masks of the limit and of the upper flags together see what each of them sees. -/
theorem and_shown_eq_iff_and (first second : UInt8) :
    first &&& 0xaf = second &&& 0xaf ↔
      first &&& 0x0f = second &&& 0x0f ∧ first &&& 0xa0 = second &&& 0xa0 := by
  have both : (0x0f ||| 0xa0 : UInt8) = 0xaf := rfl
  constructor
  · intro same
    -- a mask within the larger one sees no more than it does
    have under : ∀ mask : UInt8, 0xaf &&& mask = mask → first &&& mask = second &&& mask := by
      intro mask within
      rw [← within, ← UInt8.and_assoc, ← UInt8.and_assoc, same]
    exact ⟨under 0x0f rfl, under 0xa0 rfl⟩
  · rintro ⟨limit, upper⟩
    rw [← both, ← and_or_and, ← and_or_and, limit, upper]

theorem base_ofBytes_eq_iff (first second : Vector UInt8 8) :
    (ofBytes first).base = (ofBytes second).base ↔
      first.get 2 = second.get 2 ∧ first.get 3 = second.get 3 ∧ first.get 4 = second.get 4 ∧
        first.get 7 = second.get 7 := by
  rw [← UInt32.toNat_inj, toNat_base_ofBytes, toNat_base_ofBytes, littleEndianNat_inj (by rfl)]
  simp only [List.cons.injEq, and_true]

theorem limit_ofBytes_eq_iff (first second : Vector UInt8 8) :
    (ofBytes first).limit = (ofBytes second).limit ↔
      first.get 0 = second.get 0 ∧ first.get 1 = second.get 1 ∧
        first.get 6 &&& 0x0f = second.get 6 &&& 0x0f := by
  rw [← UInt32.toNat_inj, toNat_limit_ofBytes, toNat_limit_ofBytes, littleEndianNat_inj (by rfl)]
  simp only [List.cons.injEq, and_true]

/-- The same is shown of two raw descriptors if and only if their bytes are the same, and of the
shared byte the bits under the masks. -/
theorem sameShown_iff (first second : Vector UInt8 8) :
    SameShown (ofBytes first) (ofBytes second) ↔
      (∀ place : Fin 8, place ≠ 6 → first.get place = second.get place) ∧
        first.get 6 &&& 0xaf = second.get 6 &&& 0xaf := by
  rw [and_shown_eq_iff_and]
  constructor
  · rintro ⟨base, limit, access, upper⟩
    obtain ⟨second, third, fourth, seventh⟩ := (base_ofBytes_eq_iff _ _).1 base
    obtain ⟨zeroth, first, lowerHalf⟩ := (limit_ofBytes_eq_iff _ _).1 limit
    rw [upperFlags_ofBytes, upperFlags_ofBytes] at upper
    refine ⟨fun place apart => ?_, lowerHalf, upper⟩
    match place with
    | 0 => exact zeroth
    | 1 => exact first
    | 2 => exact second
    | 3 => exact third
    | 4 => exact fourth
    | 5 => exact access
    | 6 => exact absurd rfl apart
    | 7 => exact seventh
  · rintro ⟨bytes, lowerHalf, upper⟩
    have base := (base_ofBytes_eq_iff first second).2
      ⟨bytes 2 (by decide), bytes 3 (by decide), bytes 4 (by decide), bytes 7 (by decide)⟩
    have limit := (limit_ofBytes_eq_iff first second).2
      ⟨bytes 0 (by decide), bytes 1 (by decide), lowerHalf⟩
    have shown : (ofBytes first).upperFlags = (ofBytes second).upperFlags := by
      rw [upperFlags_ofBytes, upperFlags_ofBytes, upper]
    exact ⟨base, limit, bytes 5 (by decide), shown⟩

/-- **A raw descriptor is what is shown of it and two bits.** For all eight bytes, the base is made
of four of them, the limit of two and the lower half of a third, the access byte is one of them and
the upper flags are two bits of the other half. With the two bits that are left, they make the bytes
again, and the same is shown of two descriptors if and only if they differ in these two bits at
most. -/
theorem parts_of_bytes (raw : Vector UInt8 8) :
    ((ofBytes raw).base.toNat = littleEndianNat [raw.get 2, raw.get 3, raw.get 4, raw.get 7] ∧
      (ofBytes raw).limit.toNat = littleEndianNat [raw.get 0, raw.get 1, raw.get 6 &&& 0x0f] ∧
      (ofBytes raw).access = raw.get 5 ∧
      (ofBytes raw).upperFlags = raw.get 6 &&& 0xa0) ∧
    (SegmentParts.ofBytes raw).bytes = raw ∧
    ∀ other : Vector UInt8 8, SameShown (ofBytes raw) (ofBytes other) ↔
      ∀ (place : Fin 8) (bit : Nat),
        (raw.get place).toNat.testBit bit ≠ (other.get place).toNat.testBit bit →
          IsSpareBit place bit := by
  refine ⟨⟨toNat_base_ofBytes raw, toNat_limit_ofBytes raw, rfl, upperFlags_ofBytes raw⟩,
    SegmentParts.bytes_ofBytes raw, fun other => ?_⟩
  rw [sameShown_iff, and_shown_eq_iff]
  constructor
  · rintro ⟨bytes, shared⟩ place bit differ
    by_cases sixth : place = 6
    · subst sixth
      exact ⟨rfl, shared bit differ⟩
    · rw [bytes place sixth] at differ
      exact absurd rfl differ
  · intro spare
    refine ⟨fun place apart => ?_, fun bit differ => (spare 6 bit differ).2⟩
    rw [eq_iff_testBit]
    intro bit
    by_contra differ
    exact apart (spare place bit differ).1

/-- A raw descriptor with something in every part, its two spare bits set. -/
def scattered : Vector UInt8 8 :=
  #v[0x34, 0x12, 0x78, 0x56, 0x9a, 0xf2, 0xdf, 0xbc]

/-- The same descriptor with the spare bits clear. -/
def spared : Vector UInt8 8 :=
  #v[0x34, 0x12, 0x78, 0x56, 0x9a, 0xf2, 0x8f, 0xbc]

/-- The parts of a scattered descriptor, shown the same whatever its spare bits are. -/
theorem parts_of_scattered_bytes :
    (ofBytes scattered).base.toNat = 0xbc9a5678 ∧ (ofBytes scattered).limit.toNat = 0xf1234 ∧
      (ofBytes scattered).access = 0xf2 ∧ (ofBytes scattered).upperFlags = 0x80 ∧
      (SegmentParts.ofBytes scattered).bytes = scattered ∧
      SameShown (ofBytes scattered) (ofBytes spared) ∧
      (scattered.get 6).toNat.testBit 4 ≠ (spared.get 6).toNat.testBit 4 ∧ IsSpareBit 6 4 := by
  obtain ⟨⟨base, limit, access, upper⟩, whole, same⟩ := parts_of_bytes scattered
  have shown : SameShown (ofBytes scattered) (ofBytes spared) := by
    constructor <;> decide
  have differ : (scattered.get 6).toNat.testBit 4 ≠ (spared.get 6).toNat.testBit 4 := by
    decide
  exact ⟨base, limit, access, upper, whole, shown, differ, (same spared).1 shown 6 4 differ⟩

end Segment

end Bringup
