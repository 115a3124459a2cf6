import Mathlib.Data.List.TakeWhile
import Mathlib.Order.Preorder.Finite
import Bringup.Proofs.ScreenFormat
import Bringup.Proofs.Utf8

/-!
# What is checked of a handoff

A record is refused for the first part that it lacks, in the order record, framebuffer, memory map,
archive (`BootRecord.validate?_eq_error_iff`), and accepted as it is if it lacks none. The loader's
name has no say in that: it is the text that stands before its first zero byte if that is strict
UTF-8, and `unknown` otherwise (`Loader.calls_loaderName`). The main statement,
`BootRecord.handoffs_of_records`, puts the two together.
-/

namespace Bringup

/-! ## Up to the first zero -/

namespace Text

/-- `name` is what stands before the first zero of `bytes`, or all of them if they end without
one. -/
def IsUpToZero (name bytes : List UInt8) : Prop :=
  0 ∉ name ∧ (bytes = name ∨ ∃ rest, bytes = name ++ 0 :: rest)

/-- What stands behind a zero does not count. -/
theorem untilZero_append_zero (name rest : List UInt8) :
    untilZero (name ++ 0 :: rest) = untilZero name := by
  induction name with
  | nil => rfl
  | cons byte name ih =>
      by_cases zero : byte = 0
      · simp [untilZero, zero]
      · simpa [untilZero, zero] using ih

theorem isUpToZero_untilZero (bytes : List UInt8) : IsUpToZero (untilZero bytes) bytes := by
  constructor
  · intro mem
    simpa using List.mem_takeWhile_imp mem
  · induction bytes with
    | nil => exact .inl rfl
    | cons byte bytes ih =>
        by_cases zero : byte = 0
        · exact .inr ⟨bytes, by simp [untilZero, zero]⟩
        · have step : untilZero (byte :: bytes) = byte :: untilZero bytes := by
            simp [untilZero, zero]
          rw [step]
          rcases ih with whole | ⟨rest, split⟩
          · exact .inl (congrArg (byte :: ·) whole)
          · exact .inr ⟨rest, congrArg (byte :: ·) split⟩

theorem isUpToZero_iff {name bytes : List UInt8} :
    IsUpToZero name bytes ↔ name = untilZero bytes := by
  constructor
  · rintro ⟨absent, bytes_eq⟩
    have whole : untilZero name = name := by
      apply List.takeWhile_eq_self_iff.2
      intro byte mem
      simpa using fun zero : byte = 0 => absent (zero ▸ mem)
    rcases bytes_eq with rfl | ⟨rest, rfl⟩
    · exact whole.symm
    · rw [untilZero_append_zero, whole]
  · rintro rfl
    exact isUpToZero_untilZero bytes

end Text

/-! ## The loader's name -/

/-- The loader has a name, and `name` is what stands there before the first zero. -/
def Loader.IsNamed (loader : Option Loader) (name : List UInt8) : Prop :=
  ∃ l bytes, loader = some l ∧ l.name = some bytes ∧ Text.IsUpToZero name bytes

/-- A text is what a loader is called: the text with the loader's name as its encoding if the name
is strict UTF-8, and `unknown` if it is not or there is none. -/
structure Loader.Calls (loader : Option Loader) (shown : String) : Prop where
  readable : ∀ name, IsNamed loader name → Text.IsStrictUtf8 name →
    ∀ text, text = shown ↔ Text.encode text = name
  points : ∀ name points, IsNamed loader name → Text.EncodesPoints name points →
    shown.toList.map Char.toNat = points
  unreadable : (∀ name, IsNamed loader name → ¬ Text.IsStrictUtf8 name) → shown = "unknown"

namespace Loader

theorem text?_of_isNamed {loader : Option Loader} {name : List UInt8}
    (named : IsNamed loader name) : loader.bind text? = Text.decode? name := by
  obtain ⟨l, bytes, rfl, has, upToZero⟩ := named
  rw [Text.isUpToZero_iff.1 upToZero, Option.bind_some, text?, has, Option.bind_some]

/-- A text that is read from a loader is read from its name. -/
theorem exists_isNamed_of_text? {loader : Option Loader} {text : String}
    (read : loader.bind text? = some text) :
    ∃ name, IsNamed loader name ∧ Text.decode? name = some text := by
  obtain ⟨l, rfl, ofLoader⟩ := Option.bind_eq_some_iff.1 read
  obtain ⟨bytes, has, decoded⟩ := Option.bind_eq_some_iff.1 ofLoader
  exact ⟨_, ⟨l, bytes, rfl, has, Text.isUpToZero_untilZero bytes⟩, decoded⟩

/-- A loader whose name encodes a text is called by that text. -/
theorem loaderName_of_isNamed {loader : Option Loader} {text : String}
    (named : IsNamed loader (Text.encode text)) : loaderName loader = text := by
  rw [loaderName, text?_of_isNamed named, Text.decode?_eq_some_iff.2 rfl, Option.getD_some]

theorem calls_loaderName (loader : Option Loader) : Calls loader (loaderName loader) := by
  refine ⟨?_, ?_, ?_⟩
  · intro name named strict text
    obtain ⟨written, rfl⟩ := Text.isStrictUtf8_iff.1 strict
    rw [loaderName_of_isNamed named, ← Text.decode?_eq_some_iff, Text.decode?_eq_some_iff.2 rfl,
      Option.some.injEq, eq_comm]
  · intro name points named forms
    obtain ⟨text, rfl, rfl⟩ := forms.exists_text
    rw [loaderName_of_isNamed named]
  · intro unreadable
    rw [loaderName]
    cases read : loader.bind text? with
    | none => rfl
    | some text =>
        obtain ⟨name, named, decoded⟩ := exists_isNamed_of_text? read
        have strict := Text.isStrictUtf8_iff.2 ⟨text, Text.decode?_eq_some_iff.1 decoded⟩
        exact absurd strict (unreadable name named)

/-- What stands behind the first zero of a name is not read. -/
theorem loaderName_append_zero (name rest other : List UInt8) :
    loaderName (some ⟨some (name ++ 0 :: rest)⟩) =
      loaderName (some ⟨some (name ++ 0 :: other)⟩) := by
  have same : ∀ tail, text? ⟨some (name ++ 0 :: tail)⟩ = Text.decode? (Text.untilZero name) := by
    intro tail
    rw [text?, Option.bind_some, Text.untilZero_append_zero]
  rw [loaderName, loaderName, Option.bind_some, Option.bind_some, same, same]

end Loader

/-! ## The parts of a record -/

/-- The place of a part in the order that the parts are asked for. -/
def BootError.rank : BootError → Nat
  | .missingRecord => 0
  | .missingFramebuffer => 1
  | .missingMemoryMap => 2
  | .missingArchive => 3

namespace BootRecord

/-- Whether a part is missing. Without a record all of them are, and a framebuffer at address zero
is none. -/
def Lacks (record : Option BootRecord) : BootError → Prop
  | .missingRecord => record = none
  | .missingFramebuffer => ∀ d ∈ record.bind (·.framebuffer), d.address = 0
  | .missingMemoryMap => record.bind (·.memoryMap) = none
  | .missingArchive => record.bind (·.archive) = none

/-- The first part that is missing. -/
def LacksFirst (record : Option BootRecord) (part : BootError) : Prop :=
  Lacks record part ∧ ∀ other, Lacks record other → part.rank ≤ other.rank

variable {record : Option BootRecord} {part : BootError} {handoff : Handoff}

/-- What lacks a part lacks one first. -/
theorem exists_lacksFirst (lacks : Lacks record part) : ∃ first, LacksFirst record first := by
  obtain ⟨first, missing, least⟩ :=
    exists_minimalFor_of_wellFoundedLT (Lacks record) BootError.rank ⟨part, lacks⟩
  refine ⟨first, missing, fun other lacks => ?_⟩
  rcases Nat.le_total first.rank other.rank with le | ge
  · exact le
  · exact least lacks ge

/-- A framebuffer that is somewhere is what validation looks for. -/
theorem lacks_framebuffer_iff {r : BootRecord} :
    Lacks (some r) .missingFramebuffer ↔ r.framebuffer.filter (·.address != 0) = none := by
  simp [Lacks, Option.filter_eq_none_iff]

theorem exists_framebuffer {r : BootRecord} (has : ¬ Lacks (some r) .missingFramebuffer) :
    ∃ d, r.framebuffer.filter (·.address != 0) = some d :=
  Option.ne_none_iff_exists'.1 (mt lacks_framebuffer_iff.2 has)

/-- A record is refused for the first part that it lacks. -/
theorem validate?_of_lacksFirst (first : LacksFirst record part) :
    validate? record = .error part := by
  obtain ⟨lacks, least⟩ := first
  have has : ∀ other, other.rank < part.rank → ¬ Lacks record other :=
    fun other before missing => Nat.not_le.2 before (least other missing)
  cases part with
  | missingRecord =>
      obtain rfl : record = none := lacks
      rfl
  | missingFramebuffer =>
      obtain ⟨r, rfl⟩ := Option.ne_none_iff_exists'.1 (has .missingRecord (by decide))
      simp only [validate?, lacks_framebuffer_iff.1 lacks]
  | missingMemoryMap =>
      obtain ⟨r, rfl⟩ := Option.ne_none_iff_exists'.1 (has .missingRecord (by decide))
      obtain ⟨d, located⟩ := exists_framebuffer (has .missingFramebuffer (by decide))
      have unmapped : r.memoryMap = none := lacks
      simp only [validate?, located, unmapped]
  | missingArchive =>
      obtain ⟨r, rfl⟩ := Option.ne_none_iff_exists'.1 (has .missingRecord (by decide))
      obtain ⟨d, located⟩ := exists_framebuffer (has .missingFramebuffer (by decide))
      obtain ⟨memoryMap, mapped⟩ : ∃ memoryMap, r.memoryMap = some memoryMap :=
        Option.ne_none_iff_exists'.1 (has .missingMemoryMap (by decide))
      have notLoaded : r.archive = none := lacks
      simp only [validate?, located, mapped, notLoaded]

/-- A record that lacks nothing is accepted. -/
theorem exists_handoff (complete : ∀ part, ¬ Lacks record part) :
    ∃ handoff, validate? record = .ok handoff := by
  obtain ⟨r, rfl⟩ := Option.ne_none_iff_exists'.1 (complete .missingRecord)
  obtain ⟨d, located⟩ := exists_framebuffer (complete .missingFramebuffer)
  obtain ⟨memoryMap, mapped⟩ : ∃ memoryMap, r.memoryMap = some memoryMap :=
    Option.ne_none_iff_exists'.1 (complete .missingMemoryMap)
  obtain ⟨archive, loaded⟩ : ∃ archive, r.archive = some archive :=
    Option.ne_none_iff_exists'.1 (complete .missingArchive)
  refine ⟨⟨loaderName r.loader, d, memoryMap, archive⟩, ?_⟩
  simp only [validate?, located, mapped, loaded]

theorem validate?_eq_error_iff : validate? record = .error part ↔ LacksFirst record part := by
  refine ⟨fun refused => ?_, validate?_of_lacksFirst⟩
  by_cases complete : ∀ part, ¬ Lacks record part
  · obtain ⟨handoff, accepted⟩ := exists_handoff complete
    rw [refused] at accepted
    cases accepted
  · obtain ⟨missing, lacks⟩ := not_forall_not.1 complete
    obtain ⟨first, isFirst⟩ := exists_lacksFirst lacks
    -- a refusal has one cause, so this is the part that is named
    have cause := validate?_of_lacksFirst isFirst
    rw [refused] at cause
    cases cause
    exact isFirst

theorem exists_handoff_iff :
    (∃ handoff, validate? record = .ok handoff) ↔ ∀ part, ¬ Lacks record part := by
  refine ⟨?_, exists_handoff⟩
  rintro ⟨handoff, accepted⟩ part lacks
  obtain ⟨first, isFirst⟩ := exists_lacksFirst lacks
  rw [validate?_of_lacksFirst isFirst] at accepted
  cases accepted

/-- An accepted record is handed on as it is. -/
structure HandedOn (record : BootRecord) (handoff : Handoff) : Prop where
  framebuffer : record.framebuffer = some handoff.framebuffer
  memoryMap : record.memoryMap = some handoff.memoryMap
  archive : record.archive = some handoff.archive
  loaderName : Loader.Calls record.loader handoff.loaderName

theorem handedOn_of_ok {r : BootRecord} (accepted : validate? (some r) = .ok handoff) :
    HandedOn r handoff := by
  obtain ⟨d, memoryMap, archive, framebuffer, -, mapped, loaded, rfl⟩ :=
    validate?_eq_ok_iff.1 accepted
  exact ⟨framebuffer, mapped, loaded, Loader.calls_loaderName r.loader⟩

/-- The record with another loader. -/
def withLoader (r : BootRecord) (loader : Option Loader) : BootRecord :=
  { r with loader }

theorem lacksFirst_withLoader {r : BootRecord} {loader : Option Loader} :
    LacksFirst (some (r.withLoader loader)) part ↔ LacksFirst (some r) part := by
  have same : ∀ part, Lacks (some (r.withLoader loader)) part ↔ Lacks (some r) part := by
    intro part
    cases part with
    | missingRecord => simp only [Lacks, reduceCtorEq]
    | missingFramebuffer | missingMemoryMap | missingArchive => exact Iff.rfl
  simp only [LacksFirst, same]

/-- Of the loader only its text is handed on. -/
theorem validate?_withLoader_congr (r : BootRecord) {first second : Option Loader}
    (same : Bringup.loaderName first = Bringup.loaderName second) :
    validate? (some (r.withLoader first)) = validate? (some (r.withLoader second)) := by
  simp only [validate?, withLoader, same]

/-- **What becomes of a handoff.** Any record is refused for the first part that it lacks, in the
order record, framebuffer, memory map, archive, and accepted exactly if it lacks none. What is
accepted is handed on with its parts as they are and with a text for the loader: the one that its
name is the encoding of, if there is a name and what stands before its first zero is strict UTF-8,
and `unknown` otherwise. So whether a record is refused, and for what, does not depend on its
loader, and what stands behind the first zero of the loader's name changes nothing at all. -/
theorem handoffs_of_records :
    (∀ record part, validate? record = .error part ↔ LacksFirst record part) ∧
      (∀ record, (∃ handoff, validate? record = .ok handoff) ↔ ∀ part, ¬ Lacks record part) ∧
      (∀ r handoff, validate? (some r) = .ok handoff → HandedOn r handoff) ∧
      (∀ r loader part, validate? (some (withLoader r loader)) = .error part ↔
        validate? (some r) = .error part) ∧
      ∀ r name rest other,
        validate? (some (withLoader r (some ⟨some (name ++ 0 :: rest)⟩))) =
          validate? (some (withLoader r (some ⟨some (name ++ 0 :: other)⟩))) := by
  refine ⟨fun record part => validate?_eq_error_iff, fun record => exists_handoff_iff,
    fun r handoff => handedOn_of_ok, ?_, ?_⟩
  · intro r loader part
    rw [validate?_eq_error_iff, validate?_eq_error_iff, lacksFirst_withLoader]
  · intro r name rest other
    exact validate?_withLoader_congr r (Loader.loaderName_append_zero name rest other)

/-- A record with all parts and a loader of the given name. -/
def namedRecord (name : List UInt8) : BootRecord where
  loader := some ⟨some name⟩
  framebuffer := some ⟨0xfd000000, 1024, 768, 4096, 32, 8, 16, 8, 8, 8, 0⟩
  memoryMap := some ⟨none⟩
  archive := some ⟨0x200000, 512⟩

/-- A name with an accent is shown up to its zero, half of a surrogate pair is not, and of two
missing parts the framebuffer is named. -/
theorem handoffs_of_named_records :
    (∃ handoff,
      validate? (some (namedRecord [0x63, 0x61, 0x66, 0xc3, 0xa9, 0, 0xff])) = .ok handoff ∧
      handoff.loaderName = "café") ∧
    (∃ handoff, validate? (some (namedRecord [0xed, 0xa0, 0x80])) = .ok handoff ∧
      handoff.loaderName = "unknown") ∧
    validate? (some { namedRecord [] with framebuffer := none, memoryMap := none }) =
      .error .missingFramebuffer := by
  obtain ⟨refused, accepted, handedOn, -, -⟩ := handoffs_of_records
  have complete : ∀ name part, ¬ Lacks (some (namedRecord name)) part := by
    intro name part
    cases part <;> simp [Lacks, namedRecord]
  refine ⟨?_, ?_, ?_⟩
  · obtain ⟨handoff, ok⟩ := (accepted _).2 (complete [0x63, 0x61, 0x66, 0xc3, 0xa9, 0, 0xff])
    have named : Loader.IsNamed (some ⟨some [0x63, 0x61, 0x66, 0xc3, 0xa9, 0, 0xff]⟩)
        (Text.encode "café") := ⟨_, _, rfl, rfl, by decide, .inr ⟨[0xff], rfl⟩⟩
    have strict := Text.isStrictUtf8_iff.2 ⟨"café", rfl⟩
    exact ⟨handoff, ok, (((handedOn _ _ ok).loaderName.readable _ named strict "café").2 rfl).symm⟩
  · obtain ⟨handoff, ok⟩ := (accepted _).2 (complete [0xed, 0xa0, 0x80])
    refine ⟨handoff, ok, (handedOn _ _ ok).loaderName.unreadable ?_⟩
    rintro name ⟨_, _, ⟨⟩, ⟨⟩, upToZero⟩
    rw [Text.isUpToZero_iff.1 upToZero, ← Text.decode?_eq_none_iff]
    decide +kernel
  · refine (refused _ _).2 ⟨fun d mem => ?_, fun other missing => ?_⟩
    · cases mem
    · cases other with
      | missingRecord => cases missing
      | missingFramebuffer | missingMemoryMap | missingArchive => decide

end BootRecord

end Bringup
