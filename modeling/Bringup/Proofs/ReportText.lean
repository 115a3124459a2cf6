import Mathlib.Algebra.Group.Nat.Defs
import Mathlib.Data.List.DropRight
import Bringup.Panic.Report

/-!
# Reading a report back

Reason and file of a report are free text, so they may hold line ends and lines that look like a
register dump. The text is therefore read from its end. The last line that opens with the name of
the vector is the last line of the dump, because no line after it opens that way, whether or not
the report has lines about a page fault (`Report.linesToVector_full`). The thirty lines up to it
are the dump, whose values have a fixed width, and the digits at the end of what comes before are
the line number. So the text determines the frame and the line (`Report.frame_and_line_of_full`).
-/

namespace Bringup

/-! ## Digits -/

namespace Hex

theorem digit_inj {m n : Nat} (same : digit m = digit n) : m % 16 = n % 16 := by
  have distinct : ∀ a b : Fin 16, Nat.digitChar a.val = Nat.digitChar b.val → a = b := by decide
  have hm : m % 16 < 16 := Nat.mod_lt m (by decide)
  have hn : n % 16 < 16 := Nat.mod_lt n (by decide)
  exact Fin.mk.inj (distinct ⟨m % 16, hm⟩ ⟨n % 16, hn⟩ same)

theorem digit_ne_newline (n : Nat) : digit n ≠ '\n' := by
  have other : ∀ a : Fin 16, Nat.digitChar a.val ≠ '\n' := by decide
  exact other ⟨n % 16, Nat.mod_lt n (by decide)⟩

theorem newline_not_mem_fixedDigits (width n : Nat) : '\n' ∉ fixedDigits width n := by
  induction width generalizing n with
  | zero => exact List.not_mem_nil
  | succ width ih =>
      intro mem
      rcases List.mem_append.1 mem with earlier | last
      · exact ih (n / 16) earlier
      · exact digit_ne_newline n (List.mem_singleton.1 last).symm

/-- Numbers that fit a width are told apart by their digits in it. -/
theorem fixedDigits_inj {width m n : Nat} (hm : m < 16 ^ width) (hn : n < 16 ^ width)
    (same : fixedDigits width m = fixedDigits width n) : m = n := by
  induction width generalizing m n with
  | zero =>
      rw [Nat.pow_zero] at hm hn
      omega
  | succ width ih =>
      rw [Nat.pow_succ] at hm hn
      obtain ⟨high, low⟩ := List.append_inj' same rfl
      have quotients : m / 16 = n / 16 := ih (by omega) (by omega) high
      have remainders : m % 16 = n % 16 := digit_inj (List.cons.inj low).1
      omega

theorem digitCount_le_of_lt {n k : Nat} (fits : n < 2 ^ (4 * (k + 1))) : digitCount n ≤ k + 1 := by
  by_cases zero : n = 0
  · subst zero
    exact Nat.succ_le_succ (Nat.zero_le k)
  · have bits : n.log2 < 4 * (k + 1) := (Nat.log2_lt zero).2 fits
    unfold digitCount
    omega

theorem toList_word (n : UInt64) : (word n).toList = '0' :: 'x' :: fixedDigits 16 n.toNat := by
  have narrow : digitCount n.toNat ≤ 16 := digitCount_le_of_lt n.toNat_lt
  have width : max 16 (digitCount n.toNat) = 16 := Nat.max_eq_left narrow
  simp [word, markedFixed, fixed, width]

theorem word_inj {m n : UInt64} (same : word m = word n) : m = n := by
  have texts : (word m).toList = (word n).toList := congrArg String.toList same
  rw [toList_word, toList_word, List.cons.injEq, List.cons.injEq] at texts
  exact UInt64.toNat_inj.1 (fixedDigits_inj m.toNat_lt n.toNat_lt texts.2.2)

end Hex

/-! ## Lines -/

namespace Text

/-- The lines of a text. What follows the last line end is a line too, and may be empty. -/
def lines (text : String) : List (List Char) :=
  text.toList.splitOn '\n'

/-- A text that is a single line with its end. -/
def IsLine (piece : String) : Prop :=
  '\n' ∉ piece.toList.dropLast ∧ piece.toList.getLast? = some '\n'

instance (piece : String) : Decidable (IsLine piece) :=
  inferInstanceAs (Decidable (_ ∧ _))

/-- A line without its end. -/
def lineContent (piece : String) : List Char :=
  piece.toList.dropLast

theorem IsLine.toList_eq {piece : String} (line : IsLine piece) :
    piece.toList = lineContent piece ++ ['\n'] :=
  (List.dropLast_append_getLast? _ line.2).symm

/-- Pieces that are lines are the last lines of a text, after a line end. -/
theorem lines_append_join (front : String) {pieces : List String}
    (areLines : ∀ piece ∈ pieces, IsLine piece) :
    lines (front ++ "\n" ++ String.join pieces) =
      lines front ++ (pieces.map lineContent ++ [[]]) := by
  induction pieces generalizing front with
  | nil => simp [lines, List.splitOn_append_cons_self]
  | cons piece pieces ih =>
      obtain ⟨line, others⟩ := List.forall_mem_cons.1 areLines
      -- the rest of the text has the content of this piece as its front
      have rest := ih (String.ofList (lineContent piece)) others
      have single : lines (String.ofList (lineContent piece)) = [lineContent piece] := by
        rw [lines, String.toList_ofList]
        exact List.splitOn_eq_singleton line.1
      rw [single] at rest
      have split : lines (front ++ "\n" ++ String.join (piece :: pieces)) =
          lines front ++
            lines (String.ofList (lineContent piece) ++ "\n" ++ String.join pieces) := by
        simp [lines, line.toList_eq, List.splitOn_append_cons_self]
      rw [split, rest]
      rfl

end Text

/-- What follows the last kept element of a list is dropped with whatever is appended to it. -/
theorem rdropWhile_append_of_forall {α : Type} {p : α → Bool} (front : List α) {back : List α}
    (dropped : ∀ x ∈ back, p x = true) : (front ++ back).rdropWhile p = front.rdropWhile p := by
  unfold List.rdropWhile
  rw [List.reverse_append, List.dropWhile_append_of_pos]
  intro x mem
  exact dropped x (List.mem_reverse.1 mem)

/-! ## The lines of a report -/

/-- All lines that a report can have about a page fault. -/
def PageFault.possibleLines : List String :=
  ["Page Fault Details:\n", "  Operation: Protection Violation\n",
    "  Operation: Non-Present Page\n", "  Access Type: Write\n", "  Access Type: Read\n",
    "  Privilege Level: User Mode\n", "  Privilege Level: Supervisor Mode\n",
    "  Reserved Write: Yes\n", "  Instruction Fetch: Yes\n"]

theorem PageFault.lines_subset (f : PageFault) : f.lines ⊆ possibleLines := by
  unfold lines operation access privilege
  cases f.has protection <;> cases f.has write <;> cases f.has user <;> cases f.has reserved <;>
    cases f.has fetch <;> decide

/-- Two kinds of access at once; bit 6 of the code is none of the known ones. -/
example : (PageFault.ofErrorCode 0x57).lines =
    ["Page Fault Details:\n", "  Operation: Protection Violation\n", "  Access Type: Write\n",
      "  Privilege Level: User Mode\n", "  Instruction Fetch: Yes\n"] := by
  decide

namespace Report

open Text (IsLine lineContent)

/-- What a report says before the dump, up to the end of the line number. -/
def head (r : Report) : String :=
  banner ++ "\n" ++ ("Kernel panic @ " ++ Hex.word r.frame.rip ++ ": " ++ r.reason ++
    " (vector " ++ Hex.marked r.frame.vector.toNat ++ ")\n") ++
    ("In file: " ++ r.place.file ++ ", line: " ++ Nat.repr r.place.line.toNat)

/-- The lines of every report after its dump and what it says about a page fault. -/
def lastLines : List String :=
  ["Stack trace:\n", "  (not available)\n", closing ++ "\n"]

theorem full_eq (r : Report) :
    r.full = r.head ++ "\n" ++
      String.join ("Register dump:\n" :: dump r.frame ++ (faultDetails r.frame ++ lastLines)) := by
  simp only [full, pieces, head, lastLines, String.join_append, String.join_cons, String.join_nil,
    String.append_assoc, String.append_empty, List.cons_append, List.nil_append]

/-- Whether a line opens with the name of the vector, as the last line of a dump does. -/
def opensVector (line : List Char) : Bool :=
  "  VECTOR".toList.isPrefixOf line

/-- The lines of a text up to the last one that opens with the name of the vector. -/
def linesToVector (text : String) : List (List Char) :=
  (Text.lines text).rdropWhile fun line => !opensVector line

theorem toList_registerLine (name : String) (value : UInt64) :
    (registerLine name value).toList =
      ("  " ++ padRight nameWidth name ++ ": ").toList ++ (Hex.word value).toList ++ ['\n'] := by
  simp [registerLine]

theorem lineContent_registerLine (name : String) (value : UInt64) :
    lineContent (registerLine name value) =
      ("  " ++ padRight nameWidth name ++ ": ").toList ++ (Hex.word value).toList := by
  rw [lineContent, toList_registerLine, List.dropLast_concat]

theorem isLine_registerLine {name : String} (value : UInt64)
    (plain : '\n' ∉ (padRight nameWidth name).toList) : IsLine (registerLine name value) := by
  constructor
  · show '\n' ∉ lineContent (registerLine name value)
    rw [lineContent_registerLine, Hex.toList_word]
    simp [plain, Hex.newline_not_mem_fixedDigits]
  · rw [toList_registerLine, List.getLast?_concat]

theorem length_dump (f : TrapFrame) : (dump f).length = 30 := by
  rw [dump, List.length_map]
  rfl

/-- The names in a dump are the same for every frame. -/
theorem names_registers (f : TrapFrame) :
    (registers f).map Prod.fst = (registers .zero).map Prod.fst := rfl

theorem isLine_of_mem_dump {f : TrapFrame} {piece : String} (mem : piece ∈ dump f) :
    IsLine piece := by
  have plain : ∀ name ∈ (registers .zero).map Prod.fst,
      '\n' ∉ (padRight nameWidth name).toList := by decide
  obtain ⟨⟨name, value⟩, entry, rfl⟩ := List.mem_map.1 mem
  have named : name ∈ (registers .zero).map Prod.fst := by
    rw [← names_registers f]
    exact List.mem_map_of_mem entry
  exact isLine_registerLine value (plain name named)

/-- After the dump every line is complete, and none of them opens with the name of the vector. -/
theorem afterDump {f : TrapFrame} {piece : String} (mem : piece ∈ faultDetails f ++ lastLines) :
    IsLine piece ∧ opensVector (lineContent piece) = false := by
  have possible : ∀ piece ∈ PageFault.possibleLines ++ lastLines,
      IsLine piece ∧ opensVector (lineContent piece) = false := by decide
  apply possible
  rcases List.mem_append.1 mem with details | last
  · unfold faultDetails at details
    split at details
    · exact List.mem_append_left _ (PageFault.lines_subset _ details)
    · exact absurd details List.not_mem_nil
  · exact List.mem_append_right _ last

theorem opensVector_vectorLine (value : UInt64) :
    opensVector (lineContent (registerLine "VECTOR" value)) = true := by
  have name : padRight nameWidth "VECTOR" = "VECTOR      " := by decide
  rw [lineContent_registerLine, name, opensVector, List.isPrefixOf_iff_prefix]
  exact ⟨"      : ".toList ++ (Hex.word value).toList, by simp⟩

/-- The last of these lines is the last line of the dump. -/
theorem linesToVector_full (r : Report) :
    linesToVector r.full =
      (Text.lines r.head ++ ["Register dump:".toList]) ++ (dump r.frame).map lineContent := by
  have areLines : ∀ piece ∈ "Register dump:\n" :: dump r.frame ++
      (faultDetails r.frame ++ lastLines), IsLine piece := by
    intro piece mem
    rcases List.mem_append.1 mem with upToDump | after
    · rcases List.mem_cons.1 upToDump with rfl | inDump
      · decide
      · exact isLine_of_mem_dump inDump
    · exact (afterDump after).1
  have dropped : ∀ line ∈ (faultDetails r.frame ++ lastLines).map lineContent ++ [[]],
      (!opensVector line) = true := by
    intro line mem
    rcases List.mem_append.1 mem with after | empty
    · obtain ⟨piece, here, rfl⟩ := List.mem_map.1 after
      rw [(afterDump here).2]
      rfl
    · rw [List.mem_singleton.1 empty]
      rfl
  -- the dump ends with the line of the vector, at which the dropping stops
  have kept : ∀ front : List (List Char),
      (front ++ (dump r.frame).map lineContent).rdropWhile (fun line => !opensVector line) =
        front ++ (dump r.frame).map lineContent := by
    intro front
    have last : (dump r.frame).map lineContent =
        (dump r.frame).dropLast.map lineContent ++
          [lineContent (registerLine "VECTOR" r.frame.vector)] := rfl
    rw [last, ← List.append_assoc]
    apply List.rdropWhile_concat_neg
    rw [opensVector_vectorLine]
    decide
  have start : lineContent "Register dump:\n" = "Register dump:".toList := by decide
  have all : Text.lines r.full =
      (Text.lines r.head ++ ["Register dump:".toList]) ++ (dump r.frame).map lineContent ++
        ((faultDetails r.frame ++ lastLines).map lineContent ++ [[]]) := by
    rw [full_eq, Text.lines_append_join _ areLines, List.map_append, List.map_cons, start]
    simp only [List.append_assoc, List.cons_append, List.nil_append]
  rw [linesToVector, all, rdropWhile_append_of_forall _ dropped, kept]

/-! ## What the text determines -/

theorem lineContent_registerLine_inj {name : String} {v w : UInt64}
    (same : lineContent (registerLine name v) = lineContent (registerLine name w)) : v = w := by
  rw [lineContent_registerLine, lineContent_registerLine] at same
  exact Hex.word_inj (String.toList_inj.1 (List.append_cancel_left same))

/-- Every word of a frame stands in its dump. -/
theorem frame_of_dump {f g : TrapFrame}
    (same : (dump f).map lineContent = (dump g).map lineContent) : f = g := by
  have line : ∀ {name : String} {v w : UInt64},
      lineContent (registerLine name v) = lineContent (registerLine name w) ↔ v = w :=
    fun {name v w} => ⟨lineContent_registerLine_inj, fun same => by rw [same]⟩
  simp only [dump, registers, List.map_cons, List.map_nil, List.cons.injEq, line] at same
  cases f
  cases g
  simp_all

/-- The digits at the end of a text after something else. -/
theorem rtakeWhile_isDigit (front : List Char) (n : Nat) :
    (front ++ ' ' :: Nat.toDigits 10 n).rtakeWhile Char.isDigit = Nat.toDigits 10 n := by
  have digits : ∀ c ∈ (Nat.toDigits 10 n).reverse, c.isDigit = true := by
    intro c mem
    exact Nat.isDigit_of_mem_toDigits (by decide) (by decide) (List.mem_reverse.1 mem)
  rw [List.rtakeWhile, List.reverse_append, List.reverse_cons, List.append_assoc,
    List.takeWhile_append_of_pos digits]
  simp [List.takeWhile_cons_of_neg]

theorem line_of_head {r s : Report} (same : r.head = s.head) : r.place.line = s.place.line := by
  have ending : ∀ t : Report,
      t.head.toList.rtakeWhile Char.isDigit = Nat.toDigits 10 t.place.line.toNat := by
    intro t
    have blank : t.head.toList = (banner ++ "\n" ++ ("Kernel panic @ " ++ Hex.word t.frame.rip ++
        ": " ++ t.reason ++ " (vector " ++ Hex.marked t.frame.vector.toNat ++ ")\n") ++
        ("In file: " ++ t.place.file ++ ", line:")).toList ++
          ' ' :: Nat.toDigits 10 t.place.line.toNat := by
      simp [head]
    rw [blank, rtakeWhile_isDigit]
  have digits : Nat.toDigits 10 r.place.line.toNat = Nat.toDigits 10 s.place.line.toNat := by
    rw [← ending r, ← ending s, same]
  have numbers := congrArg (Nat.ofDigitChars 10 · 0) digits
  simp only [Nat.ofDigitChars_ten_toDigits] at numbers
  exact UInt32.toNat_inj.1 numbers

/-- **The text of a report determines the frame and the line.** Whatever the reasons and the files
say, two reports with the same text show the same thirty words and the same line number. -/
theorem frame_and_line_of_full {r s : Report} (same : r.full = s.full) :
    r.frame = s.frame ∧ r.place.line = s.place.line := by
  have ends : linesToVector r.full = linesToVector s.full := by rw [same]
  rw [linesToVector_full, linesToVector_full] at ends
  -- both dumps have thirty lines, so they begin at the same place
  have lengths : ((dump r.frame).map lineContent).length =
      ((dump s.frame).map lineContent).length := by
    rw [List.length_map, List.length_map, length_dump, length_dump]
  obtain ⟨fronts, dumps⟩ := List.append_inj' ends lengths
  obtain ⟨heads, -⟩ := List.append_inj' fronts rfl
  constructor
  · exact frame_of_dump dumps
  · apply line_of_head
    apply String.toList_inj.1
    have joined := congrArg (List.intercalate ['\n']) heads
    rwa [Text.lines, Text.lines, List.intercalate_splitOn, List.intercalate_splitOn] at joined

/-- The report of a page fault whose file name holds the end of the line before it. -/
def longFile : Report where
  frame := { TrapFrame.zero with vector := pageFaultVector, err := 0x1f, cr2 := 0xdead0000 }
  reason := "Page Fault"
  place := ⟨"a.rs (vector 0xe)\nIn file: b.rs", 42⟩

/-- The same fault with that end of line in the reason. -/
def longReason : Report :=
  { longFile with reason := "Page Fault (vector 0xe)\nIn file: a.rs", place := ⟨"b.rs", 42⟩ }

/-- One text can be read in two ways, but not as to the frame and the line. -/
theorem two_readings_of_page_fault :
    longFile.full = longReason.full ∧ longFile.reason ≠ longReason.reason ∧
      longFile.frame = longReason.frame ∧ longFile.place.line = longReason.place.line := by
  have vector : Hex.marked pageFaultVector.toNat = "0xe" := by decide
  have heads : longFile.head = longReason.head := by
    apply String.toList_inj.1
    simp [head, longReason, longFile, vector]
  have same : longFile.full = longReason.full := by
    rw [full_eq, full_eq, heads]
    rfl
  exact ⟨same, by decide, frame_and_line_of_full same⟩

end Report

end Bringup
