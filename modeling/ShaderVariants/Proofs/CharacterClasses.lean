import ShaderVariants.Text.Alphanumeric
import ShaderVariants.Text.Blank
import ShaderVariants.Text.DecimalDigit
import ShaderVariants.Text.Identifier
import ShaderVariants.Text.Lines
import ShaderVariants.Text.Printable

/-!
# Classes that have no character in common

Whether two ascending lists of intervals meet is found by walking through both at once, so that the
large tables can be compared.  No letter is a digit, and no character of a word is a blank: a word
begins in one way only, and ends before every gap.  Nor does an identifier begin with a digit of any
script.  No line ends at a printable character, or inside a name.
-/

namespace ShaderVariants.Text

namespace CodePointSet

/-- Two ascending lists of intervals have no code point in common, found by walking through both
at once. -/
def areApart : List (Nat × Nat) → List (Nat × Nat) → Bool
  | [], _ => true
  | interval :: rest, others =>
    let behind := others.dropWhile (·.2 < interval.1)
    behind.head?.all (interval.2 < ·.1) && areApart rest behind

theorem covers_cons_iff {code : Nat} {interval : Nat × Nat} {rest : List (Nat × Nat)} :
    covers code (interval :: rest) = true ↔
      interval.1 ≤ code ∧ (code ≤ interval.2 ∨ covers code rest = true) := by
  obtain ⟨first, last⟩ := interval
  rw [covers]
  by_cases before : code < first
  · simp [before, Nat.not_le.mpr before]
  · rw [if_neg before]
    by_cases inside : code ≤ last <;> simp [Nat.not_lt.mp before, inside]

/-- Intervals that end before a code point may be left out. -/
theorem covers_dropWhile {code bound : Nat} (below : bound ≤ code) {intervals : List (Nat × Nat)}
    (covered : covers code intervals = true) :
    covers code (intervals.dropWhile (·.2 < bound)) = true := by
  induction intervals with
  | nil => exact covered
  | cons interval rest ih =>
      by_cases early : interval.2 < bound
      · obtain ⟨-, inside | later⟩ := covers_cons_iff.mp covered
        · omega
        · simpa [early] using ih later
      · simpa [early] using covered

theorem areApart_eq_false {code : Nat} {first second : List (Nat × Nat)}
    (inFirst : covers code first = true) (inSecond : covers code second = true) :
    areApart first second = false := by
  induction first generalizing second with
  | nil => cases inFirst
  | cons interval rest ih =>
      obtain ⟨begins, place⟩ := covers_cons_iff.mp inFirst
      have behind := covers_dropWhile begins inSecond
      rw [areApart]
      rcases place with inside | later
      · cases others : second.dropWhile (·.2 < interval.1) with
        | nil =>
            rw [others] at behind
            cases behind
        | cons other more =>
            rw [others] at behind
            obtain ⟨begins', -⟩ := covers_cons_iff.mp behind
            have meets : ¬interval.2 < other.1 := by omega
            simp [meets]
      · rw [ih later behind, Bool.and_false]

/-- In an ascending list no interval hides a later one. -/
theorem covers_of_mem {code : Nat} {interval : Nat × Nat} {intervals : List (Nat × Nat)}
    (ascending : intervals.Pairwise fun first second => first.1 ≤ second.1)
    (member : interval ∈ intervals) (begins : interval.1 ≤ code) (ends : code ≤ interval.2) :
    covers code intervals = true := by
  induction intervals with
  | nil => cases member
  | cons first rest ih =>
      rw [covers_cons_iff]
      obtain ⟨least, ascending⟩ := List.pairwise_cons.mp ascending
      rcases List.mem_cons.mp member with rfl | later
      · exact ⟨begins, .inl ends⟩
      · exact ⟨Nat.le_trans (least interval later) begins, .inr (ih ascending later)⟩

theorem contains_eq_false_of_areApart {first second : CodePointSet}
    (apart : areApart first.intervals second.intervals = true) {c : Char}
    (member : first.contains c = true) : second.contains c = false := by
  rw [Bool.eq_false_iff]
  intro common
  rw [areApart_eq_false member common] at apart
  cases apart

end CodePointSet

/-- The decimal digits of all scripts as intervals. -/
def decimalDigits : CodePointSet := ⟨decimalZeros.map fun first => (first, first + 9)⟩

/-- The pairs of classes that decide how a word or an identifier begins, and where it ends. -/
def apartClasses : List (CodePointSet × CodePointSet) :=
  [(letters, digits), (letters, blanks), (digits, blanks), (numerals, blanks),
    (initialNumerals, blanks), (letters, decimalDigits), (initialNumerals, decimalDigits)]

theorem areApart_apartClasses :
    apartClasses.all (fun (first, second) =>
      CodePointSet.areApart first.intervals second.intervals) = true := by
  decide +kernel

theorem contains_eq_false_of_apartClasses {first second : CodePointSet}
    (listed : (first, second) ∈ apartClasses) {c : Char} (member : first.contains c = true) :
    second.contains c = false :=
  CodePointSet.contains_eq_false_of_areApart
    (List.all_eq_true.mp areApart_apartClasses (first, second) listed) member

theorem isDigit_eq_false_of_isLetter {c : Char} (letter : isLetter c = true) :
    isDigit c = false :=
  contains_eq_false_of_apartClasses (by simp [apartClasses]) letter

theorem isBlank_eq_false_of_isWordCharacter {c : Char} (word : isWordCharacter c = true) :
    isBlank c = false := by
  simp only [isWordCharacter, isAlphanumeric, Bool.or_eq_true, beq_iff_eq] at word
  rcases word with ((letter | digit) | numeral) | rfl
  · exact contains_eq_false_of_apartClasses (by simp [apartClasses]) letter
  · exact contains_eq_false_of_apartClasses (by simp [apartClasses]) digit
  · exact contains_eq_false_of_apartClasses (by simp [apartClasses]) numeral
  · decide

/-! ## Beginnings of identifiers -/

theorem contains_decimalDigits {c : Char} (digit : isDecimalDigit c = true) :
    decimalDigits.contains c = true := by
  obtain ⟨value, valued⟩ := Option.isSome_iff_exists.mp digit
  obtain ⟨first, found, -⟩ := Option.map_eq_some_iff.mp valued
  have within := List.find?_some found
  simp only [Bool.and_eq_true, decide_eq_true_eq] at within
  have member : (first, first + 9) ∈ decimalDigits.intervals :=
    List.mem_map_of_mem (List.mem_of_find?_eq_some found)
  exact CodePointSet.covers_of_mem (by decide +kernel) member within.1 (by dsimp only; omega)

theorem isDecimalDigit_eq_false_of_isIdentifierStart {c : Char}
    (start : isIdentifierStart c = true) : isDecimalDigit c = false := by
  rw [Bool.eq_false_iff]
  intro digit
  have member := contains_decimalDigits digit
  simp only [isIdentifierStart, Bool.or_eq_true, Bool.and_eq_true, beq_iff_eq] at start
  rcases start with (rfl | ⟨letter, -⟩) | numeral
  · exact absurd digit (by decide)
  · have apart : decimalDigits.contains c = false :=
      contains_eq_false_of_apartClasses (by simp [apartClasses]) letter
    exact Bool.false_ne_true (apart.symm.trans member)
  · have apart : decimalDigits.contains c = false :=
      contains_eq_false_of_apartClasses (by simp [apartClasses]) numeral
    exact Bool.false_ne_true (apart.symm.trans member)

theorem isBlank_eq_false_of_isIdentifierStart {c : Char} (start : isIdentifierStart c = true) :
    isBlank c = false := by
  simp only [isIdentifierStart, Bool.or_eq_true, Bool.and_eq_true, beq_iff_eq] at start
  rcases start with (rfl | ⟨letter, -⟩) | numeral
  · decide
  · exact isBlank_eq_false_of_isWordCharacter
      (by simp [isWordCharacter, isAlphanumeric_of_isLetter letter])
  · exact contains_eq_false_of_apartClasses (by simp [apartClasses]) numeral

/-! ## Line ends -/

/-- A class that none of the characters at line ends belongs to. -/
theorem endsLine_eq_false_of_apart (belongs : Char → Bool)
    (apart : ['\n', '\r', '\x0b', '\x0c', '\x1c', '\x1d', '\x1e', '\u0085', '\u2028',
      '\u2029'].all (!belongs ·) = true) {c : Char} (member : belongs c = true) :
    endsLine c = false := by
  rw [endsLine, decide_eq_false_iff_not]
  intro ends
  have outside := List.all_eq_true.mp apart c ends
  simp [member] at outside

theorem endsLine_eq_false_of_isBlank_eq_false {c : Char} (noBlank : isBlank c = false) :
    endsLine c = false :=
  endsLine_eq_false_of_apart (!isBlank ·) (by decide +kernel) (by simp [noBlank])

theorem endsLine_eq_false_of_isPrintable {c : Char} (printable : isPrintable c = true) :
    endsLine c = false :=
  endsLine_eq_false_of_apart isPrintable (by decide +kernel) printable

theorem endsLine_eq_false_of_isIdentifierPart {c : Char} (part : isIdentifierPart c = true) :
    endsLine c = false :=
  endsLine_eq_false_of_apart isIdentifierPart (by decide +kernel) part

end ShaderVariants.Text
