import Mathlib
import ShaderVariants.Proofs.CharacterClasses
import ShaderVariants.Proofs.StringLiterals

/-!
# Quoted text and its reading

Quoted text is a literal of one line: nothing between its marks closes it, and its escapes stand for
the characters that were quoted.  Inside a docstring it stays as it is as well, except that double
quotes are not escaped between apostrophes, so that three of them in a row close the docstring.
-/

namespace ShaderVariants.Text

/-! ## Hexadecimal digits -/

theorem hexValue?_hexDigit {value : Nat} (small : value < 16) :
    hexValue? (hexDigit value) = some value := by
  revert value
  decide

theorem length_hexDigits (width value : Nat) : (hexDigits width value).length = width := by
  induction width generalizing value with
  | zero => rfl
  | succ width ih => simp [hexDigits, ih]

theorem exists_of_mem_hexDigits {width value : Nat} {c : Char}
    (member : c ∈ hexDigits width value) : ∃ digit < 16, c = hexDigit digit := by
  induction width generalizing value with
  | zero => cases member
  | succ width ih =>
      rw [hexDigits, List.mem_append, List.mem_singleton] at member
      rcases member with before | last
      · exact ih before
      · exact ⟨value % 16, Nat.mod_lt _ (by decide), last⟩

theorem notMem_hexDigits {width value : Nat} {c : Char}
    (noDigit : ∀ digit < 16, c ≠ hexDigit digit) : c ∉ hexDigits width value := by
  intro member
  obtain ⟨digit, small, same⟩ := exists_of_mem_hexDigits member
  exact noDigit digit small same

theorem exists_mapM_hexDigits (width value : Nat) :
    ∃ values, (hexDigits width value).mapM hexValue? = some values ∧ values.length = width ∧
      values.foldl (fun number value => 16 * number + value) 0 = value % 16 ^ width := by
  induction width generalizing value with
  | zero => exact ⟨[], rfl, rfl, by simp [Nat.mod_one]⟩
  | succ width ih =>
      obtain ⟨values, found, length, number⟩ := ih (value / 16)
      have last := hexValue?_hexDigit (Nat.mod_lt value (by decide : 0 < 16))
      refine ⟨values ++ [value % 16], ?_, ?_, ?_⟩
      · rw [hexDigits, List.mapM_append, found]
        simp [last]
      · simp [length]
      · rw [List.foldl_append, number, Nat.pow_succ, Nat.mul_comm (16 ^ width), Nat.mod_mul]
        simp only [List.foldl_cons, List.foldl_nil]
        omega

/-- Digits are read back as the number that they write. -/
theorem hexNumber?_hexDigits {width value : Nat} (fits : value < 16 ^ width) (rest : List Char) :
    hexNumber? width (hexDigits width value ++ rest) = some value := by
  obtain ⟨values, found, length, number⟩ := exists_mapM_hexDigits width value
  rw [Nat.mod_eq_of_lt fits] at number
  unfold hexNumber?
  rw [List.take_left' (length_hexDigits width value), found]
  simp [length, number]

namespace Escape

theorem character?_toNat (c : Char) : character? c.toNat = some c := by
  have valid : c.toNat.isValidChar := c.valid
  simp [character?, valid]

theorem read_of_ofLetter? {letter c : Char} (stands : ofLetter? letter = some c)
    (rest : List Char) : read letter rest = .ok ([c], 0) := by
  unfold ofLetter? at stands
  split at stands <;> cases stands <;> rfl

theorem read_of_hexWidth? {letter c : Char} {width code : Nat} {rest : List Char}
    (announced : hexWidth? letter = some width) (number : hexNumber? width rest = some code)
    (stands : character? code = some c) : read letter rest = .ok ([c], width) := by
  unfold hexWidth? at announced
  split at announced <;> cases announced <;>
    simp [read, isOctal, ofLetter?, hexWidth?, number, stands]

end Escape

/-! ## Characters as they are quoted -/

namespace Quoted

open Escape (decodeChars hasEscape)
open StringLiteral (split? docstringMarks IsMarks PassedOver)

/-- The marks that quoted text can have. -/
def IsQuote (mark : Char) : Prop := mark = '\'' ∨ mark = '"'

instance (mark : Char) : Decidable (IsQuote mark) := inferInstanceAs (Decidable (_ ∨ _))

/-- The ways in which a character is written between marks. -/
inductive Encodes (mark c : Char) : List Char → Prop where
  | letter {letter : Char} (stands : Escape.ofLetter? letter = some c) :
      Encodes mark c ['\\', letter]
  | plain (notMark : c ≠ mark) (notBackslash : c ≠ '\\') (printable : isPrintable c = true) :
      Encodes mark c [c]
  | code {letter : Char} {width : Nat} (announced : Escape.hexWidth? letter = some width)
      (fits : c.toNat < 16 ^ width) : Encodes mark c ('\\' :: letter :: hexDigits width c.toNat)

theorem encodes_codeEscape (mark c : Char) : Encodes mark c (codeEscape c.toNat) := by
  have bound : c.toNat < 0x110000 := by
    have valid : c.toNat.isValidChar := c.valid
    simp only [Nat.isValidChar] at valid
    omega
  unfold codeEscape
  split
  · exact .code rfl (by simp; omega)
  · split
    · exact .code rfl (by simp; omega)
    · exact .code rfl (by simp; omega)

theorem encodes_encodeChar {mark : Char} (isQuote : IsQuote mark) (c : Char) :
    Encodes mark c (encodeChar mark c) := by
  unfold encodeChar
  by_cases itself : c = mark ∨ c = '\\'
  · rw [if_pos itself]
    rcases itself with rfl | rfl
    · rcases isQuote with rfl | rfl
      · exact .letter rfl
      · exact .letter rfl
    · exact .letter rfl
  rw [if_neg itself]
  by_cases newline : c = '\n'
  · rw [if_pos newline]
    exact .letter (by rw [newline]; rfl)
  rw [if_neg newline]
  by_cases carriageReturn : c = '\r'
  · rw [if_pos carriageReturn]
    exact .letter (by rw [carriageReturn]; rfl)
  rw [if_neg carriageReturn]
  by_cases tab : c = '\t'
  · rw [if_pos tab]
    exact .letter (by rw [tab]; rfl)
  rw [if_neg tab]
  rw [not_or] at itself
  split
  · exact .plain itself.1 itself.2 ‹_›
  · exact encodes_codeEscape mark c

namespace Encodes

variable {mark c : Char} {written : List Char}

theorem decodeChars_append (encodes : Encodes mark c written) (rest : List Char) :
    decodeChars (written ++ rest) = (c :: ·) <$> decodeChars rest := by
  cases encodes with
  | @letter letter stands =>
      have answered := Escape.read_of_ofLetter? stands rest
      rw [List.cons_append, List.singleton_append, Escape.decodeChars_backslash, answered]
      rfl
  | plain notMark notBackslash printable =>
      rw [List.singleton_append, Escape.decodeChars_ordinary notBackslash]
  | @code letter width announced fits =>
      have answered := Escape.read_of_hexWidth? announced
        (hexNumber?_hexDigits fits rest) (Escape.character?_toNat c)
      rw [List.cons_append, List.cons_append, Escape.decodeChars_backslash, answered]
      simp [length_hexDigits]

/-- Between marks the character stays as it is written, unless it is itself such a mark. -/
theorem passedOver {marks : List Char} {other : Char} (isMarks : IsMarks other marks)
    (isQuote : IsQuote other) (differs : c = other → other = mark)
    (encodes : Encodes mark c written) : PassedOver marks written := by
  cases encodes with
  | @letter letter stands => exact .backslash isMarks letter
  | plain notMark notBackslash printable =>
      refine .singleton isMarks ?_ notBackslash
      intro same
      exact notMark (same.trans (differs same))
  | @code letter width announced fits =>
      have noMark : other ∉ hexDigits width c.toNat := by
        rcases isQuote with rfl | rfl
        · exact notMem_hexDigits (by decide)
        · exact notMem_hexDigits (by decide)
      have noBackslash : '\\' ∉ hexDigits width c.toNat := notMem_hexDigits (by decide)
      have digits := PassedOver.of_notMem isMarks noMark noBackslash
      exact (PassedOver.backslash isMarks letter).append digits

/-- No line ends in what is written for a character. -/
theorem endsLine_eq_false (encodes : Encodes mark c written) :
    ∀ d ∈ written, endsLine d = false := by
  cases encodes with
  | @letter letter stands =>
      have ordinary : endsLine letter = false := by
        unfold Escape.ofLetter? at stands
        split at stands
        iterate 10 decide
        cases stands
      simp [ordinary, show endsLine '\\' = false by decide]
  | plain notMark notBackslash printable =>
      simpa using endsLine_eq_false_of_isPrintable printable
  | @code letter width announced fits =>
      have digits : ∀ digit < 16, endsLine (hexDigit digit) = false := by decide
      have announcing : endsLine letter = false := by
        unfold Escape.hexWidth? at announced
        split at announced
        iterate 3 decide
        cases announced
      simp only [List.forall_mem_cons]
      refine ⟨by decide, announcing, fun d member => ?_⟩
      obtain ⟨digit, small, rfl⟩ := exists_of_mem_hexDigits member
      exact digits digit small

end Encodes

/-! ## Whole texts -/

theorem isQuote_mark (cs : List Char) : IsQuote (mark cs) := by
  unfold mark IsQuote
  split
  · exact .inr rfl
  · exact .inl rfl

theorem ne_mark {c : Char} (noQuote : ¬IsQuote c) (cs : List Char) : c ≠ mark cs := by
  rintro rfl
  exact noQuote (isQuote_mark cs)

theorem IsQuote.isMarks {mark : Char} (isQuote : IsQuote mark) : IsMarks mark [mark] := by
  rcases isQuote with rfl | rfl
  · exact StringLiteral.isMarks_singleton (by decide)
  · exact StringLiteral.isMarks_singleton (by decide)

theorem body_cons (mark c : Char) (cs : List Char) :
    body mark (c :: cs) = encodeChar mark c ++ body mark cs :=
  List.flatMap_cons

theorem decodeChars_body_append {mark : Char} (isQuote : IsQuote mark) (cs rest : List Char) :
    decodeChars (body mark cs ++ rest) = (cs ++ ·) <$> decodeChars rest := by
  induction cs with
  | nil => simp [body]
  | cons c cs ih =>
      rw [body_cons, List.append_assoc, (encodes_encodeChar isQuote c).decodeChars_append, ih]
      simp

theorem passedOver_body {mark : Char} {marks : List Char} (isMarks : IsMarks mark marks)
    (isQuote : IsQuote mark) (cs : List Char) : PassedOver marks (body mark cs) := by
  induction cs with
  | nil => exact .nil
  | cons c cs ih =>
      rw [body_cons]
      have first := (encodes_encodeChar isQuote c).passedOver isMarks isQuote fun _ => rfl
      exact first.append ih

theorem endsLine_eq_false_of_mem_body {mark : Char} (isQuote : IsQuote mark) {cs : List Char}
    {d : Char} (member : d ∈ body mark cs) : endsLine d = false := by
  rw [body, List.mem_flatMap] at member
  obtain ⟨c, -, written⟩ := member
  exact (encodes_encodeChar isQuote c).endsLine_eq_false d written

/-- Quoted text is on one line. -/
theorem endsLine_eq_false_of_mem_encodeChars {cs : List Char} {d : Char}
    (member : d ∈ encodeChars cs) : endsLine d = false := by
  have isQuote := isQuote_mark cs
  have ofMark : endsLine (mark cs) = false := by
    rcases isQuote with same | same <;> rw [same] <;> decide
  simp only [encodeChars, List.mem_cons, List.mem_append, List.not_mem_nil, or_false] at member
  rcases member with rfl | inside | rfl
  · exact ofMark
  · exact endsLine_eq_false_of_mem_body isQuote inside
  · exact ofMark

/-- The text that a literal of one line stands for. -/
def decode? : List Char → Option (List Char)
  | [] => none
  | mark :: rest =>
    if (mark = '\'' ∨ mark = '"') ∧ '\n' ∉ rest then
      match split? [mark] rest with
      | some (held, []) => (decodeChars held).toOption
      | _ => none
    else none

/-- Quoted text is read back as the text that was quoted. -/
theorem decode?_encodeChars (cs : List Char) : decode? (encodeChars cs) = some cs := by
  have isQuote := isQuote_mark cs
  have oneLine : '\n' ∉ body (mark cs) cs ++ [mark cs] := by
    intro inside
    have written : '\n' ∈ encodeChars cs := List.mem_cons_of_mem _ inside
    exact absurd (endsLine_eq_false_of_mem_encodeChars written) (by decide)
  have closed := (passedOver_body isQuote.isMarks isQuote cs).split?_append_marks isQuote.isMarks []
  have decoded := decodeChars_body_append isQuote cs []
  rw [List.append_nil] at closed decoded
  have nothing : decodeChars [] = .ok [] := by simp [decodeChars]
  rw [nothing] at decoded
  unfold encodeChars decode?
  dsimp only
  rw [if_pos ⟨isQuote, oneLine⟩, closed]
  simp [decoded, Except.toOption]

/-! ## Inside docstrings -/

theorem decodeChars_encodeChars_append (cs rest : List Char) :
    decodeChars (encodeChars cs ++ rest) =
      (mark cs :: (cs ++ [mark cs]) ++ ·) <$> decodeChars rest := by
  have isQuote := isQuote_mark cs
  have plain := isQuote.isMarks.noBackslash
  rw [encodeChars, List.cons_append, Escape.decodeChars_ordinary plain, List.append_assoc,
    decodeChars_body_append isQuote, List.singleton_append, Escape.decodeChars_ordinary plain]
  simp

/-- What is written for a character begins with another mark only where the character is that mark
itself. -/
theorem exists_cons_of_ne {mark c : Char} {written : List Char} (encodes : Encodes mark c written)
    {other : Char} (isQuote : IsQuote other) (differs : c = other → other = mark) :
    ∃ first rest, written = first :: rest ∧ first ≠ other := by
  have notBackslash : '\\' ≠ other := isQuote.isMarks.noBackslash.symm
  cases encodes with
  | letter stands => exact ⟨_, _, rfl, notBackslash⟩
  | plain notMark _ _ => exact ⟨_, _, rfl, fun same => notMark (same.trans (differs same))⟩
  | code announced fits => exact ⟨_, _, rfl, notBackslash⟩

theorem encodeChar_doubleQuote : encodeChar '\'' '"' = ['"'] := by decide +kernel

/-- Double quotes in a row stay in a row between apostrophes, and no new ones come in front. -/
theorem prefix_body_iff {quotes : List Char} (alike : ∀ c ∈ quotes, c = '"') (cs : List Char) :
    quotes <+: body '\'' cs ↔ quotes <+: cs := by
  induction quotes generalizing cs with
  | nil => simp
  | cons quote quotes ih =>
      rw [List.forall_mem_cons] at alike
      obtain ⟨rfl, alike⟩ := alike
      cases cs with
      | nil => simp [body]
      | cons c cs =>
          rw [body_cons]
          by_cases same : c = '"'
          · rw [same, encodeChar_doubleQuote, List.singleton_append, List.cons_prefix_cons,
              List.cons_prefix_cons, ih alike]
          · obtain ⟨first, rest, written, other⟩ := exists_cons_of_ne
              (encodes_encodeChar (.inl rfl) c) (.inr rfl : IsQuote '"')
              fun here => absurd here same
            rw [written, List.cons_append, List.cons_prefix_cons, List.cons_prefix_cons]
            simp [other.symm, Ne.symm same]

theorem split?_body_eq_none_iff (cs : List Char) :
    split? docstringMarks (body '\'' cs) = none ↔ ¬docstringMarks <:+: cs := by
  have isMarks := StringLiteral.isMarks_docstringMarks
  induction cs with
  | nil => simp [body, split?, docstringMarks]
  | cons c cs ih =>
      rw [body_cons, List.infix_cons_iff, not_or]
      by_cases same : c = '"'
      · have sameStart : docstringMarks <+: '"' :: body '\'' cs ↔ docstringMarks <+: '"' :: cs := by
          rw [docstringMarks, List.cons_prefix_cons, List.cons_prefix_cons,
            prefix_body_iff (by simp)]
        rw [same, encodeChar_doubleQuote, List.singleton_append, ← sameStart]
        by_cases closed : docstringMarks <+: '"' :: body '\'' cs
        · simp [StringLiteral.split?_of_prefix closed, closed]
        · simp [StringLiteral.split?_ordinary closed (by decide), closed, ih]
      · have passed := (encodes_encodeChar (.inl rfl) c).passedOver isMarks (.inr rfl)
          fun here => absurd here same
        rw [passed.split?_eq_none_iff, and_iff_right (isMarks.not_prefix_cons same cs)]
        exact ih

/-- Between double quotes nothing closes a docstring, as long as something stands there. -/
theorem split?_doubleQuoted_eq_none {cs : List Char} (nonempty : cs ≠ []) :
    split? docstringMarks ('"' :: (body '"' cs ++ ['"'])) = none := by
  have isMarks := StringLiteral.isMarks_docstringMarks
  have passed := passedOver_body isMarks (.inr rfl) cs
  obtain ⟨c, others, rfl⟩ := List.exists_cons_of_ne_nil nonempty
  obtain ⟨first, rest, written, other⟩ := exists_cons_of_ne
    (encodes_encodeChar (.inr rfl) c) (.inr rfl : IsQuote '"') fun _ => rfl
  have notClosed : ¬docstringMarks <+: '"' :: (body '"' (c :: others) ++ ['"']) := by
    rw [body_cons, written, docstringMarks, List.cons_prefix_cons, List.cons_append,
      List.cons_append, List.cons_prefix_cons]
    exact fun inFront => other inFront.2.1.symm
  rw [StringLiteral.split?_ordinary notClosed (by decide), Option.map_eq_none_iff,
    passed.split?_eq_none_iff]
  decide +kernel

/-- Quoted text closes the docstring that it stands in exactly when the text that was quoted holds
closing marks, behind a backslash or not. -/
theorem split?_encodeChars_eq_none_iff (cs : List Char) :
    split? docstringMarks (encodeChars cs) = none ↔ ¬docstringMarks <:+: cs := by
  by_cases doubled : '\'' ∈ cs ∧ '"' ∉ cs
  · have noMarks : ¬docstringMarks <:+: cs := fun inside =>
      doubled.2 (inside.subset (by decide))
    rw [encodeChars, mark, if_pos doubled]
    exact iff_of_true (split?_doubleQuoted_eq_none (List.ne_nil_of_mem doubled.1)) noMarks
  · have isMarks := StringLiteral.isMarks_docstringMarks
    have first := PassedOver.singleton isMarks (by decide : '\'' ≠ '"') (by decide)
    have last := StringLiteral.split?_append_cons_eq_none_iff isMarks
      (by decide : '\'' ≠ '"') (by decide) (body '\'' cs) []
    rw [encodeChars, mark, if_neg doubled, ← List.singleton_append, first.split?_eq_none_iff, last,
      split?_body_eq_none_iff]
    simp [split?]

end Quoted

end ShaderVariants.Text
