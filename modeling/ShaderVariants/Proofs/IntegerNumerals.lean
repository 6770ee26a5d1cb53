import Mathlib.Data.Nat.Digits.Lemmas
import ShaderVariants.Scalar.Parser

/-!
# Texts of integer numerals

What a text has to look like to be a numeral, said by its parts in the order in which they are
written, and which number it writes.  Taking a numeral apart finds these parts, since no suffix can
be mistaken for digits and no mark for a decimal digit.  A number of more significant digits than
the limit has more than 32 bits in every radix.
-/

namespace ShaderVariants

namespace Numeral

/-! ## Digits -/

/-- A character writes a digit of a radix. Letters stand for the digits from ten on, in either
case. -/
def IsDigit (radix digit : Nat) (c : Char) : Prop :=
  digit < radix ∧ (c = digit.digitChar ∨ c = digit.digitChar.toUpper)

instance (radix digit : Nat) (c : Char) : Decidable (IsDigit radix digit c) :=
  inferInstanceAs (Decidable (_ ∧ _))

/-- The value that a character counts with in a numeral. -/
def digitOf (c : Char) : Nat := (digitValue? c).getD 0

theorem toNat_lt_of_digitValue? {c : Char} {digit : Nat} (found : digitValue? c = some digit) :
    c.toNat < 128 := by
  have le_of (last : Char) (h : c ≤ last) : c.toNat ≤ last.toNat := h
  unfold digitValue? at found
  split_ifs at found with decimal lower upper
  · exact Nat.lt_of_le_of_lt (le_of '9' decimal.2) (by decide)
  · exact Nat.lt_of_le_of_lt (le_of 'f' lower.2) (by decide)
  · exact Nat.lt_of_le_of_lt (le_of 'F' upper.2) (by decide)

theorem isDigit_ascii :
    ∀ code < 128, ∀ digit ∈ digitValue? (Char.ofNat code), IsDigit 16 digit (Char.ofNat code) := by
  decide

theorem digitValue?_eq_some_iff {c : Char} {digit : Nat} :
    digitValue? c = some digit ↔ IsDigit 16 digit c := by
  constructor
  · intro found
    have ascii := isDigit_ascii c.toNat (toNat_lt_of_digitValue? found) digit
    rw [Char.ofNat_toNat] at ascii
    exact ascii found
  · intro written
    obtain ⟨small, spelled⟩ := written
    interval_cases digit <;> rcases spelled with rfl | rfl <;> decide

theorem isDigit_iff {radix digit : Nat} (small : radix ≤ 16) {c : Char} :
    IsDigit radix digit c ↔ isDigitOf radix c = true ∧ digit = digitOf c := by
  have found := @digitValue?_eq_some_iff c digit
  unfold isDigitOf digitOf
  constructor
  · intro written
    have value := found.mpr ⟨Nat.lt_of_lt_of_le written.1 small, written.2⟩
    simp [value, written.1]
  · intro known
    obtain ⟨isDigit, rfl⟩ := known
    cases value : digitValue? c with
    | none => simp [value] at isDigit
    | some digit =>
        simp only [value, decide_eq_true_eq] at isDigit
        exact ⟨isDigit, (digitValue?_eq_some_iff.mp value).2⟩

/-- Digits of a radix, with underscores between or around them. -/
inductive IsBody (radix : Nat) : List Char → List Nat → Prop where
  | nil : IsBody radix [] []
  | underscore {cs : List Char} {digits : List Nat} (rest : IsBody radix cs digits) :
      IsBody radix ('_' :: cs) digits
  | digit {c : Char} {cs : List Char} {digit : Nat} {digits : List Nat}
      (isDigit : IsDigit radix digit c) (rest : IsBody radix cs digits) :
      IsBody radix (c :: cs) (digit :: digits)

theorem isDigitOf_underscore (radix : Nat) : isDigitOf radix '_' = false := rfl

theorem IsBody.parts {radix : Nat} (small : radix ≤ 16) {cs : List Char} {digits : List Nat}
    (body : IsBody radix cs digits) :
    (∀ c ∈ cs, isBodyCharacter radix c = true) ∧
      (cs.filter (· != '_')).map digitOf = digits := by
  induction body with
  | nil => simp
  | underscore _ ih =>
      obtain ⟨characters, values⟩ := ih
      refine ⟨List.forall_mem_cons.mpr ⟨?_, characters⟩, by simpa using values⟩
      simp [isBodyCharacter]
  | @digit c cs digit digits isDigit _ ih =>
      obtain ⟨characters, values⟩ := ih
      obtain ⟨known, value⟩ := (isDigit_iff small).mp isDigit
      have apart : c ≠ '_' := by
        rintro rfl
        rw [isDigitOf_underscore] at known
        cases known
      refine ⟨List.forall_mem_cons.mpr ⟨by simp [isBodyCharacter, known], characters⟩, ?_⟩
      simp [apart, values, value]

theorem isBody_of_characters {radix : Nat} (small : radix ≤ 16) {cs : List Char}
    (characters : ∀ c ∈ cs, isBodyCharacter radix c = true) :
    IsBody radix cs ((cs.filter (· != '_')).map digitOf) := by
  induction cs with
  | nil => exact .nil
  | cons c cs ih =>
      obtain ⟨first, others⟩ := List.forall_mem_cons.mp characters
      by_cases separator : c = '_'
      · subst separator
        simpa using (ih others).underscore
      · have known : isDigitOf radix c = true := by simpa [isBodyCharacter, separator] using first
        have body := (ih others).digit ((isDigit_iff small).mpr ⟨known, rfl⟩)
        simpa [separator] using body

/-! ## Values -/

/-- The number that digits write in a radix, the most significant one first. -/
def numberOf (radix : Nat) (digits : List Nat) : Nat := Nat.ofDigits radix digits.reverse

theorem numberOf_cons (radix digit : Nat) (digits : List Nat) :
    numberOf radix (digit :: digits) =
      numberOf radix digits + radix ^ digits.length * digit :=
  Nat.ofDigits_reverse_cons digits digit

theorem foldl_digits_eq (radix : Nat) (digits : List Nat) (front : Nat) :
    digits.foldl (fun number digit => number * radix + digit) front =
      front * radix ^ digits.length + numberOf radix digits := by
  induction digits generalizing front with
  | nil => simp [numberOf]
  | cons digit digits ih =>
      rw [List.foldl_cons, ih, numberOf_cons, List.length_cons]
      ring

theorem value_eq (numeral : Numeral) :
    numeral.value = numberOf numeral.radix (numeral.digits.map digitOf) := by
  have folded := foldl_digits_eq numeral.radix (numeral.digits.map digitOf) 0
  rw [List.foldl_map, Nat.zero_mul, Nat.zero_add] at folded
  exact folded

/-- Digits without leading zeros write no less than the radix to the power of the others. -/
theorem pow_le_numberOf {radix : Nat} {digits : List Nat} {digit : Nat} {others : List Nat}
    (significant : digits.dropWhile (· = 0) = digit :: others) :
    radix ^ others.length ≤ numberOf radix digits := by
  induction digits with
  | nil => cases significant
  | cons first digits ih =>
      rw [numberOf_cons]
      by_cases zero : first = 0
      · have later := ih (by simpa [zero] using significant)
        exact Nat.le_add_right_of_le later
      · simp only [zero, List.dropWhile_cons, decide_false, Bool.false_eq_true, if_false,
          List.cons.injEq] at significant
        obtain ⟨rfl, rfl⟩ := significant
        have positive : 1 ≤ first := Nat.one_le_iff_ne_zero.mpr zero
        exact Nat.le_add_left_of_le (Nat.le_mul_of_pos_right _ positive)

/-- No number of more than 32 significant digits is a number of 32 bits. -/
theorem two_pow_le_numberOf {radix : Nat} (several : 2 ≤ radix) {digits : List Nat}
    (many : Parser.digitLimit < (digits.dropWhile (· = 0)).length) :
    2 ^ 32 ≤ numberOf radix digits := by
  cases significant : digits.dropWhile (· = 0) with
  | nil =>
      rw [significant] at many
      cases many
  | cons digit others =>
      rw [significant, List.length_cons] at many
      have length : 32 ≤ others.length := Nat.le_of_lt_succ many
      calc
        2 ^ 32 ≤ radix ^ 32 := Nat.pow_le_pow_left several 32
        _ ≤ radix ^ others.length := Nat.pow_le_pow_right (by omega) length
        _ ≤ numberOf radix digits := pow_le_numberOf significant

/-! ## Taking a numeral apart -/

/-- The mark that a numeral of a radix begins with. -/
inductive IsRadixMark : List Char → Nat → Prop where
  | hexadecimal : IsRadixMark ['0', 'x'] 16
  | octal : IsRadixMark ['0', 'o'] 8
  | binary : IsRadixMark ['0', 'b'] 2
  | decimal : IsRadixMark [] 10

theorem IsRadixMark.bounds {mark : List Char} {radix : Nat} (isMark : IsRadixMark mark radix) :
    2 ≤ radix ∧ radix ≤ 16 := by
  cases isMark <;> decide

theorem not_isBodyCharacter {c : Char} (foreign : digitValue? c = none) (other : c ≠ '_')
    (radix : Nat) : isBodyCharacter radix c = false := by
  simp [isBodyCharacter, isDigitOf, foreign, other]

/-- The text of a numeral without its suffix: a mark and what may stand behind it. -/
inductive IsUnsuffixed : List Char → Nat → List Char → Prop where
  | intro {mark body : List Char} {radix : Nat} (isMark : IsRadixMark mark radix)
      (nonempty : body ≠ []) (characters : ∀ c ∈ body, isBodyCharacter radix c = true)
      (begins : mark = [] → body.head? ≠ some '_') :
      IsUnsuffixed (mark ++ body) radix (body.filter (· != '_'))

theorem IsUnsuffixed.two_le {cs : List Char} {radix : Nat} {digits : List Char}
    (unsuffixed : IsUnsuffixed cs radix digits) : 2 ≤ radix := by
  obtain @⟨mark, body, _, isMark, -⟩ := unsuffixed
  exact isMark.bounds.1

theorem digitsBehindMark?_eq_some_iff {radix : Nat} {body : List Char} {answer : Nat × List Char} :
    digitsBehindMark? radix body = some answer ↔
      body ≠ [] ∧ (∀ c ∈ body, isBodyCharacter radix c = true) ∧
        answer = (radix, body.filter (· != '_')) := by
  unfold digitsBehindMark?
  by_cases well : (!body.isEmpty && body.all (isBodyCharacter radix)) = true
  · rw [if_pos well]
    obtain ⟨nonempty, characters⟩ : body ≠ [] ∧ ∀ c ∈ body, isBodyCharacter radix c = true := by
      simpa using well
    simp only [Option.some.injEq, ne_eq, nonempty, not_false_eq_true, true_and]
    exact ⟨fun same => ⟨characters, same.symm⟩, fun parts => parts.2.symm⟩
  · rw [if_neg well]
    constructor
    · intro none
      cases none
    · intro parts
      exact (well (by simpa using ⟨parts.1, parts.2.1⟩)).elim

theorem isBodyCharacter_ten_of_head {c : Char} :
    (isBodyCharacter 10 c = true ∧ some c ≠ some '_') ↔ isDigitOf 10 c = true := by
  constructor
  · intro parts
    obtain ⟨inside, apart⟩ := parts
    have other : c ≠ '_' := fun same => apart (congrArg some same)
    simpa [isBodyCharacter, other] using inside
  · intro known
    refine ⟨by simp [isBodyCharacter, known], ?_⟩
    rintro ⟨⟩
    cases known

theorem isUnsuffixed_of_digitsBehindMark? {mark body digits : List Char} {marked radix : Nat}
    (isMark : IsRadixMark mark marked) (nonempty : mark ≠ [])
    (found : digitsBehindMark? marked body = some (radix, digits)) :
    IsUnsuffixed (mark ++ body) radix digits := by
  obtain ⟨some, characters, same⟩ := digitsBehindMark?_eq_some_iff.mp found
  cases same
  exact .intro isMark some characters fun unmarked => (nonempty unmarked).elim

theorem digits?_eq_some_iff {cs : List Char} {radix : Nat} {digits : List Char} :
    digits? cs = some (radix, digits) ↔ IsUnsuffixed cs radix digits := by
  constructor
  · intro found
    unfold digits? at found
    split at found
    case h_1 body => exact isUnsuffixed_of_digitsBehindMark? .hexadecimal (by simp) found
    case h_2 body => exact isUnsuffixed_of_digitsBehindMark? .octal (by simp) found
    case h_3 body => exact isUnsuffixed_of_digitsBehindMark? .binary (by simp) found
    case h_4 c rest _ _ _ =>
      split_ifs at found with decimal
      obtain ⟨first, others⟩ : isDigitOf 10 c = true ∧ ∀ c ∈ rest, isBodyCharacter 10 c = true := by
        simpa using decimal
      obtain ⟨inside, apart⟩ := isBodyCharacter_ten_of_head.mpr first
      cases found
      exact .intro .decimal (List.cons_ne_nil c rest)
        (List.forall_mem_cons.mpr ⟨inside, others⟩) fun _ => apart
    case h_5 => cases found
  · intro unsuffixed
    obtain @⟨mark, body, _, isMark, nonempty, characters, begins⟩ := unsuffixed
    cases isMark with
    | hexadecimal | octal | binary =>
        exact digitsBehindMark?_eq_some_iff.mpr ⟨nonempty, characters, rfl⟩
    | decimal =>
        obtain ⟨c, rest, rfl⟩ := List.exists_cons_of_ne_nil nonempty
        obtain ⟨inside, others⟩ := List.forall_mem_cons.mp characters
        have first := isBodyCharacter_ten_of_head.mp ⟨inside, by simpa using begins rfl⟩
        -- No decimal digit spells a radix mark, so that the other radixes are out of question.
        have unmarked (letter : Char) (foreign : isBodyCharacter 10 letter = false)
            (tail : List Char) : rest ≠ letter :: tail := by
          rintro rfl
          rw [others letter (by simp)] at foreign
          cases foreign
        rw [List.nil_append, digits?]
        · simp [first, List.all_eq_true.mpr others]
        · intro tail _ same
          exact unmarked 'x' (by decide) tail same
        · intro tail _ same
          exact unmarked 'o' (by decide) tail same
        · intro tail _ same
          exact unmarked 'b' (by decide) tail same

/-- What a suffix is written as. -/
def suffixText (suffix : Option Scalar.Kind) : List Char :=
  (suffix.map fun kind => kind.name.toList).getD []

theorem take_before (body : List Char) (ending : String) :
    (body ++ ending.toList).take ((body ++ ending.toList).length - ending.length) = body := by
  rw [List.length_append, String.length_toList, Nat.add_sub_cancel, List.take_left]

theorem splitSuffix_kind (body : List Char) {kind : Scalar.Kind} (integer : kind ≠ .bool) :
    splitSuffix (body ++ kind.name.toList) = (body, some kind) := by
  have own : kind.name.toList.isSuffixOf (body ++ kind.name.toList) = true :=
    List.isSuffixOf_iff_suffix.mpr (List.suffix_append body _)
  unfold splitSuffix
  dsimp only
  cases kind with
  | bool => exact (integer rfl).elim
  | i32 => rw [if_pos own, take_before]
  | u32 =>
      have foreign : ¬Scalar.Kind.i32.name.toList.isSuffixOf
          (body ++ Scalar.Kind.u32.name.toList) = true := by
        intro suffixed
        have same := List.suffix_of_suffix_length_le (List.isSuffixOf_iff_suffix.mp suffixed)
          (List.suffix_append body _) (by decide)
        exact absurd same (by decide)
      rw [if_neg foreign, if_pos own, take_before]

theorem splitSuffix_none {cs : List Char} (signed : 'i' ∉ cs) (unsigned : 'u' ∉ cs) :
    splitSuffix cs = (cs, none) := by
  have unsuffixed {kind : Scalar.Kind} {c : Char} (letter : c ∈ kind.name.toList)
      (absent : c ∉ cs) : kind.name.toList.isSuffixOf cs = false := by
    rw [Bool.eq_false_iff]
    exact fun suffixed => absent ((List.isSuffixOf_iff_suffix.mp suffixed).subset letter)
  simp [splitSuffix, @unsuffixed .i32 'i' (by decide) signed,
    @unsuffixed .u32 'u' (by decide) unsigned]

theorem eq_append_of_splitSuffix {cs body : List Char} {suffix : Option Scalar.Kind}
    (split : splitSuffix cs = (body, suffix)) :
    cs = body ++ suffixText suffix ∧ suffix ≠ some .bool := by
  have joined {kind : Scalar.Kind} (suffixed : kind.name.toList.isSuffixOf cs = true) :
      cs = cs.take (cs.length - kind.name.length) ++ kind.name.toList := by
    obtain ⟨front, rfl⟩ := List.isSuffixOf_iff_suffix.mp suffixed
    rw [take_before]
  unfold splitSuffix at split
  simp only at split
  split_ifs at split with signed unsigned
  · cases split
    exact ⟨joined signed, by simp⟩
  · cases split
    exact ⟨joined unsigned, by simp⟩
  · cases split
    exact ⟨by simp [suffixText], by simp⟩

/-! ## The text of a number token -/

theorem withoutFinalNewline_append {cs ending : List Char} (unbroken : '\n' ∉ cs)
    (isEnding : ending = [] ∨ ending = ['\n']) : withoutFinalNewline (cs ++ ending) = cs := by
  unfold withoutFinalNewline
  rcases isEnding with rfl | rfl
  · rw [List.append_nil, if_neg fun last => unbroken (List.mem_of_getLast? last)]
  · simp

theorem eq_withoutFinalNewline_append (cs : List Char) :
    ∃ ending, (ending = [] ∨ ending = ['\n']) ∧ cs = withoutFinalNewline cs ++ ending := by
  unfold withoutFinalNewline
  split_ifs with broken
  · exact ⟨['\n'], .inr rfl, (List.dropLast_append_getLast? _ broken).symm⟩
  · exact ⟨[], .inl rfl, (List.append_nil cs).symm⟩

/-- A text writes digits of a radix for a kind: a mark of the radix, digits with underscores, and
the name of the kind or nothing. A decimal numeral begins with a digit. One newline may stand
behind all this, which the text of no token that is read has. -/
inductive Writes (kind : Scalar.Kind) : List Char → Nat → List Nat → Prop where
  | intro {mark body suffix ending : List Char} {radix : Nat} {digits : List Nat}
      (isMark : IsRadixMark mark radix) (isBody : IsBody radix body digits)
      (nonempty : digits ≠ []) (begins : mark = [] → body.head? ≠ some '_')
      (isSuffix : suffix = [] ∨ suffix = kind.name.toList)
      (isEnding : ending = [] ∨ ending = ['\n']) :
      Writes kind (mark ++ body ++ suffix ++ ending) radix digits

theorem IsUnsuffixed.notMem {cs : List Char} {radix : Nat} {digits : List Char}
    (unsuffixed : IsUnsuffixed cs radix digits) {c : Char} (foreign : digitValue? c = none)
    (other : c ∉ ['_', 'x', 'o', 'b']) : c ∉ cs := by
  obtain @⟨mark, body, _, isMark, -, characters, -⟩ := unsuffixed
  simp only [List.mem_cons, List.not_mem_nil, or_false, not_or] at other
  have zero : c ≠ '0' := by
    rintro rfl
    cases foreign
  intro inside
  rcases List.mem_append.mp inside with front | behind
  · cases isMark <;> simp_all
  · have known := characters c behind
    rw [not_isBodyCharacter foreign other.1] at known
    cases known

theorem IsUnsuffixed.splitSuffix_append {cs : List Char} {radix : Nat} {digits : List Char}
    (unsuffixed : IsUnsuffixed cs radix digits) {suffix : Option Scalar.Kind}
    (integer : suffix ≠ some .bool) : splitSuffix (cs ++ suffixText suffix) = (cs, suffix) := by
  cases suffix with
  | none =>
      rw [suffixText, Option.map_none, Option.getD_none, List.append_nil]
      exact splitSuffix_none (unsuffixed.notMem (by decide) (by decide))
        (unsuffixed.notMem (by decide) (by decide))
  | some kind => exact splitSuffix_kind cs fun isBool => integer (congrArg some isBool)

theorem newline_notMem_suffixText (suffix : Option Scalar.Kind) : '\n' ∉ suffixText suffix := by
  cases suffix with
  | none => decide
  | some kind => cases kind <;> decide

/-- A numeral is found where its parts stand behind each other. -/
theorem parse?_eq_some_iff {text : String} {numeral : Numeral} :
    parse? text = some numeral ↔
      ∃ cs ending, text.toList = cs ++ suffixText numeral.suffix ++ ending ∧
        IsUnsuffixed cs numeral.radix numeral.digits ∧ numeral.suffix ≠ some .bool ∧
        (ending = [] ∨ ending = ['\n']) := by
  obtain ⟨ending, isEnding, whole⟩ := eq_withoutFinalNewline_append text.toList
  unfold parse?
  constructor
  · intro taken
    cases split : splitSuffix (withoutFinalNewline text.toList) with
    | mk cs suffix =>
        rw [split] at taken
        obtain ⟨⟨radix, digits⟩, found, rfl⟩ := Option.map_eq_some_iff.mp taken
        obtain ⟨joined, integer⟩ := eq_append_of_splitSuffix split
        rw [joined] at whole
        exact ⟨cs, ending, whole, digits?_eq_some_iff.mp found, integer, isEnding⟩
  · intro parts
    obtain ⟨cs, ending, whole, unsuffixed, integer, isEnding⟩ := parts
    have unbroken : '\n' ∉ cs ++ suffixText numeral.suffix := by
      rw [List.mem_append, not_or]
      exact ⟨unsuffixed.notMem (by decide) (by decide), newline_notMem_suffixText _⟩
    rw [whole, withoutFinalNewline_append unbroken isEnding,
      unsuffixed.splitSuffix_append integer]
    simp only [digits?_eq_some_iff.mpr unsuffixed, Option.map_some]

theorem isUnsuffixed_iff {cs : List Char} {radix : Nat} {digits : List Nat} :
    (∃ characters, IsUnsuffixed cs radix characters ∧ characters ≠ [] ∧
        characters.map digitOf = digits) ↔
      ∃ mark body, cs = mark ++ body ∧ IsRadixMark mark radix ∧ IsBody radix body digits ∧
        digits ≠ [] ∧ (mark = [] → body.head? ≠ some '_') := by
  constructor
  · intro unsuffixed
    obtain ⟨_, @⟨mark, body, _, isMark, -, characters, begins⟩, nonempty, rfl⟩ := unsuffixed
    exact ⟨mark, body, rfl, isMark, isBody_of_characters isMark.bounds.2 characters,
      by simpa using nonempty, begins⟩
  · intro parts
    obtain ⟨mark, body, rfl, isMark, isBody, nonempty, begins⟩ := parts
    obtain ⟨characters, rfl⟩ := isBody.parts isMark.bounds.2
    refine ⟨_, .intro isMark ?_ characters begins, by simpa using nonempty, rfl⟩
    rintro rfl
    exact nonempty rfl

/-- The text of a numeral is taken apart as it is written. -/
theorem writes_iff {kind : Scalar.Kind} (integer : kind ≠ .bool) {text : String} {radix : Nat}
    {digits : List Nat} :
    Writes kind text.toList radix digits ↔
      ∃ numeral, parse? text = some numeral ∧ (∀ suffix ∈ numeral.suffix, suffix = kind) ∧
        numeral.digits ≠ [] ∧ numeral.radix = radix ∧ numeral.digits.map digitOf = digits := by
  constructor
  · intro writes
    generalize whole : text.toList = cs at writes
    obtain @⟨mark, body, suffix, ending, _, _, isMark, isBody, nonempty, begins, isSuffix,
      isEnding⟩ := writes
    obtain ⟨characters, unsuffixed, some, values⟩ :=
      isUnsuffixed_iff.mpr ⟨mark, body, rfl, isMark, isBody, nonempty, begins⟩
    rcases isSuffix with rfl | rfl
    · refine ⟨⟨radix, characters, none⟩, ?_, by simp, some, rfl, values⟩
      exact parse?_eq_some_iff.mpr ⟨_, ending, whole, unsuffixed, by simp, isEnding⟩
    · refine ⟨⟨radix, characters, kind⟩, ?_, by simp, some, rfl, values⟩
      exact parse?_eq_some_iff.mpr ⟨_, ending, whole, unsuffixed, by simpa using integer, isEnding⟩
  · intro taken
    obtain ⟨⟨radix, characters, suffix⟩, found, own, some, rfl, values⟩ := taken
    obtain ⟨cs, ending, whole, unsuffixed, -, isEnding⟩ := parse?_eq_some_iff.mp found
    obtain ⟨mark, body, rfl, isMark, isBody, nonempty, begins⟩ :=
      isUnsuffixed_iff.mp ⟨characters, unsuffixed, some, values⟩
    rw [whole]
    refine .intro isMark isBody nonempty begins ?_ isEnding
    cases suffix with
    | none => exact .inl rfl
    | some kind' =>
        obtain rfl := own kind' rfl
        exact .inr rfl

theorem IsUnsuffixed.isDigit_of_mem {cs : List Char} {radix : Nat} {digits : List Char}
    (unsuffixed : IsUnsuffixed cs radix digits) {c : Char} (member : c ∈ digits) :
    IsDigit 16 (digitOf c) c := by
  obtain @⟨mark, body, _, isMark, -, characters, -⟩ := unsuffixed
  obtain ⟨inside, apart⟩ := List.mem_filter.mp member
  have known : isDigitOf radix c = true := by
    have other : c ≠ '_' := by simpa using apart
    simpa [isBodyCharacter, other] using characters c inside
  have small := isMark.bounds.2
  obtain ⟨below, spelled⟩ := (isDigit_iff small).mpr ⟨known, rfl⟩
  exact ⟨Nat.lt_of_lt_of_le below small, spelled⟩

theorem digitOf_eq_zero_iff {c : Char} (isDigit : IsDigit 16 (digitOf c) c) :
    digitOf c = 0 ↔ c = '0' := by
  constructor
  · intro zero
    obtain ⟨-, spelled⟩ := isDigit
    rw [zero] at spelled
    rcases spelled with rfl | rfl <;> rfl
  · rintro rfl
    rfl

theorem length_dropWhile_zeros {digits : List Char}
    (known : ∀ c ∈ digits, IsDigit 16 (digitOf c) c) :
    ((digits.map digitOf).dropWhile (· = 0)).length = (digits.dropWhile (· == '0')).length := by
  induction digits with
  | nil => rfl
  | cons c digits ih =>
      obtain ⟨first, others⟩ := List.forall_mem_cons.mp known
      by_cases zero : c = '0'
      · subst zero
        exact ih others
      · have positive : digitOf c ≠ 0 := fun same => zero ((digitOf_eq_zero_iff first).mp same)
        simp [zero, positive]

/-- Behind the zeros in front there are as many digits as characters. -/
theorem significantDigits_eq {text : String} {numeral : Numeral}
    (taken : parse? text = some numeral) :
    numeral.significantDigits = ((numeral.digits.map digitOf).dropWhile (· = 0)).length := by
  obtain ⟨cs, ending, -, unsuffixed, -⟩ := parse?_eq_some_iff.mp taken
  exact (length_dropWhile_zeros fun _ member => unsuffixed.isDigit_of_mem member).symm

end Numeral

end ShaderVariants
