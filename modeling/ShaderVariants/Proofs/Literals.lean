import ShaderVariants.Proofs.IntegerNumerals
import ShaderVariants.Proofs.ParserExactness

/-!
# Literals of a kind

Which tokens write a literal of a kind, said by the text of the number and without the numeral that
the parser makes of it, and what the parser answers.  It reads every literal whose value the kind
has, and nothing else, but for one gap: a decimal number of many digits, nearly all of them zeros in
front, is refused in a way that points to no place of the text, whatever its value is.
-/

namespace ShaderVariants

/-- The literals that a kind ranges over: truth values, or integers of 32 bits. -/
def Scalar.Kind.Includes : Scalar.Kind → Literal → Prop
  | .bool, literal => ∃ value, literal = .bool value
  | .i32, literal => ∃ value : Int, literal = .integer value ∧ -2 ^ 31 ≤ value ∧ value < 2 ^ 31
  | .u32, literal => ∃ value : Int, literal = .integer value ∧ 0 ≤ value ∧ value < 2 ^ 32

theorem Scalar.Kind.misfit?_eq_none_iff {kind : Scalar.Kind} {literal : Literal} :
    kind.misfit? literal = none ↔ kind.Includes literal := by
  cases literal with
  | bool value => cases kind <;> simp [misfit?, Includes]
  | integer value =>
      have fits_iff {inRange : Prop} [Decidable inRange] {misfit : Misfit} :
          (if inRange then none else some misfit) = none ↔ inRange := by
        by_cases inside : inRange <;> simp [inside]
      cases kind with
      | bool => simp [misfit?, Includes]
      | i32 | u32 =>
          rw [misfit?, fits_iff]
          · simp only [Includes, least, greatest, Literal.integer.injEq, exists_eq_left']
            omega
          · simp

theorem Scalar.includes (scalar : Scalar) : scalar.kind.Includes scalar.literal :=
  Kind.misfit?_eq_none_iff.mp scalar.fits

theorem Scalar.eq_ofBool {scalar : Scalar} {value : Bool} (sameKind : scalar.kind = .bool)
    (sameValue : scalar.literal = .bool value) : scalar = .ofBool value := by
  obtain ⟨kind, literal, fits⟩ := scalar
  cases sameKind
  cases sameValue
  rfl

/-- Integers of a kind have 32 bits. -/
theorem Scalar.Kind.natAbs_lt_of_includes {kind : Scalar.Kind} {value : Int}
    (included : kind.Includes (.integer value)) : value.natAbs < 2 ^ 32 := by
  cases kind with
  | bool =>
      obtain ⟨truth, same⟩ := included
      cases same
  | i32 | u32 =>
      obtain ⟨_, ⟨⟩, lower, upper⟩ := included
      omega

namespace Grammar

theorem IsInteger.kind_eq {kind : Scalar.Kind} {text : String} {negative : Bool} {scalar : Scalar}
    (written : IsInteger kind text negative scalar) : scalar.kind = kind := by
  obtain ⟨numeral, -, -, -, -, -, same, -⟩ := written
  exact same

/-- A literal of a kind writes a scalar of that kind, in whichever form. -/
theorem IsLiteral.kind_eq {kind : Scalar.Kind} {tokens : List Token} {scalar : Scalar}
    (written : IsLiteral kind tokens scalar) : scalar.kind = kind := by
  cases written with
  | truth isTrue => rfl
  | falsehood isFalse => rfl
  | unsigned isNumber writes => exact writes.kind_eq
  | negative isMinus isNumber writes => exact writes.kind_eq

/-! ## Integers -/

/-- A number behind a sign, if there is one. -/
def signed (negative : Bool) (number : Nat) : Int := if negative then -(number : Int) else number

/-- Digits are converted: decimal ones if there are not too many, others always. -/
def IsConverted (radix : Nat) (digits : List Nat) : Prop :=
  radix = 10 → digits.length ≤ Decimal.conversionLimit

theorem isUnconvertible_eq_false_iff {numeral : Numeral} :
    Parser.isUnconvertible numeral = false ↔
      IsConverted numeral.radix (numeral.digits.map Numeral.digitOf) := by
  simp [Parser.isUnconvertible, Decimal.isOversized, IsConverted]

theorem ne_bool_of_includes {kind : Scalar.Kind} {value : Int}
    (included : kind.Includes (.integer value)) : kind ≠ .bool := by
  rintro rfl
  obtain ⟨truth, same⟩ := included
  cases same

/-- The limit of significant digits excludes no number of a kind. -/
theorem significantDigits_le_of_includes {kind : Scalar.Kind} {text : String} {negative : Bool}
    {numeral : Numeral} (taken : Numeral.parse? text = some numeral)
    (included : kind.Includes (.integer (signed negative numeral.value))) :
    numeral.significantDigits ≤ Parser.digitLimit := by
  by_contra endless
  obtain ⟨cs, ending, -, unsuffixed, -⟩ := Numeral.parse?_eq_some_iff.mp taken
  rw [Numeral.significantDigits_eq taken, Nat.not_le] at endless
  have large := Numeral.two_pow_le_numberOf unsuffixed.two_le endless
  rw [← Numeral.value_eq] at large
  have small := Scalar.Kind.natAbs_lt_of_includes included
  unfold signed at small
  split at small <;> omega

theorem isInteger_iff {kind : Scalar.Kind} {text : String} {negative : Bool} {scalar : Scalar} :
    IsInteger kind text negative scalar ↔
      ∃ radix digits, Numeral.Writes kind text.toList radix digits ∧ IsConverted radix digits ∧
        kind.Includes (.integer (signed negative (Numeral.numberOf radix digits))) ∧
        scalar.kind = kind ∧
        scalar.literal = .integer (signed negative (Numeral.numberOf radix digits)) := by
  constructor
  · intro written
    have integer : kind ≠ .bool := by
      rintro rfl
      exact Parser.not_isInteger_bool written
    obtain ⟨numeral, taken, own, nonempty, -, converted, sameKind, sameValue⟩ := written
    have writes := (Numeral.writes_iff integer).mpr ⟨numeral, taken, own, nonempty, rfl, rfl⟩
    rw [Numeral.value_eq] at sameValue
    refine ⟨_, _, writes, isUnconvertible_eq_false_iff.mp converted, ?_, sameKind, sameValue⟩
    have included := scalar.includes
    rw [sameKind, sameValue] at included
    exact included
  · intro parts
    obtain ⟨radix, digits, writes, converted, included, sameKind, sameValue⟩ := parts
    obtain ⟨numeral, taken, own, nonempty, rfl, rfl⟩ :=
      (Numeral.writes_iff (ne_bool_of_includes included)).mp writes
    rw [← Numeral.value_eq] at included sameValue
    exact ⟨numeral, taken, own, nonempty, significantDigits_le_of_includes taken included,
      isUnconvertible_eq_false_iff.mpr converted, sameKind, sameValue⟩

/-! ## Tokens -/

/-- A number token behind a minus or not. -/
inductive IsSigned : Bool → List Token → Token → Prop where
  | unsigned {number : Token} (isNumber : number.kind = .number) : IsSigned false [number] number
  | negative {sign number : Token} (isMinus : sign.kind = .mark .minus)
      (isNumber : number.kind = .number) : IsSigned true [sign, number] number

/-- Tokens write a literal that a kind includes. -/
inductive WritesLiteral (kind : Scalar.Kind) : List Token → Literal → Prop where
  | truth {word : Token} (isBool : kind = .bool) (isTrue : word.kind = .keyword .trueWord) :
      WritesLiteral kind [word] (.bool true)
  | falsehood {word : Token} (isBool : kind = .bool) (isFalse : word.kind = .keyword .falseWord) :
      WritesLiteral kind [word] (.bool false)
  | integer {negative : Bool} {consumed : List Token} {number : Token} {radix : Nat}
      {digits : List Nat} (isSigned : IsSigned negative consumed number)
      (writes : Numeral.Writes kind number.text.toList radix digits)
      (converted : IsConverted radix digits)
      (included : kind.Includes (.integer (signed negative (Numeral.numberOf radix digits)))) :
      WritesLiteral kind consumed (.integer (signed negative (Numeral.numberOf radix digits)))

theorem IsInteger.writesLiteral {kind : Scalar.Kind} {negative : Bool} {consumed : List Token}
    {number : Token} {scalar : Scalar} (isSigned : IsSigned negative consumed number)
    (written : IsInteger kind number.text negative scalar) :
    WritesLiteral kind consumed scalar.literal := by
  obtain ⟨radix, digits, writes, converted, included, -, value⟩ := isInteger_iff.mp written
  rw [value]
  exact .integer isSigned writes converted included

/-- The grammar's literals are those of the kind that the tokens write. -/
theorem isLiteral_iff {kind : Scalar.Kind} {tokens : List Token} {scalar : Scalar} :
    IsLiteral kind tokens scalar ↔
      scalar.kind = kind ∧ WritesLiteral kind tokens scalar.literal := by
  constructor
  · intro written
    refine ⟨written.kind_eq, ?_⟩
    cases written with
    | truth isTrue => exact .truth rfl isTrue
    | falsehood isFalse => exact .falsehood rfl isFalse
    | unsigned isNumber writes => exact writes.writesLiteral (.unsigned isNumber)
    | negative isMinus isNumber writes => exact writes.writesLiteral (.negative isMinus isNumber)
  · intro parts
    obtain ⟨sameKind, written⟩ := parts
    generalize sameValue : scalar.literal = literal at written
    cases written with
    | truth isBool isTrue =>
        subst isBool
        obtain rfl := Scalar.eq_ofBool sameKind sameValue
        exact .truth isTrue
    | falsehood isBool isFalse =>
        subst isBool
        obtain rfl := Scalar.eq_ofBool sameKind sameValue
        exact .falsehood isFalse
    | @integer negative _ number radix digits isSigned writes converted included =>
        have isInteger : IsInteger kind number.text negative scalar :=
          isInteger_iff.mpr ⟨radix, digits, writes, converted, included, sameKind, sameValue⟩
        cases isSigned with
        | unsigned isNumber => exact .unsigned isNumber isInteger
        | negative isMinus isNumber => exact .negative isMinus isNumber isInteger

/-- The text of a number has too many decimal digits to be converted, few of them significant. -/
def IsOverlong (kind : Scalar.Kind) (text : String) (count : Nat) : Prop :=
  ∃ digits, Numeral.Writes kind text.toList 10 digits ∧ digits.length = count ∧
    Decimal.conversionLimit < count ∧ (digits.dropWhile (· = 0)).length ≤ Parser.digitLimit

end Grammar

/-! ## Refusals -/

namespace Parser

variable {α β : Type}

/-- The parser refuses a stream. -/
def Refuses (parser : Parser α) (stream : TokenStream) (refusal : Refusal) : Prop :=
  (parser stream).result = .error refusal

variable {stream : TokenStream} {refusal : Refusal}

theorem refuses_bind_iff {parser : Parser α} {next : α → Parser β} :
    (parser >>= next).Refuses stream refusal ↔
      parser.Refuses stream refusal ∨
        ∃ first middle, parser.Answers stream first middle ∧
          (next first).Refuses middle refusal := by
  unfold Refuses
  rw [bind_apply]
  cases answered : (parser stream).result with
  | error other => simp [Parser.bind, answered, not_answers_of_error answered]
  | ok value =>
      rw [exists_answers_iff answered]
      simp [Parser.bind, answered]

theorem not_refuses_pure {value : α} : ¬(Pure.pure value : Parser α).Refuses stream refusal := by
  intro refused
  cases refused

theorem refuses_fail_iff {token : Token} {cause : Fault.Cause} :
    (fail token cause : Parser α).Refuses stream refusal ↔
      refusal = .fault (token.fault cause) := by
  unfold Refuses Parser.fail
  rw [Except.error.injEq, eq_comm]

theorem refuses_ofExcept_iff {answer : Except Refusal α} :
    (ofExcept answer).Refuses stream refusal ↔ answer = .error refusal := Iff.rfl

theorem refuses_current_bind_iff {next : Token → Parser β} :
    (Parser.current >>= next).Refuses stream refusal ↔
      (next stream.current).Refuses stream refusal := Iff.rfl

theorem refuses_isAt_bind_iff {kinds : List Token.Kind} {next : Bool → Parser β} :
    (isAt kinds >>= next).Refuses stream refusal ↔
      (next (decide (stream.current.kind ∈ kinds))).Refuses stream refusal := Iff.rfl

theorem refuses_advance_bind_iff {next : Token → Parser β} :
    (Parser.advance >>= next).Refuses stream refusal ↔
      (next stream.current).Refuses stream.advance refusal := Iff.rfl

/-- A token of another kind is refused with a fault, if at all. -/
theorem not_refuses_expect {kind : Token.Kind} {wanted : String} {digits : Nat} :
    ¬(expect kind wanted).Refuses stream (.oversizedNumeral digits) := by
  unfold expect
  rw [refuses_current_bind_iff]
  split
  · intro refused
    cases refused
  · rw [refuses_fail_iff]
    intro same
    cases same

open Grammar
open TokenStream (passes_cons_iff passes_front)

theorem isUnconvertible_and_iff {numeral : Numeral} {count : Nat} :
    isUnconvertible numeral = true ∧ numeral.digits.length = count ↔
      numeral.radix = 10 ∧ numeral.digits.length = count ∧ Decimal.conversionLimit < count := by
  simp only [isUnconvertible, Decimal.isOversized, Bool.and_eq_true, beq_iff_eq,
    decide_eq_true_eq]
  constructor
  · intro parts
    obtain ⟨⟨decimal, many⟩, rfl⟩ := parts
    exact ⟨decimal, rfl, many⟩
  · intro parts
    obtain ⟨decimal, rfl, many⟩ := parts
    exact ⟨⟨decimal, many⟩, rfl⟩

theorem isOverlong_iff {kind : Scalar.Kind} (integer : kind ≠ .bool) {text : String}
    {count : Nat} :
    IsOverlong kind text count ↔
      ∃ numeral, Numeral.parse? text = some numeral ∧
        (∀ suffix ∈ numeral.suffix, suffix = kind) ∧ numeral.digits ≠ [] ∧
        numeral.significantDigits ≤ digitLimit ∧
        isUnconvertible numeral = true ∧ numeral.digits.length = count := by
  unfold IsOverlong
  constructor
  · intro overlong
    obtain ⟨digits, writes, length, many, few⟩ := overlong
    obtain ⟨numeral, taken, own, nonempty, decimal, rfl⟩ := (Numeral.writes_iff integer).mp writes
    rw [← Numeral.significantDigits_eq taken] at few
    rw [List.length_map] at length
    exact ⟨numeral, taken, own, nonempty, few,
      isUnconvertible_and_iff.mpr ⟨decimal, length, many⟩⟩
  · intro parts
    obtain ⟨numeral, taken, own, nonempty, few, unconvertible⟩ := parts
    obtain ⟨decimal, length, many⟩ := isUnconvertible_and_iff.mp unconvertible
    have writes := (Numeral.writes_iff integer).mpr ⟨numeral, taken, own, nonempty, rfl, rfl⟩
    rw [decimal] at writes
    rw [Numeral.significantDigits_eq taken] at few
    exact ⟨_, writes, by rw [List.length_map, length], many, few⟩

/-- The checks of a numeral have an order, so that a numeral is overlong only if it passes those
before. -/
theorem integerScalar_eq_oversized_iff {kind : Scalar.Kind} (integer : kind ≠ .bool)
    {owner key : String} {first number : Token} {negative : Bool} {count : Nat} :
    integerScalar kind owner key first number negative = .error (.oversizedNumeral count) ↔
      IsOverlong kind number.text count := by
  rw [isOverlong_iff integer]
  unfold integerScalar
  cases Numeral.parse? number.text with
  | none => simp
  | some numeral =>
      simp only [Option.some.injEq, exists_eq_left']
      have foreign_iff : numeral.suffix.any (· ≠ kind) = true ↔
          ¬∀ suffix ∈ numeral.suffix, suffix = kind := by
        cases numeral.suffix <;> simp
      generalize Scalar.ofLiteral kind _ = made
      constructor
      · intro refused
        split_ifs at refused with foreign empty endless unconvertible
        · cases refused
        · cases refused
        · cases refused
        · cases refused
          exact ⟨not_not.mp fun other => foreign (foreign_iff.mpr other),
            fun none => empty (by simp [none]), Nat.not_lt.mp endless, unconvertible, rfl⟩
        · cases made <;> cases refused
      · intro parts
        obtain ⟨own, nonempty, few, unconvertible, rfl⟩ := parts
        rw [if_neg fun foreign => foreign_iff.mp foreign own,
          if_neg (by simpa using nonempty), if_neg (Nat.not_lt.mpr few), if_pos unconvertible]

/-- A number without a sign begins here, or one behind a minus. -/
theorem isSigned_passes_iff {negative : Bool} {number : Token} :
    (∃ consumed rest, IsSigned negative consumed number ∧ stream.Passes consumed rest) ↔
      (negative = false ∧ stream.current.kind = .number ∧ number = stream.current) ∨
      (negative = true ∧ stream.current.kind = .mark .minus ∧
        stream.advance.current.kind = .number ∧ number = stream.advance.current) := by
  constructor
  · intro signed
    obtain ⟨consumed, rest, isSigned, passes⟩ := signed
    cases isSigned with
    | unsigned isNumber => exact .inl ⟨rfl, by rw [passes.current, isNumber], passes.current.symm⟩
    | negative isMinus isNumber =>
        obtain ⟨middle, sign, behind⟩ := passes_cons_iff.mp passes
        have here := sign.advance
        subst here
        exact .inr ⟨rfl, by rw [passes.current, isMinus], by rw [behind.current, isNumber],
          behind.current.symm⟩
  · intro cases
    rcases cases with ⟨rfl, isNumber, rfl⟩ | ⟨rfl, isMinus, isNumber, rfl⟩
    · exact ⟨_, _, .unsigned isNumber, passes_front isNumber (by simp)⟩
    · exact ⟨_, _, .negative isMinus isNumber, passes_cons_iff.mpr
        ⟨_, passes_front isMinus (by simp), passes_front isNumber (by simp)⟩⟩

theorem refuses_number_iff {kind : Scalar.Kind} (integer : kind ≠ .bool) {owner key : String}
    {first : Token} {negative : Bool} {wanted : String} {count : Nat} :
    (expect .number wanted >>= fun number =>
      ofExcept (integerScalar kind owner key first number negative)).Refuses stream
        (.oversizedNumeral count) ↔
      stream.current.kind = .number ∧ IsOverlong kind stream.current.text count := by
  simp only [refuses_bind_iff, not_refuses_expect, false_or, answers_expect_iff .number (by simp),
    refuses_ofExcept_iff, integerScalar_eq_oversized_iff integer]
  constructor
  · intro chain
    obtain ⟨number, middle, ⟨isNumber, passes⟩, overlong⟩ := chain
    rw [passes.current]
    exact ⟨isNumber, overlong⟩
  · intro parts
    obtain ⟨isNumber, overlong⟩ := parts
    exact ⟨_, _, ⟨isNumber, passes_front isNumber (by simp)⟩, overlong⟩

/-- A literal is refused without a fault exactly for an overlong number. -/
theorem refuses_literal_iff {kind : Scalar.Kind} {owner key : String} {count : Nat} :
    (literal kind owner key).Refuses stream (.oversizedNumeral count) ↔
      kind ≠ .bool ∧ ∃ negative number,
        (∃ consumed rest, IsSigned negative consumed number ∧ stream.Passes consumed rest) ∧
        IsOverlong kind number.text count := by
  simp only [isSigned_passes_iff]
  unfold literal
  simp only [refuses_current_bind_iff, refuses_isAt_bind_iff, List.mem_cons, List.not_mem_nil,
    or_false]
  cases here : stream.current.kind with
  | keyword word =>
      by_cases isBool : kind = .bool <;> cases word <;>
        simp [refuses_isAt_bind_iff, refuses_advance_bind_iff, not_refuses_pure,
          refuses_fail_iff, here, isBool]
  | mark symbol =>
      cases symbol with
      | minus =>
          by_cases isBool : kind = .bool
          · simp [refuses_isAt_bind_iff, refuses_fail_iff, here, isBool]
          · simp [refuses_isAt_bind_iff, refuses_advance_bind_iff, refuses_number_iff isBool,
              here, isBool]
      | _ => simp [refuses_isAt_bind_iff, here, refuses_fail_iff]
  | number =>
      by_cases isBool : kind = .bool
      · simp [refuses_isAt_bind_iff, refuses_fail_iff, here, isBool]
      · simp [refuses_isAt_bind_iff, refuses_number_iff isBool, here, isBool]
  | identifier => simp [refuses_isAt_bind_iff, here, refuses_fail_iff]
  | string => simp [refuses_isAt_bind_iff, here, refuses_fail_iff]
  | endOfInput => simp [refuses_isAt_bind_iff, here, refuses_fail_iff]

/-- Reading a literal of a kind.  It is answered exactly where the next tokens write one, which are
then consumed; it is refused at no place of the text exactly where a number is overlong, and with a
fault at such a place in all other cases. -/
theorem literal_result (kind : Scalar.Kind) (owner key : String) (stream : TokenStream) :
    (∀ scalar rest, (literal kind owner key).Answers stream scalar rest ↔
      scalar.kind = kind ∧ ∃ consumed, WritesLiteral kind consumed scalar.literal ∧
        stream.Passes consumed rest) ∧
    (∀ count, (literal kind owner key).Refuses stream (.oversizedNumeral count) ↔
      kind ≠ .bool ∧ ∃ negative number,
        (∃ consumed rest, IsSigned negative consumed number ∧ stream.Passes consumed rest) ∧
        IsOverlong kind number.text count) ∧
    ((∃ scalar, (literal kind owner key stream).result = .ok scalar) ∨
      (∃ fault, (literal kind owner key).Refuses stream (.fault fault)) ∨
      ∃ count, (literal kind owner key).Refuses stream (.oversizedNumeral count)) := by
  refine ⟨?_, fun count => refuses_literal_iff, ?_⟩
  · intro scalar rest
    rw [reads_literal kind owner key stream scalar rest]
    simp only [isLiteral_iff]
    constructor
    · intro derivation
      obtain ⟨consumed, ⟨sameKind, written⟩, passes⟩ := derivation
      exact ⟨sameKind, consumed, written, passes⟩
    · intro derivation
      obtain ⟨sameKind, consumed, written, passes⟩ := derivation
      exact ⟨consumed, ⟨sameKind, written⟩, passes⟩
  · cases answered : (literal kind owner key stream).result with
    | ok scalar => exact .inl ⟨scalar, rfl⟩
    | error refusal =>
        cases refusal with
        | fault fault => exact .inr (.inl ⟨fault, answered⟩)
        | oversizedNumeral count => exact .inr (.inr ⟨count, answered⟩)

end Parser

end ShaderVariants
