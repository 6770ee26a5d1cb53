import ShaderVariants.Proofs.ParserSteps

/-!
# Parsers and the grammar

Every parser of a construct reads exactly the language of the construct.  Only the optional parts
look ahead: whether an alias or a mark of visibility is there shows at the next token, which would
not fit the construct behind it.
-/

namespace ShaderVariants.Parser

open Grammar
open TokenStream (passes_nil_iff passes_append_iff passes_cons_iff passes_front)

/-! ## Kinds and literals -/

theorem ofName?_eq_some_iff {name : String} {kind : Scalar.Kind} :
    Scalar.Kind.ofName? name = some kind ↔ name = kind.name := by
  constructor
  · intro found
    have matching := List.find?_some found
    exact (eq_of_beq matching).symm
  · intro spelled
    subst spelled
    cases kind <;> decide

theorem answers_scalarKind_iff {stream rest : TokenStream} {kind : Scalar.Kind} :
    scalarKind.Answers stream kind rest ↔
      ∃ token, IsKind token kind ∧ stream.Passes [token] rest := by
  unfold scalarKind
  rw [answers_current_bind_iff]
  constructor
  · intro answered
    by_cases named : stream.current.kind = .identifier
    · rw [if_pos named] at answered
      cases found : Scalar.Kind.ofName? stream.current.text with
      | none =>
          rw [found] at answered
          exact absurd answered not_answers_fail
      | some kind' =>
          simp only [found, answers_advance_bind_iff, answers_pure_iff] at answered
          obtain ⟨rfl, rfl⟩ := answered
          exact ⟨stream.current, ⟨named, ofName?_eq_some_iff.mp found⟩,
            passes_front named (by simp)⟩
    · rw [if_neg named] at answered
      exact absurd answered not_answers_fail
  · intro derivation
    obtain ⟨token, ⟨named, spelled⟩, passes⟩ := derivation
    have here := passes.current
    have found : Scalar.Kind.ofName? stream.current.text = some kind := by
      rw [here]
      exact ofName?_eq_some_iff.mpr spelled
    rw [if_pos (by rw [here]; exact named), found]
    exact answers_advance_bind_iff.mpr (answers_pure_iff.mpr ⟨rfl, passes.advance.symm⟩)

theorem ofLiteral_eq_ok_iff {kind : Scalar.Kind} {literal : Literal} {scalar : Scalar} :
    Scalar.ofLiteral kind literal = .ok scalar ↔
      scalar.kind = kind ∧ scalar.literal = literal := by
  unfold Scalar.ofLiteral
  split
  · rename_i fits
    constructor
    · intro made
      cases made
      exact ⟨rfl, rfl⟩
    · intro same
      obtain ⟨rfl, rfl⟩ := same
      rfl
  · rename_i misfit misfits
    constructor
    · intro made
      cases made
    · intro same
      obtain ⟨rfl, rfl⟩ := same
      rw [scalar.fits] at misfits
      cases misfits

theorem integerScalar_eq_ok_iff {kind : Scalar.Kind} {owner key : String} {first number : Token}
    {negative : Bool} {scalar : Scalar} :
    integerScalar kind owner key first number negative = .ok scalar ↔
      IsInteger kind number.text negative scalar := by
  unfold integerScalar IsInteger
  cases Numeral.parse? number.text with
  | none => simp
  | some numeral =>
      simp only [Option.some.injEq, exists_eq_left']
      have suffixes : numeral.suffix.any (· ≠ kind) = false ↔
          ∀ suffix ∈ numeral.suffix, suffix = kind := by
        cases numeral.suffix <;> simp
      cases foreign : numeral.suffix.any (· ≠ kind) with
      | true =>
          rw [if_pos rfl]
          constructor
          · intro refused
            cases refused
          · intro rules
            obtain ⟨own, -⟩ := rules
            rw [suffixes.mpr own] at foreign
            cases foreign
      | false =>
      have own := suffixes.mp foreign
      rw [if_neg Bool.false_ne_true]
      by_cases empty : numeral.digits.isEmpty = true
      · rw [if_pos empty]
        simp [List.isEmpty_iff.mp empty]
      rw [if_neg empty]
      have digits : numeral.digits ≠ [] := fun none => empty (List.isEmpty_iff.mpr none)
      by_cases endless : digitLimit < numeral.significantDigits
      · rw [if_pos endless]
        simp [Nat.not_le.mpr endless]
      rw [if_neg endless]
      have few := Nat.not_lt.mp endless
      cases oversized : isUnconvertible numeral with
      | true => simp
      | false =>
          rw [if_neg Bool.false_ne_true, ← ofLiteral_eq_ok_iff]
          have all (written : Prop) : ((∀ suffix ∈ numeral.suffix, suffix = kind) ∧
              numeral.digits ≠ [] ∧ numeral.significantDigits ≤ digitLimit ∧ false = false ∧
              written) ↔ written :=
            ⟨fun rules => rules.2.2.2.2, fun writes => ⟨own, digits, few, rfl, writes⟩⟩
          rw [all]
          cases Scalar.ofLiteral kind
            (.integer (if negative then -(numeral.value : Int) else numeral.value)) with
          | ok made => simp only [Except.ok.injEq]
          | error misfit => simp

theorem not_isInteger_bool {text : String} {negative : Bool} {scalar : Scalar} :
    ¬IsInteger .bool text negative scalar := by
  intro writes
  obtain ⟨numeral, -, -, -, -, -, isBool, isInteger⟩ := writes
  have fits := scalar.fits
  rw [isBool, isInteger] at fits
  cases fits

theorem answers_number_iff {kind : Scalar.Kind} {owner key : String} {first : Token}
    {negative : Bool} {wanted : String} {stream rest : TokenStream} {scalar : Scalar} :
    (expect .number wanted >>= fun number =>
      ofExcept (integerScalar kind owner key first number negative)).Answers stream scalar rest ↔
      ∃ number, number.kind = .number ∧ IsInteger kind number.text negative scalar ∧
        stream.Passes [number] rest := by
  simp only [answers_bind_iff, answers_expect_iff .number (by simp),
    answers_ofExcept_iff, integerScalar_eq_ok_iff]
  constructor
  · intro chain
    obtain ⟨number, middle, ⟨isNumber, passes⟩, writes, rfl⟩ := chain
    exact ⟨number, isNumber, writes, passes⟩
  · intro derivation
    obtain ⟨number, isNumber, writes, passes⟩ := derivation
    exact ⟨number, rest, ⟨isNumber, passes⟩, writes, rfl⟩

/-- Which literals begin with a token, by the kind of the token. -/
theorem isLiteral_passes_iff {kind : Scalar.Kind} {stream rest : TokenStream} {scalar : Scalar} :
    (∃ consumed, IsLiteral kind consumed scalar ∧ stream.Passes consumed rest) ↔
      (kind = .bool ∧ stream.current.kind = .keyword .trueWord ∧ scalar = .ofBool true ∧
        rest = stream.advance) ∨
      (kind = .bool ∧ stream.current.kind = .keyword .falseWord ∧ scalar = .ofBool false ∧
        rest = stream.advance) ∨
      (stream.current.kind = .number ∧ IsInteger kind stream.current.text false scalar ∧
        rest = stream.advance) ∨
      (stream.current.kind = .mark .minus ∧ ∃ number, number.kind = .number ∧
        IsInteger kind number.text true scalar ∧ stream.advance.Passes [number] rest) := by
  constructor
  · intro derivation
    obtain ⟨consumed, written, passes⟩ := derivation
    have advanced {token : Token} {middle : TokenStream} (front : stream.Passes [token] middle) :
        middle = stream.advance := front.advance.symm
    cases written with
    | truth isTrue => exact .inl ⟨rfl, by rw [passes.current, isTrue], rfl, advanced passes⟩
    | falsehood isFalse =>
        exact .inr (.inl ⟨rfl, by rw [passes.current, isFalse], rfl, advanced passes⟩)
    | unsigned isNumber writes =>
        refine .inr (.inr (.inl ⟨?_, ?_, advanced passes⟩))
        · rw [passes.current, isNumber]
        · rw [passes.current]
          exact writes
    | negative isMinus isNumber writes =>
        obtain ⟨middle, sign, behind⟩ := passes_cons_iff.mp passes
        rw [advanced sign] at behind
        exact .inr (.inr (.inr ⟨by rw [passes.current, isMinus], _, isNumber, writes, behind⟩))
  · intro cases
    rcases cases with ⟨rfl, isTrue, rfl, rfl⟩ | ⟨rfl, isFalse, rfl, rfl⟩ | ⟨isNumber, writes, rfl⟩ |
      ⟨isMinus, number, isNumber, writes, behind⟩
    · exact ⟨_, .truth isTrue, passes_front isTrue (by simp)⟩
    · exact ⟨_, .falsehood isFalse, passes_front isFalse (by simp)⟩
    · exact ⟨_, .unsigned isNumber writes, passes_front isNumber (by simp)⟩
    · exact ⟨_, .negative isMinus isNumber writes,
        passes_cons_iff.mpr ⟨_, passes_front isMinus (by simp), behind⟩⟩

/-- Literals are read as the grammar says, whatever messages would say about them. -/
theorem reads_literal (kind : Scalar.Kind) (owner key : String) :
    Reads (literal kind owner key) (IsLiteral kind) := by
  intro stream scalar rest
  rw [isLiteral_passes_iff]
  unfold literal
  simp only [answers_current_bind_iff, answers_isAt_bind_iff, List.mem_cons, List.not_mem_nil,
    or_false]
  cases here : stream.current.kind with
  | keyword word =>
      by_cases isBool : kind = .bool <;> cases word <;>
        simp [answers_isAt_bind_iff, answers_advance_bind_iff, answers_pure_iff, not_answers_fail,
          here, isBool]
  | mark symbol =>
      cases symbol with
      | minus =>
          by_cases isBool : kind = .bool
          · simp [answers_isAt_bind_iff, not_answers_fail, here, isBool, not_isInteger_bool]
          · simp [answers_isAt_bind_iff, answers_advance_bind_iff, answers_number_iff, here,
              isBool]
      | _ => simp [answers_isAt_bind_iff, here, not_answers_fail]
  | number =>
      by_cases isBool : kind = .bool
      · simp [answers_isAt_bind_iff, not_answers_fail, here, isBool, not_isInteger_bool]
      · have unsigned : (∃ number, number.kind = .number ∧
            IsInteger kind number.text false scalar ∧ stream.Passes [number] rest) ↔
            IsInteger kind stream.current.text false scalar ∧ rest = stream.advance := by
          constructor
          · intro derivation
            obtain ⟨number, isNumber, writes, passes⟩ := derivation
            rw [passes.current]
            exact ⟨writes, passes.advance.symm⟩
          · intro parts
            obtain ⟨writes, rfl⟩ := parts
            exact ⟨_, here, writes, passes_front here (by simp)⟩
        simp [answers_isAt_bind_iff, answers_number_iff, here, isBool, unsigned]
  | identifier => simp [answers_isAt_bind_iff, here, not_answers_fail]
  | string => simp [answers_isAt_bind_iff, here, not_answers_fail]
  | endOfInput => simp [answers_isAt_bind_iff, here, not_answers_fail]

/-! ## Items of lists -/

theorem reads_enumCase (file : String) (kind : Scalar.Kind) (owner : String) :
    Reads (enumCase file kind owner) (IsEnumCase file kind) := by
  intro stream case rest
  unfold enumCase
  simp only [answers_bind_iff, answers_expectName_iff, answers_pure_iff,
    answers_expect_iff (.mark .equals) (by simp), reads_literal kind _ _ _ _ _]
  constructor
  · intro chain
    obtain ⟨name, _, ⟨isName, first⟩, equals, _, ⟨isEquals, second⟩, value, _,
      ⟨tokens, isValue, third⟩, rfl, rfl⟩ := chain
    exact ⟨_, .intro isName isEquals isValue,
      passes_cons_iff.mpr ⟨_, first, passes_cons_iff.mpr ⟨_, second, third⟩⟩⟩
  · intro derivation
    obtain ⟨_, ⟨isName, isEquals, isValue⟩, passes⟩ := derivation
    obtain ⟨_, first, behind⟩ := passes_cons_iff.mp passes
    obtain ⟨_, second, third⟩ := passes_cons_iff.mp behind
    exact ⟨_, _, ⟨isName, first⟩, _, _, ⟨isEquals, second⟩, _, _, ⟨_, isValue, third⟩, rfl, rfl⟩

theorem reads_definition (file owner : String) :
    Reads (definition file owner) (IsDefinition file) := by
  intro stream definition rest
  unfold Parser.definition
  simp only [answers_bind_iff, answers_expectName_iff, answers_pure_iff, answers_scalarKind_iff,
    answers_expect_iff (.mark .equals) (by simp),
    answers_expect_iff (.mark .colon) (by simp), reads_literal _ _ _ _ _ _]
  constructor
  · intro chain
    obtain ⟨key, _, ⟨isKey, first⟩, colon, _, ⟨isColon, second⟩, kind, _,
      ⟨kindName, isKind, third⟩, equals, _, ⟨isEquals, fourth⟩, value, _,
      ⟨tokens, isValue, fifth⟩, rfl, rfl⟩ := chain
    refine ⟨_, .intro isKey isColon isKind isEquals isValue, ?_⟩
    exact passes_cons_iff.mpr ⟨_, first, passes_cons_iff.mpr ⟨_, second,
      passes_cons_iff.mpr ⟨_, third, passes_cons_iff.mpr ⟨_, fourth, fifth⟩⟩⟩⟩
  · intro derivation
    obtain ⟨_, ⟨isKey, isColon, isKind, isEquals, isValue⟩, passes⟩ := derivation
    obtain ⟨_, first, behind⟩ := passes_cons_iff.mp passes
    obtain ⟨_, second, behind⟩ := passes_cons_iff.mp behind
    obtain ⟨_, third, behind⟩ := passes_cons_iff.mp behind
    obtain ⟨_, fourth, fifth⟩ := passes_cons_iff.mp behind
    exact ⟨_, _, ⟨isKey, first⟩, _, _, ⟨isColon, second⟩, _, _, ⟨_, isKind, third⟩, _, _,
      ⟨isEquals, fourth⟩, _, _, ⟨_, isValue, fifth⟩, rfl, rfl⟩

theorem reads_reference : Reads (return (← expectName "value enum name").text) IsReference := by
  intro stream reference rest
  simp only [answers_bind_iff, answers_expectName_iff, answers_pure_iff]
  constructor
  · intro chain
    obtain ⟨name, _, ⟨isName, passes⟩, rfl, rfl⟩ := chain
    exact ⟨_, .intro isName, passes⟩
  · intro derivation
    obtain ⟨_, ⟨isName⟩, passes⟩ := derivation
    exact ⟨_, _, ⟨isName, passes⟩, rfl, rfl⟩

/-! ## Optional parts -/

/-- In front of a token that its language does not begin with, the parser answers exactly with the
trees of the language. -/
def ReadsBefore {α : Type} (ahead : Token.Kind → Prop) (parser : Parser α)
    (language : List Token → α → Prop) : Prop :=
  ∀ stream value rest, ahead rest.current.kind →
    (parser.Answers stream value rest ↔
      ∃ consumed, language consumed value ∧ stream.Passes consumed rest)

theorem readsBefore_enumAlias : ReadsBefore (· = .mark .colon) enumAlias IsAlias := by
  intro stream alias? rest ahead
  unfold enumAlias
  rw [answers_isAt_bind_iff]
  by_cases here : stream.current.kind = .keyword .asWord
  · rw [if_pos (by simp [here])]
    rw [answers_advance_bind_iff]
    simp only [answers_bind_iff, answers_expectName_iff, answers_pure_iff]
    constructor
    · intro chain
      obtain ⟨name, _, ⟨isName, passes⟩, rfl, rfl⟩ := chain
      exact ⟨_, .present here isName,
        passes_cons_iff.mpr ⟨_, passes_front here (by simp), passes⟩⟩
    · intro derivation
      obtain ⟨_, written, passes⟩ := derivation
      cases written with
      | absent =>
          rw [passes_nil_iff.mp passes, here] at ahead
          cases ahead
      | present isAs isName =>
          obtain ⟨_, word, behind⟩ := passes_cons_iff.mp passes
          rw [← word.advance] at behind
          exact ⟨_, _, ⟨isName, behind⟩, rfl, rfl⟩
  · rw [if_neg (by simp [here]), answers_pure_iff]
    constructor
    · intro same
      obtain ⟨rfl, rfl⟩ := same
      exact ⟨[], .absent, passes_nil_iff.mpr rfl⟩
    · intro derivation
      obtain ⟨_, written, passes⟩ := derivation
      cases written with
      | absent => exact ⟨rfl, passes_nil_iff.mp passes⟩
      | present isAs isName =>
          rw [passes.current] at here
          exact absurd isAs here

/-- Which marks of visibility stand at the front of a stream, by its first two tokens. -/
theorem isVisibility_passes_iff {stream rest : TokenStream} {isPublic : Bool} :
    (∃ consumed, IsVisibility consumed isPublic ∧ stream.Passes consumed rest) ↔
      (isPublic = false ∧ rest = stream) ∨
      (stream.current.kind = .keyword .pubWord ∧ isPublic = true ∧ rest = stream.advance) ∨
      (stream.current.kind = .keyword .pubWord ∧
        stream.advance.current.kind = .mark .leftParen ∧ isPublic = true ∧
        ∃ scope right, scope.kind = .identifier ∧ right.kind = .mark .rightParen ∧
          stream.advance.advance.Passes [scope, right] rest) := by
  constructor
  · intro derivation
    obtain ⟨_, written, passes⟩ := derivation
    cases written with
    | hidden => exact .inl ⟨rfl, passes_nil_iff.mp passes⟩
    | visible isPub =>
        exact .inr (.inl ⟨by rw [passes.current, isPub], rfl, passes.advance.symm⟩)
    | limited isPub isLeft isScope isRight =>
        obtain ⟨_, first, behind⟩ := passes_cons_iff.mp passes
        obtain ⟨_, second, closes⟩ := passes_cons_iff.mp behind
        rw [← second.advance, ← first.advance] at closes
        refine .inr (.inr ⟨by rw [passes.current, isPub], ?_, rfl, _, _, isScope, isRight, closes⟩)
        rw [first.advance, behind.current, isLeft]
  · intro cases
    rcases cases with ⟨rfl, rfl⟩ | ⟨isPub, rfl, rfl⟩ | ⟨isPub, isLeft, rfl, scope, right,
      isScope, isRight, behind⟩
    · exact ⟨_, .hidden, passes_nil_iff.mpr rfl⟩
    · exact ⟨_, .visible isPub, passes_front isPub (by simp)⟩
    · refine ⟨_, .limited isPub isLeft isScope isRight, ?_⟩
      exact passes_cons_iff.mpr ⟨_, passes_front isPub (by simp),
        passes_cons_iff.mpr ⟨_, passes_front isLeft (by simp), behind⟩⟩

theorem readsBefore_visibility :
    ReadsBefore (fun kind => kind = .keyword .valueEnumWord ∨ kind = .keyword .variantsWord)
      visibility IsVisibility := by
  intro stream isPublic rest ahead
  rw [isVisibility_passes_iff]
  unfold visibility
  rw [answers_isAt_bind_iff]
  by_cases here : stream.current.kind = .keyword .pubWord
  · rw [if_pos (by simp [here]), answers_advance_bind_iff, answers_isAt_bind_iff]
    have moved : rest ≠ stream := by
      intro same
      rw [same] at ahead
      simp [here] at ahead
    by_cases scope : stream.advance.current.kind = .mark .leftParen
    · rw [if_pos (by simp [scope]), answers_advance_bind_iff]
      have movedOn : rest ≠ stream.advance := by
        intro same
        rw [same] at ahead
        simp [scope] at ahead
      simp only [answers_bind_iff, answers_expectName_iff, answers_pure_iff,
        answers_expect_iff (.mark .rightParen) (by simp), here, scope, moved, movedOn, and_false,
        false_or, true_and]
      constructor
      · intro chain
        obtain ⟨name, _, ⟨isName, third⟩, right, _, ⟨isRight, fourth⟩, rfl, rfl⟩ := chain
        exact ⟨rfl, name, right, isName, isRight, passes_cons_iff.mpr ⟨_, third, fourth⟩⟩
      · intro parts
        obtain ⟨rfl, name, right, isName, isRight, passes⟩ := parts
        obtain ⟨_, third, fourth⟩ := passes_cons_iff.mp passes
        exact ⟨name, _, ⟨isName, third⟩, right, _, ⟨isRight, fourth⟩, rfl, rfl⟩
    · rw [if_neg (by simp [scope]), answers_pure_iff]
      simp only [here, scope, moved, and_false, false_or, true_and, false_and, or_false]
  · rw [if_neg (by simp [here]), answers_pure_iff]
    simp only [here, false_and, or_false]

/-! ## Lists of items -/

theorem beginsWith_of_identifier {tokens : List Token} {close : Token.Kind}
    (begins : BeginsWith (· = .identifier) tokens) (apart : close ≠ .identifier) :
    BeginsWith (fun kind => kind ≠ close ∧ kind ≠ .endOfInput) tokens := by
  obtain ⟨token, others, same, named⟩ := begins
  refine ⟨token, others, same, ?_, ?_⟩
  · rw [named]
    exact apart.symm
  · simp [named]

theorem beginsWith_of_isEnumCase {file : String} {kind : Scalar.Kind} {tokens : List Token}
    {case : ValueEnum.Case} (written : IsEnumCase file kind tokens case) :
    BeginsWith (· = .identifier) tokens := by
  cases written with
  | intro isName isEquals isValue => exact ⟨_, _, rfl, isName⟩

theorem beginsWith_of_isDefinition {file : String} {tokens : List Token}
    {definition : Definition} (written : IsDefinition file tokens definition) :
    BeginsWith (· = .identifier) tokens := by
  cases written with
  | intro isKey isColon isKind isEquals isValue => exact ⟨_, _, rfl, isKey⟩

theorem beginsWith_of_isReference {tokens : List Token} {reference : String}
    (written : IsReference tokens reference) : BeginsWith (· = .identifier) tokens := by
  cases written with
  | intro isName => exact ⟨_, _, rfl, isName⟩

theorem beginsWith_of_isVariant {file : String} {tokens : List Token} {variant : Variant}
    (written : IsVariant file tokens variant) : BeginsWith (· = .identifier) tokens := by
  cases written with
  | hardcoded isName isLeft areDefinitions isRight => exact ⟨_, _, rfl, isName⟩
  | crossProduct isName isLeft areReferences isRight => exact ⟨_, _, rfl, isName⟩

theorem answers_enumCases_iff {file owner : String} {kind : Scalar.Kind}
    {stream rest : TokenStream} {cases : List ValueEnum.Case} :
    (commaList (.mark .rightBrace) (enumCase file kind owner)).Answers stream cases rest ↔
      ∃ tokens last, CommaList (IsEnumCase file kind) tokens cases ∧
        last.kind = .mark .rightBrace ∧ stream.Passes (tokens ++ [last]) rest :=
  answers_commaList_iff (reads_enumCase file kind owner)
    (fun _ _ written => beginsWith_of_identifier (beginsWith_of_isEnumCase written) (by simp))
    (by simp) (by simp)

theorem answers_definitions_iff {file owner : String} {stream rest : TokenStream}
    {definitions : List Definition} :
    (commaList (.mark .rightBrace) (definition file owner)).Answers stream definitions rest ↔
      ∃ tokens last, CommaList (IsDefinition file) tokens definitions ∧
        last.kind = .mark .rightBrace ∧ stream.Passes (tokens ++ [last]) rest :=
  answers_commaList_iff (reads_definition file owner)
    (fun _ _ written => beginsWith_of_identifier (beginsWith_of_isDefinition written) (by simp))
    (by simp) (by simp)

theorem answers_references_iff {stream rest : TokenStream} {references : List String} :
    (commaList (.mark .rightParen) (return (← expectName "value enum name").text)).Answers stream
        references rest ↔
      ∃ tokens last, CommaList IsReference tokens references ∧
        last.kind = .mark .rightParen ∧ stream.Passes (tokens ++ [last]) rest :=
  answers_commaList_iff reads_reference
    (fun _ _ written => beginsWith_of_identifier (beginsWith_of_isReference written) (by simp))
    (by simp) (by simp)

/-! ## Value enums and variants -/

theorem reads_valueEnum (file : String) (isPublic : Bool) :
    Reads (valueEnum file isPublic) (IsValueEnum file isPublic) := by
  intro stream valueEnum rest
  unfold Parser.valueEnum
  simp only [answers_bind_iff, answers_expectName_iff, answers_pure_iff, answers_scalarKind_iff,
    answers_expect_iff (.keyword .valueEnumWord) (by simp),
    answers_expect_iff (.mark .colon) (by simp),
    answers_expect_iff (.mark .leftBrace) (by simp), answers_enumCases_iff]
  constructor
  · intro chain
    obtain ⟨keyword, _, ⟨isKeyword, first⟩, name, _, ⟨isName, second⟩, alias?, _, answered,
      colon, _, ⟨isColon, fourth⟩, kind, _, ⟨kindName, isKind, fifth⟩, left, _,
      ⟨isLeft, sixth⟩, cases, _, ⟨caseTokens, right, areCases, isRight, seventh⟩, rfl, rfl⟩ := chain
    obtain ⟨aliasTokens, isAlias, third⟩ :=
      (readsBefore_enumAlias _ _ _ (by rw [fourth.current, isColon])).mp answered
    refine ⟨_, .intro isKeyword isName isAlias isColon isKind isLeft areCases isRight, ?_⟩
    refine passes_cons_iff.mpr ⟨_, first, passes_cons_iff.mpr ⟨_, second, ?_⟩⟩
    refine passes_append_iff.mpr ⟨_, third, passes_cons_iff.mpr ⟨_, fourth, ?_⟩⟩
    exact passes_cons_iff.mpr ⟨_, fifth, passes_cons_iff.mpr ⟨_, sixth, seventh⟩⟩
  · intro derivation
    obtain ⟨_, ⟨isKeyword, isName, isAlias, isColon, isKind, isLeft, areCases, isRight⟩,
      passes⟩ := derivation
    obtain ⟨_, first, behind⟩ := passes_cons_iff.mp passes
    obtain ⟨_, second, behind⟩ := passes_cons_iff.mp behind
    obtain ⟨_, third, behind⟩ := passes_append_iff.mp behind
    obtain ⟨_, fourth, behind⟩ := passes_cons_iff.mp behind
    obtain ⟨_, fifth, behind⟩ := passes_cons_iff.mp behind
    obtain ⟨_, sixth, seventh⟩ := passes_cons_iff.mp behind
    have answered := (readsBefore_enumAlias _ _ _ (by rw [fourth.current, isColon])).mpr
      ⟨_, isAlias, third⟩
    exact ⟨_, _, ⟨isKeyword, first⟩, _, _, ⟨isName, second⟩, _, _, answered, _, _,
      ⟨isColon, fourth⟩, _, _, ⟨_, isKind, fifth⟩, _, _, ⟨isLeft, sixth⟩, _, _,
      ⟨_, _, areCases, isRight, seventh⟩, rfl, rfl⟩

theorem reads_variant (file declaration : String) :
    Reads (variant file declaration) (IsVariant file) := by
  intro stream variant rest
  unfold Parser.variant
  rw [answers_bind_iff]
  simp only [answers_expectName_iff, answers_current_bind_iff]
  constructor
  · intro chain
    obtain ⟨name, middle, ⟨isName, first⟩, answered⟩ := chain
    by_cases brace : middle.current.kind = .mark .leftBrace
    · rw [if_pos brace, answers_advance_bind_iff] at answered
      simp only [answers_bind_iff, answers_pure_iff, answers_definitions_iff] at answered
      obtain ⟨definitions, _, ⟨tokens, right, areDefinitions, isRight, third⟩, rfl, rfl⟩ := answered
      refine ⟨_, .hardcoded isName brace areDefinitions isRight, ?_⟩
      exact passes_cons_iff.mpr ⟨_, first, passes_cons_iff.mpr
        ⟨_, passes_front brace (by simp), third⟩⟩
    · rw [if_neg brace] at answered
      by_cases paren : middle.current.kind = .mark .leftParen
      · rw [if_pos paren, answers_advance_bind_iff] at answered
        rw [answers_bind_iff] at answered
        simp only [answers_pure_iff, answers_references_iff] at answered
        obtain ⟨references, _, ⟨tokens, right, areReferences, isRight, third⟩, rfl, rfl⟩ := answered
        refine ⟨_, .crossProduct isName paren areReferences isRight, ?_⟩
        exact passes_cons_iff.mpr ⟨_, first, passes_cons_iff.mpr
          ⟨_, passes_front paren (by simp), third⟩⟩
      · rw [if_neg paren] at answered
        exact absurd answered not_answers_fail
  · intro derivation
    obtain ⟨_, written, passes⟩ := derivation
    cases written with
    | hardcoded isName isLeft areDefinitions isRight =>
        obtain ⟨_, first, behind⟩ := passes_cons_iff.mp passes
        obtain ⟨_, second, third⟩ := passes_cons_iff.mp behind
        rw [← second.advance] at third
        refine ⟨_, _, ⟨isName, first⟩, ?_⟩
        rw [if_pos (by rw [second.current, isLeft]), answers_advance_bind_iff]
        simp only [answers_bind_iff, answers_pure_iff, answers_definitions_iff]
        exact ⟨_, _, ⟨_, _, areDefinitions, isRight, third⟩, rfl, rfl⟩
    | crossProduct isName isLeft areReferences isRight =>
        obtain ⟨_, first, behind⟩ := passes_cons_iff.mp passes
        obtain ⟨_, second, third⟩ := passes_cons_iff.mp behind
        rw [← second.advance] at third
        refine ⟨_, _, ⟨isName, first⟩, ?_⟩
        rw [if_neg (by rw [second.current, isLeft]; simp),
          if_pos (by rw [second.current, isLeft]), answers_advance_bind_iff, answers_bind_iff]
        simp only [answers_pure_iff, answers_references_iff]
        exact ⟨_, _, ⟨_, _, areReferences, isRight, third⟩, rfl, rfl⟩

/-! ## Variants declarations -/

/-- The entries after one more variant, unless it is a second shared one or a shared cross
product. -/
def Entries.add? (entries : Entries) (variant : Variant) : Option Entries :=
  if variant.name ≠ sharedName then
    some { entries with variants := variant :: entries.variants }
  else
    match variant.body, entries.shared with
    | .hardcoded definitions, none => some { entries with shared := some definitions }
    | _, _ => none

theorem readsItems_entry (file declaration : String) :
    ReadsItems (entry file declaration) (IsVariant file) Entries.add? := by
  intro entries stream entries' rest
  have regrouped :
      (∃ consumed variant, IsVariant file consumed variant ∧
        entries.add? variant = some entries' ∧ stream.Passes consumed rest) ↔
      ∃ variant middle, (Parser.variant file declaration).Answers stream variant middle ∧
        entries.add? variant = some entries' ∧ rest = middle := by
    constructor
    · intro derivation
      obtain ⟨consumed, variant, written, next, passes⟩ := derivation
      exact ⟨variant, rest, (reads_variant _ _ _ _ _).mpr ⟨consumed, written, passes⟩, next, rfl⟩
    · intro chain
      obtain ⟨variant, _, answered, next, rfl⟩ := chain
      obtain ⟨consumed, written, passes⟩ := (reads_variant _ _ _ _ _).mp answered
      exact ⟨consumed, variant, written, next, passes⟩
  unfold entry
  rw [answers_current_bind_iff, answers_bind_iff, regrouped]
  refine exists_congr fun variant => exists_congr fun middle => and_congr_right fun _ => ?_
  unfold Entries.add?
  by_cases named : variant.name ≠ sharedName
  · rw [if_pos named, if_pos named, answers_pure_iff, Option.some.injEq, eq_comm]
  · rw [if_neg named, if_neg named]
    cases variant.body with
    | crossProduct references => simp [not_answers_fail]
    | hardcoded definitions =>
        cases entries.shared with
        | some block => simp [not_answers_fail]
        | none =>
            simp only [answers_pure_iff, Option.some.injEq]
            rw [eq_comm]

/-- Variants that are added one after the other to entries with a shared block or without. -/
theorem foldlM_add?_eq_some_iff {written : List Variant} {entries entries' : Entries} :
    written.foldlM Entries.add? entries = some entries' ↔
      (entries'.variants = (written.filter (·.name ≠ sharedName)).reverse ++ entries.variants) ∧
      (entries.shared.map Variant.Body.hardcoded).toList ++
          (written.filter (·.name = sharedName)).map Variant.body =
        (entries'.shared.map Variant.Body.hardcoded).toList := by
  induction written generalizing entries with
  | nil =>
      obtain ⟨shared, variants⟩ := entries
      obtain ⟨shared', variants'⟩ := entries'
      cases shared <;> cases shared' <;> simp [eq_comm, and_comm]
  | cons variant written ih =>
      rw [List.foldlM_cons, Option.bind_eq_bind]
      by_cases named : variant.name = sharedName
      · cases body : variant.body with
        | crossProduct references =>
            have refused : entries.add? variant = none := by simp [Entries.add?, named, body]
            cases entries.shared <;> cases entries'.shared <;> simp [refused, named, body]
        | hardcoded definitions =>
            cases shared : entries.shared with
            | some block =>
                have refused : entries.add? variant = none := by
                  simp [Entries.add?, named, body, shared]
                cases entries'.shared <;> simp [refused, named]
            | none =>
                have added : entries.add? variant =
                    some { entries with shared := some definitions } := by
                  simp [Entries.add?, named, body, shared]
                rw [added, Option.bind_some, ih]
                simp [named, body]
      · have added : entries.add? variant =
            some { entries with variants := variant :: entries.variants } := by
          simp [Entries.add?, named]
        rw [added, Option.bind_some, ih]
        simp [named]

theorem answers_entries_iff {file declaration : String} {stream rest : TokenStream}
    {entries : Entries} :
    (commaFold (.mark .rightBrace) (entry file declaration) ⟨none, []⟩).Answers stream entries
        rest ↔
      ∃ tokens written last, CommaList (IsVariant file) tokens written ∧
        last.kind = .mark .rightBrace ∧
        Separates written entries.shared entries.variants.reverse ∧
        stream.Passes (tokens ++ [last]) rest := by
  rw [answers_commaFold_iff (readsItems_entry file declaration)
    (fun _ _ written => beginsWith_of_identifier (beginsWith_of_isVariant written) (by simp))
    (by simp) (by simp)]
  have separates (written : List Variant) :
      written.foldlM Entries.add? ⟨none, []⟩ = some entries ↔
        Separates written entries.shared entries.variants.reverse := by
    rw [foldlM_add?_eq_some_iff]
    constructor
    · intro parts
      obtain ⟨others, sharedOnes⟩ := parts
      exact ⟨by simpa using sharedOnes, by rw [others, List.append_nil, List.reverse_reverse]⟩
    · intro parts
      obtain ⟨sharedOnes, others⟩ := parts
      exact ⟨by rw [others, List.append_nil, List.reverse_reverse], by simpa using sharedOnes⟩
  simp only [ListLeads, separates]

theorem reads_variants (file : String) (isPublic : Bool) :
    Reads (variants file isPublic) (IsVariants file isPublic) := by
  intro stream declaration rest
  unfold Parser.variants
  simp only [answers_bind_iff, answers_expectName_iff, answers_pure_iff,
    answers_expect_iff (.keyword .variantsWord) (by simp),
    answers_expect_iff (.keyword .fromWord) (by simp),
    answers_expect_iff .string (by simp),
    answers_expect_iff (.mark .leftBrace) (by simp),
    answers_entries_iff]
  constructor
  · intro chain
    obtain ⟨keyword, _, ⟨isKeyword, first⟩, name, _, ⟨isName, second⟩, word, _,
      ⟨isFrom, third⟩, template, _, ⟨isTemplate, fourth⟩, left, _, ⟨isLeft, fifth⟩, entries, _,
      ⟨tokens, written, right, areVariants, isRight, separates, sixth⟩, rfl, rfl⟩ := chain
    refine ⟨_, .intro isKeyword isName isFrom isTemplate isLeft areVariants isRight separates, ?_⟩
    refine passes_cons_iff.mpr ⟨_, first, passes_cons_iff.mpr ⟨_, second, ?_⟩⟩
    refine passes_cons_iff.mpr ⟨_, third, passes_cons_iff.mpr ⟨_, fourth, ?_⟩⟩
    exact passes_cons_iff.mpr ⟨_, fifth, sixth⟩
  · intro derivation
    obtain ⟨_, @⟨keyword, name, word, template, left, right, tokens, written, others, shared,
      isKeyword, isName, isFrom, isTemplate, isLeft, areVariants, isRight, separates⟩,
      passes⟩ := derivation
    obtain ⟨_, first, behind⟩ := passes_cons_iff.mp passes
    obtain ⟨_, second, behind⟩ := passes_cons_iff.mp behind
    obtain ⟨_, third, behind⟩ := passes_cons_iff.mp behind
    obtain ⟨_, fourth, behind⟩ := passes_cons_iff.mp behind
    obtain ⟨_, fifth, sixth⟩ := passes_cons_iff.mp behind
    exact ⟨_, _, ⟨isKeyword, first⟩, _, _, ⟨isName, second⟩, _, _, ⟨isFrom, third⟩, _, _,
      ⟨isTemplate, fourth⟩, _, _, ⟨isLeft, fifth⟩, ⟨shared, others.reverse⟩, _,
      ⟨_, _, _, areVariants, isRight, by rwa [List.reverse_reverse], sixth⟩,
      by rw [List.reverse_reverse], rfl⟩

/-! ## Declarations -/

/-- The declarations with one more. -/
def Declarations.add (declarations : Declarations) :
    ValueEnum ⊕ VariantsDeclaration → Declarations
  | .inl valueEnum =>
    { declarations with valueEnums := valueEnum :: declarations.valueEnums }
  | .inr variants => { declarations with variants := variants :: declarations.variants }

theorem current_of_isValueEnum {file : String} {isPublic : Bool} {tokens : List Token}
    {valueEnum : ValueEnum} (written : IsValueEnum file isPublic tokens valueEnum)
    {stream rest : TokenStream} (passes : stream.Passes tokens rest) :
    stream.current.kind = .keyword .valueEnumWord := by
  cases written with
  | intro isKeyword isName isAlias isColon isKind isLeft areCases isRight =>
      rw [passes.current, isKeyword]

theorem current_of_isVariants {file : String} {isPublic : Bool} {tokens : List Token}
    {variants : VariantsDeclaration} (written : IsVariants file isPublic tokens variants)
    {stream rest : TokenStream} (passes : stream.Passes tokens rest) :
    stream.current.kind = .keyword .variantsWord := by
  cases written with
  | intro isKeyword isName isFrom isTemplate isLeft areVariants isRight separates =>
      rw [passes.current, isKeyword]

theorem readsItems_declaration (file : String) :
    ReadsItems (declaration file) (IsDeclaration file)
      (fun declarations written => some (declarations.add written)) := by
  intro declarations stream declarations' rest
  unfold declaration
  rw [answers_bind_iff]
  simp only [answers_current_bind_iff]
  constructor
  · intro chain
    obtain ⟨isPublic, middle, marked, answered⟩ := chain
    by_cases isEnum : middle.current.kind = .keyword .valueEnumWord
    · obtain ⟨mark, isMark, first⟩ := (readsBefore_visibility _ _ _ (.inl isEnum)).mp marked
      rw [if_pos isEnum, answers_bind_iff] at answered
      obtain ⟨valueEnum, _, read, added⟩ := answered
      obtain ⟨tokens, written, second⟩ := (reads_valueEnum _ _ _ _ _).mp read
      obtain ⟨rfl, rfl⟩ := answers_pure_iff.mp added
      exact ⟨_, _, .valueEnum isMark written, rfl, passes_append_iff.mpr ⟨_, first, second⟩⟩
    · rw [if_neg isEnum] at answered
      by_cases areVariants : middle.current.kind = .keyword .variantsWord
      · obtain ⟨mark, isMark, first⟩ :=
          (readsBefore_visibility _ _ _ (.inr areVariants)).mp marked
        rw [if_pos areVariants, answers_bind_iff] at answered
        obtain ⟨variants, _, read, added⟩ := answered
        obtain ⟨tokens, written, second⟩ := (reads_variants _ _ _ _ _).mp read
        obtain ⟨rfl, rfl⟩ := answers_pure_iff.mp added
        exact ⟨_, _, .variants isMark written, rfl, passes_append_iff.mpr ⟨_, first, second⟩⟩
      · rw [if_neg areVariants] at answered
        exact absurd answered not_answers_fail
  · intro derivation
    obtain ⟨_, _, written, same, passes⟩ := derivation
    cases same
    cases written with
    | valueEnum isMark written =>
        obtain ⟨middle, first, second⟩ := passes_append_iff.mp passes
        have isEnum := current_of_isValueEnum written second
        refine ⟨_, middle, (readsBefore_visibility _ _ _ (.inl isEnum)).mpr
          ⟨_, isMark, first⟩, ?_⟩
        rw [if_pos isEnum, answers_bind_iff]
        exact ⟨_, _, (reads_valueEnum _ _ _ _ _).mpr ⟨_, written, second⟩,
          answers_pure_iff.mpr ⟨rfl, rfl⟩⟩
    | variants isMark written =>
        obtain ⟨middle, first, second⟩ := passes_append_iff.mp passes
        have areVariants := current_of_isVariants written second
        refine ⟨_, middle, (readsBefore_visibility _ _ _ (.inr areVariants)).mpr
          ⟨_, isMark, first⟩, ?_⟩
        rw [if_neg (by rw [areVariants]; simp), if_pos areVariants, answers_bind_iff]
        exact ⟨_, _, (reads_variants _ _ _ _ _).mpr ⟨_, written, second⟩,
          answers_pure_iff.mpr ⟨rfl, rfl⟩⟩

theorem foldlM_add_eq_some_iff {written : List (ValueEnum ⊕ VariantsDeclaration)}
    {declarations declarations' : Declarations} :
    written.foldlM (fun declarations next => some (Declarations.add declarations next))
        declarations = some declarations' ↔
      declarations'.valueEnums =
          (written.filterMap Sum.getLeft?).reverse ++ declarations.valueEnums ∧
        declarations'.variants =
          (written.filterMap Sum.getRight?).reverse ++ declarations.variants := by
  induction written generalizing declarations with
  | nil =>
      obtain ⟨valueEnums, variants⟩ := declarations
      obtain ⟨valueEnums', variants'⟩ := declarations'
      simp [eq_comm]
  | cons next written ih =>
      rw [List.foldlM_cons, Option.bind_eq_bind, Option.bind_some, ih]
      cases next <;> simp [Declarations.add, List.filterMap_cons]

theorem beginsWith_of_isDeclaration {file : String} {tokens : List Token}
    {written : ValueEnum ⊕ VariantsDeclaration}
    (isDeclaration : IsDeclaration file tokens written) :
    BeginsWith (· ≠ .endOfInput) tokens := by
  have marked {mark others : List Token} {isPublic : Bool} (isMark : IsVisibility mark isPublic)
      (begins : BeginsWith (· ≠ .endOfInput) others) :
      BeginsWith (· ≠ .endOfInput) (mark ++ others) := by
    cases isMark with
    | hidden => exact begins
    | visible isPub => exact ⟨_, _, rfl, by simp [isPub]⟩
    | limited isPub isLeft isScope isRight => exact ⟨_, _, rfl, by simp [isPub]⟩
  cases isDeclaration with
  | valueEnum isMark isEnum =>
      refine marked isMark ?_
      cases isEnum with
      | intro isKeyword => exact ⟨_, _, rfl, by simp [isKeyword]⟩
  | variants isMark areVariants =>
      refine marked isMark ?_
      cases areVariants with
      | intro isKeyword => exact ⟨_, _, rfl, by simp [isKeyword]⟩

/-- A module is read exactly when its declarations are all that stands before the end. -/
theorem answers_module_iff {file : String} {stream rest : TokenStream} {module : Module} :
    (Parser.module file).Answers stream module rest ↔
      ∃ tokens, IsModule file tokens module ∧ stream.Passes tokens rest ∧
        rest.current.kind = .endOfInput := by
  unfold Parser.module
  simp only [answers_bind_iff, answers_pure_iff, SequenceLeads, foldlM_add_eq_some_iff,
    answers_untilEnd_iff (readsItems_declaration file)
      (fun _ _ written => beginsWith_of_isDeclaration written)]
  constructor
  · intro chain
    obtain ⟨declarations, _, ⟨tokens, written, sequence, ⟨enums, variants⟩, passes, ending⟩,
      rfl, rfl⟩ := chain
    refine ⟨tokens, ?_, passes, ending⟩
    rw [enums, variants, List.append_nil, List.append_nil, List.reverse_reverse,
      List.reverse_reverse]
    exact .intro sequence
  · intro derivation
    obtain ⟨tokens, ⟨sequence⟩, passes, ending⟩ := derivation
    exact ⟨⟨_, _⟩, _, ⟨_, _, sequence, ⟨rfl, rfl⟩, passes, ending⟩, by simp, rfl⟩

end ShaderVariants.Parser
