import ShaderVariants.Module.Parser

/-!
# The grammar of declarations

Which lists of tokens write which parts of a module, said without streams and lookahead.  Every
construct is a relation between the tokens of the construct and its tree; a location is that of the
first token, or of the keyword behind the mark of visibility.  A name is an identifier token.
-/

namespace ShaderVariants.Grammar

/-- A mark of visibility, with or without a scope, and whether it is there. -/
inductive IsVisibility : List Token → Bool → Prop where
  | hidden : IsVisibility [] false
  | visible {word : Token} (isPub : word.kind = .keyword .pubWord) : IsVisibility [word] true
  | limited {word left scope right : Token} (isPub : word.kind = .keyword .pubWord)
      (isLeft : left.kind = .mark .leftParen) (isScope : scope.kind = .identifier)
      (isRight : right.kind = .mark .rightParen) :
      IsVisibility [word, left, scope, right] true

/-- An alias, if there is one. -/
inductive IsAlias : List Token → Option String → Prop where
  | absent : IsAlias [] none
  | present {word name : Token} (isAs : word.kind = .keyword .asWord)
      (isName : name.kind = .identifier) : IsAlias [word, name] (some name.text)

/-- The name of a scalar kind. -/
def IsKind (token : Token) (kind : Scalar.Kind) : Prop :=
  token.kind = .identifier ∧ token.text = kind.name

/-- The text of a number token, behind a sign or not, writes a scalar of a kind: it is a numeral
with digits, which are not too many, without a suffix or with that of the kind.  That the value is
in range is part of the scalar. -/
def IsInteger (kind : Scalar.Kind) (text : String) (negative : Bool) (scalar : Scalar) : Prop :=
  ∃ numeral, Numeral.parse? text = some numeral ∧
    (∀ suffix ∈ numeral.suffix, suffix = kind) ∧ numeral.digits ≠ [] ∧
    numeral.significantDigits ≤ Parser.digitLimit ∧ Parser.isUnconvertible numeral = false ∧
    scalar.kind = kind ∧
    scalar.literal = .integer (if negative then -(numeral.value : Int) else numeral.value)

/-- A literal of a kind. -/
inductive IsLiteral : Scalar.Kind → List Token → Scalar → Prop where
  | truth {word : Token} (isTrue : word.kind = .keyword .trueWord) :
      IsLiteral .bool [word] (.ofBool true)
  | falsehood {word : Token} (isFalse : word.kind = .keyword .falseWord) :
      IsLiteral .bool [word] (.ofBool false)
  | unsigned {kind : Scalar.Kind} {number : Token} {scalar : Scalar}
      (isNumber : number.kind = .number) (writes : IsInteger kind number.text false scalar) :
      IsLiteral kind [number] scalar
  | negative {kind : Scalar.Kind} {sign number : Token} {scalar : Scalar}
      (isMinus : sign.kind = .mark .minus) (isNumber : number.kind = .number)
      (writes : IsInteger kind number.text true scalar) :
      IsLiteral kind [sign, number] scalar

/-- Items that commas separate.  There may be none, and one more comma may stand behind the last
item. -/
inductive CommaList {α : Type} (item : List Token → α → Prop) : List Token → List α → Prop where
  | empty : CommaList item [] []
  | last {tokens : List Token} {value : α} (isItem : item tokens value) :
      CommaList item tokens [value]
  | more {tokens others : List Token} {comma : Token} {value : α} {values : List α}
      (isItem : item tokens value) (isComma : comma.kind = .mark .comma)
      (rest : CommaList item others values) :
      CommaList item (tokens ++ comma :: others) (value :: values)

/-- A case of a value enum. -/
inductive IsEnumCase (file : String) (kind : Scalar.Kind) :
    List Token → ValueEnum.Case → Prop where
  | intro {name equals : Token} {tokens : List Token} {value : Scalar}
      (isName : name.kind = .identifier) (isEquals : equals.kind = .mark .equals)
      (isValue : IsLiteral kind tokens value) :
      IsEnumCase file kind (name :: equals :: tokens)
        ⟨name.text, value, some (name.location file)⟩

/-- A value enum behind its mark of visibility. -/
inductive IsValueEnum (file : String) (isPublic : Bool) : List Token → ValueEnum → Prop where
  | intro {keyword name colon kindName left right : Token} {aliasTokens caseTokens : List Token}
      {alias? : Option String} {kind : Scalar.Kind} {cases : List ValueEnum.Case}
      (isKeyword : keyword.kind = .keyword .valueEnumWord) (isName : name.kind = .identifier)
      (isAlias : IsAlias aliasTokens alias?) (isColon : colon.kind = .mark .colon)
      (isKind : IsKind kindName kind) (isLeft : left.kind = .mark .leftBrace)
      (areCases : CommaList (IsEnumCase file kind) caseTokens cases)
      (isRight : right.kind = .mark .rightBrace) :
      IsValueEnum file isPublic
        (keyword :: name :: (aliasTokens ++ colon :: kindName :: left :: (caseTokens ++ [right])))
        ⟨name.text, alias?, kind, cases, isPublic, some (keyword.location file)⟩

/-- A definition of a hardcoded variant. -/
inductive IsDefinition (file : String) : List Token → Definition → Prop where
  | intro {key colon kindName equals : Token} {tokens : List Token} {kind : Scalar.Kind}
      {value : Scalar} (isKey : key.kind = .identifier) (isColon : colon.kind = .mark .colon)
      (isKind : IsKind kindName kind) (isEquals : equals.kind = .mark .equals)
      (isValue : IsLiteral kind tokens value) :
      IsDefinition file (key :: colon :: kindName :: equals :: tokens)
        ⟨key.text, value, some (key.location file)⟩

/-- A reference of a cross product. -/
inductive IsReference : List Token → String → Prop where
  | intro {name : Token} (isName : name.kind = .identifier) : IsReference [name] name.text

/-- A variant: definitions in braces or references in parentheses. -/
inductive IsVariant (file : String) : List Token → Variant → Prop where
  | hardcoded {name left right : Token} {tokens : List Token} {definitions : List Definition}
      (isName : name.kind = .identifier) (isLeft : left.kind = .mark .leftBrace)
      (areDefinitions : CommaList (IsDefinition file) tokens definitions)
      (isRight : right.kind = .mark .rightBrace) :
      IsVariant file (name :: left :: (tokens ++ [right]))
        ⟨name.text, .hardcoded definitions, some (name.location file)⟩
  | crossProduct {name left right : Token} {tokens : List Token} {references : List String}
      (isName : name.kind = .identifier) (isLeft : left.kind = .mark .leftParen)
      (areReferences : CommaList IsReference tokens references)
      (isRight : right.kind = .mark .rightParen) :
      IsVariant file (name :: left :: (tokens ++ [right]))
        ⟨name.text, .crossProduct references, some (name.location file)⟩

/-- What becomes of the variants that are written in a declaration: those named `shared` are none,
or one that writes the shared definitions out; the others stay in their order. -/
structure Separates (written : List Variant) (shared : Option (List Definition))
    (variants : List Variant) : Prop where
  sharedOnes : (written.filter (·.name = Parser.sharedName)).map Variant.body =
    (shared.map Variant.Body.hardcoded).toList
  others : written.filter (·.name ≠ Parser.sharedName) = variants

/-- A variants declaration behind its mark of visibility. -/
inductive IsVariants (file : String) (isPublic : Bool) :
    List Token → VariantsDeclaration → Prop where
  | intro {keyword name word template left right : Token} {tokens : List Token}
      {written variants : List Variant} {shared : Option (List Definition)}
      (isKeyword : keyword.kind = .keyword .variantsWord) (isName : name.kind = .identifier)
      (isFrom : word.kind = .keyword .fromWord) (isTemplate : template.kind = .string)
      (isLeft : left.kind = .mark .leftBrace)
      (areVariants : CommaList (IsVariant file) tokens written)
      (isRight : right.kind = .mark .rightBrace)
      (separates : Separates written shared variants) :
      IsVariants file isPublic
        (keyword :: name :: word :: template :: left :: (tokens ++ [right]))
        ⟨name.text, template.text, shared, variants, isPublic, some (keyword.location file)⟩

/-- A declaration of either kind. -/
inductive IsDeclaration (file : String) :
    List Token → ValueEnum ⊕ VariantsDeclaration → Prop where
  | valueEnum {mark tokens : List Token} {isPublic : Bool} {valueEnum : ValueEnum}
      (isMark : IsVisibility mark isPublic) (isEnum : IsValueEnum file isPublic tokens valueEnum) :
      IsDeclaration file (mark ++ tokens) (.inl valueEnum)
  | variants {mark tokens : List Token} {isPublic : Bool} {variants : VariantsDeclaration}
      (isMark : IsVisibility mark isPublic)
      (areVariants : IsVariants file isPublic tokens variants) :
      IsDeclaration file (mark ++ tokens) (.inr variants)

/-- Declarations one after the other. -/
inductive Sequence {α : Type} (item : List Token → α → Prop) : List Token → List α → Prop where
  | empty : Sequence item [] []
  | more {tokens others : List Token} {value : α} {values : List α}
      (isItem : item tokens value) (rest : Sequence item others values) :
      Sequence item (tokens ++ others) (value :: values)

/-- A module: the value enums and the variants declarations among its declarations. -/
inductive IsModule (file : String) : List Token → Module → Prop where
  | intro {tokens : List Token} {declarations : List (ValueEnum ⊕ VariantsDeclaration)}
      (areDeclarations : Sequence (IsDeclaration file) tokens declarations) :
      IsModule file tokens
        ⟨file, declarations.filterMap Sum.getLeft?, declarations.filterMap Sum.getRight?⟩

/-! ## Items -/

theorem CommaList.exists_of_mem {α : Type} {item : List Token → α → Prop} {tokens : List Token}
    {values : List α} (list : CommaList item tokens values) {value : α} (member : value ∈ values) :
    ∃ own, item own value := by
  induction list with
  | empty => cases member
  | last isItem =>
      obtain rfl := List.mem_singleton.mp member
      exact ⟨_, isItem⟩
  | more isItem isComma rest ih =>
      rcases List.mem_cons.mp member with rfl | later
      · exact ⟨_, isItem⟩
      · exact ih later

theorem Sequence.exists_of_mem {α : Type} {item : List Token → α → Prop} {tokens : List Token}
    {values : List α} (sequence : Sequence item tokens values) {value : α}
    (member : value ∈ values) : ∃ own, item own value := by
  induction sequence with
  | empty => cases member
  | more isItem rest ih =>
      rcases List.mem_cons.mp member with rfl | later
      · exact ⟨_, isItem⟩
      · exact ih later

/-! ## The end of the text -/

/-- No token is the end of the text. -/
def Inside (tokens : List Token) : Prop := ∀ token ∈ tokens, token.kind ≠ .endOfInput

theorem inside_append_iff {first second : List Token} :
    Inside (first ++ second) ↔ Inside first ∧ Inside second := by
  simp only [Inside, List.mem_append, or_imp, forall_and]

theorem inside_cons_iff {token : Token} {tokens : List Token} :
    Inside (token :: tokens) ↔ token.kind ≠ .endOfInput ∧ Inside tokens := by
  simp only [Inside, List.forall_mem_cons]

theorem inside_nil : Inside [] := by
  intro token member
  cases member

theorem IsVisibility.inside {tokens : List Token} {isPublic : Bool}
    (written : IsVisibility tokens isPublic) : Inside tokens := by
  cases written with
  | hidden => exact inside_nil
  | visible isPub => simp [inside_cons_iff, inside_nil, isPub]
  | limited isPub isLeft isScope isRight =>
      simp [inside_cons_iff, inside_nil, isPub, isLeft, isScope, isRight]

theorem IsAlias.inside {tokens : List Token} {alias? : Option String}
    (written : IsAlias tokens alias?) : Inside tokens := by
  cases written with
  | absent => exact inside_nil
  | present isAs isName => simp [inside_cons_iff, inside_nil, isAs, isName]

theorem IsLiteral.inside {kind : Scalar.Kind} {tokens : List Token} {scalar : Scalar}
    (written : IsLiteral kind tokens scalar) : Inside tokens := by
  cases written with
  | truth isTrue => simp [inside_cons_iff, inside_nil, isTrue]
  | falsehood isFalse => simp [inside_cons_iff, inside_nil, isFalse]
  | unsigned isNumber writes => simp [inside_cons_iff, inside_nil, isNumber]
  | negative isMinus isNumber writes => simp [inside_cons_iff, inside_nil, isMinus, isNumber]

theorem CommaList.inside {α : Type} {item : List Token → α → Prop}
    (items : ∀ tokens value, item tokens value → Inside tokens) {tokens : List Token}
    {values : List α} (list : CommaList item tokens values) : Inside tokens := by
  induction list with
  | empty => exact inside_nil
  | last isItem => exact items _ _ isItem
  | more isItem isComma rest ih =>
      exact inside_append_iff.mpr
        ⟨items _ _ isItem, inside_cons_iff.mpr ⟨by simp [isComma], ih⟩⟩

theorem Sequence.inside {α : Type} {item : List Token → α → Prop}
    (items : ∀ tokens value, item tokens value → Inside tokens) {tokens : List Token}
    {values : List α} (sequence : Sequence item tokens values) : Inside tokens := by
  induction sequence with
  | empty => exact inside_nil
  | more isItem rest ih => exact inside_append_iff.mpr ⟨items _ _ isItem, ih⟩

theorem IsEnumCase.inside {file : String} {kind : Scalar.Kind} {tokens : List Token}
    {case : ValueEnum.Case} (written : IsEnumCase file kind tokens case) : Inside tokens := by
  cases written with
  | intro isName isEquals isValue =>
      simp [inside_cons_iff, isName, isEquals, isValue.inside]

theorem IsValueEnum.inside {file : String} {isPublic : Bool} {tokens : List Token}
    {valueEnum : ValueEnum} (written : IsValueEnum file isPublic tokens valueEnum) :
    Inside tokens := by
  cases written with
  | intro isKeyword isName isAlias isColon isKind isLeft areCases isRight =>
      have cases := areCases.inside fun _ _ => IsEnumCase.inside
      simp [inside_cons_iff, inside_append_iff, inside_nil, isKeyword, isName, isAlias.inside,
        isColon, isKind.1, isLeft, cases, isRight]

theorem IsDefinition.inside {file : String} {tokens : List Token} {definition : Definition}
    (written : IsDefinition file tokens definition) : Inside tokens := by
  cases written with
  | intro isKey isColon isKind isEquals isValue =>
      simp [inside_cons_iff, isKey, isColon, isKind.1, isEquals, isValue.inside]

theorem IsReference.inside {tokens : List Token} {reference : String}
    (written : IsReference tokens reference) : Inside tokens := by
  cases written with
  | intro isName => simp [inside_cons_iff, inside_nil, isName]

theorem IsVariant.inside {file : String} {tokens : List Token} {variant : Variant}
    (written : IsVariant file tokens variant) : Inside tokens := by
  cases written with
  | hardcoded isName isLeft areDefinitions isRight =>
      have definitions := areDefinitions.inside fun _ _ => IsDefinition.inside
      simp [inside_cons_iff, inside_append_iff, inside_nil, isName, isLeft, definitions, isRight]
  | crossProduct isName isLeft areReferences isRight =>
      have references := areReferences.inside fun _ _ => IsReference.inside
      simp [inside_cons_iff, inside_append_iff, inside_nil, isName, isLeft, references, isRight]

theorem IsVariants.inside {file : String} {isPublic : Bool} {tokens : List Token}
    {variants : VariantsDeclaration} (written : IsVariants file isPublic tokens variants) :
    Inside tokens := by
  cases written with
  | intro isKeyword isName isFrom isTemplate isLeft areVariants isRight separates =>
      have variants := areVariants.inside fun _ _ => IsVariant.inside
      simp [inside_cons_iff, inside_append_iff, inside_nil, isKeyword, isName, isFrom, isTemplate,
        isLeft, variants, isRight]

theorem IsDeclaration.inside {file : String} {tokens : List Token}
    {declaration : ValueEnum ⊕ VariantsDeclaration}
    (written : IsDeclaration file tokens declaration) : Inside tokens := by
  cases written with
  | valueEnum isMark isEnum => exact inside_append_iff.mpr ⟨isMark.inside, isEnum.inside⟩
  | variants isMark areVariants =>
      exact inside_append_iff.mpr ⟨isMark.inside, areVariants.inside⟩

/-- No part of a module is written with the token that ends the text. -/
theorem IsModule.inside {file : String} {tokens : List Token} {module : Module}
    (written : IsModule file tokens module) : Inside tokens := by
  cases written with
  | intro areDeclarations => exact areDeclarations.inside fun _ _ => IsDeclaration.inside

/-! ## The shared block -/

/-- A shared block can be taken out exactly when no variant named `shared` is a cross product and
there is one at most. -/
theorem exists_separates_iff (written : List Variant) :
    (∃ shared variants, Separates written shared variants) ↔
      (∀ variant ∈ written, variant.name = Parser.sharedName →
        ∃ definitions, variant.body = .hardcoded definitions) ∧
      (written.filter (·.name = Parser.sharedName)).length ≤ 1 := by
  constructor
  · intro separable
    obtain ⟨shared, variants, sharedOnes, -⟩ := separable
    refine ⟨?_, ?_⟩
    · intro variant member named
      have inside : variant.body ∈ (shared.map Variant.Body.hardcoded).toList := by
        rw [← sharedOnes]
        exact List.mem_map_of_mem (List.mem_filter.mpr ⟨member, by simpa using named⟩)
      cases shared with
      | none => cases inside
      | some definitions => exact ⟨definitions, by simpa using inside⟩
    · have lengths := congrArg List.length sharedOnes
      rw [List.length_map] at lengths
      rw [lengths]
      cases shared <;> simp
  · intro rules
    obtain ⟨hardcoded, single⟩ := rules
    cases found : written.filter (·.name = Parser.sharedName) with
    | nil => exact ⟨none, _, by simp [found], rfl⟩
    | cons variant others =>
        have member : variant ∈ written.filter (·.name = Parser.sharedName) := by simp [found]
        obtain ⟨inside, named⟩ := List.mem_filter.mp member
        obtain ⟨definitions, body⟩ := hardcoded variant inside (by simpa using named)
        rw [found, List.length_cons] at single
        obtain rfl : others = [] := List.length_eq_zero_iff.mp (by omega)
        exact ⟨some definitions, _, by simp [found, body], rfl⟩

end ShaderVariants.Grammar
