import ShaderVariants.Proofs.Repetition
import ShaderVariants.Validation.Passes

/-!
# Places of repetitions

A name, a key or a literal that several nodes of a block bear is reported once, and the report
stands where one of the nodes was written.  For names and keys that is the last node that bears
them.  A literal is looked up by the name of the last case that bears it: where a later case has
that name, the report stands at the later one, which bears another literal.
-/

namespace ShaderVariants

namespace Repetition

variable {α β γ : Type} [DecidableEq β]

/-- The items of a key, in order. -/
def bearers (key : α → β) (wanted : β) (items : List α) : List α :=
  items.filter fun item => key item = wanted

/-- Several items have a key, and one is the last of them. -/
structure RepeatsAt (key : α → β) (wanted : β) (items : List α) (last : α) : Prop where
  several : 1 < (bearers key wanted items).length
  isLast : (bearers key wanted items).getLast? = some last

theorem key_of_mem_bearers {key : α → β} {wanted : β} {items : List α} {item : α}
    (member : item ∈ bearers key wanted items) : key item = wanted := by
  simpa using List.of_mem_filter member

theorem exists_repeatsAt {key : α → β} {wanted : β} {items : List α}
    (several : 1 < (bearers key wanted items).length) :
    ∃ last, RepeatsAt key wanted items last := by
  have nonempty : bearers key wanted items ≠ [] := List.ne_nil_of_length_pos (by omega)
  exact ⟨_, several, List.getLast?_eq_some_getLast nonempty⟩

theorem lastLocation_eq (key : α → β) (location : α → Option Location) (wanted : β)
    (items : List α) :
    lastLocation key location wanted items =
      (bearers key wanted items).getLast?.bind location := by
  rw [lastLocation, bearers, List.getLast?_filter]

theorem RepeatsAt.lastLocation_eq {key : α → β} {wanted : β} {items : List α} {last : α}
    (repeats : RepeatsAt key wanted items last) (location : α → Option Location) :
    lastLocation key location wanted items = location last := by
  rw [Repetition.lastLocation_eq, repeats.isLast, Option.bind_some]

/-- The first items with two properties are the same if each has the property of the other one. -/
theorem eq_of_find?_eq_some {items : List α} {holds holds' : α → Bool} {item item' : α}
    (found : items.find? holds = some item) (found' : items.find? holds' = some item')
    (crossed : holds' item = true) (crossed' : holds item' = true) : item = item' := by
  induction items with
  | nil => cases found
  | cons first rest ih =>
      rw [List.find?_cons] at found found'
      cases here : holds first <;> cases here' : holds' first <;> simp_all

/-- The last bearer of one key, sought by another key that it has: what is found is that bearer,
unless it no longer bears the first key. -/
theorem key_eq_iff_of_getLast?_bearers {δ : Type} [DecidableEq δ] {key : α → β} {wanted : β}
    {other : α → δ} {items : List α} {last found : α}
    (isLast : (bearers key wanted items).getLast? = some last)
    (isFound : (bearers other (other last) items).getLast? = some found) :
    key found = wanted ↔ found = last := by
  have bears : key last = wanted := key_of_mem_bearers (List.mem_of_getLast? isLast)
  have bears' : other found = other last := key_of_mem_bearers (List.mem_of_getLast? isFound)
  constructor
  · intro same
    rw [bearers, List.getLast?_filter] at isLast isFound
    exact eq_of_find?_eq_some isFound isLast (by simpa using same) (by simp)
  · rintro rfl
    exact bears

/-- What is repeated is known by the first of several items of a key. -/
theorem mem_repeated_iff {key : α → β} {items : List α} {first : α} :
    first ∈ repeated key items ↔
      1 < (bearers key (key first) items).length ∧
        (bearers key (key first) items).head? = some first := by
  rw [repeated, List.mem_filter, decide_eq_true_iff, List.countP_eq_length_filter, bearers,
    List.head?_filter, and_comm]
  refine and_congr_right fun _ => ⟨find?_of_mem_firsts, fun found => ?_⟩
  obtain ⟨leading, isFirst, same⟩ := exists_mem_firsts key (List.mem_of_find?_eq_some found)
  have found' := find?_of_mem_firsts isFirst
  rw [same] at found'
  obtain rfl := Option.some.inj (found'.symm.trans found)
  exact isFirst

/-- Reports that look at the key only: there is one for each repeated key. -/
theorem mem_map_repeated_iff (report : β → Option Location → γ) {key : α → β}
    {location : α → Option Location} {items : List α} {reported : γ} :
    (reported ∈ (repeated key items).map fun first =>
      report (key first) (lastLocation key location (key first) items)) ↔
      ∃ wanted last, RepeatsAt key wanted items last ∧
        reported = report wanted (location last) := by
  rw [List.mem_map]
  constructor
  · rintro ⟨first, isRepeated, rfl⟩
    obtain ⟨last, repeats⟩ := exists_repeatsAt (mem_repeated_iff.mp isRepeated).1
    exact ⟨_, last, repeats, by rw [repeats.lastLocation_eq]⟩
  · rintro ⟨wanted, last, repeats, rfl⟩
    have leading : ∃ first, (bearers key wanted items).head? = some first :=
      Option.isSome_iff_exists.mp (by
        rw [List.isSome_head?]
        exact List.ne_nil_of_length_pos (by have := repeats.several; omega))
    obtain ⟨first, isFirst⟩ := leading
    obtain rfl := key_of_mem_bearers (List.mem_of_mem_head? isFirst)
    exact ⟨first, mem_repeated_iff.mpr ⟨repeats.several, isFirst⟩,
      by rw [repeats.lastLocation_eq]⟩

end Repetition

open Repetition

/-- The issue is about something that several nodes of a block bear. -/
def Issue.isRepetition (issue : Issue) : Bool :=
  match issue.cause with
  | .repeatedCase _ => true
  | .sharedLiteral _ _ => true
  | .repeatedDefinition _ => true
  | .repeatedVariant => true
  | _ => false

open Issue (isRepetition)

namespace ValueEnum

/-- The number that the literal of a case equals. -/
def Case.number (case : Case) : Int := case.value.literal.number

/-- The last case that has the name of a case. -/
def namesake? (valueEnum : ValueEnum) (case : Case) : Option Case :=
  (bearers Case.name case.name valueEnum.cases).getLast?

/-- The issue of a repeated case name. -/
def repeatedCase (valueEnum : ValueEnum) (name : String) (location : Option Location) : Issue where
  declaration := valueEnum.title
  cause := .repeatedCase name
  key := some name
  location := location

/-- The issue of a literal that several cases bear, the given one first. -/
def sharedLiteral (valueEnum : ValueEnum) (first : Case) (location : Option Location) :
    Issue where
  declaration := valueEnum.title
  cause := .sharedLiteral
    ((bearers Case.number first.number valueEnum.cases).map Case.name) first.value.literal
  key := some first.name
  location := location

variable {valueEnum : ValueEnum} {issue : Issue}

theorem mem_repeatedCaseIssues_iff :
    issue ∈ valueEnum.repeatedCaseIssues ↔
      ∃ name last, RepeatsAt Case.name name valueEnum.cases last ∧
        issue = valueEnum.repeatedCase name last.location :=
  mem_map_repeated_iff valueEnum.repeatedCase

theorem exists_namesake? {case : Case} (member : case ∈ valueEnum.cases) :
    ∃ namesake, valueEnum.namesake? case = some namesake := by
  have bears : case ∈ bearers Case.name case.name valueEnum.cases :=
    List.mem_filter.mpr ⟨member, decide_eq_true rfl⟩
  exact ⟨_, List.getLast?_eq_some_getLast (List.ne_nil_of_mem bears)⟩

/-- A shared literal is placed by the name of its last bearer. -/
theorem place_of_namesake? {number : Int} {last namesake : Case}
    (repeats : RepeatsAt Case.number number valueEnum.cases last)
    (found : valueEnum.namesake? last = some namesake) :
    ((bearers Case.number number valueEnum.cases).getLast?.bind fun last =>
      lastLocation Case.name Case.location last.name valueEnum.cases) = namesake.location := by
  rw [repeats.isLast, Option.bind_some, lastLocation_eq]
  exact congrArg (·.bind Case.location) found

theorem mem_sharedLiteralIssues_iff :
    issue ∈ valueEnum.sharedLiteralIssues ↔
      ∃ first last namesake, RepeatsAt Case.number first.number valueEnum.cases last ∧
        (bearers Case.number first.number valueEnum.cases).head? = some first ∧
        valueEnum.namesake? last = some namesake ∧
        issue = valueEnum.sharedLiteral first namesake.location := by
  rw [sharedLiteralIssues, List.mem_map]
  constructor
  · rintro ⟨first, isRepeated, rfl⟩
    obtain ⟨several, isFirst⟩ := mem_repeated_iff.mp isRepeated
    obtain ⟨last, repeats⟩ := exists_repeatsAt several
    have member : last ∈ valueEnum.cases :=
      List.mem_of_mem_filter (List.mem_of_getLast? repeats.isLast)
    obtain ⟨namesake, found⟩ := exists_namesake? member
    refine ⟨first, last, namesake, repeats, isFirst, found, ?_⟩
    rw [← place_of_namesake? repeats found]
    rfl
  · rintro ⟨first, last, namesake, repeats, isFirst, found, rfl⟩
    refine ⟨first, mem_repeated_iff.mpr ⟨repeats.several, isFirst⟩, ?_⟩
    rw [← place_of_namesake? repeats found]
    rfl

theorem filter_issues :
    valueEnum.issues.filter isRepetition =
      valueEnum.repeatedCaseIssues ++ valueEnum.sharedLiteralIssues := by
  have names : valueEnum.repeatedCaseIssues.filter isRepetition = valueEnum.repeatedCaseIssues := by
    simp [repeatedCaseIssues, isRepetition]
  have literals :
      valueEnum.sharedLiteralIssues.filter isRepetition = valueEnum.sharedLiteralIssues := by
    simp [sharedLiteralIssues, isRepetition]
  have empty : valueEnum.emptinessIssues.filter isRepetition = [] := by
    unfold emptinessIssues
    split <;> rfl
  have typeName : valueEnum.typeNameIssues.filter isRepetition = [] := by
    unfold typeNameIssues
    split <;> rfl
  have caseName (case : Case) : (valueEnum.caseNameIssues case).filter isRepetition = [] := by
    unfold caseNameIssues
    split
    · rfl
    · split <;> rfl
  simp [issues, List.filter_append, List.filter_flatMap, names, literals, empty, typeName, caseName]

end ValueEnum

namespace VariantsDeclaration

/-- The issue of a repeated key in a block of definitions. -/
def repeatedDefinition (declaration : VariantsDeclaration) (block key : String)
    (location : Option Location) : Issue where
  declaration := declaration.title
  cause := .repeatedDefinition key
  variant := some block
  key := some key
  location := location

/-- The issue of a repeated variant name. -/
def repeatedVariant (declaration : VariantsDeclaration) (name : String)
    (location : Option Location) : Issue where
  declaration := declaration.title
  cause := .repeatedVariant
  variant := some name
  location := location

variable {declaration : VariantsDeclaration} {issue : Issue}

theorem mem_repeatedDefinitionIssues_iff {block : String} {definitions : List Definition} :
    issue ∈ declaration.repeatedDefinitionIssues block definitions ↔
      ∃ key last, RepeatsAt Definition.key key definitions last ∧
        issue = declaration.repeatedDefinition block key last.location :=
  mem_map_repeated_iff (declaration.repeatedDefinition block)

theorem mem_repeatedVariantIssues_iff :
    issue ∈ declaration.repeatedVariantIssues ↔
      ∃ name last, RepeatsAt Variant.name name declaration.variants last ∧
        issue = declaration.repeatedVariant name last.location :=
  mem_map_repeated_iff declaration.repeatedVariant

theorem filter_repeatedDefinitionIssues (block : String) (definitions : List Definition) :
    (declaration.repeatedDefinitionIssues block definitions).filter isRepetition =
      declaration.repeatedDefinitionIssues block definitions := by
  simp [repeatedDefinitionIssues, isRepetition]

/-- The issues about keys that a variant writes out several times. -/
def ownRepetitions (declaration : VariantsDeclaration) (variant : Variant) : List Issue :=
  match variant.body with
  | .hardcoded definitions => declaration.repeatedDefinitionIssues variant.name definitions
  | .crossProduct _ => []

theorem filter_crossProductIssues (module : Module) (variant : Variant)
    (references : List String) :
    (crossProductIssues module declaration variant references).filter isRepetition = [] := by
  have reference (reference : String) :
      (referenceIssues module declaration variant reference).filter isRepetition = [] := by
    unfold referenceIssues
    split
    · rfl
    · dsimp only
      rw [List.filter_append, List.append_eq_nil_iff]
      constructor
      · split <;> rfl
      · split <;> rfl
  simp [crossProductIssues, List.filter_flatMap, reference, variantIssue, isRepetition]

theorem filter_variantIssues (module : Module) (variant : Variant) :
    (variantIssues module declaration variant).filter isRepetition =
      declaration.ownRepetitions variant := by
  have name : (declaration.variantNameIssues variant).filter isRepetition = [] := by
    unfold variantNameIssues
    split
    · rfl
    · split <;> rfl
  have kind (definition : Definition) :
      (declaration.kindIssues variant definition).filter isRepetition = [] := by
    unfold kindIssues
    split
    · split <;> rfl
    · rfl
  rw [variantIssues, List.filter_append, name, List.nil_append, ownRepetitions]
  cases variant.body with
  | hardcoded definitions =>
      dsimp only
      rw [List.filter_append, filter_repeatedDefinitionIssues, List.filter_flatMap]
      simp [kind]
  | crossProduct references => exact filter_crossProductIssues module variant references

theorem filter_issues (module : Module) :
    (issues module declaration).filter isRepetition =
      declaration.repeatedDefinitionIssues "shared" declaration.sharedBlock ++
        declaration.repeatedVariantIssues ++
        declaration.variants.flatMap declaration.ownRepetitions := by
  have name : declaration.nameIssues.filter isRepetition = [] := by
    unfold nameIssues
    split <;> rfl
  have variants : declaration.repeatedVariantIssues.filter isRepetition =
      declaration.repeatedVariantIssues := by
    simp [repeatedVariantIssues, isRepetition]
  simp only [issues, List.filter_append, List.filter_flatMap, name, variants,
    filter_repeatedDefinitionIssues, filter_variantIssues, List.nil_append]

end VariantsDeclaration

namespace Module

/-- The issues about repetitions, block by block. -/
theorem filter_issues (module : Module) :
    module.issues.filter isRepetition =
      module.valueEnums.flatMap (fun valueEnum =>
          valueEnum.repeatedCaseIssues ++ valueEnum.sharedLiteralIssues) ++
        module.declarations.flatMap fun declaration =>
          declaration.repeatedDefinitionIssues "shared" declaration.sharedBlock ++
            declaration.repeatedVariantIssues ++
            declaration.variants.flatMap declaration.ownRepetitions := by
  have names : module.nameIssues.filter isRepetition = [] := by
    have name (first : GeneratedName) :
        (generatedNameIssues module.generatedNames first).filter isRepetition = [] := by
      unfold generatedNameIssues
      dsimp only
      rw [List.filter_append, List.append_eq_nil_iff]
      constructor
      · split <;> rfl
      · split <;> rfl
    simp [nameIssues, List.filter_flatMap, name]
  have valueEnums : ((repeated ValueEnum.name module.valueEnums).map fun valueEnum =>
      ({ declaration := valueEnum.title, cause := .repeatedValueEnum } : Issue)).filter
        isRepetition = [] := by
    simp [isRepetition]
  have declarations :
      ((repeated VariantsDeclaration.name module.declarations).map fun declaration =>
        ({ declaration := declaration.title, cause := .repeatedDeclaration } : Issue)).filter
          isRepetition = [] := by
    simp [isRepetition]
  simp only [issues, valueEnumIssues, declarationIssues, List.filter_append, List.filter_flatMap,
    names, valueEnums, declarations, ValueEnum.filter_issues, VariantsDeclaration.filter_issues,
    List.nil_append, List.append_nil]

/-- The issues about repetitions: one for each name, key or literal that several nodes of a block
bear.  It stands at the last bearer of a name or a key.  For a literal it stands at the last case
that has the name of the last bearer. -/
inductive ReportsRepetition (module : Module) : Issue → Prop where
  | caseName {valueEnum : ValueEnum} {name : String} {last : ValueEnum.Case}
      (declared : valueEnum ∈ module.valueEnums)
      (repeats : RepeatsAt ValueEnum.Case.name name valueEnum.cases last) :
      ReportsRepetition module (valueEnum.repeatedCase name last.location)
  | literal {valueEnum : ValueEnum} {first last namesake : ValueEnum.Case}
      (declared : valueEnum ∈ module.valueEnums)
      (repeats : RepeatsAt ValueEnum.Case.number first.number valueEnum.cases last)
      (isFirst : (bearers ValueEnum.Case.number first.number valueEnum.cases).head? = some first)
      (found : valueEnum.namesake? last = some namesake) :
      ReportsRepetition module (valueEnum.sharedLiteral first namesake.location)
  | sharedKey {declaration : VariantsDeclaration} {key : String} {last : Definition}
      (declared : declaration ∈ module.declarations)
      (repeats : RepeatsAt Definition.key key declaration.sharedBlock last) :
      ReportsRepetition module (declaration.repeatedDefinition "shared" key last.location)
  | variantName {declaration : VariantsDeclaration} {name : String} {last : Variant}
      (declared : declaration ∈ module.declarations)
      (repeats : RepeatsAt Variant.name name declaration.variants last) :
      ReportsRepetition module (declaration.repeatedVariant name last.location)
  | ownKey {declaration : VariantsDeclaration} {variant : Variant}
      {definitions : List Definition} {key : String} {last : Definition}
      (declared : declaration ∈ module.declarations) (listed : variant ∈ declaration.variants)
      (written : variant.body = .hardcoded definitions)
      (repeats : RepeatsAt Definition.key key definitions last) :
      ReportsRepetition module (declaration.repeatedDefinition variant.name key last.location)

theorem mem_ownRepetitions_iff {declaration : VariantsDeclaration} {variant : Variant}
    {issue : Issue} :
    issue ∈ declaration.ownRepetitions variant ↔
      ∃ definitions key last, variant.body = .hardcoded definitions ∧
        RepeatsAt Definition.key key definitions last ∧
        issue = declaration.repeatedDefinition variant.name key last.location := by
  cases body : variant.body with
  | hardcoded definitions =>
      rw [VariantsDeclaration.ownRepetitions, body,
        VariantsDeclaration.mem_repeatedDefinitionIssues_iff]
      simp
  | crossProduct references => simp [VariantsDeclaration.ownRepetitions, body]

theorem mem_issues_and_isRepetition_iff {module : Module} {issue : Issue} :
    issue ∈ module.issues ∧ issue.isRepetition = true ↔ module.ReportsRepetition issue := by
  rw [← List.mem_filter, filter_issues]
  simp only [List.mem_append, List.mem_flatMap, ValueEnum.mem_repeatedCaseIssues_iff,
    ValueEnum.mem_sharedLiteralIssues_iff, VariantsDeclaration.mem_repeatedDefinitionIssues_iff,
    VariantsDeclaration.mem_repeatedVariantIssues_iff, mem_ownRepetitions_iff]
  constructor
  · rintro (⟨valueEnum, declared, ⟨name, last, repeats, rfl⟩ |
        ⟨first, last, namesake, repeats, isFirst, found, rfl⟩⟩ |
      ⟨declaration, declared, (⟨key, last, repeats, rfl⟩ | ⟨name, last, repeats, rfl⟩) |
        ⟨variant, listed, definitions, key, last, written, repeats, rfl⟩⟩)
    · exact .caseName declared repeats
    · exact .literal declared repeats isFirst found
    · exact .sharedKey declared repeats
    · exact .variantName declared repeats
    · exact .ownKey declared listed written repeats
  · intro reports
    cases reports with
    | @caseName valueEnum name last declared repeats =>
        exact .inl ⟨valueEnum, declared, .inl ⟨name, last, repeats, rfl⟩⟩
    | @literal valueEnum first last namesake declared repeats isFirst found =>
        exact .inl ⟨valueEnum, declared,
          .inr ⟨first, last, namesake, repeats, isFirst, found, rfl⟩⟩
    | @sharedKey declaration key last declared repeats =>
        exact .inr ⟨declaration, declared, .inl (.inl ⟨key, last, repeats, rfl⟩)⟩
    | @variantName declaration name last declared repeats =>
        exact .inr ⟨declaration, declared, .inl (.inr ⟨name, last, repeats, rfl⟩)⟩
    | @ownKey declaration variant definitions key last declared listed written repeats =>
        exact .inr ⟨declaration, declared,
          .inr ⟨variant, listed, definitions, key, last, written, repeats, rfl⟩⟩

/-- The issues about repetitions are those that are meant, at the places that are meant but for
literals: the issue of a literal stands at its last bearer exactly when no later case has the name
of that one, and otherwise at a case of another literal. -/
theorem places_of_repetitions (module : Module) :
    (∀ issue, issue ∈ module.issues ∧ issue.isRepetition = true ↔
      module.ReportsRepetition issue) ∧
    ∀ valueEnum ∈ module.valueEnums, ∀ number last namesake,
      RepeatsAt ValueEnum.Case.number number valueEnum.cases last →
      valueEnum.namesake? last = some namesake →
      (namesake.number = number ↔ namesake = last) := by
  refine ⟨fun issue => mem_issues_and_isRepetition_iff, ?_⟩
  intro valueEnum _ number last namesake repeats found
  exact key_eq_iff_of_getLast?_bearers repeats.isLast found

/-- Three cases: the second one bears the literal of the first and the name of the third. -/
def crossedCase (name : String) (value : Bool) (column : Int) : ValueEnum.Case :=
  ⟨name, .ofBool value, some ⟨"crossedCases", 1, column⟩⟩

def crossedEnum : ValueEnum where
  name := "E"
  alias? := none
  kind := .bool
  cases := [crossedCase "A" false 1, crossedCase "B" false 2, crossedCase "B" true 3]
  isPublic := false
  location := some ⟨"crossedCases", 1, 0⟩

def crossedCases : Module := ⟨"crossedCases", [crossedEnum], []⟩

/-- The literal of the first two cases is reported at the third one. -/
theorem crossed_places :
    RepeatsAt ValueEnum.Case.number 0 crossedEnum.cases (crossedCase "B" false 2) ∧
    crossedEnum.namesake? (crossedCase "B" false 2) = some (crossedCase "B" true 3) ∧
    (crossedCase "B" true 3).number ≠ 0 ∧
    crossedEnum.sharedLiteral (crossedCase "A" false 1) (some ⟨"crossedCases", 1, 3⟩) ∈
      crossedCases.issues := by
  obtain ⟨reports, literals⟩ := places_of_repetitions crossedCases
  have repeats : RepeatsAt ValueEnum.Case.number 0 crossedEnum.cases (crossedCase "B" false 2) :=
    ⟨by decide, by decide⟩
  have found : crossedEnum.namesake? (crossedCase "B" false 2) = some (crossedCase "B" true 3) := by
    decide
  have declared : crossedEnum ∈ crossedCases.valueEnums := by decide
  have apart := literals crossedEnum declared 0 _ _ repeats found
  have reported : crossedCases.ReportsRepetition
      (crossedEnum.sharedLiteral (crossedCase "A" false 1) (crossedCase "B" true 3).location) :=
    .literal declared repeats (by decide) found
  exact ⟨repeats, found, mt apart.mp (by decide), ((reports _).mpr reported).1⟩

end Module

end ShaderVariants
