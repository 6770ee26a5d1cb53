import Mathlib.Tactic.Simps.Basic
import ShaderVariants.Generated.Emission
import ShaderVariants.Proofs.ModuleRules
import ShaderVariants.Proofs.ParserExactness

/-!
# Declarations of another file

A text that lies in another file declares the same things; only the file of their locations is
another.  `relocated` changes the file of all locations.  Neither the rules of a module nor its case
tables look at locations, and what is emitted has no more of a file than its last name.
-/

namespace ShaderVariants

/-! ## The same things elsewhere -/

/-- The same line and column of another file. -/
@[simps]
def Location.relocated (file : String) (location : Location) : Location :=
  { location with file }

@[simps]
def ValueEnum.Case.relocated (file : String) (case : ValueEnum.Case) : ValueEnum.Case :=
  { case with location := case.location.map (Location.relocated file) }

@[simps]
def ValueEnum.relocated (file : String) (valueEnum : ValueEnum) : ValueEnum :=
  { valueEnum with
    cases := valueEnum.cases.map (Case.relocated file)
    location := valueEnum.location.map (Location.relocated file) }

@[simps]
def Definition.relocated (file : String) (definition : Definition) : Definition :=
  { definition with location := definition.location.map (Location.relocated file) }

def Variant.Body.relocated (file : String) : Variant.Body → Variant.Body
  | .hardcoded definitions => .hardcoded (definitions.map (Definition.relocated file))
  | .crossProduct references => .crossProduct references

@[simps]
def Variant.relocated (file : String) (variant : Variant) : Variant :=
  { variant with
    body := variant.body.relocated file
    location := variant.location.map (Location.relocated file) }

@[simps]
def VariantsDeclaration.relocated (file : String) (declaration : VariantsDeclaration) :
    VariantsDeclaration :=
  { declaration with
    shared := declaration.shared.map (List.map (Definition.relocated file))
    variants := declaration.variants.map (Variant.relocated file)
    location := declaration.location.map (Location.relocated file) }

@[simps]
def Module.relocated (file : String) (module : Module) : Module where
  file := file
  valueEnums := module.valueEnums.map (ValueEnum.relocated file)
  declarations := module.declarations.map (VariantsDeclaration.relocated file)

@[simps]
def Selection.relocated (file : String) (selection : Selection) : Selection where
  valueEnum := selection.valueEnum.relocated file
  case := selection.case.relocated file

@[simps]
def Combination.relocated (file : String) (combination : Combination) : Combination :=
  { combination with selections := combination.selections.map (Selection.relocated file) }

@[simps]
def ResolvedCase.relocated (file : String) (case : ResolvedCase) : ResolvedCase :=
  { case with selections := case.selections.map (Selection.relocated file) }

@[simps]
def ResolvedDeclaration.relocated (file : String) (resolved : ResolvedDeclaration) :
    ResolvedDeclaration :=
  { resolved with
    declaration := resolved.declaration.relocated file
    cases := resolved.cases.map (ResolvedCase.relocated file) }

variable {file : String}

/-! ## Parsing -/

namespace Grammar

theorem CommaList.map {α β : Type} {item : List Token → α → Prop} {item' : List Token → β → Prop}
    {image : α → β} (carries : ∀ tokens value, item tokens value → item' tokens (image value))
    {tokens : List Token} {values : List α} (list : CommaList item tokens values) :
    CommaList item' tokens (values.map image) := by
  induction list with
  | empty => exact .empty
  | last isItem => exact .last (carries _ _ isItem)
  | more isItem isComma rest ih => exact .more (carries _ _ isItem) isComma ih

theorem Sequence.map {α β : Type} {item : List Token → α → Prop} {item' : List Token → β → Prop}
    {image : α → β} (carries : ∀ tokens value, item tokens value → item' tokens (image value))
    {tokens : List Token} {values : List α} (sequence : Sequence item tokens values) :
    Sequence item' tokens (values.map image) := by
  induction sequence with
  | empty => exact .empty
  | more isItem rest ih => exact .more (carries _ _ isItem) ih

theorem IsEnumCase.relocated (other : String) {kind : Scalar.Kind} {tokens : List Token}
    {case : ValueEnum.Case} (written : IsEnumCase file kind tokens case) :
    IsEnumCase other kind tokens (case.relocated other) := by
  cases written with
  | intro isName isEquals isValue => exact .intro isName isEquals isValue

theorem IsValueEnum.relocated (other : String) {isPublic : Bool} {tokens : List Token}
    {valueEnum : ValueEnum} (written : IsValueEnum file isPublic tokens valueEnum) :
    IsValueEnum other isPublic tokens (valueEnum.relocated other) := by
  cases written with
  | intro isKeyword isName isAlias isColon isKind isLeft areCases isRight =>
      have cases := areCases.map fun _ _ isCase => IsEnumCase.relocated other isCase
      exact .intro isKeyword isName isAlias isColon isKind isLeft cases isRight

theorem IsDefinition.relocated (other : String) {tokens : List Token} {definition : Definition}
    (written : IsDefinition file tokens definition) :
    IsDefinition other tokens (definition.relocated other) := by
  cases written with
  | intro isKey isColon isKind isEquals isValue =>
      exact .intro isKey isColon isKind isEquals isValue

theorem IsVariant.relocated (other : String) {tokens : List Token} {variant : Variant}
    (written : IsVariant file tokens variant) :
    IsVariant other tokens (variant.relocated other) := by
  cases written with
  | hardcoded isName isLeft areDefinitions isRight =>
      have definitions := areDefinitions.map fun _ _ isDefinition =>
        IsDefinition.relocated other isDefinition
      exact .hardcoded isName isLeft definitions isRight
  | crossProduct isName isLeft areReferences isRight =>
      exact .crossProduct isName isLeft areReferences isRight

theorem Separates.relocated (other : String) {written variants : List Variant}
    {shared : Option (List Definition)} (separates : Separates written shared variants) :
    Separates (written.map (Variant.relocated other))
      (shared.map (List.map (Definition.relocated other)))
      (variants.map (Variant.relocated other)) := by
  obtain ⟨sharedOnes, others⟩ := separates
  have bodies : Variant.body ∘ Variant.relocated other =
      Variant.Body.relocated other ∘ Variant.body := rfl
  constructor
  · rw [List.filter_map, List.map_map, bodies, ← List.map_map]
    change ((written.filter (·.name = Parser.sharedName)).map Variant.body).map _ = _
    rw [sharedOnes]
    cases shared <;> rfl
  · rw [← others, List.filter_map]
    rfl

theorem IsVariants.relocated (other : String) {isPublic : Bool} {tokens : List Token}
    {declaration : VariantsDeclaration} (written : IsVariants file isPublic tokens declaration) :
    IsVariants other isPublic tokens (declaration.relocated other) := by
  cases written with
  | intro isKeyword isName isFrom isTemplate isLeft areVariants isRight separates =>
      have variants := areVariants.map fun _ _ isVariant => IsVariant.relocated other isVariant
      exact .intro isKeyword isName isFrom isTemplate isLeft variants isRight
        (separates.relocated other)

theorem IsDeclaration.relocated (other : String) {tokens : List Token}
    {declaration : ValueEnum ⊕ VariantsDeclaration}
    (written : IsDeclaration file tokens declaration) :
    IsDeclaration other tokens
      (declaration.map (ValueEnum.relocated other) (VariantsDeclaration.relocated other)) := by
  cases written with
  | valueEnum isMark isEnum => exact .valueEnum isMark (isEnum.relocated other)
  | variants isMark areVariants => exact .variants isMark (areVariants.relocated other)

theorem IsModule.relocated (other : String) {tokens : List Token} {module : Module}
    (written : IsModule file tokens module) :
    IsModule other tokens (module.relocated other) := by
  cases written with
  | intro areDeclarations =>
      have moved := areDeclarations.map fun _ _ isDeclaration =>
        IsDeclaration.relocated other isDeclaration
      have whole := IsModule.intro moved
      have enums : Sum.getLeft? ∘ Sum.map (ValueEnum.relocated other)
          (VariantsDeclaration.relocated other) =
            fun declaration => declaration.getLeft?.map (ValueEnum.relocated other) := by
        funext declaration
        cases declaration <;> rfl
      have variants : Sum.getRight? ∘ Sum.map (ValueEnum.relocated other)
          (VariantsDeclaration.relocated other) =
            fun declaration => declaration.getRight?.map (VariantsDeclaration.relocated other) := by
        funext declaration
        cases declaration <;> rfl
      rw [List.filterMap_map, List.filterMap_map, enums, variants, ← List.map_filterMap,
        ← List.map_filterMap] at whole
      exact whole

end Grammar

/-- A text declares the same things in every file. -/
theorem Module.ofText_relocated {file : Path} {text : String} {module : Module}
    (read : ofText file text = .ok module) (other : Path) :
    ofText other text = .ok (module.relocated other.toString) := by
  unfold ofText at read ⊢
  cases lexed : Token.ofText text with
  | error fault =>
      rw [lexed] at read
      cases read
  | ok tokens =>
      rw [lexed] at read
      obtain ⟨consumed, written, passes, atEnd⟩ := Parser.answers_module_iff.mp ⟨read, rfl⟩
      exact (Parser.answers_module_iff.mpr
        ⟨consumed, written.relocated other.toString, passes, atEnd⟩).1

/-! ## Rules -/

@[simp]
theorem ValueEnum.typeName_relocated (valueEnum : ValueEnum) :
    (valueEnum.relocated file).typeName = valueEnum.typeName := rfl

@[simp]
theorem VariantsDeclaration.caseClassName_relocated (declaration : VariantsDeclaration)
    (variant : String) :
    (declaration.relocated file).caseClassName variant = declaration.caseClassName variant := rfl

@[simp]
theorem VariantsDeclaration.sharedBlock_relocated (declaration : VariantsDeclaration) :
    (declaration.relocated file).sharedBlock =
      declaration.sharedBlock.map (Definition.relocated file) := by
  unfold sharedBlock
  cases same : declaration.shared <;> simp [same]

theorem ValueEnum.WellFormed.relocated (file : String) {valueEnum : ValueEnum}
    (rules : valueEnum.WellFormed) : (valueEnum.relocated file).WellFormed where
  hasCase := by simpa using rules.hasCase
  caseNamesDiffer := by simpa [Function.comp_def] using rules.caseNamesDiffer
  literalsDiffer := by simpa [Function.comp_def] using rules.literalsDiffer
  typeNameUsable := rules.typeNameUsable
  caseNamesUsable := by simpa using rules.caseNamesUsable
  caseNamesFree := by simpa using rules.caseNamesFree

theorem Variant.Body.WellFormed.relocated (file : String) {module : Module}
    {shared : List Definition} {body : Variant.Body} (rules : body.WellFormed module shared) :
    (body.relocated file).WellFormed (module.relocated file)
      (shared.map (Definition.relocated file)) := by
  cases body with
  | hardcoded definitions =>
      have rules : Variant.HardcodedWellFormed shared definitions := rules
      exact ⟨by simpa [Function.comp_def] using rules.keysDiffer, by simpa using rules.kindsAgree⟩
  | crossProduct references =>
      have rules : Variant.CrossProductWellFormed module shared references := rules
      refine ⟨?_, rules.referencesDiffer, by simpa using rules.sharedKeysFree,
        rules.fieldsDiffer, rules.fieldsUsable, rules.fieldsFree⟩
      intro reference member
      obtain ⟨valueEnum, declared, named⟩ := rules.resolved reference member
      exact ⟨valueEnum.relocated file, List.mem_map_of_mem declared, named⟩

theorem VariantsDeclaration.WellFormed.relocated (file : String) {module : Module}
    {declaration : VariantsDeclaration} (rules : declaration.WellFormed module) :
    (declaration.relocated file).WellFormed (module.relocated file) where
  nameUsable := rules.nameUsable
  sharedKeysDiffer := by simpa [Function.comp_def] using rules.sharedKeysDiffer
  variantNamesDiffer := by simpa [Function.comp_def] using rules.variantNamesDiffer
  variantNamesUsable := by simpa using rules.variantNamesUsable
  variantNamesFree := by simpa using rules.variantNamesFree
  bodies := by
    intro moved inside
    rw [relocated_variants, List.mem_map] at inside
    obtain ⟨variant, member, rfl⟩ := inside
    rw [sharedBlock_relocated]
    exact (rules.bodies variant member).relocated file

namespace Module

theorem declarationClassNames_relocated (declaration : VariantsDeclaration) :
    declarationClassNames (declaration.relocated file) = declarationClassNames declaration := by
  simp [declarationClassNames, Function.comp_def]

theorem classNames_relocated (module : Module) :
    (module.relocated file).classNames = module.classNames := by
  simp [classNames, List.flatMap_map, declarationClassNames_relocated, Function.comp_def]

theorem WellFormed.relocated (file : String) {module : Module} (rules : module.WellFormed) :
    (module.relocated file).WellFormed where
  enumNamesDiffer := by simpa [Function.comp_def] using rules.enumNamesDiffer
  valueEnums := by
    simpa using fun valueEnum member => (rules.valueEnums valueEnum member).relocated file
  declarationNamesDiffer := by simpa [Function.comp_def] using rules.declarationNamesDiffer
  declarations := by
    simpa using fun declaration member => (rules.declarations declaration member).relocated file
  classNamesDiffer := by
    rw [classNames_relocated]
    exact rules.classNamesDiffer
  classNamesFree := by
    rw [classNames_relocated]
    exact rules.classNamesFree

theorem warnings_relocated (module : Module) :
    (module.relocated file).warnings = module.warnings := by
  unfold warnings
  rw [relocated_declarations, List.flatMap_map]
  congr 1
  funext declaration
  simp [VariantsDeclaration.warnings]

/-! ## References and cases -/

theorem valueEnum?_relocated (module : Module) (reference : String) :
    (module.relocated file).valueEnum? reference =
      (module.valueEnum? reference).map (ValueEnum.relocated file) :=
  List.find?_map

theorem resolve_relocated (module : Module) (variant : String) (references : List String) :
    (module.relocated file).resolve variant references =
      List.map (ValueEnum.relocated file) <$> module.resolve variant references := by
  induction references with
  | nil => rfl
  | cons reference references ih =>
      rw [resolve, resolve, valueEnum?_relocated, ih]
      cases module.valueEnum? reference with
      | none => rfl
      | some valueEnum => cases module.resolve variant references <;> rfl

theorem variantCount_relocated (module : Module) (variant : Variant) :
    (module.relocated file).variantCount (variant.relocated file) =
      module.variantCount variant := by
  unfold variantCount
  cases same : variant.body with
  | hardcoded definitions => simp [same, Variant.Body.relocated]
  | crossProduct references =>
      simp only [Variant.relocated_body, same, Variant.Body.relocated, Variant.relocated_name,
        resolve_relocated]
      cases module.resolve variant.name references with
      | error error => rfl
      | ok valueEnums =>
          simp [Functor.map, Except.map, bind, Except.bind, pure, Except.pure, Function.comp_def]

theorem caseCount_relocated (module : Module) (declaration : VariantsDeclaration) :
    (module.relocated file).caseCount (declaration.relocated file) =
      module.caseCount declaration := by
  unfold caseCount
  rw [VariantsDeclaration.relocated_variants, List.mapM_map]
  congr 2
  funext variant
  exact module.variantCount_relocated variant

end Module

@[simp]
theorem Selection.shown_relocated (selection : Selection) :
    (selection.relocated file).shown = selection.shown := rfl

@[simp]
theorem Selection.definition_relocated (selection : Selection) :
    (selection.relocated file).definition = selection.definition := rfl

namespace Combination

@[simp]
theorem overrides_relocated (combination : Combination) :
    (combination.relocated file).overrides = combination.overrides := by
  simp [overrides, Function.comp_def]

theorem select_relocated (valueEnums : List ValueEnum) (digits : List Nat) :
    select (valueEnums.map (ValueEnum.relocated file)) digits =
      (select valueEnums digits).map (List.map (Selection.relocated file)) := by
  induction valueEnums generalizing digits with
  | nil => cases digits <;> rfl
  | cons valueEnum valueEnums ih =>
      cases digits with
      | nil => rfl
      | cons digit digits =>
          simp only [List.map_cons, select, ValueEnum.relocated_cases, List.getElem?_map, ih]
          cases valueEnum.cases[digit]? with
          | none => rfl
          | some case => cases select valueEnums digits <;> rfl

theorem ofRow_relocated (valueEnums : List ValueEnum) (row : List Nat × Nat) :
    ofRow (valueEnums.map (ValueEnum.relocated file)) row =
      (ofRow valueEnums row).map (Combination.relocated file) := by
  unfold ofRow
  rw [select_relocated]
  cases select valueEnums row.1 <;> rfl

theorem rows_relocated (valueEnums : List ValueEnum) :
    rows (valueEnums.map (ValueEnum.relocated file)) = rows valueEnums := by
  simp [rows, Function.comp_def]

end Combination

theorem VariantsDeclaration.sharedDefinitions_relocated (declaration : VariantsDeclaration) :
    (declaration.relocated file).sharedDefinitions = declaration.sharedDefinitions := by
  simp [sharedDefinitions, Definition.toMap, Function.comp_def]

/-! ## Emission -/

/-- All that an anchor shows of a file is its last name. -/
theorem Location.anchor_relocated {file other : String}
    (sameName : (Path.ofString file).fileName = (Path.ofString other).fileName)
    (location : Location) :
    (location.relocated file).anchor = (location.relocated other).anchor := by
  simp [anchor, sameName]

namespace Generated

theorem caseKey_relocated (declaration : VariantsDeclaration) (case : ResolvedCase) :
    caseKey (declaration.relocated file) (case.relocated file) = caseKey declaration case := by
  simp [caseKey, Function.comp_def]

theorem caseClass_relocated (module : ShaderVariants.Module) (declaration : VariantsDeclaration)
    (variant : Variant) :
    caseClass (module.relocated file) (declaration.relocated file) (variant.relocated file) =
      caseClass module declaration variant := by
  unfold caseClass
  cases same : variant.body with
  | hardcoded definitions => simp [same, Variant.Body.relocated]
  | crossProduct references =>
      simp only [Variant.relocated_body, same, Variant.Body.relocated, Variant.relocated_name,
        Module.resolve_relocated]
      cases module.resolve variant.name references with
      | error error => rfl
      | ok valueEnums =>
          simp [Functor.map, Except.map, bind, Except.bind, pure, Except.pure, Function.comp_def,
            ValueEnum.fieldName]

theorem checkTotal_relocated (module : ShaderVariants.Module) (resolved : ResolvedDeclaration) :
    checkTotal (module.relocated file) (resolved.relocated file) =
      checkTotal module resolved := by
  have foreign : (resolved.cases.map (ResolvedCase.relocated file)).find?
      (fun case => case.variant ∉ resolved.declaration.variants.map Variant.name) =
        (resolved.cases.find? fun case =>
          case.variant ∉ resolved.declaration.variants.map Variant.name).map
            (ResolvedCase.relocated file) := List.find?_map
  have names : (resolved.declaration.variants.map (Variant.relocated file)).map Variant.name =
      resolved.declaration.variants.map Variant.name := by
    simp [Function.comp_def]
  have keys : (resolved.cases.map (ResolvedCase.relocated file)).map (fun case =>
      (caseKey (resolved.declaration.relocated file) case).text) =
        resolved.cases.map fun case => (caseKey resolved.declaration case).text := by
    simp [Function.comp_def, caseKey_relocated]
  unfold checkTotal
  simp only [ResolvedDeclaration.relocated_declaration, ResolvedDeclaration.relocated_cases,
    Module.caseCount_relocated, List.length_map, keys, VariantsDeclaration.relocated_name,
    VariantsDeclaration.relocated_variants, names, foreign]
  cases resolved.cases.find? fun case =>
    case.variant ∉ resolved.declaration.variants.map Variant.name <;> rfl

variable {file other : String}
  (sameName : (Path.ofString file).fileName = (Path.ofString other).fileName)

include sameName

theorem declaredAt_relocated (location : Option Location) :
    (location.map (Location.relocated file)).map Location.anchor =
      (location.map (Location.relocated other)).map Location.anchor := by
  cases location with
  | none => rfl
  | some location => exact congrArg some (location.anchor_relocated sameName)

theorem enumClass_relocated (valueEnum : ValueEnum) :
    enumClass (valueEnum.relocated file) = enumClass (valueEnum.relocated other) := by
  simp [enumClass, declaredAt_relocated sameName, Function.comp_def]

theorem family_relocated (module : ShaderVariants.Module) (resolved : ResolvedDeclaration) :
    family (module.relocated file) (resolved.relocated file) =
      family (module.relocated other) (resolved.relocated other) := by
  have classes (file : String) : (resolved.declaration.relocated file).variants.mapM
      (caseClass (module.relocated file) (resolved.declaration.relocated file)) =
        resolved.declaration.variants.mapM (caseClass module resolved.declaration) := by
    rw [VariantsDeclaration.relocated_variants, List.mapM_map]
    congr 1
    funext variant
    exact caseClass_relocated module resolved.declaration variant
  have sources (file : String) : (resolved.relocated file).cases.map (fun case =>
      (caseKey (resolved.declaration.relocated file) case, case.source)) =
        resolved.cases.map fun case => (caseKey resolved.declaration case, case.source) := by
    simp [Function.comp_def, caseKey_relocated]
  unfold family
  simp only [checkTotal_relocated, ResolvedDeclaration.relocated_declaration, classes, sources,
    VariantsDeclaration.relocated_location, declaredAt_relocated sameName,
    VariantsDeclaration.relocated_name, VariantsDeclaration.relocated_templatePath,
    ResolvedDeclaration.relocated_template]

omit sameName in
theorem exports_relocated (module : ShaderVariants.Module) :
    exports (module.relocated file) = exports module := by
  simp [exports, Function.comp_def, List.filter_map, List.flatMap_map]

/-- What is emitted for the same declarations in two files of one last name is the same. -/
theorem ofResolved_relocated (module : ShaderVariants.Module)
    (resolved : List ResolvedDeclaration) :
    ofResolved (module.relocated file) (resolved.map (ResolvedDeclaration.relocated file)) =
      ofResolved (module.relocated other)
        (resolved.map (ResolvedDeclaration.relocated other)) := by
  have families : (resolved.map (ResolvedDeclaration.relocated file)).mapM
      (family (module.relocated file)) =
        (resolved.map (ResolvedDeclaration.relocated other)).mapM
          (family (module.relocated other)) := by
    rw [List.mapM_map, List.mapM_map]
    congr 1
    funext one
    exact family_relocated sameName module one
  have classes : (module.relocated file).valueEnums.map enumClass =
      (module.relocated other).valueEnums.map enumClass := by
    simp [enumClass_relocated sameName, Function.comp_def]
  unfold ofResolved
  rw [families, classes, exports_relocated, exports_relocated, Module.relocated_file,
    Module.relocated_file, sameName]

end Generated

end ShaderVariants
