import ShaderVariants.Proofs.Acceptance
import ShaderVariants.Proofs.CaseProduct

/-!
# Cases of variants

Which cases a variants declaration stands for, without odometers and bridges: a hardcoded variant
is one case, a cross product is one case per choice.  In a module that follows the rules every
reference leads to a value enum, and the number of cases that the emitter expects is the number
of these.
-/

namespace ShaderVariants

theorem Definition.entries_toMap {definitions : List Definition}
    (distinct : (definitions.map Definition.key).Nodup) :
    (toMap definitions).entries =
      definitions.map fun definition => (definition.key, definition.value) := by
  apply OrderedMap.entries_ofList
  rw [List.map_map]
  exact distinct

/-- A variant with the cases that it selects. -/
structure VariantCase where
  variant : Variant
  selections : List Selection

namespace VariantCase

/-- The definitions that the case sets itself. -/
def ownDefinitions (concrete : VariantCase) : List (String × Scalar) :=
  match concrete.variant.body with
  | .hardcoded definitions => definitions.map fun definition => (definition.key, definition.value)
  | .crossProduct _ => concrete.selections.map Selection.definition

/-- The shared definitions, overridden by those of the case. -/
def definitions (concrete : VariantCase) (declaration : VariantsDeclaration) : Definitions :=
  declaration.sharedDefinitions.setAll concrete.ownDefinitions

end VariantCase

/-- A case with its number among those of its variant.  The case of a hardcoded variant has none. -/
structure NumberedCase extends VariantCase where
  index : Option Nat

namespace Module

/-- The value enums that some references lead to. -/
def referenced (module : Module) (references : List String) : List ValueEnum :=
  references.filterMap module.valueEnum?

/-- The cases of a variant. -/
def casesOfVariant (module : Module) (variant : Variant) : List VariantCase :=
  match variant.body with
  | .hardcoded _ => [⟨variant, []⟩]
  | .crossProduct references =>
    (Selection.choices (module.referenced references)).map (VariantCase.mk variant)

/-- The cases of a declaration: those of its variants, in order. -/
def casesOfDeclaration (module : Module) (declaration : VariantsDeclaration) : List VariantCase :=
  declaration.variants.flatMap module.casesOfVariant

/-- The cases of a variant, those of a cross product numbered from zero. -/
def numberedCases (module : Module) (variant : Variant) : List NumberedCase :=
  match variant.body with
  | .hardcoded _ => [⟨⟨variant, []⟩, none⟩]
  | .crossProduct references =>
    (Selection.choices (module.referenced references)).zipIdx.map fun (selections, index) =>
      ⟨⟨variant, selections⟩, some index⟩

theorem map_toVariantCase_numberedCases (module : Module) (variant : Variant) :
    (module.numberedCases variant).map NumberedCase.toVariantCase =
      module.casesOfVariant variant := by
  unfold numberedCases casesOfVariant
  cases variant.body with
  | hardcoded definitions => rfl
  | crossProduct references =>
      dsimp only
      rw [List.map_map]
      calc
        _ = (Selection.choices (module.referenced references)).zipIdx.map
            (VariantCase.mk variant ∘ Prod.fst) := rfl
        _ = _ := by rw [← List.map_map, List.zipIdx_map_fst]

theorem map_toVariantCase_flatMap (module : Module) (declaration : VariantsDeclaration) :
    (declaration.variants.flatMap module.numberedCases).map NumberedCase.toVariantCase =
      module.casesOfDeclaration declaration := by
  rw [List.map_flatMap, casesOfDeclaration]
  simp only [map_toVariantCase_numberedCases]

theorem variant_of_mem_casesOfVariant {module : Module} {variant : Variant}
    {concrete : VariantCase} (member : concrete ∈ module.casesOfVariant variant) :
    concrete.variant = variant := by
  unfold casesOfVariant at member
  cases body : variant.body with
  | hardcoded definitions =>
      rw [body] at member
      rw [List.mem_singleton.mp member]
  | crossProduct references =>
      rw [body] at member
      obtain ⟨selections, -, rfl⟩ := List.mem_map.mp member
      rfl

theorem mem_casesOfDeclaration {module : Module} {declaration : VariantsDeclaration}
    {concrete : VariantCase} :
    concrete ∈ module.casesOfDeclaration declaration ↔
      concrete.variant ∈ declaration.variants ∧
        concrete ∈ module.casesOfVariant concrete.variant := by
  rw [casesOfDeclaration, List.mem_flatMap]
  constructor
  · intro listed
    obtain ⟨variant, inside, member⟩ := listed
    have same := variant_of_mem_casesOfVariant member
    rw [same]
    exact ⟨inside, member⟩
  · intro listed
    obtain ⟨inside, member⟩ := listed
    exact ⟨concrete.variant, inside, member⟩

/-- The value enums that each concrete case of one variant selects from. -/
def selectedFrom (module : Module) (variant : Variant) : List ValueEnum :=
  match variant.body with
  | .hardcoded _ => []
  | .crossProduct references => module.referenced references

theorem casesOfVariant_eq_choices (module : Module) (variant : Variant) :
    module.casesOfVariant variant =
      (Selection.choices (module.selectedFrom variant)).map (VariantCase.mk variant) := by
  unfold casesOfVariant selectedFrom
  cases variant.body <;> rfl

theorem mem_valueEnums_of_mem_referenced {module : Module} {references : List String}
    {valueEnum : ValueEnum} (member : valueEnum ∈ module.referenced references) :
    valueEnum ∈ module.valueEnums ∧ valueEnum.typeName ∈ references := by
  obtain ⟨reference, inside, found⟩ := List.mem_filterMap.mp member
  obtain ⟨present, sameName⟩ := mem_of_valueEnum? found
  exact ⟨present, sameName ▸ inside⟩

theorem mem_valueEnums_of_mem_selectedFrom {module : Module} {variant : Variant}
    {valueEnum : ValueEnum} (member : valueEnum ∈ module.selectedFrom variant) :
    valueEnum ∈ module.valueEnums := by
  unfold selectedFrom at member
  cases body : variant.body with
  | hardcoded definitions =>
      rw [body] at member
      cases member
  | crossProduct references =>
      rw [body] at member
      exact (mem_valueEnums_of_mem_referenced member).1

/-! ## References -/

/-- Every reference leads to a value enum. -/
def Resolves (module : Module) (references : List String) : Prop :=
  ∀ reference ∈ references, ∃ valueEnum, module.valueEnum? reference = some valueEnum

theorem WellFormed.resolves {module : Module} (rules : module.WellFormed)
    {declaration : VariantsDeclaration} (declared : declaration ∈ module.declarations)
    {variant : Variant} (inside : variant ∈ declaration.variants) {references : List String}
    (body : variant.body = .crossProduct references) : module.Resolves references := by
  have bodyRules := (rules.declarations declaration declared).bodies variant inside
  rw [body] at bodyRules
  intro reference member
  obtain ⟨valueEnum, present, rfl⟩ := Variant.CrossProductWellFormed.resolved bodyRules _ member
  exact ⟨valueEnum, valueEnum?_typeName rules.typeNamesDiffer present⟩

theorem resolve_eq_referenced {module : Module} {references : List String}
    (resolves : module.Resolves references) (variant : String) :
    module.resolve variant references = .ok (module.referenced references) := by
  induction references with
  | nil => rfl
  | cons reference references ih =>
      obtain ⟨valueEnum, found⟩ := resolves reference (by simp)
      have others := ih fun other member => resolves other (List.mem_cons_of_mem _ member)
      rw [resolve, found]
      simp only [others, referenced, List.filterMap_cons, found]
      rfl

theorem map_typeName_referenced {module : Module} {references : List String}
    (resolves : module.Resolves references) :
    (module.referenced references).map ValueEnum.typeName = references := by
  induction references with
  | nil => rfl
  | cons reference references ih =>
      obtain ⟨valueEnum, found⟩ := resolves reference (by simp)
      have others := ih fun other member => resolves other (List.mem_cons_of_mem _ member)
      rw [referenced] at others ⊢
      simp [found, others, (mem_of_valueEnum? found).2]

/-- The value enums of one cross product bear different names. -/
theorem WellFormed.nodup_names_referenced {module : Module} (rules : module.WellFormed)
    {declaration : VariantsDeclaration} (declared : declaration ∈ module.declarations)
    {variant : Variant} (inside : variant ∈ declaration.variants) {references : List String}
    (body : variant.body = .crossProduct references) :
    ((module.referenced references).map ValueEnum.name).Nodup := by
  have bodyRules := (rules.declarations declaration declared).bodies variant inside
  rw [body] at bodyRules
  have distinct := Variant.CrossProductWellFormed.referencesDiffer bodyRules
  rw [← map_typeName_referenced (rules.resolves declared inside body)] at distinct
  refine Repetition.nodup_map_of_reflects distinct ?_
  intro first inside second inside' sameName
  have same := List.inj_on_of_nodup_map rules.enumNamesDiffer
    (mem_valueEnums_of_mem_referenced inside).1 (mem_valueEnums_of_mem_referenced inside').1
    sameName
  rw [same]

theorem WellFormed.nodup_cases {module : Module} (rules : module.WellFormed)
    {valueEnum : ValueEnum} (present : valueEnum ∈ module.valueEnums) : valueEnum.cases.Nodup :=
  List.Nodup.of_map _ (rules.valueEnums valueEnum present).caseNamesDiffer

/-! ## Numbers of cases -/

theorem length_casesOfVariant (module : Module) (variant : Variant) :
    (module.casesOfVariant variant).length =
      ((module.selectedFrom variant).map fun valueEnum => valueEnum.cases.length).prod := by
  rw [casesOfVariant_eq_choices, List.length_map, Selection.length_choices]

theorem WellFormed.variantCount_eq {module : Module} (rules : module.WellFormed)
    {declaration : VariantsDeclaration} (declared : declaration ∈ module.declarations)
    {variant : Variant} (inside : variant ∈ declaration.variants) :
    module.variantCount variant = .ok (module.casesOfVariant variant).length := by
  rw [length_casesOfVariant]
  unfold variantCount selectedFrom
  cases body : variant.body with
  | hardcoded definitions => rfl
  | crossProduct references =>
      simp only [resolve_eq_referenced (rules.resolves declared inside body)]
      rw [← Odometer.total_ofBases]
      rfl

end Module

/-- Computations that all succeed, one after the other. -/
theorem mapM_eq_ok {ε α β : Type} {action : α → Except ε β} {value : α → β} {items : List α}
    (each : ∀ item ∈ items, action item = .ok (value item)) :
    items.mapM action = .ok (items.map value) := by
  induction items with
  | nil => rfl
  | cons item items ih =>
      have others := ih fun other member => each other (List.mem_cons_of_mem _ member)
      rw [List.mapM_cons, each item (by simp), others]
      rfl

/-- Computations of which one fails, one after the other. -/
theorem mapM_eq_error_of_mem {ε α β : Type} {action : α → Except ε β} {items : List α} {item : α}
    (member : item ∈ items) {error : ε} (fails : action item = .error error) :
    ∃ first, items.mapM action = .error first := by
  induction items with
  | nil => cases member
  | cons head items ih =>
      rw [List.mapM_cons]
      cases here : action head with
      | error first => exact ⟨first, rfl⟩
      | ok value =>
          rcases List.mem_cons.mp member with rfl | later
          · rw [here] at fails
            cases fails
          · obtain ⟨first, behind⟩ := ih later
            exact ⟨first, by rw [behind]; rfl⟩

theorem Module.WellFormed.caseCount_eq {module : Module} (rules : module.WellFormed)
    {declaration : VariantsDeclaration} (declared : declaration ∈ module.declarations) :
    module.caseCount declaration = .ok (module.casesOfDeclaration declaration).length := by
  have counts := mapM_eq_ok fun variant inside => rules.variantCount_eq declared inside
  unfold Module.caseCount Module.casesOfDeclaration
  rw [counts, List.length_flatMap]
  rfl

end ShaderVariants
