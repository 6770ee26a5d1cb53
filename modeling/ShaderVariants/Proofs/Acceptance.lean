import Mathlib.Data.List.Nodup
import ShaderVariants.Proofs.ModuleRules
import ShaderVariants.Proofs.OrderedMap
import ShaderVariants.Proofs.Repetition
import ShaderVariants.Proofs.UsableName

/-!
# Accepted modules

No pass finds an issue exactly when the module follows the rules.  Each pass gets an equivalence of
its own first.  Two of them need help from the others: a reference leads to the one value enum of
its type name because class names differ, and equal class names of one owner go back to declared
names that are repeated.
-/

namespace ShaderVariants

open Repetition (firsts repeated repeated_eq_nil_iff)

/-! ## Value enums -/

namespace ValueEnum

theorem emptinessIssues_eq_nil_iff (valueEnum : ValueEnum) :
    valueEnum.emptinessIssues = [] ↔ valueEnum.cases ≠ [] := by
  unfold emptinessIssues
  cases valueEnum.cases <;> simp

theorem repeatedCaseIssues_eq_nil_iff (valueEnum : ValueEnum) :
    valueEnum.repeatedCaseIssues = [] ↔ (valueEnum.cases.map Case.name).Nodup := by
  rw [repeatedCaseIssues, List.map_eq_nil_iff, repeated_eq_nil_iff]

theorem sharedLiteralIssues_eq_nil_iff (valueEnum : ValueEnum) :
    valueEnum.sharedLiteralIssues = [] ↔
      (valueEnum.cases.map fun case => case.value.literal.number).Nodup := by
  rw [sharedLiteralIssues, List.map_eq_nil_iff, repeated_eq_nil_iff]

theorem typeNameIssues_eq_nil_iff (valueEnum : ValueEnum) :
    valueEnum.typeNameIssues = [] ↔ Name.Usable valueEnum.typeName := by
  unfold typeNameIssues Name.Usable
  cases Name.problem? valueEnum.typeName <;> simp

theorem caseNameIssues_eq_nil_iff (valueEnum : ValueEnum) (case : Case) :
    valueEnum.caseNameIssues case = [] ↔
      Name.Usable case.name ∧ case.name ∉ generatedMembers := by
  unfold caseNameIssues Name.Usable
  cases Name.problem? case.name <;> simp

theorem issues_eq_nil_iff (valueEnum : ValueEnum) :
    valueEnum.issues = [] ↔ valueEnum.WellFormed := by
  simp only [issues, List.append_eq_nil_iff, emptinessIssues_eq_nil_iff,
    repeatedCaseIssues_eq_nil_iff, sharedLiteralIssues_eq_nil_iff, typeNameIssues_eq_nil_iff,
    List.flatMap_eq_nil_iff, caseNameIssues_eq_nil_iff]
  constructor
  · intro rules
    obtain ⟨⟨⟨⟨hasCase, names⟩, literals⟩, typeName⟩, caseNames⟩ := rules
    exact ⟨hasCase, names, literals, typeName, fun case member => (caseNames case member).1,
      fun case member => (caseNames case member).2⟩
  · intro rules
    exact ⟨⟨⟨⟨rules.hasCase, rules.caseNamesDiffer⟩, rules.literalsDiffer⟩,
      rules.typeNameUsable⟩,
      fun case member => ⟨rules.caseNamesUsable case member, rules.caseNamesFree case member⟩⟩

end ValueEnum

/-! ## Variants declarations -/

namespace Module

theorem mem_of_valueEnum? {module : Module} {reference : String} {valueEnum : ValueEnum}
    (found : module.valueEnum? reference = some valueEnum) :
    valueEnum ∈ module.valueEnums ∧ valueEnum.typeName = reference := by
  refine ⟨List.mem_of_find?_eq_some found, ?_⟩
  have matching := List.find?_some found
  simpa using matching

/-- Where type names differ, the first value enum of a type name is the only one. -/
theorem valueEnum?_typeName {module : Module}
    (distinct : (module.valueEnums.map ValueEnum.typeName).Nodup) {valueEnum : ValueEnum}
    (member : valueEnum ∈ module.valueEnums) :
    module.valueEnum? valueEnum.typeName = some valueEnum := by
  simpa only [valueEnum?, Bool.beq_eq_decide_eq] using
    Repetition.find?_of_nodup_map distinct member

end Module

namespace VariantsDeclaration

theorem sharedKind?_eq_none_iff (declaration : VariantsDeclaration) (key : String) :
    declaration.sharedKind? key = none ↔
      ∀ definition ∈ declaration.sharedBlock, definition.key ≠ key := by
  simp [sharedKind?, sharedDefinitions, Definition.toMap, OrderedMap.get?_ofList,
    OrderedMap.lastValue?_eq_none_iff]

/-- Where shared keys differ, the kind of a shared key is that of its definition. -/
theorem sharedKind?_key {declaration : VariantsDeclaration}
    (distinct : (declaration.sharedBlock.map Definition.key).Nodup) {definition : Definition}
    (member : definition ∈ declaration.sharedBlock) :
    declaration.sharedKind? definition.key = some definition.value.kind := by
  have keys : ((declaration.sharedBlock.map fun definition =>
      (definition.key, definition.value)).map Prod.fst).Nodup := by
    simpa [Function.comp_def] using distinct
  have value := OrderedMap.lastValue?_of_mem keys
    (List.mem_map.mpr ⟨definition, member, rfl⟩)
  simp [sharedKind?, sharedDefinitions, Definition.toMap, OrderedMap.get?_ofList, value]

theorem nameIssues_eq_nil_iff (declaration : VariantsDeclaration) :
    declaration.nameIssues = [] ↔ Name.Usable declaration.name := by
  unfold nameIssues Name.Usable
  cases Name.problem? declaration.name <;> simp

theorem repeatedDefinitionIssues_eq_nil_iff (declaration : VariantsDeclaration) (variant : String)
    (definitions : List Definition) :
    declaration.repeatedDefinitionIssues variant definitions = [] ↔
      (definitions.map Definition.key).Nodup := by
  rw [repeatedDefinitionIssues, List.map_eq_nil_iff, repeated_eq_nil_iff]

theorem repeatedVariantIssues_eq_nil_iff (declaration : VariantsDeclaration) :
    declaration.repeatedVariantIssues = [] ↔ (declaration.variants.map Variant.name).Nodup := by
  rw [repeatedVariantIssues, List.map_eq_nil_iff, repeated_eq_nil_iff]

theorem variantNameIssues_eq_nil_iff (declaration : VariantsDeclaration) (variant : Variant) :
    declaration.variantNameIssues variant = [] ↔
      Name.Usable variant.name ∧ variant.name ∉ generatedMembers := by
  unfold variantNameIssues Name.Usable
  cases Name.problem? variant.name <;> simp

theorem fieldProblem?_eq_none_iff (field : String) :
    fieldProblem? field = none ↔ Name.Usable field ∧ field ∉ generatedMembers := by
  unfold fieldProblem? Name.Usable
  cases Name.problem? field <;> simp

theorem kindIssues_eq_nil_iff {declaration : VariantsDeclaration}
    (distinct : (declaration.sharedBlock.map Definition.key).Nodup) (variant : Variant)
    (definition : Definition) :
    declaration.kindIssues variant definition = [] ↔
      ∀ base ∈ declaration.sharedBlock, base.key = definition.key →
        base.value.kind = definition.value.kind := by
  constructor
  · intro noIssue base member sameKey
    have kind := sharedKind?_key distinct member
    rw [sameKey] at kind
    simpa [kindIssues, kind] using noIssue
  · intro agree
    unfold kindIssues
    cases kind : declaration.sharedKind? definition.key with
    | none => rfl
    | some shared =>
        obtain ⟨base, member, sameKey⟩ :
            ∃ base ∈ declaration.sharedBlock, base.key = definition.key := by
          by_contra absent
          have unknown := (sharedKind?_eq_none_iff declaration definition.key).mpr
            (by simpa using absent)
          rw [kind] at unknown
          cases unknown
        have baseKind := sharedKind?_key distinct member
        rw [sameKey, kind] at baseKind
        have same : shared = definition.value.kind :=
          (Option.some.inj baseKind).trans (agree base member sameKey)
        simp [same]

theorem referenceIssues_eq_nil_iff (module : Module) (declaration : VariantsDeclaration)
    (variant : Variant) (reference : String) :
    referenceIssues module declaration variant reference = [] ↔
      ∃ valueEnum, module.valueEnum? reference = some valueEnum ∧
        (Name.Usable valueEnum.fieldName ∧ valueEnum.fieldName ∉ generatedMembers) ∧
        ∀ definition ∈ declaration.sharedBlock, definition.key ≠ valueEnum.name := by
  unfold referenceIssues
  cases module.valueEnum? reference with
  | none => simp
  | some valueEnum =>
      simp only [Option.some.injEq, exists_eq_left']
      rw [← fieldProblem?_eq_none_iff, ← sharedKind?_eq_none_iff]
      cases fieldProblem? valueEnum.fieldName <;>
        cases declaration.sharedKind? valueEnum.name <;> simp

theorem fields_of_resolved {module : Module} {references : List String}
    (resolved : ∀ reference ∈ references,
      ∃ valueEnum, module.valueEnum? reference = some valueEnum) :
    (references.filterMap module.valueEnum?).map ValueEnum.fieldName =
      references.map Name.toSnakeCase := by
  induction references with
  | nil => rfl
  | cons reference references ih =>
      obtain ⟨valueEnum, found⟩ := resolved reference (by simp)
      have others := ih fun other member => resolved other (List.mem_cons_of_mem _ member)
      have sameName := (Module.mem_of_valueEnum? found).2
      simp [found, others, ValueEnum.fieldName, sameName]

theorem crossProductIssues_eq_nil_iff {module : Module} {declaration : VariantsDeclaration}
    (distinct : (module.valueEnums.map ValueEnum.typeName).Nodup) (variant : Variant)
    (references : List String) :
    crossProductIssues module declaration variant references = [] ↔
      Variant.CrossProductWellFormed module declaration.sharedBlock references := by
  simp only [crossProductIssues, List.append_eq_nil_iff, List.map_eq_nil_iff,
    repeated_eq_nil_iff, List.map_id, List.flatMap_eq_nil_iff, referenceIssues_eq_nil_iff]
  constructor
  · intro rules
    obtain ⟨⟨referencesDiffer, sound⟩, fieldsDiffer⟩ := rules
    have resolved : ∀ reference ∈ references,
        ∃ valueEnum, module.valueEnum? reference = some valueEnum := by
      intro reference member
      obtain ⟨valueEnum, found, -⟩ := sound reference member
      exact ⟨valueEnum, found⟩
    have fields : ∀ reference ∈ references, Name.Usable (Name.toSnakeCase reference) ∧
        Name.toSnakeCase reference ∉ generatedMembers := by
      intro reference member
      obtain ⟨valueEnum, found, field, -⟩ := sound reference member
      rwa [ValueEnum.fieldName, (Module.mem_of_valueEnum? found).2] at field
    rw [fields_of_resolved resolved] at fieldsDiffer
    refine ⟨?_, referencesDiffer, ?_, fieldsDiffer, fun reference member =>
      (fields reference member).1, fun reference member => (fields reference member).2⟩
    · intro reference member
      obtain ⟨valueEnum, found⟩ := resolved reference member
      exact ⟨valueEnum, Module.mem_of_valueEnum? found⟩
    · intro valueEnum inside referenced
      obtain ⟨first, found, -, free⟩ := sound valueEnum.typeName referenced
      rw [Module.valueEnum?_typeName distinct inside] at found
      cases found
      exact free
  · intro rules
    have resolved : ∀ reference ∈ references,
        ∃ valueEnum, module.valueEnum? reference = some valueEnum := by
      intro reference member
      obtain ⟨valueEnum, inside, rfl⟩ := rules.resolved reference member
      exact ⟨valueEnum, Module.valueEnum?_typeName distinct inside⟩
    refine ⟨⟨rules.referencesDiffer, ?_⟩, ?_⟩
    · intro reference member
      obtain ⟨valueEnum, found⟩ := resolved reference member
      obtain ⟨inside, sameName⟩ := Module.mem_of_valueEnum? found
      subst sameName
      exact ⟨valueEnum, found,
        ⟨rules.fieldsUsable _ member, rules.fieldsFree _ member⟩,
        rules.sharedKeysFree valueEnum inside member⟩
    · rw [fields_of_resolved resolved]
      exact rules.fieldsDiffer

theorem variantIssues_eq_nil_iff {module : Module} {declaration : VariantsDeclaration}
    (distinct : (module.valueEnums.map ValueEnum.typeName).Nodup)
    (sharedDistinct : (declaration.sharedBlock.map Definition.key).Nodup) (variant : Variant) :
    variantIssues module declaration variant = [] ↔
      (Name.Usable variant.name ∧ variant.name ∉ generatedMembers) ∧
        variant.body.WellFormed module declaration.sharedBlock := by
  unfold variantIssues Variant.Body.WellFormed
  rw [List.append_eq_nil_iff, variantNameIssues_eq_nil_iff]
  cases variant.body with
  | crossProduct references => simp only [crossProductIssues_eq_nil_iff distinct]
  | hardcoded definitions =>
      simp only [List.append_eq_nil_iff, repeatedDefinitionIssues_eq_nil_iff,
        List.flatMap_eq_nil_iff, kindIssues_eq_nil_iff sharedDistinct]
      constructor
      · intro rules
        obtain ⟨name, keysDiffer, kindsAgree⟩ := rules
        exact ⟨name, keysDiffer, kindsAgree⟩
      · intro rules
        obtain ⟨name, rules⟩ := rules
        exact ⟨name, rules.keysDiffer, rules.kindsAgree⟩

theorem issues_eq_nil_iff {module : Module} (declaration : VariantsDeclaration)
    (distinct : (module.valueEnums.map ValueEnum.typeName).Nodup) :
    issues module declaration = [] ↔ declaration.WellFormed module := by
  simp only [issues, List.append_eq_nil_iff, nameIssues_eq_nil_iff,
    repeatedDefinitionIssues_eq_nil_iff, repeatedVariantIssues_eq_nil_iff,
    List.flatMap_eq_nil_iff]
  constructor
  · intro rules
    obtain ⟨⟨⟨name, sharedKeys⟩, variantNames⟩, variants⟩ := rules
    have rules : ∀ variant ∈ declaration.variants, _ := fun variant member =>
      (variantIssues_eq_nil_iff distinct sharedKeys variant).mp (variants variant member)
    exact ⟨name, sharedKeys, variantNames, fun variant member => (rules variant member).1.1,
      fun variant member => (rules variant member).1.2,
      fun variant member => (rules variant member).2⟩
  · intro rules
    refine ⟨⟨⟨rules.nameUsable, rules.sharedKeysDiffer⟩, rules.variantNamesDiffer⟩, ?_⟩
    intro variant member
    exact (variantIssues_eq_nil_iff distinct rules.sharedKeysDiffer variant).mpr
      ⟨⟨rules.variantNamesUsable variant member, rules.variantNamesFree variant member⟩,
        rules.bodies variant member⟩

end VariantsDeclaration

/-! ## Class names -/

namespace Module

/-- The owners of all items but the first one of a name are the owner of that first one exactly
when one owner has the name. -/
theorem generatedNameIssues_eq_nil_iff {names : List GeneratedName} {first : GeneratedName}
    (leading : first ∈ firsts GeneratedName.name names) :
    generatedNameIssues names first = [] ↔
      ¬(first.name ∈ Name.reserved ∧ Name.Usable first.name) ∧
        ∀ other ∈ names, other.name = first.name → other.owner = first.owner := by
  obtain ⟨others, bearers⟩ : ∃ others,
      names.filter (fun other => other.name = first.name) = first :: others := by
    have front : (names.filter fun other => other.name = first.name).head? = some first := by
      rw [List.head?_filter]
      exact Repetition.find?_of_mem_firsts leading
    cases bearers : names.filter (fun other => other.name = first.name) with
    | nil => simp [bearers] at front
    | cons head others =>
        rw [bearers, List.head?_cons, Option.some.injEq] at front
        exact ⟨others, by rw [front]⟩
  have sameOwner : (∀ other ∈ names, other.name = first.name → other.owner = first.owner) ↔
      ∀ other ∈ others, other.owner = first.owner := by
    have members (other : GeneratedName) :
        other ∈ names ∧ other.name = first.name ↔ other ∈ first :: others := by
      rw [← bearers]
      simp
    constructor
    · intro same other member
      obtain ⟨inside, sameName⟩ := (members other).mpr (List.mem_cons_of_mem _ member)
      exact same other inside sameName
    · intro same other inside sameName
      rcases List.mem_cons.mp ((members other).mp ⟨inside, sameName⟩) with rfl | member
      · rfl
      · exact same other member
  rw [sameOwner]
  simp only [generatedNameIssues, bearers, List.map_cons, List.tail_cons,
    List.append_eq_nil_iff]
  refine and_congr ?_ ?_
  · split <;> simp_all
  · simp

theorem nameIssues_eq_nil_iff (module : Module) :
    module.nameIssues = [] ↔
      (∀ claimed ∈ module.generatedNames,
        claimed.name ∈ Name.reserved → ¬Name.Usable claimed.name) ∧
      ∀ claimed ∈ module.generatedNames, ∀ other ∈ module.generatedNames,
        other.name = claimed.name → other.owner = claimed.owner := by
  unfold nameIssues
  rw [List.flatMap_eq_nil_iff]
  constructor
  · intro noIssue
    have firstRules : ∀ first ∈ firsts GeneratedName.name module.generatedNames, _ :=
      fun first leading => (generatedNameIssues_eq_nil_iff leading).mp (noIssue first leading)
    constructor
    · intro claimed member reserved usable
      obtain ⟨first, leading, sameName⟩ :=
        Repetition.exists_mem_firsts GeneratedName.name member
      exact (firstRules first leading).1 ⟨sameName ▸ reserved, sameName ▸ usable⟩
    · intro claimed member other inside sameName
      obtain ⟨first, leading, firstName⟩ :=
        Repetition.exists_mem_firsts GeneratedName.name member
      have owners := (firstRules first leading).2
      rw [owners claimed member firstName.symm, owners other inside (sameName.trans firstName.symm)]
  · intro rules first leading
    obtain ⟨free, owners⟩ := rules
    have inside := Repetition.mem_of_mem_firsts leading
    exact (generatedNameIssues_eq_nil_iff leading).mpr
      ⟨fun shadowing => free first inside shadowing.1 shadowing.2,
        fun other member sameName => owners first inside other member sameName⟩

theorem map_name_generatedNames (module : Module) :
    module.generatedNames.map GeneratedName.name = module.classNames := by
  simp only [generatedNames, List.map_append, List.map_map, List.map_flatMap, List.map_cons,
    Function.comp_def]
  rfl

/-- Who bears the class names of a declaration. -/
def declarationOwners (declaration : VariantsDeclaration) : List String :=
  declaration.title :: declaration.variants.map fun variant =>
    s!"variant {declaration.name}::{variant.name}"

theorem map_owner_generatedNames (module : Module) :
    module.generatedNames.map GeneratedName.owner =
      module.valueEnums.map ValueEnum.title ++
        module.declarations.flatMap declarationOwners := by
  simp only [generatedNames, List.map_append, List.map_map, List.map_flatMap, List.map_cons,
    Function.comp_def]
  rfl

theorem toList_title_valueEnum (valueEnum : ValueEnum) :
    valueEnum.title.toList = "value_enum ".toList ++ valueEnum.name.toList := by
  exact String.toList_append

theorem name_eq_of_title_eq {first second : ValueEnum} (same : first.title = second.title) :
    first.name = second.name := by
  have letters := congrArg String.toList same
  rw [toList_title_valueEnum, toList_title_valueEnum] at letters
  exact String.toList_inj.mp (List.append_cancel_left letters)

theorem toList_title_declaration (declaration : VariantsDeclaration) :
    declaration.title.toList = "variants ".toList ++ declaration.name.toList := by
  exact String.toList_append

/-- An owner that is a variant tells the declaration and the variant apart. -/
theorem toList_variantOwner (declaration variant : String) :
    (s!"variant {declaration}::{variant}").toList =
      "variant ".toList ++ (declaration.toList ++ ':' :: ':' :: variant.toList) := by
  change ("variant " ++ declaration ++ "::" ++ variant).toList = _
  simp [String.toList_append]

theorem nodup_declarationOwners {declaration : VariantsDeclaration}
    (variantNames : (declaration.variants.map Variant.name).Nodup) :
    (declarationOwners declaration).Nodup := by
  refine List.nodup_cons.mpr ⟨?_, Repetition.nodup_map_of_reflects variantNames ?_⟩
  · intro member
    obtain ⟨variant, -, same⟩ := List.mem_map.mp member
    have letters := congrArg String.toList same
    rw [toList_variantOwner, toList_title_declaration] at letters
    simp at letters
  · intro first _ second _ same
    have letters := congrArg String.toList same
    rw [toList_variantOwner, toList_variantOwner] at letters
    simpa [String.toList_inj] using letters

/-- What a declaration owns tells its name: as a whole, or up to the first colon. -/
theorem name_eq_of_common_owner {first second : VariantsDeclaration}
    (firstUsable : Name.Usable first.name) (secondUsable : Name.Usable second.name)
    {owner : String} (ofFirst : owner ∈ declarationOwners first)
    (ofSecond : owner ∈ declarationOwners second) : first.name = second.name := by
  rw [← String.toList_inj]
  rcases List.mem_cons.mp ofFirst with rfl | firstVariant <;>
    rcases List.mem_cons.mp ofSecond with title | secondVariant
  · have letters := congrArg String.toList title
    rw [toList_title_declaration, toList_title_declaration] at letters
    exact List.append_cancel_left letters
  · obtain ⟨variant, -, same⟩ := List.mem_map.mp secondVariant
    have letters := congrArg String.toList same
    rw [toList_variantOwner, toList_title_declaration] at letters
    simp at letters
  · obtain ⟨variant, -, same⟩ := List.mem_map.mp firstVariant
    have letters := congrArg String.toList (same.trans title)
    rw [toList_variantOwner, toList_title_declaration] at letters
    simp at letters
  · obtain ⟨variant, -, same⟩ := List.mem_map.mp firstVariant
    obtain ⟨variant', -, same'⟩ := List.mem_map.mp secondVariant
    have letters := congrArg String.toList (same.trans same'.symm)
    rw [toList_variantOwner, toList_variantOwner] at letters
    exact (append_separator_inj firstUsable.colon_notMem secondUsable.colon_notMem
      (List.append_cancel_left letters)).1

/-- Where declared names differ, every class name has an owner of its own. -/
theorem nodup_owners {module : Module}
    (enumNames : (module.valueEnums.map ValueEnum.name).Nodup)
    (declarationNames : (module.declarations.map VariantsDeclaration.name).Nodup)
    (usable : ∀ declaration ∈ module.declarations, Name.Usable declaration.name)
    (variantNames : ∀ declaration ∈ module.declarations,
      (declaration.variants.map Variant.name).Nodup) :
    (module.generatedNames.map GeneratedName.owner).Nodup := by
  rw [map_owner_generatedNames, List.nodup_append]
  refine ⟨Repetition.nodup_map_of_reflects enumNames ?_, List.nodup_flatMap.mpr ⟨?_, ?_⟩, ?_⟩
  · exact fun first _ second _ same => name_eq_of_title_eq same
  · intro declaration member
    exact nodup_declarationOwners (variantNames declaration member)
  · rw [List.nodup_iff_pairwise_ne, List.pairwise_map] at declarationNames
    refine declarationNames.imp_of_mem fun inside inside' apart owner ofFirst ofSecond => ?_
    exact apart (name_eq_of_common_owner (usable _ inside) (usable _ inside') ofFirst ofSecond)
  · intro owner ofEnum owner' ofDeclaration same
    subst same
    obtain ⟨valueEnum, -, rfl⟩ := List.mem_map.mp ofEnum
    obtain ⟨declaration, -, owned⟩ := List.mem_flatMap.mp ofDeclaration
    rcases List.mem_cons.mp owned with title | variant
    · have letters := congrArg String.toList title
      rw [toList_title_valueEnum, toList_title_declaration] at letters
      simp at letters
    · obtain ⟨variant, -, same⟩ := List.mem_map.mp variant
      have letters := congrArg String.toList same
      rw [toList_title_valueEnum, toList_variantOwner] at letters
      simp at letters

/-- Where declared names differ, the pass over class names finds nothing exactly when class names
differ and the usable ones are not needed by the generated module. -/
theorem nameIssues_eq_nil_iff_classNames {module : Module}
    (owners : (module.generatedNames.map GeneratedName.owner).Nodup) :
    module.nameIssues = [] ↔
      module.classNames.Nodup ∧
        ∀ name ∈ module.classNames, Name.Usable name → name ∉ Name.reserved := by
  rw [nameIssues_eq_nil_iff, ← map_name_generatedNames]
  constructor
  · intro rules
    obtain ⟨free, sameOwner⟩ := rules
    constructor
    · exact Repetition.nodup_map_of_reflects owners fun first inside second inside' same =>
        sameOwner second inside' first inside same
    · intro name member usable reserved
      obtain ⟨claimed, inside, rfl⟩ := List.mem_map.mp member
      exact free claimed inside reserved usable
  · intro rules
    obtain ⟨distinct, free⟩ := rules
    constructor
    · intro claimed inside reserved usable
      exact free claimed.name (List.mem_map_of_mem inside) usable reserved
    · intro claimed inside other inside' same
      rw [List.inj_on_of_nodup_map distinct inside' inside same]

/-- Two value enums of one type name have one owner only if they have one declared name. -/
theorem nodup_typeNames {module : Module}
    (enumNames : (module.valueEnums.map ValueEnum.name).Nodup)
    (noIssue : module.nameIssues = []) : (module.valueEnums.map ValueEnum.typeName).Nodup := by
  have sameOwner := (module.nameIssues_eq_nil_iff.mp noIssue).2
  have claimed : ∀ valueEnum ∈ module.valueEnums,
      ⟨valueEnum.typeName, valueEnum.title, valueEnum.location⟩ ∈ module.generatedNames :=
    fun valueEnum member => List.mem_append_left _ (List.mem_map.mpr ⟨valueEnum, member, rfl⟩)
  refine Repetition.nodup_map_of_reflects enumNames fun first inside second inside' same => ?_
  exact name_eq_of_title_eq
    (sameOwner _ (claimed second inside') _ (claimed first inside) same)

/-! ## The whole module -/

theorem valueEnumIssues_eq_nil_iff (module : Module) :
    module.valueEnumIssues = [] ↔
      (module.valueEnums.map ValueEnum.name).Nodup ∧
        ∀ valueEnum ∈ module.valueEnums, valueEnum.WellFormed := by
  simp only [valueEnumIssues, List.append_eq_nil_iff, List.map_eq_nil_iff, repeated_eq_nil_iff,
    List.flatMap_eq_nil_iff, ValueEnum.issues_eq_nil_iff]

theorem declarationIssues_eq_nil_iff {module : Module}
    (distinct : (module.valueEnums.map ValueEnum.typeName).Nodup) :
    module.declarationIssues = [] ↔
      (module.declarations.map VariantsDeclaration.name).Nodup ∧
        ∀ declaration ∈ module.declarations, declaration.WellFormed module := by
  simp only [declarationIssues, List.append_eq_nil_iff, List.map_eq_nil_iff, repeated_eq_nil_iff,
    List.flatMap_eq_nil_iff, VariantsDeclaration.issues_eq_nil_iff _ distinct]

theorem accepted_iff_passes (module : Module) :
    module.Accepted ↔
      module.valueEnumIssues = [] ∧ module.declarationIssues = [] ∧ module.nameIssues = [] := by
  simp [Accepted, issues]

theorem Accepted.wellFormed {module : Module} (accepted : module.Accepted) :
    module.WellFormed := by
  obtain ⟨enumsPass, declarationsPass, namesPass⟩ := module.accepted_iff_passes.mp accepted
  obtain ⟨enumNames, enums⟩ := module.valueEnumIssues_eq_nil_iff.mp enumsPass
  obtain ⟨declarationNames, declarations⟩ :=
    (declarationIssues_eq_nil_iff (nodup_typeNames enumNames namesPass)).mp declarationsPass
  have owners := nodup_owners enumNames declarationNames
    (fun declaration member => (declarations declaration member).nameUsable)
    (fun declaration member => (declarations declaration member).variantNamesDiffer)
  obtain ⟨classNames, free⟩ := (nameIssues_eq_nil_iff_classNames owners).mp namesPass
  exact ⟨enumNames, enums, declarationNames, declarations, classNames, free⟩

theorem WellFormed.typeNamesDiffer {module : Module} (rules : module.WellFormed) :
    (module.valueEnums.map ValueEnum.typeName).Nodup :=
  (List.nodup_append.mp rules.classNamesDiffer).1

theorem WellFormed.accepted {module : Module} (rules : module.WellFormed) : module.Accepted := by
  have owners := nodup_owners rules.enumNamesDiffer rules.declarationNamesDiffer
    (fun declaration member => (rules.declarations declaration member).nameUsable)
    (fun declaration member => (rules.declarations declaration member).variantNamesDiffer)
  exact module.accepted_iff_passes.mpr
    ⟨module.valueEnumIssues_eq_nil_iff.mpr ⟨rules.enumNamesDiffer, rules.valueEnums⟩,
      (declarationIssues_eq_nil_iff rules.typeNamesDiffer).mpr
        ⟨rules.declarationNamesDiffer, rules.declarations⟩,
      (nameIssues_eq_nil_iff_classNames owners).mpr
        ⟨rules.classNamesDiffer, rules.classNamesFree⟩⟩

/-- A module with one value enum and a declaration with a variant of either kind. -/
def small : Module where
  file := "small.wgslv"
  valueEnums := [⟨"MULTI", some "Multi", .bool,
    [⟨"Off", .ofBool false, none⟩, ⟨"On", .ofBool true, none⟩], true, none⟩]
  declarations := [⟨"Shader", "shader.wgsl", some [⟨"DEBUG", .ofBool false, none⟩],
    [⟨"Debug", .hardcoded [⟨"DEBUG", .ofBool true, none⟩], none⟩,
      ⟨"Product", .crossProduct ["Multi"], none⟩], true, none⟩]

theorem small_accepted : small.Accepted := by decide +kernel

end Module

end ShaderVariants
