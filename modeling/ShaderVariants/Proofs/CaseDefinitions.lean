import ShaderVariants.Module.Listing
import ShaderVariants.Proofs.CaseSources

/-!
# Definitions of cases

A cross product refers to its value enums by type name, but sets definitions under their declared
names.  That none of these definitions replaces a shared one or another of its own kind follows
from rules on four kinds of names together, and that no two combinations have the same definitions
from the rule on literals.
-/

namespace ShaderVariants

namespace Selection

/-- Two choices that differ select different cases of one value enum. -/
theorem exists_cases_ne {valueEnums : List ValueEnum} {first second : List Selection}
    (member : first ∈ choices valueEnums) (member' : second ∈ choices valueEnums)
    (apart : first ≠ second) :
    ∃ valueEnum ∈ valueEnums, ∃ case ∈ valueEnum.cases, ∃ other ∈ valueEnum.cases,
      ⟨valueEnum, case⟩ ∈ first ∧ ⟨valueEnum, other⟩ ∈ second ∧ case ≠ other := by
  induction valueEnums generalizing first second with
  | nil => simp_all [choices]
  | cons valueEnum valueEnums ih =>
      obtain ⟨case, inside, rest, restInside, rfl⟩ := mem_choices_cons.mp member
      obtain ⟨other, inside', rest', restInside', rfl⟩ := mem_choices_cons.mp member'
      by_cases same : case = other
      · have restApart : rest ≠ rest' := fun equality => apart (by rw [same, equality])
        obtain ⟨found, listed, one, oneInside, another, anotherInside, here, there, differ⟩ :=
          ih restInside restInside' restApart
        exact ⟨found, List.mem_cons_of_mem _ listed, one, oneInside, another, anotherInside,
          List.mem_cons_of_mem _ here, List.mem_cons_of_mem _ there, differ⟩
      · exact ⟨valueEnum, List.mem_cons_self, case, inside, other, inside',
          List.mem_cons_self, List.mem_cons_self, same⟩

end Selection

namespace Combination

/-- The definitions of a combination are the shared ones as they are and, under names that are not
among their keys, one for each value enum: the value of the case that is selected from it. -/
structure Extends (combination : Combination) (shared : Definitions)
    (valueEnums : List ValueEnum) : Prop where
  selects : combination.selections.map Selection.valueEnum = valueEnums
  selectsCases : ∀ selection ∈ combination.selections,
    selection.case ∈ selection.valueEnum.cases
  apart : ∀ valueEnum ∈ valueEnums, valueEnum.name ∉ shared.keys
  entries : (combination.definitions shared).entries =
    shared.entries ++ combination.selections.map Selection.definition
  sharedValues : ∀ key value, shared.get? key = some value →
    (combination.definitions shared).get? key = some value
  selectedValues : ∀ selection ∈ combination.selections,
    (combination.definitions shared).get? selection.valueEnum.name = some selection.case.value

theorem extends_of_mem_chosen {valueEnums : List ValueEnum} {shared : Definitions}
    (distinct : (valueEnums.map ValueEnum.name).Nodup)
    (apart : ∀ valueEnum ∈ valueEnums, valueEnum.name ∉ shared.keys) {combination : Combination}
    (member : combination ∈ chosen valueEnums) : combination.Extends shared valueEnums := by
  have choice := selections_mem_of_mem_chosen member
  have selects := Selection.map_valueEnum_of_mem_choices choice
  have keys := keys_of_mem_chosen member
  have entries : (combination.definitions shared).entries =
      shared.entries ++ combination.selections.map Selection.definition := by
    rw [definitions, entries_overrides distinct member]
    apply OrderedMap.entries_setAll_of_disjoint
    · rw [keys]
      exact distinct
    · intro key inside
      rw [keys] at inside
      obtain ⟨valueEnum, listed, rfl⟩ := List.mem_map.mp inside
      exact apart valueEnum listed
  refine ⟨selects, fun selection selected => Selection.case_mem_of_mem_choices choice selected,
    apart, entries, ?_, ?_⟩
  · intro key value found
    rw [OrderedMap.get?_eq_some_iff, entries]
    exact List.mem_append_left _ (OrderedMap.get?_eq_some_iff.mp found)
  · intro selection selected
    rw [OrderedMap.get?_eq_some_iff, entries]
    exact List.mem_append_right _ (List.mem_map_of_mem selected)

theorem Extends.size_eq {combination : Combination} {shared : Definitions}
    {valueEnums : List ValueEnum} (extension : combination.Extends shared valueEnums) :
    (combination.definitions shared).size = shared.size + valueEnums.length := by
  have length := congrArg List.length extension.selects
  rw [List.length_map] at length
  rw [OrderedMap.size, extension.entries, List.length_append, List.length_map, length]
  rfl

/-- Combinations of the same value enums that differ select different cases. -/
theorem selections_ne_of_ne {valueEnums : List ValueEnum}
    (distinct : ∀ valueEnum ∈ valueEnums, valueEnum.cases.Nodup) {first second : Combination}
    (member : first ∈ chosen valueEnums) (member' : second ∈ chosen valueEnums)
    (apart : first ≠ second) : first.selections ≠ second.selections := by
  intro same
  obtain ⟨⟨selections, index⟩, numbered, rfl⟩ := List.mem_map.mp member
  obtain ⟨⟨selections', index'⟩, numbered', rfl⟩ := List.mem_map.mp member'
  rw [List.mem_zipIdx_iff_getElem?] at numbered numbered'
  obtain ⟨below, place⟩ := List.getElem?_eq_some_iff.mp numbered
  obtain ⟨below', place'⟩ := List.getElem?_eq_some_iff.mp numbered'
  -- No choice stands at two places, so that equal selections have the same number.
  have sameIndex : index = index' :=
    (Selection.nodup_choices distinct).getElem_inj_iff.mp
      (place.trans (Eq.trans same place'.symm))
  exact apart (by rw [sameIndex, show selections = selections' from same])

end Combination

namespace Module.WellFormed

variable {module : Module} {declaration : VariantsDeclaration} {variant : Variant}

theorem entries_sharedDefinitions (rules : module.WellFormed)
    (declared : declaration ∈ module.declarations) :
    declaration.sharedDefinitions.entries =
      declaration.sharedBlock.map fun definition => (definition.key, definition.value) :=
  Definition.entries_toMap (rules.declarations declaration declared).sharedKeysDiffer

/-- The declared names of the value enums that a cross product refers to are no shared keys. -/
theorem names_notMem_sharedKeys (rules : module.WellFormed)
    (declared : declaration ∈ module.declarations) (inside : variant ∈ declaration.variants)
    {references : List String} (body : variant.body = .crossProduct references) :
    ∀ valueEnum ∈ module.referenced references,
      valueEnum.name ∉ declaration.sharedDefinitions.keys := by
  have bodyRules := (rules.declarations declaration declared).bodies variant inside
  rw [body] at bodyRules
  intro valueEnum listed shared
  obtain ⟨present, referred⟩ := mem_valueEnums_of_mem_referenced listed
  rw [OrderedMap.keys, rules.entries_sharedDefinitions declared, List.map_map] at shared
  obtain ⟨definition, member, sameKey⟩ := List.mem_map.mp shared
  exact Variant.CrossProductWellFormed.sharedKeysFree bodyRules valueEnum present referred
    definition member sameKey

theorem combination_extends (rules : module.WellFormed)
    (declared : declaration ∈ module.declarations) (inside : variant ∈ declaration.variants)
    {references : List String} (body : variant.body = .crossProduct references)
    {combination : Combination}
    (member : combination ∈ Combination.chosen (module.referenced references)) :
    combination.Extends declaration.sharedDefinitions (module.referenced references) :=
  Combination.extends_of_mem_chosen (rules.nodup_names_referenced declared inside body)
    (rules.names_notMem_sharedKeys declared inside body) member

/-- Two combinations that differ give different numbers to some key. -/
theorem exists_number_ne (rules : module.WellFormed)
    (declared : declaration ∈ module.declarations) (inside : variant ∈ declaration.variants)
    {references : List String} (body : variant.body = .crossProduct references)
    {first second : Combination}
    (member : first ∈ Combination.chosen (module.referenced references))
    (member' : second ∈ Combination.chosen (module.referenced references))
    (apart : first ≠ second) :
    ∃ key value other,
      (first.definitions declaration.sharedDefinitions).get? key = some value ∧
      (second.definitions declaration.sharedDefinitions).get? key = some other ∧
      value.literal.number ≠ other.literal.number := by
  have selectionsApart := Combination.selections_ne_of_ne
    (fun valueEnum listed => rules.nodup_cases (mem_valueEnums_of_mem_referenced listed).1)
    member member' apart
  obtain ⟨valueEnum, listed, case, caseInside, other, otherInside, here, there, differ⟩ :=
    Selection.exists_cases_ne (Combination.selections_mem_of_mem_chosen member)
      (Combination.selections_mem_of_mem_chosen member') selectionsApart
  refine ⟨valueEnum.name, case.value, other.value,
    (rules.combination_extends declared inside body member).selectedValues _ here,
    (rules.combination_extends declared inside body member').selectedValues _ there, ?_⟩
  intro sameNumber
  have enumRules := rules.valueEnums valueEnum (mem_valueEnums_of_mem_referenced listed).1
  exact differ (List.inj_on_of_nodup_map enumRules.literalsDiffer caseInside otherInside sameNumber)

/-- Definitions of a hardcoded variant replace shared ones by values of the same kind. -/
theorem kind_of_get?_hardcoded (rules : module.WellFormed)
    (declared : declaration ∈ module.declarations) (inside : variant ∈ declaration.variants)
    {definitions : List Definition} (body : variant.body = .hardcoded definitions)
    {key : String} {base : Scalar} (shared : declaration.sharedDefinitions.get? key = some base) :
    ∃ value,
      (declaration.sharedDefinitions.setAll (Definition.toMap definitions).entries).get? key =
        some value ∧
      value.kind = base.kind := by
  have bodyRules := (rules.declarations declaration declared).bodies variant inside
  rw [body] at bodyRules
  rw [OrderedMap.get?_setAll]
  cases own : OrderedMap.lastValue? (Definition.toMap definitions).entries key with
  | none => exact ⟨base, by simpa using shared, rfl⟩
  | some value =>
      refine ⟨value, rfl, ?_⟩
      have set := OrderedMap.mem_of_lastValue? own
      rw [Definition.entries_toMap (Variant.HardcodedWellFormed.keysDiffer bodyRules)] at set
      rw [OrderedMap.get?_eq_some_iff, rules.entries_sharedDefinitions declared] at shared
      obtain ⟨definition, listed, rfl, rfl⟩ : ∃ definition ∈ definitions,
          definition.key = key ∧ definition.value = value := by simpa using set
      obtain ⟨below, belowListed, sameKey, rfl⟩ : ∃ below ∈ declaration.sharedBlock,
          below.key = definition.key ∧ below.value = base := by simpa using shared
      exact (Variant.HardcodedWellFormed.kindsAgree bodyRules definition listed below belowListed
        sameKey).symm

end Module.WellFormed

namespace Module

/-- The definitions of every case that an accepted module lists.  A combination leaves the shared
definitions as they are and adds the ones of its value enums, and no other combination has the same
ones, not even as numbers.  A hardcoded variant has every shared key, with its kind. -/
theorem Accepted.definitions_of_cases {module : Module} (accepted : module.Accepted)
    {declaration : VariantsDeclaration} (declared : declaration ∈ module.declarations)
    {variant : Variant} (inside : variant ∈ declaration.variants) :
    let shared := declaration.sharedDefinitions
    (∀ references, variant.body = .crossProduct references →
      ∃ valueEnums combinations,
        module.resolve variant.name references = .ok valueEnums ∧
        valueEnums.map ValueEnum.typeName = references ∧
        Combination.all valueEnums = .ok combinations ∧
        module.variantCases shared variant =
          .ok (combinations.map fun combination =>
            ⟨variant.name, some combination, combination.definitions shared⟩) ∧
        (∀ combination ∈ combinations,
          combination.Extends shared valueEnums ∧
          (combination.definitions shared).size = shared.size + references.length) ∧
        ∀ first ∈ combinations, ∀ second ∈ combinations,
          first ≠ second → ∃ key value other,
            (first.definitions shared).get? key = some value ∧
            (second.definitions shared).get? key = some other ∧
            value.literal.number ≠ other.literal.number) ∧
    ∀ own, variant.body = .hardcoded own →
      ∃ definitions,
        module.variantCases shared variant = .ok [⟨variant.name, none, definitions⟩] ∧
        ∀ key base, shared.get? key = some base →
          ∃ value, definitions.get? key = some value ∧ value.kind = base.kind := by
  have rules := accepted.wellFormed
  intro shared
  constructor
  · intro references body
    have resolves := rules.resolves declared inside body
    have typeNames := map_typeName_referenced resolves
    refine ⟨module.referenced references, Combination.chosen (module.referenced references),
      resolve_eq_referenced resolves variant.name, typeNames, Combination.all_eq_chosen _,
      ?_, ?_, ?_⟩
    · unfold variantCases
      rw [body]
      dsimp only
      rw [resolve_eq_referenced resolves]
      simp only [Except.mapError, bind, Except.bind, Combination.all_eq_chosen]
      rfl
    · intro combination member
      have extension := rules.combination_extends declared inside body member
      have length := congrArg List.length typeNames
      rw [List.length_map] at length
      exact ⟨extension, length ▸ extension.size_eq⟩
    · intro first member second member' apart
      exact rules.exists_number_ne declared inside body member member' apart
  · intro own body
    refine ⟨shared.setAll (Definition.toMap own).entries, ?_, ?_⟩
    · unfold variantCases
      rw [body]
    · intro key base found
      exact rules.kind_of_get?_hardcoded declared inside body found

/-- The definitions of the combinations of a small module. -/
theorem definitions_small :
    ∃ valueEnums combinations,
      small.resolve "Product" ["Multi"] = .ok valueEnums ∧
      Combination.all valueEnums = .ok combinations ∧
      ∀ combination ∈ combinations,
        (combination.definitions (OrderedMap.ofList [("DEBUG", .ofBool false)])).size = 2 := by
  have declared : small.declarations.head (by decide) ∈ small.declarations := List.head_mem _
  have inside : ⟨"Product", .crossProduct ["Multi"], none⟩ ∈
      (small.declarations.head (by decide)).variants := by decide
  obtain ⟨products, -⟩ := small_accepted.definitions_of_cases declared inside
  obtain ⟨valueEnums, combinations, resolved, -, all, -, extended, -⟩ := products ["Multi"] rfl
  exact ⟨valueEnums, combinations, resolved, all,
    fun combination member => (extended combination member).2⟩

end Module

end ShaderVariants
