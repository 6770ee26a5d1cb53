import ShaderVariants.Module.Listing
import ShaderVariants.Proofs.CaseKeys

/-!
# Tables of cases

The emitter counts the cases of a declaration, compares their keys and looks their variants up.
Where a module follows the rules and its cases are the ones that it stands for, nothing is found,
and every table holds these cases, in order and with their sources.
-/

namespace ShaderVariants

open Text.Quoted (encode)

/-- What a case is, without its source. -/
def ResolvedCase.outline (case : ResolvedCase) : String × List Selection :=
  (case.variant, case.selections)

namespace Generated.Family

/-- The table of sources, with one line per case. -/
def table (family : Family) : List String :=
  [s!"{family.sourcesName}: dict[{family.name}, str] = \x7b"] ++ family.tableLines ++ ["\x7d"]

theorem baseLines_infix_lines (family : Family) : family.baseLines <:+: family.lines := by
  simp only [lines, List.append_assoc]
  exact (List.prefix_append _ _).isInfix

/-- The table stands in the lines of the family without a gap. -/
theorem table_infix_lines (family : Family) : family.table <:+: family.lines := by
  refine ⟨family.baseLines
    ++ family.caseClasses.flatMap (fun caseClass => "" :: "" :: caseClass.lines family.name)
    ++ ["", ""] ++ family.memberLines ++ (if family.caseClasses.isEmpty then [] else [""])
    ++ [s!"{family.rawName} = {encode family.template}", ""],
    [s!"{family.orderName} = \x7bcase: index for index, case in "
      ++ s!"enumerate({family.sourcesName})\x7d"], ?_⟩
  simp [lines, table]

end Generated.Family

/-- The keys of the cases, as they are written in the table. -/
def ResolvedDeclaration.keyTexts (resolved : ResolvedDeclaration) : List String :=
  resolved.cases.map fun case => (Generated.caseKey resolved.declaration case).text

namespace VariantCase

/-- What a case is, without its definitions. -/
def outline (concrete : VariantCase) : String × List Selection :=
  (concrete.variant.name, concrete.selections)

/-- The line of the case in the table of its declaration. -/
def tableLine (declaration : VariantsDeclaration) (concrete : VariantCase) (source : String) :
    String :=
  "    " ++ declaration.name ++ concrete.variant.name ++ "("
    ++ String.intercalate ", " (concrete.selections.map Selection.shown) ++ "): "
    ++ encode source ++ ","

end VariantCase

namespace Module

/-- The table of sources of a declaration, with one line per case. -/
def sourceTable (module : Module) (declaration : VariantsDeclaration) (sources : List String) :
    List String :=
  ["_SOURCES_" ++ declaration.name ++ ": dict[" ++ declaration.name ++ ", str] = \x7b"]
    ++ List.zipWith (VariantCase.tableLine declaration) (module.casesOfDeclaration declaration)
      sources
    ++ ["\x7d"]

/-- The classes and tables of a declaration whose cases have their sources. -/
def totalFamily (module : Module) (declaration : VariantsDeclaration) (template : String)
    (sources : List String) : Generated.Family where
  name := declaration.name
  templatePath := declaration.templatePath
  declaredAt := declaration.location.map Location.anchor
  caseClasses := declaration.variants.map fun variant =>
    ⟨variant.name, declaration.caseClassName variant.name,
      (module.selectedFrom variant).map fun valueEnum =>
        (valueEnum.fieldName, valueEnum.typeName)⟩
  template := template
  sources := List.zipWith (fun concrete source => (concrete.key declaration, source))
    (module.casesOfDeclaration declaration) sources

/-- A declaration comes with one source for each of its cases, in order. -/
def Covered (module : Module) (declaration : VariantsDeclaration)
    (resolved : ResolvedDeclaration) : Prop :=
  resolved.declaration = declaration ∧
    resolved.cases.map ResolvedCase.outline =
      (module.casesOfDeclaration declaration).map VariantCase.outline

/-- What the emitter checks: the number of cases, their keys and their variants. -/
structure Tallies (module : Module) (resolved : ResolvedDeclaration) : Prop where
  count : resolved.cases.length = (module.casesOfDeclaration resolved.declaration).length
  keysDiffer : resolved.keyTexts.Nodup
  variantsKnown : ∀ case ∈ resolved.cases,
    ∃ variant ∈ resolved.declaration.variants, variant.name = case.variant

/-- The classes and tables of a declaration that is covered. -/
def coveredFamily (module : Module) (resolved : ResolvedDeclaration) : Generated.Family where
  name := resolved.declaration.name
  templatePath := resolved.declaration.templatePath
  declaredAt := resolved.declaration.location.map Location.anchor
  caseClasses := resolved.declaration.variants.map fun variant =>
    ⟨variant.name, resolved.declaration.caseClassName variant.name,
      (module.selectedFrom variant).map fun valueEnum =>
        (valueEnum.fieldName, valueEnum.typeName)⟩
  template := resolved.template
  sources := resolved.cases.map fun case =>
    (Generated.caseKey resolved.declaration case, case.source)

/-- The module that is generated from declarations that are covered. -/
def emitted (module : Module) (resolved : List ResolvedDeclaration) : Generated.Module where
  sourceName := (Path.ofString module.file).fileName
  exports := Generated.exports module
  enumClasses := module.valueEnums.map Generated.enumClass
  families := resolved.map module.coveredFamily

/-- The declarations with templates and with sources for their cases. -/
def resolvedWith (module : Module) (template : VariantsDeclaration → String)
    (sources : List (List String)) : List ResolvedDeclaration :=
  List.zipWith (fun declaration sources => ⟨declaration, template declaration,
    List.zipWith VariantCase.resolved (module.casesOfDeclaration declaration) sources⟩)
    module.declarations sources

/-- There are as many sources as cases. -/
def Counts (module : Module) (declaration : VariantsDeclaration) (sources : List String) : Prop :=
  sources.length = (module.casesOfDeclaration declaration).length

instance (module : Module) (declaration : VariantsDeclaration) (sources : List String) :
    Decidable (module.Counts declaration sources) := inferInstanceAs (Decidable (_ = _))

theorem covered_resolved {module : Module} {declaration : VariantsDeclaration} (template : String)
    {sources : List String} (counts : module.Counts declaration sources) :
    module.Covered declaration ⟨declaration, template,
      List.zipWith VariantCase.resolved (module.casesOfDeclaration declaration) sources⟩ := by
  refine ⟨rfl, ?_⟩
  have inFront := List.map_fst_zip (Nat.le_of_eq counts.symm)
  calc
    _ = ((module.casesOfDeclaration declaration).zip sources).map
        (VariantCase.outline ∘ Prod.fst) := by
      rw [List.map_zipWith, ← List.map_uncurry_zip_eq_zipWith]
      rfl
    _ = _ := by rw [← List.map_map, inFront]

theorem covered_resolvedWith {module : Module} (template : VariantsDeclaration → String)
    {sources : List (List String)}
    (counts : List.Forall₂ module.Counts module.declarations sources) :
    List.Forall₂ module.Covered module.declarations (module.resolvedWith template sources) := by
  unfold resolvedWith
  generalize module.declarations = declarations at counts
  induction counts with
  | nil => exact .nil
  | cons here _ ih => exact .cons (covered_resolved _ here) ih

theorem families_resolvedWith (module : Module) (template : VariantsDeclaration → String)
    (sources : List (List String)) :
    (module.emitted (module.resolvedWith template sources)).families =
      List.zipWith (fun declaration => module.totalFamily declaration (template declaration))
        module.declarations sources := by
  rw [emitted, resolvedWith, List.map_zipWith]
  simp only [coveredFamily, List.map_zipWith]
  rfl

/-- The keys of the table are those of the cases. -/
theorem map_caseKey_eq (module : Module) {declaration : VariantsDeclaration}
    {resolved : ResolvedDeclaration} (covered : module.Covered declaration resolved) :
    resolved.cases.map (Generated.caseKey resolved.declaration) =
      (module.casesOfDeclaration declaration).map fun concrete => concrete.key declaration := by
  obtain ⟨rfl, outlines⟩ := covered
  let key (outline : String × List Selection) : Generated.CaseKey :=
    ⟨resolved.declaration.caseClassName outline.1, outline.2.map Selection.shown⟩
  have keys := congrArg (List.map key) outlines
  rwa [List.map_map, List.map_map] at keys

theorem tableLines_totalFamily (module : Module) (declaration : VariantsDeclaration)
    (template : String) (sources : List String) :
    (module.totalFamily declaration template sources).tableLines =
      List.zipWith (VariantCase.tableLine declaration) (module.casesOfDeclaration declaration)
        sources := by
  rw [Generated.Family.tableLines, totalFamily, List.map_zipWith]
  congr 1
  funext concrete source
  simp [VariantCase.tableLine, VariantCase.key, Generated.CaseKey.text,
    VariantsDeclaration.caseClassName, String.append_assoc, toString]

theorem sourceTable_infix (module : Module) (declaration : VariantsDeclaration)
    (template : String) (sources : List String) :
    module.sourceTable declaration sources <:+:
      (module.totalFamily declaration template sources).lines := by
  have table : module.sourceTable declaration sources =
      (module.totalFamily declaration template sources).table := by
    rw [Generated.Family.table, tableLines_totalFamily]
    rfl
  rw [table]
  exact Generated.Family.table_infix_lines _

theorem exists_related_of_mem {α β : Type} {relation : α → β → Prop} {items : List α}
    {others : List β} (related : List.Forall₂ relation items others) {other : β}
    (member : other ∈ others) : ∃ item ∈ items, relation item other := by
  induction related with
  | nil => cases member
  | @cons item _ items _ here _ ih =>
      rcases List.mem_cons.mp member with rfl | later
      · exact ⟨item, List.mem_cons_self, here⟩
      · obtain ⟨found, inside, there⟩ := ih later
        exact ⟨found, List.mem_cons_of_mem _ inside, there⟩

namespace WellFormed

variable {module : Module} {declaration : VariantsDeclaration}

theorem caseClass_eq (rules : module.WellFormed) (declared : declaration ∈ module.declarations)
    {variant : Variant} (inside : variant ∈ declaration.variants) :
    Generated.caseClass module declaration variant =
      .ok ⟨variant.name, declaration.caseClassName variant.name,
        (module.selectedFrom variant).map fun valueEnum =>
          (valueEnum.fieldName, valueEnum.typeName)⟩ := by
  unfold Generated.caseClass selectedFrom
  cases body : variant.body with
  | hardcoded definitions => rfl
  | crossProduct references =>
      simp only [resolve_eq_referenced (rules.resolves declared inside body)]
      rfl

/-- The emitter finds nothing wrong with a declaration exactly when its cases tally. -/
theorem checkTotal_eq_ok_iff (rules : module.WellFormed) {resolved : ResolvedDeclaration}
    (declared : resolved.declaration ∈ module.declarations) :
    Generated.checkTotal module resolved = .ok () ↔ module.Tallies resolved := by
  have known : (resolved.cases.find?
      fun case => case.variant ∉ resolved.declaration.variants.map Variant.name) = none ↔
      ∀ case ∈ resolved.cases,
        ∃ variant ∈ resolved.declaration.variants, variant.name = case.variant := by
    simp [List.find?_eq_none]
  have keys : (resolved.cases.map fun case =>
      (Generated.caseKey resolved.declaration case).text) = resolved.keyTexts := rfl
  -- The checks come one after the other, and the first that fails ends them.
  unfold Generated.checkTotal
  simp only [rules.caseCount_eq declared, keys]
  by_cases count : resolved.cases.length = (module.casesOfDeclaration resolved.declaration).length
  · by_cases keysDiffer : resolved.keyTexts.Nodup
    · cases found : resolved.cases.find?
          fun case => case.variant ∉ resolved.declaration.variants.map Variant.name with
      | none =>
          refine iff_of_true ?_ ⟨count, keysDiffer, known.mp found⟩
          simp [Except.mapError, bind, Except.bind, count, keysDiffer, pure, Except.pure]
      | some case =>
          refine iff_of_false ?_ fun tallies => ?_
          · simp [Except.mapError, bind, Except.bind, count, keysDiffer]
          · rw [known.mpr tallies.variantsKnown] at found
            cases found
    · refine iff_of_false ?_ fun tallies => keysDiffer tallies.keysDiffer
      simp [Except.mapError, bind, Except.bind, count, keysDiffer]
  · refine iff_of_false ?_ fun tallies => count tallies.count
    simp [Except.mapError, bind, Except.bind, count]

theorem family_eq_of_tallies (rules : module.WellFormed) {resolved : ResolvedDeclaration}
    (declared : resolved.declaration ∈ module.declarations) (tallies : module.Tallies resolved) :
    Generated.family module resolved = .ok (module.coveredFamily resolved) := by
  have total := (rules.checkTotal_eq_ok_iff declared).mpr tallies
  have classes := mapM_eq_ok fun variant inside => rules.caseClass_eq declared inside
  unfold Generated.family
  simp only [total, classes]
  rfl

/-- A declaration that has a source for each of its cases tallies, whatever the sources are. -/
theorem tallies_of_covered (rules : module.WellFormed) {resolved : ResolvedDeclaration}
    (declared : declaration ∈ module.declarations) (covered : module.Covered declaration resolved) :
    module.Tallies resolved := by
  have keys : resolved.keyTexts =
      (module.casesOfDeclaration declaration).map fun concrete =>
        (concrete.key declaration).text := by
    have texts := congrArg (List.map Generated.CaseKey.text) (module.map_caseKey_eq covered)
    rwa [List.map_map, List.map_map] at texts
  obtain ⟨rfl, outlines⟩ := covered
  have sameLength := congrArg List.length outlines
  rw [List.length_map, List.length_map] at sameLength
  refine ⟨sameLength, keys ▸ rules.nodup_keys declared, ?_⟩
  intro case member
  have listed : case.outline ∈ resolved.cases.map ResolvedCase.outline :=
    List.mem_map_of_mem member
  rw [outlines] at listed
  obtain ⟨concrete, inside, same⟩ := List.mem_map.mp listed
  exact ⟨concrete.variant, (mem_casesOfDeclaration.mp inside).1, congrArg Prod.fst same⟩

theorem family_eq (rules : module.WellFormed) {resolved : ResolvedDeclaration}
    (declared : declaration ∈ module.declarations) (covered : module.Covered declaration resolved) :
    Generated.family module resolved = .ok (module.coveredFamily resolved) := by
  have tallies := rules.tallies_of_covered declared covered
  obtain ⟨rfl, -⟩ := covered
  exact rules.family_eq_of_tallies declared tallies

/-- The emitter finds nothing wrong with a module whose cases all have their sources. -/
theorem ofResolved_of_covered (rules : module.WellFormed) {resolved : List ResolvedDeclaration}
    (covered : List.Forall₂ module.Covered module.declarations resolved) :
    Generated.ofResolved module resolved = .ok (module.emitted resolved) := by
  have families := mapM_eq_ok fun one (member : one ∈ resolved) => by
    obtain ⟨declaration, declared, here⟩ := exists_related_of_mem covered member
    exact rules.family_eq declared here
  unfold Generated.ofResolved
  rw [families]
  rfl

end WellFormed

end Module

end ShaderVariants
