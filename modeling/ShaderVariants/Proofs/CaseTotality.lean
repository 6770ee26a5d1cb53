import ShaderVariants.Proofs.GeneratedLines

/-!
# Totality of case tables

The emitter takes the cases of a declaration as they are given: it counts them, lets no two of them
have the same key, and looks up the variant of each.  A key has a payload as well, which it does not
look at.  As many different keys as there are cases are the keys of all cases as soon as none of
them is foreign, and the key of a variant that is known is foreign by its payload only.
-/

namespace ShaderVariants

/-- The keys of a table as they are written. -/
def Generated.Family.keyTexts (family : Family) : List String :=
  family.sources.map fun entry => entry.1.text

/-- Different items that are as many as those of another list without repetitions are the same ones
as soon as none of them is foreign, and as soon as none is missing. -/
theorem perm_iff_subset {α : Type} {items others : List α} (distinct : items.Nodup)
    (distinct' : others.Nodup) (sameLength : items.length = others.length) :
    (items.Perm others ↔ items ⊆ others) ∧ (items.Perm others ↔ others ⊆ items) := by
  constructor
  · constructor
    · exact fun same => same.subset
    · intro inside
      exact (List.subperm_of_subset distinct inside).perm_of_length_le sameLength.ge
  · constructor
    · exact fun same => same.symm.subset
    · intro inside
      exact ((List.subperm_of_subset distinct' inside).perm_of_length_le sameLength.le).symm

namespace Module

/-- The keys of all cases that a declaration stands for. -/
def keyTexts (module : Module) (declaration : VariantsDeclaration) : List String :=
  (module.casesOfDeclaration declaration).map fun concrete => (concrete.key declaration).text

/-- The payload of a case is written as one that its variant has: none for a hardcoded variant, and
for a cross product a case of each of the value enums that it refers to. -/
def Fits (module : Module) (declaration : VariantsDeclaration) (case : ResolvedCase) : Prop :=
  ∃ variant ∈ declaration.variants, variant.name = case.variant ∧
    ∃ selections ∈ Selection.choices (module.selectedFrom variant),
      String.intercalate ", " (selections.map Selection.shown) =
        String.intercalate ", " (case.selections.map Selection.shown)

theorem length_keyTexts (module : Module) (declaration : VariantsDeclaration) :
    (module.keyTexts declaration).length = (module.casesOfDeclaration declaration).length :=
  List.length_map _

namespace WellFormed

variable {module : Module} {resolved : ResolvedDeclaration}

theorem tallies_of_family_eq_ok (rules : module.WellFormed)
    (declared : resolved.declaration ∈ module.declarations) {family : Generated.Family}
    (emitted : Generated.family module resolved = .ok family) : module.Tallies resolved := by
  apply (rules.checkTotal_eq_ok_iff declared).mp
  unfold Generated.family at emitted
  cases total : Generated.checkTotal module resolved with
  | ok => rfl
  | error error =>
      rw [total] at emitted
      cases emitted

/-- The emitter lets a list of declarations with cases pass when each of them tallies. -/
theorem exists_ofResolved_iff (rules : module.WellFormed) {resolved : List ResolvedDeclaration}
    (inOrder : resolved.map ResolvedDeclaration.declaration = module.declarations) :
    (∃ generated, Generated.ofResolved module resolved = .ok generated) ↔
      ∀ one ∈ resolved, module.Tallies one := by
  have declared : ∀ one ∈ resolved, one.declaration ∈ module.declarations := fun one member =>
    inOrder ▸ List.mem_map_of_mem member
  unfold Generated.ofResolved
  constructor
  · intro passed one member
    obtain ⟨generated, emitted⟩ := passed
    cases family : Generated.family module one with
    | ok family' => exact rules.tallies_of_family_eq_ok (declared one member) family
    | error error =>
        obtain ⟨first, stops⟩ := mapM_eq_error_of_mem member family
        rw [stops] at emitted
        cases emitted
  · intro tallies
    have families := mapM_eq_ok fun one (member : one ∈ resolved) =>
      rules.family_eq_of_tallies (declared one member) (tallies one member)
    exact ⟨_, by rw [families]; rfl⟩

/-! ## Foreign keys -/

/-- The key of a case whose variant is known is that of a concrete case exactly when its payload
is one of the variant. -/
theorem mem_keyTexts_iff_fits (rules : module.WellFormed) {declaration : VariantsDeclaration}
    (declared : declaration ∈ module.declarations) {case : ResolvedCase}
    (known : ∃ variant ∈ declaration.variants, variant.name = case.variant) :
    (Generated.caseKey declaration case).text ∈ module.keyTexts declaration ↔
      module.Fits declaration case := by
  obtain ⟨variant, inside, sameName⟩ := known
  have opened : '(' ∉ (declaration.caseClassName case.variant).toList :=
    sameName ▸ rules.leftParen_notMem_caseClassName declared inside
  rw [keyTexts, List.mem_map]
  constructor
  · intro listed
    obtain ⟨concrete, isCase, sameKey⟩ := listed
    obtain ⟨inside', chosen⟩ := mem_casesOfDeclaration.mp isCase
    have characters := congrArg String.toList sameKey
    simp only [Generated.CaseKey.text, VariantCase.key, Generated.caseKey, String.toList_append,
      List.append_assoc] at characters
    -- The class name ends at the first parenthesis, and the payload at the last character.
    obtain ⟨sameClass, rest⟩ := append_separator_inj
      (rules.leftParen_notMem_caseClassName declared inside') opened characters
    have sameVariant : concrete.variant.name = case.variant :=
      (String.append_right_inj declaration.name).mp (String.toList_injective sameClass)
    rw [casesOfVariant_eq_choices, List.mem_map] at chosen
    obtain ⟨selections, choice, same⟩ := chosen
    obtain rfl : selections = concrete.selections := congrArg VariantCase.selections same
    refine ⟨concrete.variant, inside', sameVariant, _, choice, ?_⟩
    exact String.toList_injective (List.append_cancel_right rest)
  · intro fits
    obtain ⟨variant, inside, sameName, selections, choice, sameText⟩ := fits
    refine ⟨⟨variant, selections⟩, ?_, ?_⟩
    · rw [mem_casesOfDeclaration, casesOfVariant_eq_choices]
      exact ⟨inside, List.mem_map_of_mem choice⟩
    · simp only [VariantCase.key, Generated.caseKey, Generated.CaseKey.text, sameName, sameText]

/-- Keys that tally are those of the concrete cases exactly when each payload is one of its variant,
and exactly when no concrete case is missing. -/
theorem keyTexts_perm_iff (rules : module.WellFormed)
    (declared : resolved.declaration ∈ module.declarations) (tallies : module.Tallies resolved) :
    (resolved.keyTexts.Perm (module.keyTexts resolved.declaration) ↔
        ∀ case ∈ resolved.cases, module.Fits resolved.declaration case) ∧
      (resolved.keyTexts.Perm (module.keyTexts resolved.declaration) ↔
        ∀ key ∈ module.keyTexts resolved.declaration, key ∈ resolved.keyTexts) := by
  have sameLength : resolved.keyTexts.length =
      (module.keyTexts resolved.declaration).length := by
    rw [length_keyTexts, ← tallies.count]
    exact List.length_map _
  have distinct : (module.keyTexts resolved.declaration).Nodup := rules.nodup_keys declared
  obtain ⟨noneForeign, noneMissing⟩ := perm_iff_subset tallies.keysDiffer distinct sameLength
  refine ⟨noneForeign.trans ?_, noneMissing⟩
  refine List.forall_mem_map.trans (forall₂_congr fun case member => ?_)
  exact rules.mem_keyTexts_iff_fits declared (tallies.variantsKnown case member)

end WellFormed

/-- What the emitter lets pass, and what the tables hold then.  A table has as many keys as its
declaration has concrete cases, all of them different and of known variants.  They are the keys of
the concrete cases exactly when every payload is one of its variant, and exactly when no case is
missing. -/
theorem Accepted.tables_of_ofResolved {module : Module} (accepted : module.Accepted)
    {resolved : List ResolvedDeclaration}
    (inOrder : resolved.map ResolvedDeclaration.declaration = module.declarations) :
    ((∃ generated, Generated.ofResolved module resolved = .ok generated) ↔
        ∀ one ∈ resolved, module.Tallies one) ∧
      ∀ generated, Generated.ofResolved module resolved = .ok generated →
        List.Forall₂ (fun one family => family.name = one.declaration.name ∧
            family.keyTexts = one.keyTexts ∧
            (family.keyTexts.Perm (module.keyTexts one.declaration) ↔
              ∀ case ∈ one.cases, module.Fits one.declaration case) ∧
            (family.keyTexts.Perm (module.keyTexts one.declaration) ↔
              ∀ key ∈ module.keyTexts one.declaration, key ∈ family.keyTexts))
          resolved generated.families := by
  have rules := accepted.wellFormed
  refine ⟨rules.exists_ofResolved_iff inOrder, ?_⟩
  intro generated emitted
  have tallies := (rules.exists_ofResolved_iff inOrder).mp ⟨generated, emitted⟩
  obtain rfl := rules.eq_emitted inOrder emitted
  rw [Module.emitted, List.forall₂_map_right_iff, List.forall₂_same]
  intro one member
  have declared : one.declaration ∈ module.declarations := inOrder ▸ List.mem_map_of_mem member
  have sameKeys : (module.coveredFamily one).keyTexts = one.keyTexts := by
    rw [Generated.Family.keyTexts, coveredFamily, List.map_map]
    rfl
  rw [sameKeys]
  exact ⟨rfl, rfl, rules.keyTexts_perm_iff declared (tallies one member)⟩

/-- A hardcoded variant with a case of a value enum for its payload. -/
def strayCase : ResolvedDeclaration where
  declaration := ⟨"S", "t", none, [⟨"A", .hardcoded [], none⟩], false, none⟩
  template := "x"
  cases :=
    let flag : ValueEnum := ⟨"E", none, .bool, [⟨"X", .ofBool true, none⟩], false, none⟩
    [⟨"A", [⟨flag, ⟨"X", .ofBool true, none⟩⟩], "y"⟩]

/-- The module of that variant and that value enum, of which the variant knows nothing. -/
def strayPayload : Module where
  file := "a.wgslv"
  valueEnums := strayCase.cases.flatMap fun case => case.selections.map Selection.valueEnum
  declarations := [strayCase.declaration]

theorem strayPayload_missing :
    strayPayload.Accepted ∧
    ∃ generated, Generated.ofResolved strayPayload [strayCase] = .ok generated ∧
      ∃ family ∈ generated.families, family.keyTexts = ["SA(E.X)"] ∧
        strayPayload.keyTexts strayCase.declaration = ["SA()"] ∧
        ¬family.keyTexts.Perm (strayPayload.keyTexts strayCase.declaration) := by
  have accepted : strayPayload.Accepted := by decide +kernel
  have inOrder : [strayCase].map ResolvedDeclaration.declaration = strayPayload.declarations := rfl
  have tallies : strayPayload.Tallies strayCase :=
    ⟨by decide +kernel, by decide +kernel, by simp [strayCase]⟩
  have expected : strayPayload.keyTexts strayCase.declaration = ["SA()"] := by decide +kernel
  obtain ⟨passes, tables⟩ := accepted.tables_of_ofResolved inOrder
  obtain ⟨generated, emitted⟩ := passes.mpr (by simpa using tallies)
  obtain ⟨family, families, ⟨-, sameKeys, -, noneMissing⟩, -, same⟩ :=
    List.forall₂_cons_left_iff.mp (tables generated emitted)
  have keys : family.keyTexts = ["SA(E.X)"] := by
    rw [sameKeys]
    decide +kernel
  refine ⟨accepted, generated, emitted, family, by simp [same], keys, expected, ?_⟩
  rw [noneMissing, expected, keys]
  decide

end Module

end ShaderVariants
