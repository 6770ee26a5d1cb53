import ShaderVariants.Proofs.CaseSources

/-!
# Keys of cases

Two cases of one declaration never have the same key in the generated module: the class name ends
at the first parenthesis, the arguments are cut at the commas, and neither stands in a name.
-/

namespace ShaderVariants

namespace Selection

theorem toList_shown (selection : Selection) :
    selection.shown.toList =
      selection.valueEnum.typeName.toList ++ '.' :: selection.case.name.toList := by
  have text : selection.shown = selection.valueEnum.typeName ++ "." ++ selection.case.name := rfl
  simp [text]

theorem comma_notMem_shown {selection : Selection}
    (typeName : Name.Usable selection.valueEnum.typeName)
    (caseName : Name.Usable selection.case.name) : ',' ∉ selection.shown.toList := by
  rw [toList_shown]
  simp [typeName.comma_notMem, caseName.comma_notMem]

theorem caseName_eq_of_shown {first second : Selection}
    (sameEnum : first.valueEnum = second.valueEnum) (same : first.shown = second.shown) :
    first.case.name = second.case.name := by
  have characters := congrArg String.toList same
  rw [toList_shown, toList_shown, sameEnum] at characters
  have rest := List.append_cancel_left characters
  exact String.toList_injective (List.cons.inj rest).2

end Selection

/-- Texts without commas can be read back from a comma list. -/
theorem intercalate_comma_inj {first second : List String}
    (sameLength : first.length = second.length) (outside : ∀ text ∈ first, ',' ∉ text.toList)
    (outside' : ∀ text ∈ second, ',' ∉ text.toList)
    (same : String.intercalate ", " first = String.intercalate ", " second) :
    first = second := by
  induction first generalizing second with
  | nil => exact (List.length_eq_zero_iff.mp sameLength.symm).symm
  | cons text first ih =>
      cases second with
      | nil => cases sameLength
      | cons text' second =>
          cases first with
          | nil =>
              obtain rfl : second = [] := by
                apply List.length_eq_zero_iff.mp
                simpa using sameLength.symm
              simpa using same
          | cons next first =>
              cases second with
              | nil => simp at sameLength
              | cons next' second =>
                  rw [String.intercalate_cons_cons, String.intercalate_cons_cons] at same
                  have characters := congrArg String.toList same
                  simp only [String.toList_append, List.append_assoc] at characters
                  obtain ⟨here, later⟩ := append_separator_inj
                    (outside text (by simp)) (outside' text' (by simp)) characters
                  have rest := String.toList_injective (List.cons.inj later).2
                  have others := ih (by simpa using sameLength)
                    (fun other member => outside other (List.mem_cons_of_mem _ member))
                    (fun other member => outside' other (List.mem_cons_of_mem _ member)) rest
                  rw [String.toList_injective here, others]

namespace VariantCase

/-- The key of the case in the table of its declaration. -/
def key (concrete : VariantCase) (declaration : VariantsDeclaration) : Generated.CaseKey :=
  ⟨declaration.caseClassName concrete.variant.name, concrete.selections.map Selection.shown⟩

end VariantCase

namespace Module.WellFormed

variable {module : Module} {declaration : VariantsDeclaration}

theorem valueEnums_selectedFrom (rules : module.WellFormed) {variant : Variant}
    {selections : List Selection}
    (choice : selections ∈ Selection.choices (module.selectedFrom variant))
    {selection : Selection} (selected : selection ∈ selections) :
    selection.valueEnum.WellFormed := by
  have enums := Selection.map_valueEnum_of_mem_choices choice
  have inside : selection.valueEnum ∈ module.selectedFrom variant :=
    enums ▸ List.mem_map_of_mem selected
  exact rules.valueEnums _ (mem_valueEnums_of_mem_selectedFrom inside)

theorem comma_notMem_arguments (rules : module.WellFormed) {variant : Variant}
    {selections : List Selection}
    (choice : selections ∈ Selection.choices (module.selectedFrom variant)) :
    ∀ text ∈ selections.map Selection.shown, ',' ∉ text.toList := by
  intro text member
  obtain ⟨selection, selected, rfl⟩ := List.mem_map.mp member
  have enumRules := rules.valueEnums_selectedFrom choice selected
  exact Selection.comma_notMem_shown enumRules.typeNameUsable
    (enumRules.caseNamesUsable _ (Selection.case_mem_of_mem_choices choice selected))

/-- Choices from the same value enums are equal when they are shown alike. -/
theorem selections_eq_of_shown (rules : module.WellFormed) {variant : Variant}
    {first second : List Selection}
    (choice : first ∈ Selection.choices (module.selectedFrom variant))
    (choice' : second ∈ Selection.choices (module.selectedFrom variant))
    (same : first.map Selection.shown = second.map Selection.shown) : first = second := by
  have enums : first.map Selection.valueEnum = second.map Selection.valueEnum := by
    rw [Selection.map_valueEnum_of_mem_choices choice,
      Selection.map_valueEnum_of_mem_choices choice']
  have sameLength : first.length = second.length := by
    simpa using congrArg List.length enums
  apply List.ext_getElem sameLength
  intro place below below'
  have sameEnum : first[place].valueEnum = second[place].valueEnum := by
    have here := congrArg (fun enums => enums[place]?) enums
    simpa [below, below'] using here
  have sameShown : first[place].shown = second[place].shown := by
    have here := congrArg (fun texts => texts[place]?) same
    simpa [below, below'] using here
  have enumRules := rules.valueEnums_selectedFrom choice (List.getElem_mem below)
  have inside := Selection.case_mem_of_mem_choices choice (List.getElem_mem below)
  have inside' := Selection.case_mem_of_mem_choices choice' (List.getElem_mem below')
  have sameCase : first[place].case = second[place].case :=
    List.inj_on_of_nodup_map enumRules.caseNamesDiffer inside (sameEnum ▸ inside')
      (Selection.caseName_eq_of_shown sameEnum sameShown)
  cases here : first[place]
  cases there : second[place]
  rw [here, there] at sameEnum sameCase
  simp only at sameEnum sameCase
  rw [sameEnum, sameCase]

theorem leftParen_notMem_caseClassName (rules : module.WellFormed)
    (declared : declaration ∈ module.declarations) {variant : Variant}
    (inside : variant ∈ declaration.variants) :
    '(' ∉ (declaration.caseClassName variant.name).toList := by
  have declarationRules := rules.declarations declaration declared
  rw [VariantsDeclaration.caseClassName, String.toList_append, List.mem_append, not_or]
  exact ⟨declarationRules.nameUsable.leftParen_notMem,
    (declarationRules.variantNamesUsable variant inside).leftParen_notMem⟩

/-- Cases of one declaration with the same key are the same case. -/
theorem eq_of_key (rules : module.WellFormed) (declared : declaration ∈ module.declarations)
    {first second : VariantCase} (member : first ∈ module.casesOfDeclaration declaration)
    (member' : second ∈ module.casesOfDeclaration declaration)
    (same : (first.key declaration).text = (second.key declaration).text) : first = second := by
  obtain ⟨inside, listed⟩ := mem_casesOfDeclaration.mp member
  obtain ⟨inside', listed'⟩ := mem_casesOfDeclaration.mp member'
  have characters := congrArg String.toList same
  simp only [Generated.CaseKey.text, VariantCase.key, String.toList_append,
    List.append_assoc] at characters
  obtain ⟨sameClass, rest⟩ := append_separator_inj
    (rules.leftParen_notMem_caseClassName declared inside)
    (rules.leftParen_notMem_caseClassName declared inside') characters
  have sameVariantName : first.variant.name = second.variant.name :=
    (String.append_right_inj declaration.name).mp (String.toList_injective sameClass)
  have sameVariant : first.variant = second.variant :=
    List.inj_on_of_nodup_map (rules.declarations declaration declared).variantNamesDiffer
      inside inside' sameVariantName
  obtain ⟨variant, selections⟩ := first
  obtain ⟨variant', selections'⟩ := second
  simp only at sameVariant listed listed' rest
  subst sameVariant
  rw [casesOfVariant_eq_choices] at listed listed'
  have choice : selections ∈ Selection.choices (module.selectedFrom variant) := by
    simpa using listed
  have choice' : selections' ∈ Selection.choices (module.selectedFrom variant) := by
    simpa using listed'
  have sameArguments := String.toList_injective (List.append_cancel_right rest)
  have sameLength : selections.length = selections'.length := by
    have lengths := congrArg List.length ((Selection.map_valueEnum_of_mem_choices choice).trans
      (Selection.map_valueEnum_of_mem_choices choice').symm)
    simpa using lengths
  have shown := intercalate_comma_inj (by simpa using sameLength)
    (rules.comma_notMem_arguments choice) (rules.comma_notMem_arguments choice') sameArguments
  rw [rules.selections_eq_of_shown choice choice' shown]

theorem nodup_casesOfVariant (rules : module.WellFormed) (variant : Variant) :
    (module.casesOfVariant variant).Nodup := by
  rw [casesOfVariant_eq_choices]
  have distinct : ∀ valueEnum ∈ module.selectedFrom variant, valueEnum.cases.Nodup :=
    fun valueEnum member => rules.nodup_cases (mem_valueEnums_of_mem_selectedFrom member)
  refine (Selection.nodup_choices distinct).map ?_
  intro first second same
  exact (VariantCase.mk.inj same).2

theorem nodup_casesOfDeclaration (rules : module.WellFormed)
    (declared : declaration ∈ module.declarations) :
    (module.casesOfDeclaration declaration).Nodup := by
  refine List.nodup_flatMap.mpr ⟨fun variant _ => rules.nodup_casesOfVariant variant, ?_⟩
  have distinct : declaration.variants.Nodup :=
    List.Nodup.of_map _ (rules.declarations declaration declared).variantNamesDiffer
  refine distinct.imp ?_
  intro variant variant' apart concrete member member'
  exact apart ((variant_of_mem_casesOfVariant member).symm.trans
    (variant_of_mem_casesOfVariant member'))

/-- No two cases of a declaration have the same key. -/
theorem nodup_keys (rules : module.WellFormed) (declared : declaration ∈ module.declarations) :
    ((module.casesOfDeclaration declaration).map fun concrete =>
      (concrete.key declaration).text).Nodup :=
  (rules.nodup_casesOfDeclaration declared).map_on fun _ member _ member' same =>
    rules.eq_of_key declared member member' same

end Module.WellFormed

end ShaderVariants
