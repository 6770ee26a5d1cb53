import ShaderVariants.Proofs.Acceptance

/-!
# Class names of accepted modules

The class of a variant is named by two names that have been checked one by one.  Behind each other
they are an identifier again that does not begin with an underscore, but nothing keeps them from
spelling a keyword or from being composed where they meet.  Nothing else can go wrong: of the names
that the generated module needs for itself, all usable ones are refused.
-/

namespace ShaderVariants

/-- Plain characters are never replaced or composed. -/
theorem Text.isNormal_of_plain {text : String}
    (plain : ∀ c ∈ text.toList, c.toNat < NormalForm.plainLimit) : isNormal text = true := by
  have all : (text.toList.map Char.toNat).all (· < NormalForm.plainLimit) = true := by
    simpa using plain
  simp only [isNormal, normalForm, all, if_true, beq_self_eq_true]

-- A leading consonant and a vowel compose to a syllable.
example : Text.isNormal ("\u1100" ++ "\u1161") = false := by decide +kernel

namespace Module

variable {module : Module}

theorem typeName_mem_classNames {valueEnum : ValueEnum} (member : valueEnum ∈ module.valueEnums) :
    valueEnum.typeName ∈ module.classNames :=
  List.mem_append_left _ (List.mem_map_of_mem member)

theorem mem_classNames_of_declaration {declaration : VariantsDeclaration}
    (member : declaration ∈ module.declarations) {name : String}
    (generated : name ∈ declarationClassNames declaration) : name ∈ module.classNames :=
  List.mem_append_right _ (List.mem_flatMap.mpr ⟨declaration, member, generated⟩)

theorem caseClassName_mem_classNames {declaration : VariantsDeclaration}
    (member : declaration ∈ module.declarations) {variant : Variant}
    (inside : variant ∈ declaration.variants) :
    declaration.caseClassName variant.name ∈ module.classNames :=
  mem_classNames_of_declaration member
    (List.mem_cons_of_mem _ (List.mem_map.mpr ⟨variant, inside, rfl⟩))

theorem WellFormed.caseClassName_isIdentifier (rules : module.WellFormed)
    {declaration : VariantsDeclaration} (member : declaration ∈ module.declarations)
    {variant : Variant} (inside : variant ∈ declaration.variants) :
    Text.isIdentifier (declaration.caseClassName variant.name) = true := by
  have declarationRules := rules.declarations declaration member
  exact Text.isIdentifier_append declarationRules.nameUsable.isIdentifier
    (declarationRules.variantNamesUsable variant inside).isIdentifier

theorem WellFormed.caseClassName_head?_ne (rules : module.WellFormed)
    {declaration : VariantsDeclaration} (member : declaration ∈ module.declarations)
    (variant : String) :
    (declaration.caseClassName variant).toList.head? ≠ some '_' := by
  have usable := (rules.declarations declaration member).nameUsable
  have initial := usable.head?_ne
  rw [VariantsDeclaration.caseClassName, String.toList_append]
  cases characters : declaration.name.toList with
  | nil => exact absurd characters usable.toList_ne_nil
  | cons first rest =>
      rw [characters] at initial
      simpa using initial

/-- Class names of an accepted module are usable and hide nothing, except that the class name of a
variant may be a keyword or no normal text.  Plain texts are normal, so that for them only keywords
remain. -/
theorem Accepted.classNames_usable_iff (accepted : module.Accepted) :
    (∀ valueEnum ∈ module.valueEnums,
      Name.Usable valueEnum.typeName ∧ valueEnum.typeName ∉ Name.reserved) ∧
    ∀ declaration ∈ module.declarations,
      (Name.Usable declaration.name ∧ declaration.name ∉ Name.reserved) ∧
      ∀ variant ∈ declaration.variants,
        let name := declaration.caseClassName variant.name
        (Text.isIdentifier name = true ∧ name.toList.head? ≠ some '_') ∧
        ((∀ c ∈ name.toList, c.toNat < Text.NormalForm.plainLimit) →
          Text.isNormal name = true) ∧
        (Name.Usable name ∧ name ∉ Name.reserved ↔
          Text.isNormal name = true ∧ name ∉ Name.keywords) := by
  have rules := accepted.wellFormed
  refine ⟨?_, ?_⟩
  · intro valueEnum member
    have usable := (rules.valueEnums valueEnum member).typeNameUsable
    exact ⟨usable, rules.classNamesFree _ (typeName_mem_classNames member) usable⟩
  · intro declaration member
    have usable := (rules.declarations declaration member).nameUsable
    have declared : declaration.name ∈ module.classNames :=
      mem_classNames_of_declaration member (List.mem_cons_self ..)
    refine ⟨⟨usable, rules.classNamesFree _ declared usable⟩, ?_⟩
    intro variant inside name
    have identifier := rules.caseClassName_isIdentifier member inside
    have initial := rules.caseClassName_head?_ne member variant.name
    refine ⟨⟨identifier, initial⟩, Text.isNormal_of_plain, ?_⟩
    constructor
    · intro rules
      obtain ⟨caseUsable, -⟩ := rules
      exact ⟨caseUsable.isNormal, caseUsable.notMem_keywords⟩
    · intro rules
      obtain ⟨normal, other⟩ := rules
      have caseUsable : Name.Usable name :=
        Name.usable_iff.mpr ⟨identifier, normal, other, initial⟩
      exact ⟨caseUsable,
        rules.classNamesFree name (caseClassName_mem_classNames member inside) caseUsable⟩

/-- A declaration and a variant whose names spell a keyword. -/
def keywordVariant : Module where
  file := "keyword.wgslv"
  valueEnums := []
  declarations := [⟨"i", "i.wgsl", none, [⟨"f", .hardcoded [], none⟩], false, none⟩]

theorem keywordVariant_accepted_unusable :
    keywordVariant.Accepted ∧ ¬(Name.Usable "if" ∧ "if" ∉ Name.reserved) := by
  have accepted : keywordVariant.Accepted := by decide +kernel
  have declared : keywordVariant.declarations.head (by decide) ∈ keywordVariant.declarations :=
    List.head_mem _
  have condition := ((accepted.classNames_usable_iff.2 _ declared).2
    ⟨"f", .hardcoded [], none⟩ (by decide +kernel)).2.2
  refine ⟨accepted, fun usable => ?_⟩
  exact (condition.mp usable).2 (by decide)

end Module

end ShaderVariants
