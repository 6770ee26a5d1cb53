import ShaderVariants.Proofs.CompilationSteps
import ShaderVariants.Proofs.MembersByValue
import ShaderVariants.Proofs.ModuleStatements

/-!
# Keys as expressions

The key of a case is an expression over what stands in front of it in the generated module: it
applies the class of a variant, whose body declares one field per argument, and each argument is a
member that the body of a class defines, the one that the field is annotated with.  The emitter
takes fields and arguments from different places, the fields from the references of the variant and
the arguments from the selections of the case; in a module that follows the rules both lead to the
same value enums.
-/

namespace ShaderVariants

namespace Generated

open Text.Code (Indented StandsAlone)

/-! ## Classes and what they declare -/

/-- The field that a line in the body of a class declares, with its annotation. -/
def field? (line : String) : Option (String × String) :=
  let cs := line.toList.drop 4
  let name := leadingName cs
  let rest := cs.drop name.length
  let annotation := rest.drop 2
  if "    ".toList <+: line.toList ∧ name ≠ [] ∧ ": ".toList <+: rest ∧ annotation ≠ []
      ∧ leadingName annotation = annotation then
    some (String.ofList name, String.ofList annotation)
  else none

/-- Among some lines stands a class statement, with all of its body: lines that are indented or
empty, up to one that is not. -/
def DefinesClass (lines : List String) (statement : String) (body : List String) : Prop :=
  ∃ front next behind, lines = front ++ statement :: (body ++ next :: behind) ∧
    (∀ line ∈ body, Indented line) ∧ ¬Indented next

/-- The argument for a field is a member that the class defines which the field is annotated with.
That class is defined once, by some of the lines in front. -/
def Selects (module : Module) (before : List String) (field : String × String)
    (argument : String) : Prop :=
  ∃ body, DefinesClass before ("class " ++ field.2 ++ "(enum.Enum):") body ∧
    module.bindings.count (.defines field.2) = 1 ∧
    ∃ member ∈ body.filterMap member?, argument = field.2 ++ "." ++ member.1

/-- A key applies the class of a variant to one argument for each field that the class declares.
That class is defined once, by some of the lines in front, which are lines of code on their own. -/
structure Applies (module : Module) (base : String) (before : List String) (key : CaseKey)
    (variant : String) (fields : List (String × String)) : Prop where
  applied : key.className = base ++ variant
  declared : ∃ body, DefinesClass before ("class " ++ base ++ variant ++ "(" ++ base ++ "):") body ∧
    body.filterMap field? = fields ∧ ∀ line ∈ body, StandsAlone line
  definedOnce : module.bindings.count (.defines (base ++ variant)) = 1
  fieldsDiffer : (fields.map Prod.fst).Nodup
  selected : List.Forall₂ (Selects module before) fields key.arguments

/-! ### Lines of fields -/

theorem field?_line {name annotation : String} (identifier : Text.isIdentifier name = true)
    (annotated : Text.isIdentifier annotation = true) :
    field? s!"    {name}: {annotation}" = some (name, annotation) := by
  have inside := Text.all_isIdentifierPart identifier
  have nonempty := Text.toList_ne_nil_of_isIdentifier identifier
  have nonempty' := Text.toList_ne_nil_of_isIdentifier annotated
  let rest := ':' :: ' ' :: annotation.toList
  have same : (s!"    {name}: {annotation}").toList = "    ".toList ++ (name.toList ++ rest) := by
    simp [toString, rest]
  have indent : "    ".toList <+: "    ".toList ++ (name.toList ++ rest) := List.prefix_append _ _
  have front : leadingName (name.toList ++ rest) = name.toList :=
    leadingName_append inside (by decide) _
  have colon : ": ".toList <+: rest := List.prefix_append ": ".toList _
  have whole : leadingName annotation.toList = annotation.toList := by
    rw [leadingName, List.takeWhile_eq_self_iff]
    exact List.all_eq_true.mp (Text.all_isIdentifierPart annotated)
  have dropped : ("    ".toList ++ (name.toList ++ rest)).drop 4 = name.toList ++ rest := rfl
  have behind : rest.drop 2 = annotation.toList := rfl
  unfold field?
  simp only [same, dropped, front, List.drop_left, behind, indent, nonempty, nonempty', colon,
    whole, ne_eq, not_false_iff, and_self, if_true, String.ofList_toList]

theorem field?_eq_none {line : String} (nameless : leadingName (line.toList.drop 4) = []) :
    field? line = none := by
  simp [field?, nameless]

/-- The fields that a case class declares. -/
theorem CaseClass.filterMap_field?_lines {caseClass : CaseClass} (readable : caseClass.IsReadable)
    (family : String) : ((caseClass.lines family).drop 2).filterMap field? = caseClass.fields := by
  simp only [lines, List.cons_append, List.nil_append, List.drop_succ_cons, List.drop_zero]
  split
  case isTrue empty =>
    have none : field? s!"    \"\"\"{family}::{caseClass.variant}\"\"\"" = none := by
      apply field?_eq_none
      have quote : '"' ∈ nameEnds := by decide
      simp [toString, leadingName_cons quote]
    rw [List.filterMap_cons_none none, List.filterMap_nil, List.isEmpty_iff.mp empty]
  case isFalse =>
    rw [List.filterMap_map, List.filterMap_congr (g := some), List.filterMap_some]
    intro field listed
    obtain ⟨named, annotated⟩ := readable.fields field listed
    exact field?_line named annotated

/-! ### Classes behind each other -/

/-- Some lines begin with one that is not indented. -/
def BeginsAnew (lines : List String) : Prop := ∃ line ∈ lines.head?, ¬Indented line

/-- Behind a class, two empty lines are followed by one that is not indented. -/
def EndsClass (lines : List String) : Prop :=
  ∃ next behind, lines = "" :: "" :: next :: behind ∧ ¬Indented next

theorem endsClass_cons {lines : List String} (anew : BeginsAnew lines) (behind : List String) :
    EndsClass ("" :: "" :: (lines ++ behind)) := by
  obtain ⟨next, first, margin⟩ := anew
  obtain ⟨others, rfl⟩ := List.head?_eq_some_iff.mp first
  exact ⟨next, others ++ behind, rfl, margin⟩

section Blocks

variable {α : Type} {lines : α → List String} {items : List α}
  (anew : ∀ item ∈ items, BeginsAnew (lines item)) {behind : List String}
  (ends : EndsClass behind)
include anew ends

theorem endsClass_blocks :
    EndsClass ((items.flatMap fun item => "" :: "" :: lines item) ++ behind) := by
  cases items with
  | nil => exact ends
  | cons item items =>
      rw [List.flatMap_cons, List.cons_append, List.cons_append, List.cons_append,
        List.cons_append, List.append_assoc]
      exact endsClass_cons (anew item List.mem_cons_self) _

/-- A class in a block of classes. -/
theorem definesClass_of_blocks {item : α} (inside : item ∈ items)
    {decorator statement : String} {body : List String}
    (same : lines item = decorator :: statement :: body) (indented : ∀ line ∈ body, Indented line)
    (front : List String) :
    DefinesClass (front ++ (items.flatMap fun item => "" :: "" :: lines item) ++ behind) statement
      (body ++ ["", ""]) := by
  obtain ⟨items, items', rfl⟩ := List.append_of_mem inside
  have following : EndsClass ((items'.flatMap fun item => "" :: "" :: lines item) ++ behind) :=
    endsClass_blocks (fun item member => anew item (by simp [member])) ends
  obtain ⟨next, others, rest, margin⟩ := following
  refine ⟨front ++ (items.flatMap fun item => "" :: "" :: lines item) ++ ["", "", decorator], next,
    others, ?_, ?_, margin⟩
  · rw [List.flatMap_append, List.flatMap_cons, List.append_assoc, List.append_assoc,
      List.append_assoc, rest, same]
    simp
  · rw [List.forall_mem_append]
    exact ⟨indented, by simp [Indented]⟩

end Blocks

theorem DefinesClass.append {lines body : List String} {statement : String}
    (defines : DefinesClass lines statement body) (before behind : List String) :
    DefinesClass (before ++ lines ++ behind) statement body := by
  obtain ⟨front, next, others, same, indented, margin⟩ := defines
  refine ⟨before ++ front, next, others ++ behind, ?_, indented, margin⟩
  rw [same]
  simp

/-! ### Lines in front of a key -/

/-- The line of a key in its table. -/
def tableLine (entry : CaseKey × String) : String :=
  "    " ++ entry.1.className ++ "(" ++ String.intercalate ", " entry.1.arguments ++ "): "
    ++ Text.Quoted.encode entry.2 ++ ","

theorem Family.tableLines_eq (family : Family) :
    family.tableLines = family.sources.map tableLine := by
  apply List.map_congr_left
  intro entry _
  simp [tableLine, CaseKey.text, toString, String.append_assoc]

/-- The body of a case class, with the lines behind it. -/
def CaseClass.body (caseClass : CaseClass) (family : String) : List String :=
  (caseClass.lines family).drop 2 ++ ["", ""]

/-- The body of the class of a value enum, with the lines behind it. -/
def EnumClass.body (enumClass : EnumClass) : List String := enumClass.lines.drop 2 ++ ["", ""]

theorem not_indented_decorator {line : String} (head : line.toList.head? = some '@') :
    ¬Indented line := Text.Code.not_indented_of_head? head (by decide)

theorem not_indented_of_isIdentifier {name behind : String}
    (identifier : Text.isIdentifier name = true) : ¬Indented (name ++ behind) := by
  have nonempty := Text.toList_ne_nil_of_isIdentifier identifier
  obtain ⟨c, cs, characters⟩ := List.exists_cons_of_ne_nil nonempty
  have part := Text.isIdentifierPart_of_mem identifier (characters ▸ List.mem_cons_self)
  have head : (name ++ behind).toList.head? = some c := by
    rw [String.toList_append, characters]
    rfl
  refine Text.Code.not_indented_of_head? head ?_
  rintro rfl
  revert part
  decide

theorem CaseClass.filterMap_field?_body (caseClass : CaseClass) (readable : caseClass.IsReadable)
    (family : String) : (caseClass.body family).filterMap field? = caseClass.fields := by
  have blanks : ["", ""].filterMap field? = [] := by decide
  rw [body, List.filterMap_append, filterMap_field?_lines readable, blanks, List.append_nil]

theorem CaseClass.standsAlone_of_mem_body (caseClass : CaseClass) (readable : caseClass.IsReadable)
    {family : String} (identifier : Text.isIdentifier family = true) :
    ∀ line ∈ caseClass.body family, StandsAlone line := by
  have empty : StandsAlone "" := .of_leads (by decide)
  rw [body, List.forall_mem_append]
  exact ⟨standsAlone_body readable identifier, by simpa using empty⟩

theorem EnumClass.mem_filterMap_member?_body {enumClass : EnumClass}
    (identifiers : ∀ member ∈ enumClass.members, Text.isIdentifier member.1 = true)
    {member : String × Literal} (listed : member ∈ enumClass.members) :
    member ∈ enumClass.body.filterMap member? := by
  refine List.mem_filterMap.mpr ⟨_, ?_, member?_memberLine (identifiers member listed) member.2⟩
  have line : s!"    {member.1} = {member.2.written}" ∈ enumClass.memberLines :=
    List.mem_map.mpr ⟨member, listed, rfl⟩
  have inside : s!"    {member.1} = {member.2.written}" ∈ enumClass.lines.drop 2 := by
    simp only [lines, List.cons_append, List.nil_append, List.drop_succ_cons, List.drop_zero,
      List.mem_cons, List.mem_append]
    exact .inr (.inr (.inl line))
  exact List.mem_append_left _ inside

theorem Family.beginsAnew_memberLines {family : Family}
    (identifier : Text.isIdentifier family.name = true) (nonempty : family.caseClasses ≠ []) :
    BeginsAnew family.memberLines := by
  obtain ⟨first, others, classes⟩ := List.exists_cons_of_ne_nil nonempty
  refine ⟨s!"{family.name}.{first.variant} = {first.name}", ?_, ?_⟩
  · rw [memberLines, classes]
    rfl
  · have line : s!"{family.name}.{first.variant} = {first.name}" =
        family.name ++ ("." ++ first.variant ++ " = " ++ first.name) := by
      simp [toString, String.append_assoc]
    rw [line]
    exact not_indented_of_isIdentifier identifier

/-- Every line of a table stands behind the classes of its family. -/
theorem Family.exists_lines_before {family : Family}
    (identifier : Text.isIdentifier family.name = true) {entry : CaseKey × String}
    (listed : entry ∈ family.sources) :
    ∃ before after, family.lines = before ++ tableLine entry :: after ∧ BeginsAnew before ∧
      ∀ caseClass ∈ family.caseClasses,
        DefinesClass before ("class " ++ caseClass.name ++ "(" ++ family.name ++ "):")
          (caseClass.body family.name) := by
  obtain ⟨entries, entries', same⟩ := List.append_of_mem listed
  let classes := family.caseClasses.flatMap fun caseClass =>
    "" :: "" :: caseClass.lines family.name
  let opening := ["", ""] ++ family.memberLines
    ++ (if family.caseClasses.isEmpty then [] else [""])
    ++ [s!"{family.rawName} = {Text.Quoted.encode family.template}", "",
      s!"{family.sourcesName}: dict[{family.name}, str] = \x7b"]
    ++ entries.map tableLine
  let closing := entries'.map tableLine ++ ["\x7d",
    s!"{family.orderName} = \x7bcase: index for index, case in "
      ++ s!"enumerate({family.sourcesName})\x7d"]
  have table : family.tableLines = entries.map tableLine ++ tableLine entry ::
      entries'.map tableLine := by
    rw [family.tableLines_eq, ← List.map_cons, ← List.map_append, ← same]
  have begins : BeginsAnew (family.baseLines ++ classes ++ opening) :=
    ⟨_, rfl, not_indented_decorator (by decide)⟩
  refine ⟨family.baseLines ++ classes ++ opening, closing, ?_, begins, ?_⟩
  · simp only [lines, table, classes, opening, closing, List.append_assoc, List.cons_append,
      List.nil_append]
  · intro caseClass member
    have anew : ∀ caseClass ∈ family.caseClasses, BeginsAnew (caseClass.lines family.name) :=
      fun _ _ => ⟨_, rfl, not_indented_decorator (by decide)⟩
    have ends : EndsClass opening := by
      have attributes := beginsAnew_memberLines identifier (List.ne_nil_of_mem member)
      simpa [opening] using endsClass_cons attributes _
    have split : caseClass.lines family.name = "@dataclasses.dataclass(frozen=True)" ::
        ("class " ++ caseClass.name ++ "(" ++ family.name ++ "):") ::
          (caseClass.lines family.name).drop 2 := by
      simp [CaseClass.lines, toString]
    exact definesClass_of_blocks anew ends member split (caseClass.indented_lines family.name)
      family.baseLines

/-- Every line of a table stands behind the classes of the value enums and those of its family. -/
theorem Module.exists_lines_before {module : Module} {family : Family}
    (isFamily : family ∈ module.families) (identifier : Text.isIdentifier family.name = true)
    {entry : CaseKey × String} (listed : entry ∈ family.sources) :
    ∃ before after, module.lines = before ++ tableLine entry :: after ∧
      (∀ enumClass ∈ module.enumClasses,
        DefinesClass before ("class " ++ enumClass.name ++ "(enum.Enum):") enumClass.body) ∧
      ∀ caseClass ∈ family.caseClasses,
        DefinesClass before ("class " ++ caseClass.name ++ "(" ++ family.name ++ "):")
          (caseClass.body family.name) := by
  obtain ⟨families, families', same⟩ := List.append_of_mem isFamily
  obtain ⟨inFront, behind, ofFamily, begins, classes⟩ :=
    Family.exists_lines_before identifier listed
  let enumClasses := module.enumClasses.flatMap fun enumClass => "" :: "" :: enumClass.lines
  let opening := module.headerLines ++ ["", ""] ++ module.exportLines
  let others := families.flatMap fun family => "" :: "" :: family.lines
  refine ⟨opening ++ enumClasses ++ (others ++ "" :: "" :: inFront),
    behind ++ families'.flatMap fun family => "" :: "" :: family.lines, ?_, ?_, ?_⟩
  · simp only [lines_eq, same, ofFamily, enumClasses, opening, others, List.flatMap_append,
      List.flatMap_cons, List.append_assoc, List.cons_append, List.nil_append]
  · intro enumClass member
    have anew : ∀ enumClass ∈ module.enumClasses, BeginsAnew enumClass.lines :=
      fun _ _ => ⟨_, rfl, not_indented_decorator (by decide)⟩
    have ends : EndsClass (others ++ "" :: "" :: inFront) := by
      have sections : ∀ family ∈ families, BeginsAnew family.lines :=
        fun _ _ => ⟨_, rfl, not_indented_decorator (by decide)⟩
      have here := endsClass_cons begins []
      rw [List.append_nil] at here
      exact endsClass_blocks sections here
    exact definesClass_of_blocks anew ends member rfl enumClass.indented_lines opening
  · intro caseClass member
    have inside := (classes caseClass member).append
      (opening ++ enumClasses ++ (others ++ ["", ""])) []
    simpa using inside

end Generated

namespace Module

variable {module : Module} {declaration : VariantsDeclaration}

/-- A concrete case has chosen from the value enums of its variant. -/
theorem selections_mem_choices {concrete : VariantCase}
    (isConcrete : concrete ∈ module.casesOfDeclaration declaration) :
    concrete.selections ∈ Selection.choices (module.selectedFrom concrete.variant) := by
  have chosen := (mem_casesOfDeclaration.mp isConcrete).2
  rw [casesOfVariant_eq_choices] at chosen
  obtain ⟨selections, choice, same⟩ := List.mem_map.mp chosen
  have own : concrete.selections = selections := by rw [← same]
  rw [own]
  exact choice

/-- The value enums and cases of a choice are those that have been declared. -/
theorem declared_of_mem_choices {variant : Variant} {selections : List Selection}
    (choice : selections ∈ Selection.choices (module.selectedFrom variant))
    {selection : Selection} (selected : selection ∈ selections) :
    selection.valueEnum ∈ module.valueEnums ∧ selection.case ∈ selection.valueEnum.cases := by
  refine ⟨?_, Selection.case_mem_of_mem_choices choice selected⟩
  apply mem_valueEnums_of_mem_selectedFrom
  rw [← Selection.map_valueEnum_of_mem_choices choice]
  exact List.mem_map_of_mem selected

/-- A case of a covered declaration has the key of a concrete case. -/
theorem exists_key_eq {resolved : ResolvedDeclaration}
    (covered : module.Covered declaration resolved) {case : ResolvedCase}
    (isCase : case ∈ resolved.cases) :
    ∃ concrete ∈ module.casesOfDeclaration declaration,
      concrete.key declaration = Generated.caseKey resolved.declaration case := by
  have key := List.mem_map_of_mem (f := Generated.caseKey resolved.declaration) isCase
  rw [module.map_caseKey_eq covered] at key
  exact List.mem_map.mp key

namespace WellFormed

/-- The fields of a variant's class bear different names. -/
theorem nodup_fieldNames_selectedFrom (rules : module.WellFormed)
    (declared : declaration ∈ module.declarations) {variant : Variant}
    (inside : variant ∈ declaration.variants) :
    ((module.selectedFrom variant).map ValueEnum.fieldName).Nodup := by
  unfold selectedFrom
  cases body : variant.body with
  | hardcoded definitions => exact List.nodup_nil
  | crossProduct references =>
      have bodyRules := (rules.declarations declaration declared).bodies variant inside
      rw [body] at bodyRules
      have distinct := Variant.CrossProductWellFormed.fieldsDiffer bodyRules
      rw [← map_typeName_referenced (rules.resolves declared inside body), List.map_map] at distinct
      exact distinct

theorem map_declaration_of_covered {resolved : List ResolvedDeclaration}
    (covered : List.Forall₂ module.Covered module.declarations resolved) :
    resolved.map ResolvedDeclaration.declaration = module.declarations := by
  have same : List.Forall₂ Eq module.declarations
      (resolved.map ResolvedDeclaration.declaration) :=
    List.forall₂_map_right_iff.mpr (covered.imp fun _ _ here => here.1.symm)
  rw [List.forall₂_eq_eq_eq] at same
  exact same.symm

/-- Fields and arguments lead to the same value enums. -/
theorem selects_of_mem_choices (rules : module.WellFormed) {variant : Variant}
    {selections : List Selection}
    (choice : selections ∈ Selection.choices (module.selectedFrom variant))
    {generated : Generated.Module} {before : List String}
    (enumClasses : ∀ valueEnum ∈ module.valueEnums,
      Generated.DefinesClass before ("class " ++ valueEnum.typeName ++ "(enum.Enum):")
        (Generated.enumClass valueEnum).body ∧
      generated.bindings.count (.defines valueEnum.typeName) = 1) :
    List.Forall₂ (Generated.Selects generated before)
      ((module.selectedFrom variant).map fun valueEnum =>
        (valueEnum.fieldName, valueEnum.typeName))
      (selections.map Selection.shown) := by
  have enums := Selection.map_valueEnum_of_mem_choices choice
  rw [← enums, List.map_map, List.forall₂_map_left_iff, List.forall₂_map_right_iff,
    List.forall₂_same]
  intro selection selected
  obtain ⟨present, isCase⟩ := declared_of_mem_choices choice selected
  have valueEnumRules := rules.valueEnums _ present
  obtain ⟨defined, once⟩ := enumClasses _ present
  have member : (selection.case.name, selection.case.value.literal) ∈
      (Generated.enumClass selection.valueEnum).body.filterMap Generated.member? :=
    Generated.EnumClass.mem_filterMap_member?_body valueEnumRules.isIdentifier_members
      (List.mem_map_of_mem isCase)
  exact ⟨_, defined, once, _, member, rfl⟩

/-- Every key of a table applies a class that has been defined before. -/
theorem exists_applies (rules : module.WellFormed) {resolved : List ResolvedDeclaration}
    (covered : List.Forall₂ module.Covered module.declarations resolved)
    {family : Generated.Family} (isFamily : family ∈ (module.emitted resolved).families)
    {entry : Generated.CaseKey × String} (listed : entry ∈ family.sources) :
    ∃ before after, (module.emitted resolved).lines =
        before ++ Generated.tableLine entry :: after ∧
      ∃ variant fields,
        Generated.Applies (module.emitted resolved) family.name before entry.1 variant fields := by
  have inOrder := map_declaration_of_covered covered
  have once {name : String} (isClass : name ∈ module.classNames) :=
    rules.count_defines_emitted inOrder isClass
  obtain ⟨one, isOne, rfl⟩ := List.mem_map.mp isFamily
  obtain ⟨declaration, declared, here⟩ := exists_related_of_mem covered isOne
  have concretes {case : ResolvedCase} (isCase : case ∈ one.cases) := exists_key_eq here isCase
  obtain ⟨rfl, -⟩ := here
  have identifier := (rules.declarations one.declaration declared).nameUsable.isIdentifier
  obtain ⟨before, after, place, enumClasses, caseClasses⟩ :=
    Generated.Module.exists_lines_before isFamily identifier listed
  obtain ⟨case, isCase, rfl⟩ := List.mem_map.mp listed
  obtain ⟨concrete, isConcrete, key⟩ := concretes isCase
  have inside := (mem_casesOfDeclaration.mp isConcrete).1
  have choice := selections_mem_choices isConcrete
  let fields := (module.selectedFrom concrete.variant).map fun valueEnum =>
    (valueEnum.fieldName, valueEnum.typeName)
  let caseClass : Generated.CaseClass :=
    ⟨concrete.variant.name, one.declaration.caseClassName concrete.variant.name, fields⟩
  have isClass : caseClass ∈ (module.coveredFamily one).caseClasses :=
    List.mem_map.mpr ⟨concrete.variant, inside, rfl⟩
  have readable : caseClass.IsReadable := rules.isReadable_caseClass declared inside
  refine ⟨before, after, place, concrete.variant.name, fields, ?_⟩
  change Generated.Applies _ one.declaration.name before
    (Generated.caseKey one.declaration case) _ _
  rw [← key]
  exact {
    applied := rfl
    declared := by
      have defined := caseClasses caseClass isClass
      have statement : "class " ++ caseClass.name =
          "class " ++ one.declaration.name ++ concrete.variant.name := String.append_assoc.symm
      rw [statement] at defined
      exact ⟨_, defined, caseClass.filterMap_field?_body readable _,
        caseClass.standsAlone_of_mem_body readable identifier⟩
    definedOnce := once (caseClassName_mem_classNames declared inside)
    fieldsDiffer := by
      rw [List.map_map]
      exact rules.nodup_fieldNames_selectedFrom declared inside
    selected := by
      apply rules.selects_of_mem_choices choice
      intro valueEnum present
      have isEnumClass : Generated.enumClass valueEnum ∈ (module.emitted resolved).enumClasses :=
        List.mem_map_of_mem present
      exact ⟨enumClasses _ isEnumClass, once (typeName_mem_classNames present)⟩ }

/-- The payloads of cases that have been resolved are written with names. -/
theorem isNamed_of_covered (rules : module.WellFormed) {resolved : List ResolvedDeclaration}
    (covered : List.Forall₂ module.Covered module.declarations resolved) :
    ∀ one ∈ resolved, ∀ case ∈ one.cases, case.IsNamed := by
  intro one isOne case isCase selection selected
  obtain ⟨declaration, declared, rfl, outlines⟩ := exists_related_of_mem covered isOne
  have listed := List.mem_map_of_mem (f := ResolvedCase.outline) isCase
  rw [outlines] at listed
  obtain ⟨concrete, isConcrete, same⟩ := List.mem_map.mp listed
  have choice := selections_mem_choices isConcrete
  have sameSelections : concrete.selections = case.selections := congrArg Prod.snd same
  rw [sameSelections] at choice
  obtain ⟨present, isCase⟩ := declared_of_mem_choices choice selected
  have valueEnumRules := rules.valueEnums _ present
  exact ⟨valueEnumRules.typeNameUsable.isIdentifier,
    (valueEnumRules.caseNamesUsable _ isCase).isIdentifier⟩

end WellFormed

end Module

namespace Compiler

variable {σ : Type}

end Compiler

end ShaderVariants
