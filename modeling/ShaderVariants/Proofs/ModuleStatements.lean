import ShaderVariants.Proofs.CaseTotality
import ShaderVariants.Proofs.TopLevel

/-!
# Statements of accepted modules

What an accepted module binds can be read from the text that is generated, as long as no text that
is inserted into a docstring closes it and the payloads of cases are written with names.  Class
names differ by the rules and hide no import, and everything else begins with an underscore.  What
the module exports is the class names of its public declarations, each of which one class statement
binds.

A docstring that is closed too early can bind a name once more.
-/

namespace ShaderVariants

open Text (KeepsOpen)
open Text.StringLiteral (split? docstringMarks)
open Generated (Binding Statement statements?)

/-! ## What can be read -/

/-- The payload of a case is written with names. -/
def ResolvedCase.IsNamed (case : ResolvedCase) : Prop :=
  ∀ selection ∈ case.selections, Text.isIdentifier selection.valueEnum.typeName = true ∧
    Text.isIdentifier selection.case.name = true

instance (case : ResolvedCase) : Decidable case.IsNamed :=
  inferInstanceAs (Decidable (∀ selection ∈ case.selections, _ ∧ _))

namespace Module

/-- No text that is inserted into a docstring of the generated module closes it. -/
structure KeepsDocstrings (module : Module) : Prop where
  source : KeepsOpen (Path.ofString module.file).fileName
  valueEnums : ∀ valueEnum ∈ module.valueEnums, valueEnum.KeepsDocstring
  declarations : ∀ declaration ∈ module.declarations,
    ¬docstringMarks <:+: declaration.templatePath.toList ∧
      ∀ place ∈ declaration.location, KeepsOpen place.fileName

instance (module : Module) : Decidable module.KeepsDocstrings :=
  decidable_of_iff
    (KeepsOpen (Path.ofString module.file).fileName ∧
      (∀ valueEnum ∈ module.valueEnums, valueEnum.KeepsDocstring) ∧
      ∀ declaration ∈ module.declarations,
        ¬docstringMarks <:+: declaration.templatePath.toList ∧
          ∀ place ∈ declaration.location, KeepsOpen place.fileName)
    ⟨fun ⟨source, valueEnums, declarations⟩ => ⟨source, valueEnums, declarations⟩,
      fun keeps => ⟨keeps.source, keeps.valueEnums, keeps.declarations⟩⟩

variable {module : Module} {resolved : List ResolvedDeclaration}

namespace WellFormed

theorem isReadable_caseClass (rules : module.WellFormed) {declaration : VariantsDeclaration}
    (declared : declaration ∈ module.declarations) {variant : Variant}
    (inside : variant ∈ declaration.variants) :
    Generated.CaseClass.IsReadable ⟨variant.name, declaration.caseClassName variant.name,
      (module.selectedFrom variant).map fun valueEnum =>
        (valueEnum.fieldName, valueEnum.typeName)⟩ := by
  have declarationRules := rules.declarations declaration declared
  refine ⟨rules.caseClassName_isIdentifier declared inside,
    (declarationRules.variantNamesUsable variant inside).isIdentifier, ?_⟩
  rw [List.forall_mem_map]
  intro valueEnum selected
  have present := mem_valueEnums_of_mem_selectedFrom selected
  refine ⟨?_, (rules.valueEnums valueEnum present).typeNameUsable.isIdentifier⟩
  have bodyRules := declarationRules.bodies variant inside
  unfold selectedFrom at selected
  cases body : variant.body with
  | hardcoded definitions =>
      rw [body] at selected
      cases selected
  | crossProduct references =>
      rw [body] at selected bodyRules
      have referred := (mem_valueEnums_of_mem_referenced selected).2
      exact (Variant.CrossProductWellFormed.fieldsUsable bodyRules _ referred).isIdentifier

theorem isReadable_caseKey (rules : module.WellFormed) {declaration : VariantsDeclaration}
    (declared : declaration ∈ module.declarations) {case : ResolvedCase}
    (known : ∃ variant ∈ declaration.variants, variant.name = case.variant)
    (named : case.IsNamed) : (Generated.caseKey declaration case).IsReadable := by
  obtain ⟨variant, inside, sameName⟩ := known
  constructor
  · have identifier := rules.caseClassName_isIdentifier declared inside
    rw [sameName] at identifier
    exact fun _ member => .inl (Text.isIdentifierPart_of_mem identifier member)
  · change ∀ argument ∈ case.selections.map Selection.shown, Generated.IsNamePath argument
    rw [List.forall_mem_map]
    intro selection selected c member
    obtain ⟨typeName, caseName⟩ := named selection selected
    have characters : selection.shown.toList =
        selection.valueEnum.typeName.toList ++ '.' :: selection.case.name.toList := by
      simp [Selection.shown, toString]
    rw [characters, List.mem_append, List.mem_cons] at member
    rcases member with inType | isDot | inCase
    · exact .inl (Text.isIdentifierPart_of_mem typeName inType)
    · exact .inr isDot
    · exact .inl (Text.isIdentifierPart_of_mem caseName inCase)

/-- What is generated from an accepted module can be read. -/
theorem isReadable_emitted (rules : module.WellFormed)
    (inOrder : resolved.map ResolvedDeclaration.declaration = module.declarations)
    (tallies : ∀ one ∈ resolved, module.Tallies one) (keeps : module.KeepsDocstrings)
    (named : ∀ one ∈ resolved, ∀ case ∈ one.cases, case.IsNamed) :
    (module.emitted resolved).IsReadable := by
  constructor
  · obtain ⟨after, docstring⟩ := (module.emitted resolved).docstring_header
    have closed := docstring.closed_iff.mpr keeps.source
    obtain ⟨init, ends⟩ := Generated.Module.exists_headerDocstring_eq
      (module.emitted resolved).sourceName
    exact (Text.split?_docstring_iff ends (by decide) (by decide) after).mp closed
  · intro enumClass member
    obtain ⟨valueEnum, present, rfl⟩ := List.mem_map.mp member
    have valueEnumRules := rules.valueEnums valueEnum present
    exact ⟨valueEnumRules.typeNameUsable.isIdentifier, valueEnumRules.isIdentifier_members,
      (keeps.valueEnums valueEnum present).split?_summary⟩
  · intro family member
    obtain ⟨one, present, rfl⟩ := List.mem_map.mp member
    have declared : one.declaration ∈ module.declarations := inOrder ▸ List.mem_map_of_mem present
    obtain ⟨before, after, docstring⟩ := one.declaration.docstring_family rfl rfl rfl member
    constructor
    · exact (rules.declarations one.declaration declared).nameUsable
    · exact split?_eq_none_of_closed rfl (docstring.closed_iff.mpr (keeps.declarations _ declared))
    · change ∀ caseClass ∈ one.declaration.variants.map _, _
      rw [List.forall_mem_map]
      exact fun variant inside => rules.isReadable_caseClass declared inside
    · change ∀ entry ∈ one.cases.map _, _
      rw [List.forall_mem_map]
      exact fun case listed => rules.isReadable_caseKey declared
        ((tallies one present).variantsKnown case listed) (named one present case listed)

end WellFormed

end Module

/-! ## Exports -/

namespace Generated

/-- A name in a list of exports, one per line. -/
def exportedName? (line : String) : Option String :=
  match line.toList with
  | ' ' :: ' ' :: ' ' :: ' ' :: entry =>
    if entry.getLast? = some ',' then
      (Text.Quoted.decode? entry.dropLast).map String.ofList
    else none
  | _ => none

/-- A text assigns a list to `__all__` at the top level, of some names with a line each. -/
def Exports (text : List Char) (names : List String) : Prop :=
  ∃ before outline rows after,
    text = before ++ ((["__all__ = ["] ++ rows ++ ["]"]).flatMap (fun line => line.toList ++ ['\n'])
      ++ after) ∧
    (∀ c ∈ before.getLast?, c = '\n') ∧ Text.Code.Reads .start before outline .start ∧
    rows.mapM exportedName? = some names

theorem exportedName?_entry (name : String) :
    exportedName? s!"    {Text.Quoted.encode name}," = some name := by
  have same : (s!"    {Text.Quoted.encode name},").toList =
      ' ' :: ' ' :: ' ' :: ' ' :: (Text.Quoted.encodeChars name.toList ++ [',']) := by
    simp [toString, Text.Quoted.encode]
  unfold exportedName?
  rw [same]
  simp [Text.Quoted.decode?_encodeChars]

theorem mapM_exportedName? (names : List String) :
    (names.map fun name => s!"    {Text.Quoted.encode name},").mapM exportedName? = some names := by
  have each : (exportedName? ∘ fun name => s!"    {Text.Quoted.encode name},") = some := by
    funext name
    rw [Function.comp_apply, exportedName?_entry]
  have all := List.mapM_pure (m := Option) (l := names) (f := id)
  rw [List.mapM_map, each]
  rwa [List.map_id] at all

namespace Module

theorem exports_text {module : Module}
    (notClosed : split? docstringMarks (headerDocstring module.sourceName).toList = none) :
    Exports module.text.toList module.exports := by
  let front := module.headerLines ++ ["", ""]
  have blanks := LinesGive.blank.append LinesGive.blank
  obtain ⟨outlines, reads, -⟩ := (linesGive_headerLines notClosed).append blanks
  have stand : front ++ module.exportLines <+: module.lines := by
    rw [lines_eq]
    exact (List.prefix_append _ _).trans (List.prefix_append _ _)
  obtain ⟨behind, same⟩ := stand
  refine ⟨front.flatMap fun line => line.toList ++ ['\n'], outlines.flatMap (· ++ ['\n']),
    module.exports.map fun name => s!"    {Text.Quoted.encode name},",
    behind.flatMap fun line => line.toList ++ ['\n'], ?_, ?_, reads, ?_⟩
  · rw [toList_text, ← same, List.flatMap_append, List.flatMap_append, List.append_assoc]
    rfl
  · simp [front]
  · exact mapM_exportedName? module.exports

end Module

end Generated

/-! ## Statements and exports of a module -/

namespace Module

variable {module : Module} {resolved : List ResolvedDeclaration}

theorem exports_sublist_classNames (module : Module) :
    (Generated.exports module).Sublist module.classNames := by
  apply List.Sublist.append
  · exact List.filter_sublist.map ValueEnum.typeName
  · exact List.filter_sublist.flatMap declarationClassNames

theorem mem_exports {name : String} :
    name ∈ Generated.exports module ↔
      (∃ valueEnum ∈ module.valueEnums, valueEnum.isPublic = true ∧ valueEnum.typeName = name) ∨
      ∃ declaration ∈ module.declarations, declaration.isPublic = true ∧
        (declaration.name = name ∨
          ∃ variant ∈ declaration.variants, declaration.name ++ variant.name = name) := by
  simp only [Generated.exports, VariantsDeclaration.caseClassName, List.mem_append, List.mem_map,
    List.mem_flatMap, List.mem_filter, List.mem_cons, and_assoc, eq_comm (a := name)]

/-- The statements that define classes, each behind its decorator. -/
def classStatements (names : List String) : List Statement :=
  names.flatMap fun name => [.decorator, .binds (.defines name)]

/-- The statements that a declaration stands for: its classes, the attributes of the base class and
the tables. -/
def declarationStatements (declaration : VariantsDeclaration) : List Statement :=
  classStatements (declarationClassNames declaration)
    ++ declaration.variants.map (fun variant =>
      Statement.setsAttribute declaration.name variant.name)
    ++ (tableNames declaration).map fun name => Statement.binds (.assigns name)

/-- The statements of the generated module. -/
theorem statements_emitted
    (inOrder : resolved.map ResolvedDeclaration.declaration = module.declarations) :
    (module.emitted resolved).statements =
      Statement.literal
        :: importedNames.map (fun name => Statement.binds (.imports name))
        ++ [Statement.binds (.assigns "__all__")]
        ++ classStatements (module.valueEnums.map ValueEnum.typeName)
        ++ module.declarations.flatMap declarationStatements := by
  have family (one : ResolvedDeclaration) :
      (module.coveredFamily one).statements = declarationStatements one.declaration := by
    rw [Generated.Family.statements, coveredFamily, List.flatMap_map, List.map_map,
      declarationStatements, classStatements, declarationClassNames, List.flatMap_cons,
      List.flatMap_map]
    rfl
  rw [Generated.Module.statements, emitted, List.flatMap_map, List.flatMap_map, ← inOrder,
    List.flatMap_map, classStatements, List.flatMap_map]
  simp only [family]
  rfl

/-- What the statements bind is what their lines bind. -/
theorem WellFormed.filterMap_binding?_statements (rules : module.WellFormed)
    (inOrder : resolved.map ResolvedDeclaration.declaration = module.declarations) :
    (module.emitted resolved).statements.filterMap Statement.binding? =
      (module.emitted resolved).bindings := by
  have classes (names : List String) :
      (classStatements names).filterMap Statement.binding? = names.map Binding.defines := by
    rw [classStatements, List.filterMap_flatMap, List.map_eq_flatMap]
    rfl
  have bound (names : List String) (binding : String → Binding) :
      (names.map fun name => Statement.binds (binding name)).filterMap Statement.binding? =
        names.map binding := by
    rw [List.filterMap_map]
    exact congrFun List.filterMap_eq_map names
  have attributes (declaration : VariantsDeclaration) :
      (declaration.variants.map fun variant =>
        Statement.setsAttribute declaration.name variant.name).filterMap Statement.binding? =
          [] := by
    rw [List.filterMap_map]
    exact List.filterMap_eq_nil_iff.mpr fun _ _ => rfl
  have declarationBindings (declaration : VariantsDeclaration) :
      (declarationStatements declaration).filterMap Statement.binding? =
        (declarationClassNames declaration).map Binding.defines
          ++ (tableNames declaration).map Binding.assigns := by
    rw [declarationStatements, List.filterMap_append, List.filterMap_append, classes, attributes,
      bound _ Binding.assigns, List.append_nil]
  have enumClasses := classes (module.valueEnums.map ValueEnum.typeName)
  have imports := bound importedNames Binding.imports
  rw [rules.bindings_emitted inOrder, statements_emitted inOrder]
  simp only [List.cons_append, List.filterMap_cons, List.filterMap_append, List.filterMap_flatMap,
    enumClasses, imports, declarationBindings, List.map_map]
  rfl

/-- What the lines of the generated module bind is what the statements of its text bind. -/
theorem WellFormed.exists_statements_emitted (rules : module.WellFormed)
    (inOrder : resolved.map ResolvedDeclaration.declaration = module.declarations)
    (tallies : ∀ one ∈ resolved, module.Tallies one)
    (named : ∀ one ∈ resolved, ∀ case ∈ one.cases, case.IsNamed)
    (keeps : module.KeepsDocstrings) :
    ∃ statements, statements? (module.emitted resolved).text.toList = some statements ∧
      statements.filterMap Statement.binding? = (module.emitted resolved).bindings := by
  have readable := rules.isReadable_emitted inOrder tallies keeps named
  exact ⟨_, Generated.Module.statements?_text readable, rules.filterMap_binding?_statements inOrder⟩

/-- What the generated module binds at the top level, and what it exports.  As long as no docstring
is closed too early and payloads are written with names, all of its text is statements that are
meant.  They bind different names, and the exported ones are the class names of public declarations,
each of which one class statement binds. -/
theorem Accepted.nodup_names_bindings (accepted : module.Accepted)
    (inOrder : resolved.map ResolvedDeclaration.declaration = module.declarations)
    {generated : Generated.Module}
    (emitted : Generated.ofResolved module resolved = .ok generated)
    (keeps : module.KeepsDocstrings)
    (named : ∀ one ∈ resolved, ∀ case ∈ one.cases, case.IsNamed) :
    ∃ statements, statements? generated.text.toList = some statements ∧
      statements = Statement.literal
        :: ["annotations", "dataclasses", "enum", "functools"].map (fun name =>
          Statement.binds (.imports name))
        ++ [Statement.binds (.assigns "__all__")]
        ++ classStatements (module.valueEnums.map ValueEnum.typeName)
        ++ module.declarations.flatMap declarationStatements ∧
      let bindings := statements.filterMap Statement.binding?
      bindings = ["annotations", "dataclasses", "enum", "functools"].map Binding.imports
        ++ [Binding.assigns "__all__"]
        ++ module.valueEnums.map (fun valueEnum => Binding.defines valueEnum.typeName)
        ++ module.declarations.flatMap (fun declaration =>
          Binding.defines declaration.name
            :: declaration.variants.map (fun variant =>
              Binding.defines (declaration.name ++ variant.name))
            ++ ["_RAW_" ++ declaration.name, "_SOURCES_" ++ declaration.name,
              "_ORDER_" ++ declaration.name].map Binding.assigns) ∧
      (bindings.map Binding.name).Nodup ∧
      ∃ exported, Generated.Exports generated.text.toList exported ∧ exported.Nodup ∧
        (∀ name, name ∈ exported ↔
          (∃ valueEnum ∈ module.valueEnums,
            valueEnum.isPublic = true ∧ valueEnum.typeName = name) ∨
          ∃ declaration ∈ module.declarations, declaration.isPublic = true ∧
            (declaration.name = name ∨
              ∃ variant ∈ declaration.variants, declaration.name ++ variant.name = name)) ∧
        ∀ name ∈ exported, bindings.count (.defines name) = 1 := by
  have rules := accepted.wellFormed
  have tallies := (rules.exists_ofResolved_iff inOrder).mp ⟨generated, emitted⟩
  obtain rfl := rules.eq_emitted inOrder emitted
  have readable := rules.isReadable_emitted inOrder tallies keeps named
  refine ⟨_, Generated.Module.statements?_text readable, statements_emitted inOrder, ?_⟩
  rw [rules.filterMap_binding?_statements inOrder]
  refine ⟨?_, rules.nodup_bindings_emitted inOrder, Generated.exports module,
    Generated.Module.exports_text readable.docstring, ?_, fun name => mem_exports, ?_⟩
  · rw [rules.bindings_emitted inOrder]
    simp [declarationClassNames, tableNames, Generated.tablePrefixes, importedNames,
      VariantsDeclaration.caseClassName, Function.comp_def]
  · exact module.exports_sublist_classNames.nodup rules.classNamesDiffer
  · intro name exported
    have isClass := module.exports_sublist_classNames.subset exported
    exact rules.count_defines_emitted inOrder isClass

/-- A value enum from a file in whose name a docstring ends, a class is defined once more and
another docstring begins. -/
def splitDocstring : Module where
  file := "m.wgslv"
  valueEnums := [⟨"E", none, .u32, [⟨"A", ⟨.u32, .integer 0, rfl⟩, none⟩], true,
    some ⟨"x\"\"\"\nclass E: pass\nclass Q:\n    \"\"\"y", 1, 1⟩⟩]
  declarations := []

/-- The docstring makes two class statements. -/
theorem statements?_splitDocstring :
    statements? (splitDocstring.emitted []).text.toList =
      some (Statement.literal
        :: importedNames.map (fun name => Statement.binds (.imports name))
        ++ [.binds (.assigns "__all__"), .decorator, .binds (.defines "E"),
          .binds (.defines "E"), .binds (.defines "Q")]) := by
  let enumClass := Generated.enumClass (splitDocstring.valueEnums.head (by decide))
  have identifier : Text.isIdentifier enumClass.name = true := by decide +kernel
  have members : ∀ member ∈ enumClass.members, Text.isIdentifier member.1 = true := by
    decide +kernel
  -- This line of the emitter is four lines of code.
  have docstring : Generated.LinesGive [s!"    \"\"\"{enumClass.summary}\"\"\""]
      [.binds (.defines "E"), .binds (.defines "Q")] :=
    ⟨["    \"".toList, "class E: pass".toList, "class Q:".toList, "    \"".toList],
      by decide +kernel, by decide +kernel, by decide +kernel⟩
  have blanks := Generated.LinesGive.blank.append Generated.LinesGive.blank
  have header := @Generated.Module.linesGive_headerLines (splitDocstring.emitted [])
    (by decide +kernel)
  have body := Generated.EnumClass.linesGive_body identifier members
  have lines := (Generated.EnumClass.linesGive_statement identifier).append (docstring.append body)
  have whole := ((header.append blanks).append
    (Generated.Module.linesGive_exportLines (splitDocstring.emitted []))).append
      (blanks.append lines)
  exact whole.statements?_eq (Generated.Module.toList_text _)

/-- The class of the cross product in a small module, and two class statements with one name in a
module whose docstring is closed too early. -/
theorem count_defines_small :
    (∃ generated, Generated.ofResolved small (small.resolvedWith (fun _ => "text")
        [["first", "second", "third"]]) = .ok generated ∧
      ∃ statements, statements? generated.text.toList = some statements ∧
        let bindings := statements.filterMap Statement.binding?
        (bindings.map Binding.name).Nodup ∧ bindings.count (.defines "ShaderProduct") = 1) ∧
    splitDocstring.Accepted ∧ ¬splitDocstring.KeepsDocstrings ∧
    ∃ generated, Generated.ofResolved splitDocstring [] = .ok generated ∧
      ∃ statements, statements? generated.text.toList = some statements ∧
        let bindings := statements.filterMap Statement.binding?
        ¬(bindings.map Binding.name).Nodup ∧ bindings.count (.defines "E") = 2 := by
  refine ⟨?_, by decide +kernel, by decide +kernel, ?_⟩
  · have counts : List.Forall₂ small.Counts small.declarations [["first", "second", "third"]] :=
      .cons (by decide +kernel) .nil
    have emitted := small_accepted.wellFormed.ofResolved_of_covered
      (covered_resolvedWith (fun _ => "text") counts)
    have inOrder : (small.resolvedWith (fun _ => "text") [["first", "second", "third"]]).map
        ResolvedDeclaration.declaration = small.declarations := rfl
    obtain ⟨statements, read, -, -, names, exported, -, -, members, counts⟩ :=
      small_accepted.nodup_names_bindings inOrder emitted (by decide +kernel) (by decide +kernel)
    refine ⟨_, emitted, statements, read, names, counts _ ((members _).mpr ?_)⟩
    decide +kernel
  · refine ⟨splitDocstring.emitted [], rfl, _, statements?_splitDocstring, ?_, ?_⟩
    · decide +kernel
    · decide +kernel

end Module

end ShaderVariants
