import ShaderVariants.Proofs.CompilationSteps
import ShaderVariants.Proofs.SessionOutput

/-!
# Listings of cases

A listing builds the definitions of every case anew, a compilation updates those on a bridge, and a
count multiplies without building anything.  For a module that has been loaded the three agree:
the lines, the calls of the preprocessor and the keys of the emitted tables are about the same cases
in the same order, and the count is their number.
-/

namespace ShaderVariants

/-- A case as listings show it. -/
def NumberedCase.listed (concrete : NumberedCase) (declaration : VariantsDeclaration) :
    ConcreteCase where
  variant := concrete.variant.name
  combination := concrete.index.map fun index => ⟨index, concrete.selections⟩
  definitions := concrete.definitions declaration

/-- The key of a listed case in the table of its declaration. -/
def ConcreteCase.key (case : ConcreteCase) (declaration : VariantsDeclaration) :
    Generated.CaseKey where
  className := declaration.caseClassName case.variant
  arguments := (case.combination.map fun combination =>
    combination.selections.map Selection.shown).getD []

/-! ## Lines -/

/-- A value in a listing: a truth value is a word, and the kind of an integer stands behind it. -/
def Scalar.spelled (value : Scalar) : String :=
  match value.literal, value.kind with
  | .bool true, _ => "true"
  | .bool false, _ => "false"
  | .integer number, .i32 => toString number ++ "i32"
  | .integer number, .u32 => toString number ++ "u32"
  | .integer number, .bool => toString number ++ "bool"

/-- The selected cases behind a variant in a listing.  A hardcoded variant has none. -/
def ConcreteCase.spelledSelections (case : ConcreteCase) : String :=
  match case.combination with
  | none => ""
  | some combination =>
    "(" ++ String.intercalate ", " (combination.selections.map fun selection =>
      selection.valueEnum.typeName ++ "." ++ selection.case.name) ++ ")"

/-- The line of a case in a listing: the variant, the selected cases, and the definitions. -/
def ConcreteCase.spelled (case : ConcreteCase) : String :=
  "  " ++ case.variant ++ case.spelledSelections ++ "  \x7b" ++
    String.intercalate ", " (case.definitions.entries.map fun (key, value) =>
      key ++ ": " ++ value.spelled) ++ "\x7d"

theorem Scalar.shown_eq_spelled (value : Scalar) : value.shown = value.spelled := by
  obtain ⟨kind, literal, fits⟩ := value
  cases literal with
  | bool value => cases value <;> rfl
  | integer number => cases kind <;> rfl

theorem ConcreteCase.title_eq (case : ConcreteCase) :
    case.title = case.variant ++ case.spelledSelections := by
  unfold title spelledSelections
  cases case.combination with
  | none => exact String.append_empty.symm
  | some combination =>
      change case.variant ++ "(" ++ combination.label ++ ")" =
        case.variant ++ ("(" ++ combination.label ++ ")")
      simp only [String.append_assoc]

theorem ConcreteCase.line_eq_spelled (case : ConcreteCase) : case.line = case.spelled := by
  have definitions : listedDefinitions case.definitions =
      "\x7b" ++ String.intercalate ", " (case.definitions.entries.map fun (key, value) =>
        key ++ ": " ++ value.spelled) ++ "\x7d" := by
    simp only [listedDefinitions, Scalar.shown_eq_spelled]
    rfl
  have spells : case.line = "  " ++ case.title ++ "  " ++ listedDefinitions case.definitions := rfl
  rw [spells, title_eq, definitions, spelled]
  simp only [String.append_assoc]
  rfl

namespace Module

/-- The cases of a declaration as listings show them. -/
def listedCases (module : Module) (declaration : VariantsDeclaration) : List ConcreteCase :=
  (declaration.variants.flatMap module.numberedCases).map fun concrete =>
    concrete.listed declaration

/-- The table of declarations, where the number of cases of each declaration is given. -/
def countTable (module : Module) (title : String) (count : VariantsDeclaration → Nat) :
    Text.Table where
  title
  columns := [
    ⟨"Declaration", .left, module.valueEnums.map ValueEnum.typeName ++
      module.declarations.map VariantsDeclaration.name⟩,
    ⟨"Kind", .left, module.valueEnums.map (fun valueEnum =>
        s!"value_enum ({valueEnum.kind.name})") ++
      module.declarations.map fun declaration => s!"variants ← {declaration.templatePath}"⟩,
    ⟨"Cases", .right, module.valueEnums.map (fun valueEnum => toString valueEnum.cases.length) ++
      module.declarations.map fun declaration => toString (count declaration)⟩]

variable {module : Module} {declaration : VariantsDeclaration}

theorem key_listed {variant : Variant} {concrete : NumberedCase}
    (member : concrete ∈ module.numberedCases variant) (declaration : VariantsDeclaration) :
    (concrete.listed declaration).key declaration = concrete.key declaration := by
  unfold numberedCases at member
  cases body : variant.body with
  | hardcoded definitions =>
      rw [body] at member
      rw [List.mem_singleton.mp member]
      rfl
  | crossProduct references =>
      rw [body] at member
      obtain ⟨⟨selections, index⟩, -, rfl⟩ := List.mem_map.mp member
      rfl

theorem map_key_listedCases (module : Module) (declaration : VariantsDeclaration) :
    (module.listedCases declaration).map (fun case => case.key declaration) =
      (module.casesOfDeclaration declaration).map fun concrete => concrete.key declaration := by
  rw [listedCases, ← map_toVariantCase_flatMap, List.map_map, List.map_map]
  apply List.map_congr_left
  intro concrete member
  obtain ⟨variant, -, inside⟩ := List.mem_flatMap.mp member
  exact key_listed inside declaration

theorem length_listedCases (module : Module) (declaration : VariantsDeclaration) :
    (module.listedCases declaration).length = (module.casesOfDeclaration declaration).length := by
  rw [listedCases, ← map_toVariantCase_flatMap, List.length_map, List.length_map]

namespace WellFormed

/-- A listing shows the cases of a variant. -/
theorem variantCases_eq (rules : module.WellFormed) (declared : declaration ∈ module.declarations)
    {variant : Variant} (inside : variant ∈ declaration.variants) :
    module.variantCases declaration.sharedDefinitions variant =
      .ok ((module.numberedCases variant).map fun concrete => concrete.listed declaration) := by
  have bodyRules := (rules.declarations declaration declared).bodies variant inside
  cases body : variant.body with
  | hardcoded definitions =>
      rw [body] at bodyRules
      have own := Definition.entries_toMap (Variant.HardcodedWellFormed.keysDiffer bodyRules)
      unfold variantCases numberedCases
      simp only [body, own, List.map_cons, List.map_nil, NumberedCase.listed,
        VariantCase.definitions, VariantCase.ownDefinitions]
      rfl
  | crossProduct references =>
      have resolves := rules.resolves declared inside body
      have distinct := rules.nodup_names_referenced declared inside body
      rw [← module.map_numbered_chosen body, List.map_map]
      unfold variantCases
      rw [body]
      dsimp only
      rw [resolve_eq_referenced resolves]
      simp only [Except.mapError, bind, Except.bind, Combination.all_eq_chosen]
      refine congrArg Except.ok (List.map_congr_left fun combination member => ?_)
      simp only [Function.comp_apply, NumberedCase.listed, Combination.numbered,
        VariantCase.definitions, VariantCase.ownDefinitions, body, Combination.definitions,
        Combination.entries_overrides distinct member]
      rfl

theorem concreteCases_eq (rules : module.WellFormed)
    (declared : declaration ∈ module.declarations) :
    module.concreteCases declaration = .ok (module.listedCases declaration) := by
  have variants := mapM_eq_ok fun variant inside => rules.variantCases_eq declared inside
  unfold concreteCases listedCases
  dsimp only
  rw [variants, List.map_flatMap]
  rfl

theorem caseLines_eq (rules : module.WellFormed) (declared : declaration ∈ module.declarations) :
    module.caseLines declaration =
      .ok ((declaration.name ++ ":") ::
        (module.listedCases declaration).map ConcreteCase.spelled) := by
  unfold caseLines
  rw [rules.concreteCases_eq declared, ← funext ConcreteCase.line_eq_spelled]
  rfl

theorem caseCount_eq_length (rules : module.WellFormed)
    (declared : declaration ∈ module.declarations) :
    module.caseCount declaration = .ok (module.listedCases declaration).length := by
  rw [rules.caseCount_eq declared, length_listedCases]

theorem declarationSummary_eq (rules : module.WellFormed)
    (declared : declaration ∈ module.declarations) :
    module.declarationSummary declaration =
      .ok ⟨declaration.name, s!"variants ← {declaration.templatePath}",
        (module.listedCases declaration).length⟩ := by
  unfold declarationSummary
  rw [rules.caseCount_eq_length declared]
  rfl

/-- The table of declarations counts the listed cases. -/
theorem summary_eq (rules : module.WellFormed) (title : String) :
    module.summary title = .ok (module.countTable title fun declaration =>
      (module.listedCases declaration).length) := by
  have summaries := mapM_eq_ok fun declaration (declared : declaration ∈ module.declarations) =>
    rules.declarationSummary_eq declared
  unfold summary
  rw [summaries]
  simp only [countTable, bind, Except.bind, pure, Except.pure, List.map_append, List.map_map]
  rfl

end WellFormed

end Module

open CommandLine CompilationStep

variable {σ : Type}

/-- What the command that lists cases prints, where the cases of each declaration are given. -/
def Module.listing (module : Module) (cases : VariantsDeclaration → List ConcreteCase) : String :=
  String.join (module.declarations.map fun declaration =>
    String.join (((declaration.name ++ ":") :: (cases declaration).map ConcreteCase.spelled).map
      (· ++ "\n")))

namespace Module.WellFormed

variable {module : Module} {world : World σ} {home source : Path} {text : String}

theorem prints_cases (rules : module.WellFormed) (read : world.tree.readText source = .ok text)
    (loads : Compiler.loaded source text = .ok module) :
    Session.Prints world (Session.cases (FileTree.access home) source) PUnit.unit
      (module.listing module.listedCases) := by
  unfold Session.cases
  refine (Session.Prints.load read loads).silent_bind ?_
  refine Session.Prints.forM fun declaration declared => ?_
  rw [rules.caseLines_eq declared]
  exact Session.Prints.enumerated.silent_bind (Session.Prints.forM_printLine _)

/-- What a console makes of the table of declarations and of the closing words is printed. -/
theorem prints_check (rules : module.WellFormed) (read : world.tree.readText source = .ok text)
    (loads : Compiler.loaded source text = .ok module) {tools : Tools (StateM (World σ))}
    {table closing : String}
    (drawn : tools.console.table (module.countTable source.toString fun declaration =>
      (module.listedCases declaration).length) = .ok table)
    (closed : tools.console.text "[green]✓[/green] Declarations are valid" = .ok closing) :
    Session.Prints world (Session.check (FileTree.access home) tools source) PUnit.unit
      (table ++ closing) := by
  unfold Session.check
  refine (Session.Prints.load read loads).silent_bind ?_
  rw [rules.summary_eq]
  refine Session.Prints.enumerated.silent_bind ?_
  rw [drawn, closed]
  exact (Session.Prints.printShown table).bind (Session.Prints.printShown closing)

end Module.WellFormed

/-- The definitions of the listed cases are those that the preprocessor is called with. -/
theorem Module.flatMap_calls_steps (module : Module) :
    module.steps.flatMap calls = module.declarations.flatMap fun declaration =>
      (module.listedCases declaration).map ConcreteCase.definitions := by
  rw [steps, List.flatMap_assoc]
  congr 1
  funext declaration
  rw [stepsOfDeclaration, listedCases, List.flatMap_cons, List.map_map, List.flatMap_map]
  exact (List.map_eq_flatMap).symm

/-- The keys of the listed cases are those of the emitted tables. -/
theorem Module.keys_emitted (module : Module) {resolved : List ResolvedDeclaration}
    (covered : List.Forall₂ module.Covered module.declarations resolved) :
    List.Forall₂ (fun declaration family => family.name = declaration.name ∧
        family.sources.map Prod.fst =
          (module.listedCases declaration).map fun case => case.key declaration)
      module.declarations (module.emitted resolved).families := by
  refine List.forall₂_map_right_iff.mpr (covered.imp fun declaration one here => ?_)
  constructor
  · exact congrArg VariantsDeclaration.name here.1
  · rw [map_key_listedCases, ← module.map_caseKey_eq here, coveredFamily, List.map_map]
    rfl

namespace Compiler

/-- A text that has been loaded, templates that can be read and a preprocessor that never fails.
The command that lists cases, the compilation and the count of cases agree: each declaration has a
list of cases that is printed line by line, whose definitions the preprocessor is called with, whose
keys are those of the emitted table, and whose length is the count that the command that checks a
file shows in its table of declarations. -/
theorem listing_agrees {source : Path} {text : String} {module : Module}
    (loads : ((loadModule source text : Compiler Id Module).run.run Trace.empty).1 = .ok module)
    {μ : Type} {world : World μ} (read : world.tree.readText source = .ok text) (home : Path)
    (tools : Tools (StateM (World μ))) (surroundings : Surroundings σ)
    (readable : ∀ declaration ∈ module.declarations, ∃ template,
      surroundings.template declaration = .ok template)
    (neverFails : ∀ template definitions state, ∃ expanded later,
      (surroundings.preprocessor template definitions).run state = (.ok expanded, later))
    (trace : Trace) (state : σ) :
    ∃ (cases : VariantsDeclaration → List ConcreteCase) (generated : Generated.Module)
        (later : Trace) (after : σ),
      (CommandLine.run (FileTree.access home) tools (.cases source)).run world =
        (⟨0, module.listing cases, "", none⟩, world) ∧
      outcome (compileModule (fun path => pure (surroundings.files path))
        surroundings.baseDirectory surroundings.preprocessor module) trace state =
          ((.ok generated.text, later), after) ∧
      later.calls = trace.calls ++ module.declarations.flatMap (fun declaration =>
        (cases declaration).map ConcreteCase.definitions) ∧
      List.Forall₂ (fun declaration family => family.name = declaration.name ∧
          family.sources.map Prod.fst =
            (cases declaration).map fun case => case.key declaration)
        module.declarations generated.families ∧
      (∀ declaration ∈ module.declarations,
        module.caseCount declaration = .ok (cases declaration).length) ∧
      ∀ table closing,
        tools.console.table (module.countTable source.toString fun declaration =>
          (cases declaration).length) = .ok table →
        tools.console.text "[green]✓[/green] Declarations are valid" = .ok closing →
        (CommandLine.run (FileTree.access home) tools (.check source)).run world =
          (⟨0, table ++ closing, "", none⟩, world) := by
  rw [loadModule_result] at loads
  have rules := (loaded_eq_ok_iff.mp loads).2.wellFormed
  have walk := Performs.compileModule surroundings rules trace state
  generalize same : outcome (compileModule (fun path => pure (surroundings.files path))
    surroundings.baseDirectory surroundings.preprocessor module) trace state = ends at walk
  cases walk with
  | stopped place succeed fails called =>
      exact (not_fails readable neverFails (by simp [place]) fails).elim
  | finished succeed emitted called =>
      obtain ⟨resolved, covered, rfl⟩ := emitted
      refine ⟨module.listedCases, module.emitted resolved, _, _,
        (rules.prints_cases read loads).run, rfl, ?_, module.keys_emitted covered,
        fun declaration declared => rules.caseCount_eq_length declared, ?_⟩
      · rw [called, module.flatMap_calls_steps]
      · intro table closing drawn closed
        exact (rules.prints_check read loads drawn closed).run

/-- A short text that can be loaded. -/
def shortText : String :=
  "value_enum M: bool \x7bX = true, Y = false\x7d variants S from \"t\" \x7bA(M)\x7d"

/-- The module that the short text declares in a file of its own. -/
def shortModule : Module where
  file := "s"
  valueEnums := [⟨"M", none, .bool, [⟨"X", .ofBool true, some ⟨"s", 1, 21⟩⟩,
    ⟨"Y", .ofBool false, some ⟨"s", 1, 31⟩⟩], false, some ⟨"s", 1, 1⟩⟩]
  declarations := [⟨"S", "t", none, [⟨"A", .crossProduct ["M"], some ⟨"s", 1, 63⟩⟩], false,
    some ⟨"s", 1, 42⟩⟩]

/-- A working directory in which the short text is a file, and nothing else. -/
def shortWorld : World Unit :=
  ⟨(FileTree.empty ["home"]).put ["home", "s"] (.ofContent shortText.toUTF8), ()⟩

/-- The listing of a short text and its compilation with a preprocessor that counts its calls. -/
theorem listing_agrees_short :
    ∃ (cases : VariantsDeclaration → List ConcreteCase) (generated : Generated.Module)
        (later : Trace) (calls : Nat),
      (CommandLine.run (FileTree.access ⟨.root, ["home"]⟩) standardTools
          (.cases (Path.ofString "s"))).run shortWorld =
        (⟨0, shortModule.listing cases, "", none⟩, shortWorld) ∧
      outcome (compileModule (fun _ => pure (.ok "text")) (Path.ofString ".")
        (fun _ _ => do modify (· + 1); return .ok "source") shortModule) Trace.empty 0 =
          ((.ok generated.text, later), calls) ∧
      later.calls = shortModule.declarations.flatMap fun declaration =>
        (cases declaration).map ConcreteCase.definitions := by
  have found : ((loadModule (Path.ofString "s") shortText : Compiler Id Module).run.run
      Trace.empty).1.toOption = some shortModule := by
    decide +kernel
  have read : (shortWorld.tree.readText (Path.ofString "s")).toOption = some shortText := by
    decide +kernel
  obtain ⟨cases, generated, later, calls, printed, compiled, called, -⟩ :=
    listing_agrees (eq_ok_of_toOption found) (eq_ok_of_toOption read) ⟨.root, ["home"]⟩
      standardTools
      ⟨fun _ => .ok "text", Path.ofString ".", fun _ _ => do modify (· + 1); return .ok "source"⟩
      (fun _ _ => ⟨"text", rfl⟩) (fun _ _ calls => ⟨"source", calls + 1, rfl⟩) Trace.empty 0
  exact ⟨cases, generated, later, calls, printed, compiled, called⟩

end Compiler

end ShaderVariants
