import ShaderVariants.Compilation
import ShaderVariants.Proofs.Acceptance
import ShaderVariants.Proofs.FileNames
import ShaderVariants.Proofs.Outcome
import ShaderVariants.Proofs.Relocation

/-!
# Independence of directories

A text is compiled twice: as a file of one name in two directories, with templates from two base
directories that hold the same.  The two compilations go side by side.  Whatever one of them has in
its hands, the other one has with the locations of its own file, up to the emission, where the
difference is gone.  Only errors still name the directories.
-/

namespace ShaderVariants

variable {ε ω σ α α' β β' γ : Type}

/-! ## Actions side by side -/

/-- Two ends with the same record and the same state, and with values that are related or with an
error each. -/
inductive EndAlike (related : α → β → Prop) :
    (Except ε α × ω) × σ → (Except ε β × ω) × σ → Prop where
  | values {value : α} {other : β} {record : ω} {state : σ} (holds : related value other) :
      EndAlike related ((.ok value, record), state) ((.ok other, record), state)
  | errors {error other : ε} {record : ω} {state : σ} :
      EndAlike related ((.error error, record), state) ((.error other, record), state)

/-- From every record and state, two actions come to ends that are alike. -/
def RunAlike (related : α → β → Prop) (first : ExceptT ε (StateT ω (StateM σ)) α)
    (second : ExceptT ε (StateT ω (StateM σ)) β) : Prop :=
  ∀ record state, EndAlike related (outcome first record state) (outcome second record state)

namespace RunAlike

theorem pure {related : α → β → Prop} {value : α} {other : β} (holds : related value other) :
    RunAlike related (Pure.pure value : ExceptT ε (StateT ω (StateM σ)) α) (Pure.pure other) := by
  intro record state
  exact .values holds

theorem throw {related : α → β → Prop} (error other : ε) :
    RunAlike related (MonadExcept.throw error : ExceptT ε (StateT ω (StateM σ)) α)
      (MonadExcept.throw other) := by
  intro record state
  exact .errors

theorem refl (action : ExceptT ε (StateT ω (StateM σ)) α) : RunAlike Eq action action := by
  intro record state
  obtain ⟨⟨result, later⟩, after⟩ := outcome action record state
  cases result with
  | ok value => exact .values rfl
  | error error => exact .errors

theorem bind {related : α → β → Prop} {related' : α' → β' → Prop}
    {first : ExceptT ε (StateT ω (StateM σ)) α} {second : ExceptT ε (StateT ω (StateM σ)) β}
    {next : α → ExceptT ε (StateT ω (StateM σ)) α'}
    {next' : β → ExceptT ε (StateT ω (StateM σ)) β'} (alike : RunAlike related first second)
    (rest : ∀ value other, related value other → RunAlike related' (next value) (next' other)) :
    RunAlike related' (first >>= next) (second >>= next') := by
  intro record state
  have ends := alike record state
  generalize runs : outcome first record state = one at ends
  generalize runs' : outcome second record state = another at ends
  cases ends with
  | values holds =>
      rw [outcome_bind_of_ok runs, outcome_bind_of_ok runs']
      exact rest _ _ holds _ _
  | errors =>
      rw [outcome_bind_of_error runs, outcome_bind_of_error runs']
      exact .errors

/-- The same action first on both sides. -/
theorem bind_same {related : α' → β' → Prop} (action : ExceptT ε (StateT ω (StateM σ)) α)
    {next : α → ExceptT ε (StateT ω (StateM σ)) α'}
    {next' : α → ExceptT ε (StateT ω (StateM σ)) β'}
    (rest : ∀ value, RunAlike related (next value) (next' value)) :
    RunAlike related (action >>= next) (action >>= next') :=
  bind (refl action) fun value _ same => same ▸ rest value

end RunAlike

/-- What a file system answers on either side. -/
theorem RunAlike.answers (answer : α) (answer' : β) :
    RunAlike (fun value other => value = answer ∧ other = answer')
      (liftM (Pure.pure answer : StateM σ α) : ExceptT ε (StateT ω (StateM σ)) α)
      (liftM (Pure.pure answer' : StateM σ β)) := by
  intro record state
  exact .values ⟨rfl, rfl⟩

/-- Two values that come from one value, each in a way of its own. -/
def Images (first second : γ → α) (value other : α) : Prop :=
  ∃ origin, value = first origin ∧ other = second origin

/-- Actions one after the other, one for each item of a list. -/
theorem RunAlike.mapM {first second : γ → α} {image image' : α' → β}
    {action action' : α → ExceptT ε (StateT ω (StateM σ)) β} {items : List γ}
    (each : ∀ item ∈ items,
      RunAlike (Images image image') (action (first item)) (action' (second item))) :
    RunAlike (Images (List.map image) (List.map image')) ((items.map first).mapM action)
      ((items.map second).mapM action') := by
  induction items with
  | nil => exact pure ⟨[], rfl, rfl⟩
  | cons item items ih =>
      rw [List.map_cons, List.map_cons, List.mapM_cons, List.mapM_cons]
      refine (each item List.mem_cons_self).bind ?_
      rintro _ _ ⟨one, rfl, rfl⟩
      refine (ih fun other member => each other (List.mem_cons_of_mem _ member)).bind ?_
      rintro _ _ ⟨others, rfl, rfl⟩
      exact pure ⟨one :: others, rfl, rfl⟩

namespace Compiler

/-! ## Compilations of relocated modules -/

variable (file other : String)

theorem processCase_alike (bridge : BridgeIn (StateM σ)) (variant : String)
    (selections : List Selection) (overrides : Definitions) (index : Option Nat) :
    RunAlike (fun first second => Images (ResolvedCase.relocated file)
        (ResolvedCase.relocated other) first.1 second.1 ∧ first.2 = second.2)
      (processCase bridge variant (selections.map (Selection.relocated file)) overrides index)
      (processCase bridge variant (selections.map (Selection.relocated other)) overrides
        index) := by
  unfold processCase
  refine RunAlike.bind_same _ fun answered => ?_
  obtain ⟨answer, after⟩ := answered
  cases answer with
  | ok source =>
      refine RunAlike.bind_same _ fun _ => ?_
      refine RunAlike.bind_same _ fun _ => ?_
      exact RunAlike.pure ⟨⟨⟨variant, selections, source⟩, rfl, rfl⟩, rfl⟩
  | error problem =>
      cases problem with
      | failed error => exact RunAlike.bind_same _ fun _ => RunAlike.throw _ _
      | notBegun => exact RunAlike.throw _ _

theorem combinationOf_alike (valueEnums : List ValueEnum) (row : List Nat × Nat) :
    RunAlike (σ := σ) (Images (Combination.relocated file) (Combination.relocated other))
      (combinationOf (valueEnums.map (ValueEnum.relocated file)) row)
      (combinationOf (valueEnums.map (ValueEnum.relocated other)) row) := by
  unfold combinationOf
  rw [Combination.ofRow_relocated, Combination.ofRow_relocated]
  cases Combination.ofRow valueEnums row with
  | error mismatch => exact RunAlike.throw _ _
  | ok combination => exact RunAlike.pure ⟨combination, rfl, rfl⟩

theorem processCombinations_alike (variant : String) (valueEnums : List ValueEnum)
    (bridge : BridgeIn (StateM σ)) (rows : List (List Nat × Nat)) :
    RunAlike (Images (List.map (ResolvedCase.relocated file))
        (List.map (ResolvedCase.relocated other)))
      (processCombinations variant (valueEnums.map (ValueEnum.relocated file)) bridge rows)
      (processCombinations variant (valueEnums.map (ValueEnum.relocated other)) bridge rows) := by
  induction rows generalizing bridge with
  | nil => exact RunAlike.pure ⟨[], rfl, rfl⟩
  | cons row rows ih =>
      unfold processCombinations
      refine (combinationOf_alike file other valueEnums row).bind ?_
      rintro _ _ ⟨combination, rfl, rfl⟩
      simp only [Combination.relocated_selections, Combination.overrides_relocated,
        Combination.relocated_index]
      refine (processCase_alike file other bridge variant _ _ _).bind ?_
      rintro ⟨_, after⟩ ⟨_, _⟩ ⟨⟨case, rfl, rfl⟩, rfl⟩
      refine (ih after).bind ?_
      rintro _ _ ⟨cases, rfl, rfl⟩
      exact RunAlike.pure ⟨case :: cases, rfl, rfl⟩

theorem processVariant_alike (module : Module) (bridge : BridgeIn (StateM σ))
    (variant : Variant) :
    RunAlike (Images (List.map (ResolvedCase.relocated file))
        (List.map (ResolvedCase.relocated other)))
      (processVariant (module.relocated file) bridge (variant.relocated file))
      (processVariant (module.relocated other) bridge (variant.relocated other)) := by
  unfold processVariant
  simp only [Variant.relocated_name, Variant.relocated_body]
  cases variant.body with
  | hardcoded definitions =>
      have keys (file : String) : Definition.toMap (definitions.map (Definition.relocated file)) =
          Definition.toMap definitions := by
        simp [Definition.toMap, Function.comp_def]
      simp only [Variant.Body.relocated, keys]
      refine (processCase_alike file other _ variant.name [] _ _).bind ?_
      rintro ⟨_, _⟩ ⟨_, _⟩ ⟨⟨case, rfl, rfl⟩, -⟩
      exact RunAlike.pure ⟨[case], rfl, rfl⟩
  | crossProduct references =>
      simp only [Variant.Body.relocated, Module.resolve_relocated]
      cases module.resolve variant.name references with
      | error error => exact RunAlike.throw _ _
      | ok valueEnums =>
          simp only [Except.map_ok, Combination.rows_relocated]
          exact processCombinations_alike file other variant.name valueEnums _ _

theorem resolveDeclaration_alike (module : Module) (declaration : VariantsDeclaration)
    (template : String) (preprocessor : PreprocessorIn (StateM σ)) :
    RunAlike (Images (ResolvedDeclaration.relocated file) (ResolvedDeclaration.relocated other))
      (resolveDeclaration (module.relocated file) (declaration.relocated file) template
        preprocessor)
      (resolveDeclaration (module.relocated other) (declaration.relocated other) template
        preprocessor) := by
  unfold resolveDeclaration
  simp only [VariantsDeclaration.sharedDefinitions_relocated, VariantsDeclaration.relocated_name,
    VariantsDeclaration.relocated_variants]
  refine (RunAlike.mapM fun variant _ =>
    processVariant_alike file other module _ variant).bind ?_
  rintro _ _ ⟨cases, rfl, rfl⟩
  refine RunAlike.pure ⟨⟨declaration, template, cases.flatten⟩, ?_, ?_⟩ <;>
    simp [ResolvedDeclaration.relocated]

variable {files files' : Path → Except ReadError String}

theorem readFile_alike {path path' : Path}
    (same : ∀ content, files path = .ok content ↔ files' path' = .ok content) (role : String) :
    RunAlike Eq
      (readFile (fun path => pure (files path)) role path : Compiler (StateM σ) String)
      (readFile (fun path => pure (files' path)) role path') := by
  unfold readFile
  refine (RunAlike.answers (files path) (files' path')).bind ?_
  rintro _ _ ⟨rfl, rfl⟩
  cases read : files path with
  | ok content =>
      rw [(same content).mp read]
      exact RunAlike.refl _
  | error error =>
      cases read' : files' path' with
      | ok content =>
          rw [(same content).mpr read'] at read
          cases read
      | error error' =>
          cases error <;> cases error' <;> exact RunAlike.throw _ _

variable {baseDirectory baseDirectory' : Path} (preprocessor : PreprocessorIn (StateM σ))

theorem compileDeclaration_alike {declaration : VariantsDeclaration}
    (template : ∀ content,
      files (baseDirectory ++ Path.ofString declaration.templatePath) = .ok content ↔
        files' (baseDirectory' ++ Path.ofString declaration.templatePath) = .ok content)
    (module : Module) :
    RunAlike (Images (ResolvedDeclaration.relocated file) (ResolvedDeclaration.relocated other))
      (compileDeclaration (fun path => pure (files path)) baseDirectory preprocessor
        (module.relocated file) (declaration.relocated file))
      (compileDeclaration (fun path => pure (files' path)) baseDirectory' preprocessor
        (module.relocated other) (declaration.relocated other)) := by
  unfold compileDeclaration
  refine (readFile_alike template "template").bind ?_
  rintro content _ rfl
  refine (resolveDeclaration_alike file other module declaration content preprocessor).bind ?_
  rintro _ _ ⟨resolved, rfl, rfl⟩
  simp only [VariantsDeclaration.relocated_name, VariantsDeclaration.relocated_templatePath,
    ResolvedDeclaration.relocated_cases, List.length_map]
  exact RunAlike.bind_same _ fun _ => RunAlike.pure ⟨resolved, rfl, rfl⟩

variable {file other : String}

/-- The same declarations in two files of one last name, with the same templates. -/
theorem compileModule_alike
    (sameName : (Path.ofString file).fileName = (Path.ofString other).fileName) {module : Module}
    (templates : ∀ declaration ∈ module.declarations, ∀ content,
      files (baseDirectory ++ Path.ofString declaration.templatePath) = .ok content ↔
        files' (baseDirectory' ++ Path.ofString declaration.templatePath) = .ok content) :
    RunAlike Eq
      (compileModule (fun path => pure (files path)) baseDirectory preprocessor
        (module.relocated file))
      (compileModule (fun path => pure (files' path)) baseDirectory' preprocessor
        (module.relocated other)) := by
  unfold compileModule
  simp only [Module.relocated_declarations]
  refine (RunAlike.mapM fun declaration declared => compileDeclaration_alike file other
    preprocessor (templates declaration declared) module).bind ?_
  rintro _ _ ⟨resolved, rfl, rfl⟩
  rw [Generated.ofResolved_relocated sameName]
  exact RunAlike.refl _

theorem validate_alike {first second : Module} (warnings : first.warnings = second.warnings)
    (accepted : first.Accepted ↔ second.Accepted) :
    RunAlike Eq (validate first : Compiler (StateM σ) Unit) (validate second) := by
  unfold validate
  rw [warnings]
  refine RunAlike.bind_same _ fun _ => ?_
  by_cases sound : second.Accepted
  · have none : first.issues = [] := accepted.mpr sound
    have none' : second.issues = [] := sound
    simp only [none, none']
    exact RunAlike.refl _
  · have some : first.issues ≠ [] := fun none => sound (accepted.mp none)
    have some' : second.issues ≠ [] := sound
    simp only [some, some', ne_eq, not_false_eq_true, if_true]
    exact RunAlike.throw _ _

end Compiler

/-! ## Texts -/

/-- The template paths that a text names. -/
def Module.templatePaths (text : String) : List String :=
  match ofText (Path.ofString ".") text with
  | .ok module => module.declarations.map VariantsDeclaration.templatePath
  | .error _ => []

theorem Module.Accepted.relocated {module : Module} (accepted : module.Accepted) (file : String) :
    (module.relocated file).Accepted :=
  (accepted.wellFormed.relocated file).accepted

namespace Compiler

/-- A text in two files: either the same declarations are loaded from both, or none from either. -/
theorem loadModule_alike (file other : Path) (text : String) :
    RunAlike (fun first second => ∃ module : Module,
        module.declarations.map VariantsDeclaration.templatePath = Module.templatePaths text ∧
        first = module.relocated file.toString ∧ second = module.relocated other.toString)
      (loadModule file text : Compiler (StateM σ) Module) (loadModule other text) := by
  unfold loadModule Module.templatePaths
  cases declared : Module.ofText (Path.ofString ".") text with
  | error refusal =>
      have refused (place : Path) : ∃ refusal, Module.ofText place text = .error refusal := by
        cases elsewhere : Module.ofText place text with
        | error refusal => exact ⟨refusal, rfl⟩
        | ok module =>
            have here := Module.ofText_relocated elsewhere (Path.ofString ".")
            rw [declared] at here
            cases here
      obtain ⟨first, atFile⟩ := refused file
      obtain ⟨second, atOther⟩ := refused other
      rw [atFile, atOther]
      exact RunAlike.throw _ _
  | ok module =>
      have moved (place : Path) := Module.ofText_relocated declared place
      have accepted (place goal : Path) (here : (module.relocated place.toString).Accepted) :
          (module.relocated goal.toString).Accepted := by
        have twice := Module.ofText_relocated (moved place) goal
        rw [moved goal, Except.ok.injEq] at twice
        rw [twice]
        exact here.relocated goal.toString
      rw [moved file, moved other]
      refine (validate_alike ?_ ⟨accepted file other, accepted other file⟩).bind ?_
      · rw [Module.warnings_relocated, Module.warnings_relocated]
      · intro _ _ _
        exact RunAlike.pure ⟨module, rfl, rfl, rfl⟩

/-- What is generated from a text does not depend on directories.  Of the file of the text only the
last name matters, and of the base directory only what its templates read as.  With a preprocessor
that starts from one state, one compilation ends with a source exactly when the other one ends with
it, and both leave the same trace and the same state. -/
theorem compileText_ignores_directories {name : String} (plain : Path.IsPlain name)
    (text : String) (directory directory' baseDirectory baseDirectory' : Path)
    {files files' : Path → Except ReadError String}
    (templates : ∀ template ∈ Module.templatePaths text, ∀ content,
      files (baseDirectory ++ Path.ofString template) = .ok content ↔
        files' (baseDirectory' ++ Path.ofString template) = .ok content)
    (preprocessor : PreprocessorIn (StateM σ)) (trace : Trace) (state : σ) :
    let first := outcome (compileText (fun path => pure (files path)) baseDirectory preprocessor
      (directory ++ Path.ofString name) text) trace state
    let second := outcome (compileText (fun path => pure (files' path)) baseDirectory' preprocessor
      (directory' ++ Path.ofString name) text) trace state
    (∀ source, first.1.1 = .ok source ↔ second.1.1 = .ok source) ∧
      first.1.2 = second.1.2 ∧ first.2 = second.2 := by
  intro first second
  have sameName : (Path.ofString (directory ++ Path.ofString name).toString).fileName =
      (Path.ofString (directory' ++ Path.ofString name).toString).fileName := by
    rw [Path.fileName_ofString_toString plain, Path.fileName_ofString_toString plain]
  have alike : EndAlike Eq first second := by
    refine (loadModule_alike _ _ text).bind ?_ trace state
    rintro _ _ ⟨module, paths, rfl, rfl⟩
    refine compileModule_alike preprocessor sameName fun declaration declared => templates _ ?_
    rw [← paths]
    exact List.mem_map_of_mem declared
  generalize first = one at alike
  generalize second = another at alike
  cases alike with
  | values same =>
      subst same
      exact ⟨fun _ => Iff.rfl, rfl, rfl⟩
  | errors =>
      refine ⟨fun source => ⟨?_, ?_⟩, rfl, rfl⟩
      · intro impossible
        cases impossible
      · intro impossible
        cases impossible

/-- A tree with the same template in two directories. -/
def copiedTemplate : FileTree where
  home := []
  entries := [([], .openDirectory), (["one"], .openDirectory),
    (["one", "t"], .ofContent "code".toUTF8), (["two"], .openDirectory),
    (["two", "t"], .ofContent "code".toUTF8)]

/-- A text that names this template. -/
def copiedText : String := "variants S from \"t\" \x7bA \x7b\x7d\x7d"

theorem compileText_ignores_directories_copied :
    ∃ source,
      (outcome (compileText (fun path => pure (copiedTemplate.readText path))
        (Path.ofString "one") (Preprocessor.annotating []).stateless
        (Path.ofString "/here" ++ Path.ofString "s") copiedText : Compiler (StateM Unit) String)
        Trace.empty ()).1.1 = .ok source ∧
      (outcome (compileText (fun path => pure (copiedTemplate.readText path))
        (Path.ofString "two") (Preprocessor.annotating []).stateless
        (Path.ofString "there" ++ Path.ofString "s") copiedText : Compiler (StateM Unit) String)
        Trace.empty ()).1.1 = .ok source := by
  have plain : Path.IsPlain "s" := ⟨by decide, by decide, by decide⟩
  have paths : Module.templatePaths copiedText = ["t"] := by decide +kernel
  have one : (copiedTemplate.readText (Path.ofString "one" ++ Path.ofString "t")).toOption =
      some "code" := by
    decide +kernel
  have two : (copiedTemplate.readText (Path.ofString "two" ++ Path.ofString "t")).toOption =
      some "code" := by
    decide +kernel
  have templates : ∀ template ∈ Module.templatePaths copiedText, ∀ content,
      copiedTemplate.readText (Path.ofString "one" ++ Path.ofString template) = .ok content ↔
        copiedTemplate.readText (Path.ofString "two" ++ Path.ofString template) =
          .ok content := by
    intro template member content
    rw [paths, List.mem_singleton] at member
    rw [member, eq_ok_of_toOption one, eq_ok_of_toOption two]
  have compiled : (outcome (compileText (fun path => pure (copiedTemplate.readText path))
      (Path.ofString "one") (Preprocessor.annotating []).stateless
      (Path.ofString "/here" ++ Path.ofString "s") copiedText : Compiler (StateM Unit) String)
      Trace.empty ()).1.1.toOption.isSome = true := by
    decide +kernel
  obtain ⟨source, found⟩ := Option.isSome_iff_exists.mp compiled
  have both := compileText_ignores_directories plain copiedText (Path.ofString "/here")
    (Path.ofString "there") _ _ templates (Preprocessor.annotating []).stateless Trace.empty ()
  exact ⟨source, eq_ok_of_toOption found, (both.1 source).mp (eq_ok_of_toOption found)⟩

end Compiler

end ShaderVariants
