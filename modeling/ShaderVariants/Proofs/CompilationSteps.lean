import ShaderVariants.Proofs.CaseTables

/-!
# Steps of a compilation

What can fail while an accepted module is compiled is the reading of a template or the
preprocessing of a case.  These steps have a fixed order, and a compilation is a walk through them
that goes on as long as they succeed.  The preprocessor may remember its calls, so that whether a
step succeeds can depend on the steps before it.
-/

namespace ShaderVariants

theorem Loaded.eq_unreadable {role : String} {path : Path} {answer : Except ReadError String}
    {error : ResourceError} (failed : ofRead role path answer = .failed error) :
    ∃ reason, error = ⟨.unreadable role reason, path⟩ := by
  cases answer with
  | ok content => cases failed
  | error reason =>
      cases reason with
      | refused refusal => exact ⟨_, (Loaded.failed.inj failed).symm⟩
      | undecodable fault => exact ⟨_, (Loaded.failed.inj failed).symm⟩
      | nulInPath => cases failed

theorem Loaded.eq_error_of_nulInPath {role : String} {path : Path}
    {answer : Except ReadError String} (refused : ofRead role path answer = .nulInPath) :
    answer = .error .nulInPath := by
  cases answer with
  | ok content => cases refused
  | error reason =>
      cases reason with
      | refused refusal => cases refused
      | undecodable fault => cases refused
      | nulInPath => rfl

theorem FileTree.readText_eq_nulInPath_iff (tree : FileTree) (path : Path) :
    tree.readText path = .error .nulInPath ↔ path.hasNul = true := by
  unfold readText
  cases nul : path.hasNul with
  | true => simp
  | false =>
      cases bytes : tree.readBytes path with
      | error refusal => simp
      | ok content =>
          cases decoded : Text.Utf8.decode content.data.toList <;> simp [textOfBytes, decoded]

/-- What a compilation meets: files, the directory of its templates, and a preprocessor with a
state of its own. -/
structure Surroundings (σ : Type) where
  files : Path → Except ReadError String
  baseDirectory : Path
  preprocessor : PreprocessorIn (StateM σ)

/-- Something that a compilation does and that can fail. -/
inductive CompilationStep where
  | read (declaration : VariantsDeclaration)
  | preprocess (declaration : VariantsDeclaration) (concrete : NumberedCase)

/-- Where the template of a declaration is looked for. -/
def VariantsDeclaration.templateBelow (declaration : VariantsDeclaration) (directory : Path) :
    Path :=
  directory ++ Path.ofString declaration.templatePath

/-- What reading the template of a declaration gives. -/
def Surroundings.template {σ : Type} (surroundings : Surroundings σ)
    (declaration : VariantsDeclaration) : Except ReadError String :=
  surroundings.files (declaration.templateBelow surroundings.baseDirectory)

namespace Module

/-- The template of a declaration is read, then its cases are preprocessed in order. -/
def stepsOfDeclaration (module : Module) (declaration : VariantsDeclaration) :
    List CompilationStep :=
  .read declaration ::
    (declaration.variants.flatMap module.numberedCases).map (.preprocess declaration)

/-- One declaration after the other. -/
def steps (module : Module) : List CompilationStep :=
  module.declarations.flatMap module.stepsOfDeclaration

theorem mem_declarations_of_read_mem {module : Module} {declaration : VariantsDeclaration}
    (member : .read declaration ∈ module.steps) : declaration ∈ module.declarations := by
  obtain ⟨other, declared, inside⟩ := List.mem_flatMap.mp member
  rcases List.mem_cons.mp inside with same | later
  · cases same
    exact declared
  · obtain ⟨concrete, -, same⟩ := List.mem_map.mp later
    cases same

end Module

namespace CompilationStep

/-- The definitions that the preprocessor is called with. -/
def calls : CompilationStep → List Definitions
  | read _ => []
  | preprocess declaration concrete => [concrete.definitions declaration]

variable {σ : Type}

/-- A step that succeeds, with the state of the preprocessor before and after it. -/
inductive Succeeds (surroundings : Surroundings σ) : CompilationStep → σ → σ → Prop where
  | read {declaration : VariantsDeclaration} {template : String} {state : σ}
      (readable : surroundings.template declaration = .ok template) :
      Succeeds surroundings (.read declaration) state state
  | preprocess {declaration : VariantsDeclaration} {concrete : NumberedCase} {template : String}
      {state later : σ} {source : String}
      (readable : surroundings.template declaration = .ok template)
      (answer : (surroundings.preprocessor template (concrete.definitions declaration)).run state =
        (.ok source, later)) :
      Succeeds surroundings (.preprocess declaration concrete) state later

/-- A step that fails with an error.  The state is that of the preprocessor again. -/
inductive Fails (surroundings : Surroundings σ) :
    CompilationStep → σ → CompileError → σ → Prop where
  | unreadable {declaration : VariantsDeclaration} {state : σ} {error : ResourceError}
      (answer : Loaded.ofRead "template" (declaration.templateBelow surroundings.baseDirectory)
        (surroundings.template declaration) = .failed error) :
      Fails surroundings (.read declaration) state (.resource error) state
  | nulInPath {declaration : VariantsDeclaration} {state : σ}
      (answer : Loaded.ofRead "template" (declaration.templateBelow surroundings.baseDirectory)
        (surroundings.template declaration) = .nulInPath) :
      Fails surroundings (.read declaration) state .nulInPath state
  | preprocess {declaration : VariantsDeclaration} {concrete : NumberedCase} {template : String}
      {state later : σ} {failure : Failure}
      (readable : surroundings.template declaration = .ok template)
      (answer : (surroundings.preprocessor template (concrete.definitions declaration)).run state =
        (.error failure, later)) :
      Fails surroundings (.preprocess declaration concrete) state
        (.preprocessing ⟨declaration.name, concrete.variant.name, concrete.index.map Int.ofNat,
          some failure.reason⟩) later

/-- The error of a step names what the step was about: the path of a template, or a case. -/
inductive Blames (baseDirectory : Path) : CompilationStep → CompileError → Prop where
  | read {declaration : VariantsDeclaration} {reason : String} :
      Blames baseDirectory (.read declaration)
        (.resource ⟨.unreadable "template" reason, declaration.templateBelow baseDirectory⟩)
  | preprocess {declaration : VariantsDeclaration} {concrete : NumberedCase} {failure : Failure} :
      Blames baseDirectory (.preprocess declaration concrete)
        (.preprocessing ⟨declaration.name, concrete.variant.name, concrete.index.map Int.ofNat,
          some failure.reason⟩)

theorem Fails.blames {surroundings : Surroundings σ} {step : CompilationStep} {state later : σ}
    {error : CompileError} (fails : Fails surroundings step state error later) :
    Blames surroundings.baseDirectory step error ∨
      error = .nulInPath ∧ ∃ declaration, step = .read declaration ∧
        surroundings.template declaration = .error .nulInPath := by
  cases fails with
  | unreadable answer =>
      obtain ⟨reason, rfl⟩ := Loaded.eq_unreadable answer
      exact .inl .read
  | nulInPath answer =>
      exact .inr ⟨rfl, _, rfl, Loaded.eq_error_of_nulInPath answer⟩
  | preprocess _ _ => exact .inl .preprocess

/-- With templates that can be read and a preprocessor that never fails, no step fails. -/
theorem not_fails {surroundings : Surroundings σ} {module : Module}
    (readable : ∀ declaration ∈ module.declarations, ∃ template,
      surroundings.template declaration = .ok template)
    (neverFails : ∀ template definitions state, ∃ source later,
      (surroundings.preprocessor template definitions).run state = (.ok source, later))
    {step : CompilationStep} (member : step ∈ module.steps) {state later : σ}
    {error : CompileError} : ¬ Fails surroundings step state error later := by
  intro fails
  cases fails with
  | unreadable answer =>
      obtain ⟨template, read⟩ := readable _ (Module.mem_declarations_of_read_mem member)
      rw [read] at answer
      cases answer
  | nulInPath answer =>
      obtain ⟨template, read⟩ := readable _ (Module.mem_declarations_of_read_mem member)
      rw [read] at answer
      cases answer
  | preprocess _ answer =>
      obtain ⟨source, after, expanded⟩ := neverFails _ _ _
      cases expanded.symm.trans answer

/-- Steps that succeed one after the other. -/
inductive AllSucceed (surroundings : Surroundings σ) : List CompilationStep → σ → σ → Prop where
  | nil {state : σ} : AllSucceed surroundings [] state state
  | cons {step : CompilationStep} {steps : List CompilationStep} {state middle later : σ} :
      Succeeds surroundings step state middle → AllSucceed surroundings steps middle later →
      AllSucceed surroundings (step :: steps) state later

theorem AllSucceed.append {surroundings : Surroundings σ} {before behind : List CompilationStep}
    {state middle later : σ} (first : AllSucceed surroundings before state middle)
    (rest : AllSucceed surroundings behind middle later) :
    AllSucceed surroundings (before ++ behind) state later := by
  induction first with
  | nil => exact rest
  | cons succeeds _ ih => exact .cons succeeds (ih rest)

end CompilationStep

theorem map_outline_eq {concretes : List NumberedCase} {cases : List ResolvedCase}
    (agree : List.Forall₂ (fun concrete case => case.outline = concrete.outline)
      concretes cases) :
    cases.map ResolvedCase.outline =
      concretes.map (VariantCase.outline ∘ NumberedCase.toVariantCase) := by
  induction agree with
  | nil => rfl
  | cons here _ ih =>
      rw [List.map_cons, List.map_cons, here, ih]
      rfl

open CompilationStep

namespace Compiler

variable {σ α β : Type}

/-- How a walk through some steps ends.  Either all of them succeed, or the first one that does not
gives the error, and the preprocessor has been called for the steps up to there. -/
inductive Walk (surroundings : Surroundings σ) (steps : List CompilationStep) (holds : α → Prop)
    (trace : Trace) (state : σ) : (Except CompileError α × Trace) × σ → Prop where
  | finished {value : α} {later : Trace} {after : σ}
      (succeed : AllSucceed surroundings steps state after) (result : holds value)
      (called : later.calls = trace.calls ++ steps.flatMap calls) :
      Walk surroundings steps holds trace state ((.ok value, later), after)
  | stopped {before behind : List CompilationStep} {failing : CompilationStep} {middle after : σ}
      {error : CompileError} {later : Trace} (place : steps = before ++ failing :: behind)
      (succeed : AllSucceed surroundings before state middle)
      (fails : Fails surroundings failing middle error after)
      (called : later.calls = trace.calls ++ (before ++ [failing]).flatMap calls) :
      Walk surroundings steps holds trace state ((.error error, later), after)

theorem Walk.passes {surroundings : Surroundings σ} {step : CompilationStep} {holds : α → Prop}
    {trace later : Trace} {state after : σ} {value : α}
    (succeeds : Succeeds surroundings step state after) (result : holds value)
    (called : later.calls = trace.calls ++ step.calls) :
    Walk surroundings [step] holds trace state ((.ok value, later), after) :=
  .finished (.cons succeeds .nil) result (by rw [called, List.flatMap_singleton])

theorem Walk.stops {surroundings : Surroundings σ} {step : CompilationStep} {holds : α → Prop}
    {trace later : Trace} {state after : σ} {error : CompileError}
    (fails : Fails surroundings step state error after)
    (called : later.calls = trace.calls ++ step.calls) :
    Walk surroundings [step] holds trace state ((.error error, later), after) :=
  have place : [step] = [] ++ step :: [] := rfl
  .stopped place .nil fails (by rw [called, List.nil_append, List.flatMap_singleton])

/-- The action walks through the steps, from every trace and state. -/
def Performs (surroundings : Surroundings σ) (action : Compiler (StateM σ) α)
    (steps : List CompilationStep) (holds : α → Prop) : Prop :=
  ∀ trace state, Walk surroundings steps holds trace state (outcome action trace state)

namespace Performs

variable {surroundings : Surroundings σ} {holds : α → Prop}

theorem of_yields {action : Compiler (StateM σ) α} {value : α}
    (yields : Yields action (.ok value) []) (result : holds value) :
    Performs surroundings action [] holds := by
  intro trace state
  obtain ⟨later, ends, called⟩ := yields.outcome_eq trace state
  rw [ends]
  exact .finished .nil result called

theorem pure {value : α} (result : holds value) :
    Performs surroundings (Pure.pure value : Compiler (StateM σ) α) [] holds :=
  of_yields (Yields.pure value) result

theorem bind {action : Compiler (StateM σ) α} {next : α → Compiler (StateM σ) β}
    {holds' : β → Prop} {before behind : List CompilationStep}
    (first : Performs surroundings action before holds)
    (rest : ∀ value, holds value → Performs surroundings (next value) behind holds') :
    Performs surroundings (action >>= next) (before ++ behind) holds' := by
  intro trace state
  generalize ends : outcome action trace state = first'
  have walk := first trace state
  rw [ends] at walk
  cases walk with
  | stopped place succeed fails called =>
      rw [outcome_bind_of_error ends]
      exact .stopped (by rw [place, List.append_assoc, List.cons_append]) succeed fails called
  | @finished value middle between succeed result called =>
      rw [outcome_bind_of_ok ends]
      generalize outcome (next value) middle between = second, rest value result middle between =
        walk
      -- Where the second action stops, all steps of the first one stand in front of the place.
      cases walk with
      | finished succeed' result' called' =>
          refine .finished (succeed.append succeed') result' ?_
          rw [called', called, List.flatMap_append, List.append_assoc]
      | @stopped inner behind' failing middle' after error later place succeed' fails called' =>
          have place' : before ++ behind = (before ++ inner) ++ failing :: behind' := by
            rw [place, List.append_assoc]
          refine .stopped place' (succeed.append succeed') fails ?_
          simp only [called', called, List.flatMap_append, List.append_assoc]

/-- An action of no steps behind another. -/
theorem bind_silent {action : Compiler (StateM σ) α} {next : α → Compiler (StateM σ) β}
    {holds' : β → Prop} {steps : List CompilationStep}
    (first : Performs surroundings action steps holds)
    (rest : ∀ value, holds value → Performs surroundings (next value) [] holds') :
    Performs surroundings (action >>= next) steps holds' := by
  have both := bind first rest
  rwa [List.append_nil] at both

theorem map {action : Compiler (StateM σ) α} {image : α → β} {holds' : β → Prop}
    {steps : List CompilationStep} (first : Performs surroundings action steps holds)
    (carries : ∀ value, holds value → holds' (image value)) :
    Performs surroundings (image <$> action) steps holds' := by
  rw [map_eq_pure_bind]
  exact first.bind_silent fun value result => pure (carries value result)

theorem mapM {action : α → Compiler (StateM σ) β} {steps : α → List CompilationStep}
    {agrees : α → β → Prop} {items : List α}
    (each : ∀ item ∈ items, Performs surroundings (action item) (steps item) (agrees item)) :
    Performs surroundings (items.mapM action) (items.flatMap steps)
      (List.Forall₂ agrees items) := by
  induction items with
  | nil => exact pure .nil
  | cons item items ih =>
      have first := each item (by simp)
      have rest := ih fun other member => each other (List.mem_cons_of_mem _ member)
      rw [List.mapM_cons, List.flatMap_cons]
      refine first.bind fun value here => ?_
      refine rest.bind_silent fun values others => ?_
      exact pure (.cons here others)

section

variable (surroundings : Surroundings σ)

/-- The template of a declaration is read. -/
theorem readTemplate (declaration : VariantsDeclaration) :
    Performs surroundings
      (readFile (fun path => Pure.pure (surroundings.files path)) "template"
        (declaration.templateBelow surroundings.baseDirectory))
      [.read declaration]
      (fun template => surroundings.template declaration = .ok template) := by
  intro trace state
  unfold readFile
  simp only [liftM_pure, pure_bind]
  cases answer : surroundings.template declaration with
  | ok template =>
      unfold Surroundings.template at answer
      rw [answer]
      exact Walk.passes (.read answer) rfl (List.append_nil _).symm
  | error reason =>
      unfold Surroundings.template at answer
      cases loaded : Loaded.ofRead "template"
          (declaration.templateBelow surroundings.baseDirectory) (.error reason) with
      | text content => cases reason <;> cases loaded
      | failed error =>
          rw [← answer] at loaded
          rw [loaded]
          exact Walk.stops (.unreadable loaded) (List.append_nil _).symm
      | nulInPath =>
          rw [← answer] at loaded
          rw [loaded]
          exact Walk.stops (.nulInPath loaded) (List.append_nil _).symm

/-- A case is preprocessed. -/
theorem preprocessCase {declaration : VariantsDeclaration} {template : String}
    (readable : surroundings.template declaration = .ok template) (concrete : NumberedCase) :
    Performs surroundings
      (Compiler.preprocessCase surroundings.preprocessor template declaration concrete)
      [.preprocess declaration concrete]
      (fun resolved => resolved.outline = concrete.outline) := by
  intro trace state
  let definitions := concrete.definitions declaration
  cases answer : (surroundings.preprocessor template definitions).run state with
  | mk result later =>
      have first : outcome (liftM (surroundings.preprocessor template definitions) :
          Compiler (StateM σ) _) trace state = ((.ok result, trace), later) := by
        rw [outcome_liftM, answer]
      rw [Compiler.preprocessCase, expandCase, bind_assoc, outcome_bind_of_ok first]
      cases result with
      | ok source =>
          exact Walk.passes (.preprocess readable answer) rfl rfl
      | error failure =>
          exact Walk.stops (.preprocess readable answer) rfl

/-- All cases of a declaration are preprocessed. -/
theorem resolveDeclaration {module : Module} (rules : module.WellFormed)
    {declaration : VariantsDeclaration} (declared : declaration ∈ module.declarations)
    {template : String}
    (readable : surroundings.template declaration = .ok template) :
    Performs surroundings
      (Compiler.resolveDeclaration module declaration template surroundings.preprocessor)
      ((declaration.variants.flatMap module.numberedCases).map (.preprocess declaration))
      (module.Covered declaration) := by
  have cases := mapM
    fun concrete (_ : concrete ∈ declaration.variants.flatMap module.numberedCases) =>
      preprocessCase surroundings readable concrete
  rw [← List.map_eq_flatMap] at cases
  rw [resolveDeclaration_eq rules declared]
  refine cases.map fun resolved agree => ⟨rfl, ?_⟩
  rw [← module.map_toVariantCase_flatMap declaration, List.map_map]
  exact map_outline_eq agree

/-- The template of a declaration is read and all its cases are preprocessed. -/
theorem compileDeclaration {module : Module} (rules : module.WellFormed)
    {declaration : VariantsDeclaration} (declared : declaration ∈ module.declarations) :
    Performs surroundings
      (Compiler.compileDeclaration (fun path => Pure.pure (surroundings.files path))
        surroundings.baseDirectory surroundings.preprocessor module declaration)
      (module.stepsOfDeclaration declaration) (module.Covered declaration) := by
  unfold Compiler.compileDeclaration Module.stepsOfDeclaration
  refine (readTemplate surroundings declaration).bind fun template readable => ?_
  have cases := resolveDeclaration surroundings rules declared readable
  refine cases.bind_silent fun resolved covered => ?_
  exact of_yields ((Yields.tell _ _).bind_silent (Yields.pure resolved)) covered

/-- An accepted module is compiled: nothing but its steps can fail. -/
theorem compileModule {module : Module} (rules : module.WellFormed) :
    Performs surroundings
      (Compiler.compileModule (fun path => Pure.pure (surroundings.files path))
        surroundings.baseDirectory surroundings.preprocessor module)
      module.steps
      (fun text => ∃ resolved, List.Forall₂ module.Covered module.declarations resolved ∧
        text = (module.emitted resolved).text) := by
  unfold Compiler.compileModule Module.steps
  have declarations := mapM
    fun declaration (declared : declaration ∈ module.declarations) =>
      compileDeclaration surroundings rules declared
  refine declarations.bind_silent fun resolved covered => ?_
  rw [rules.ofResolved_of_covered covered]
  exact pure ⟨resolved, covered, rfl⟩

end

end Performs

/-- The compilation of an accepted module over a tree of files walks through its steps: declaration
by declaration, the template first and then the cases in the order of their enumeration.  It gives
a text only when all of them succeed; otherwise it ends with the error of the first one that fails,
which names the template or the case.  The preprocessor has then been called once for each case up
to there and not again. -/
theorem compileModule_walks {module : Module} (accepted : module.Accepted) (tree : FileTree)
    (baseDirectory : Path) (preprocessor : PreprocessorIn (StateM σ))
    (noNul : ∀ declaration ∈ module.declarations,
      (declaration.templateBelow baseDirectory).hasNul = false)
    (trace : Trace) (state : σ) :
    let surroundings : Surroundings σ := ⟨tree.readText, baseDirectory, preprocessor⟩
    let result := outcome (compileModule (fun path => pure (tree.readText path)) baseDirectory
      preprocessor module) trace state
    (∃ text later after,
      result = ((.ok text, later), after) ∧
      AllSucceed surroundings module.steps state after ∧
      later.calls = trace.calls ++ module.steps.flatMap calls) ∨
    ∃ before failing behind middle error later after,
      result = ((.error error, later), after) ∧
      module.steps = before ++ failing :: behind ∧
      AllSucceed surroundings before state middle ∧
      Fails surroundings failing middle error after ∧
      Blames baseDirectory failing error ∧
      later.calls = trace.calls ++ (before ++ [failing]).flatMap calls := by
  intro surroundings result
  have walk := Performs.compileModule surroundings accepted.wellFormed trace state
  generalize same : outcome (compileModule (fun path => pure (surroundings.files path))
    surroundings.baseDirectory surroundings.preprocessor module) trace state = ends at walk
  cases walk with
  | finished succeed emitted called => exact .inl ⟨_, _, _, same, succeed, called⟩
  | @stopped before behind failing middle after error later place succeed fails called =>
      have blamed : Blames baseDirectory failing error := by
        rcases fails.blames with blamed | refused
        · exact blamed
        · obtain ⟨-, declaration, rfl, nul⟩ := refused
          have member : .read declaration ∈ module.steps := by simp [place]
          have clean := noNul declaration (Module.mem_declarations_of_read_mem member)
          have impossible := (tree.readText_eq_nulInPath_iff _).mp nul
          rw [clean] at impossible
          cases impossible
      exact .inr ⟨_, _, _, _, _, _, _, same, place, succeed, fails, blamed, called⟩

/-- A preprocessor that fails when it is called for the second time. -/
example :
    (outcome (compileModule (fun _ => pure (.ok "text")) (Path.ofString "shaders")
      (fun _ _ calls => (if calls = 1 then .error ⟨"RuntimeError", "tired"⟩ else .ok "", calls + 1))
      Module.small) Trace.empty 0).1.1 =
      .error (.preprocessing ⟨"Shader", "Product", some 0, some "RuntimeError: tired"⟩) := by
  rfl

/-- Without any files, a small module cannot be compiled. -/
theorem compileModule_small_walks :
    ∃ before failing behind error later after,
      outcome (compileModule (fun path => pure ((FileTree.empty []).readText path))
        (Path.ofString "shaders") (fun _ _ => pure (.ok "text")) Module.small)
        Trace.empty () = ((.error error, later), after) ∧
      Module.small.steps = before ++ failing :: behind ∧
      Blames (Path.ofString "shaders") failing error ∧
      later.calls = (before ++ [failing]).flatMap calls := by
  rcases compileModule_walks Module.small_accepted (FileTree.empty []) (Path.ofString "shaders")
    (fun _ _ => pure (.ok "text")) (by decide +kernel) Trace.empty () with finished | stopped
  · obtain ⟨text, later, after, -, succeed, -⟩ := finished
    have steps : Module.small.steps =
        .read (Module.small.declarations.head (by decide)) :: Module.small.steps.tail := rfl
    rw [steps] at succeed
    cases succeed with
    | cons first _ =>
        cases first with
        | read readable =>
            have missing : (FileTree.empty []).readText
                ((Module.small.declarations.head (by decide)).templateBelow
                  (Path.ofString "shaders")) = .error (.refused .notFound) := by
              rfl
            cases missing.symm.trans readable
  · obtain ⟨before, failing, behind, -, error, later, after, ends, place, -, -, blamed, called⟩ :=
      stopped
    exact ⟨before, failing, behind, error, later, after, ends, place, blamed, called⟩

end Compiler

end ShaderVariants
