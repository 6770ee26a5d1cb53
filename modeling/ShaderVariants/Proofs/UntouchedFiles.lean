import ShaderVariants.CommandLine.InMemory
import ShaderVariants.Proofs.CaseSources
import ShaderVariants.Proofs.ValidationResult

/-!
# Compilations leave files alone

A compilation reads files and writes none.  On a tree of files it does what it does beside a
function that says what files hold, and only what the preprocessor remembers is another afterwards.
So all targets of a manifest are compiled from the files as they were at the beginning.
-/

namespace ShaderVariants

variable {ε ω σ α β : Type}

/-! ## Actions beside a tree -/

/-- On a tree of files, an action does what another one does without any files, and leaves the tree
as it is. -/
def Mirrors (tree : FileTree) (action : ExceptT ε (StateT ω (StateM (World σ))) α)
    (beside : ExceptT ε (StateT ω (StateM σ)) α) : Prop :=
  ∀ record memory, outcome action record ⟨tree, memory⟩ =
    ((outcome beside record memory).1, ⟨tree, (outcome beside record memory).2⟩)

namespace Mirrors

variable {tree : FileTree}

theorem pure (value : α) :
    Mirrors tree (Pure.pure value : ExceptT ε (StateT ω (StateM (World σ))) α)
      (Pure.pure value) :=
  fun _ _ => rfl

theorem throw (error : ε) :
    Mirrors tree (MonadExcept.throw error : ExceptT ε (StateT ω (StateM (World σ))) α)
      (MonadExcept.throw error) :=
  fun _ _ => rfl

theorem modify (change : ω → ω) :
    Mirrors tree (modify change : ExceptT ε (StateT ω (StateM (World σ))) PUnit)
      (modify change) :=
  fun _ _ => rfl

/-- Something that does not know about files. -/
theorem outside (action : StateM σ α) :
    Mirrors tree (liftM (World.outside action) : ExceptT ε (StateT ω (StateM (World σ))) α)
      (liftM action) :=
  fun _ _ => rfl

theorem read (home path : Path) :
    Mirrors tree (liftM ((FileTree.access home).read path : StateM (World σ) _) :
        ExceptT ε (StateT ω (StateM (World σ))) (Except ReadError String))
      (liftM (Pure.pure (tree.readText path) : StateM σ (Except ReadError String))) :=
  fun _ _ => rfl

/-- The second action may count on a value that the first one can come to. -/
theorem bind_of {action : ExceptT ε (StateT ω (StateM (World σ))) α}
    {beside : ExceptT ε (StateT ω (StateM σ)) α}
    {next : α → ExceptT ε (StateT ω (StateM (World σ))) β}
    {nextBeside : α → ExceptT ε (StateT ω (StateM σ)) β} (first : Mirrors tree action beside)
    (rest : ∀ value, (∃ record memory, (outcome beside record memory).1.1 = .ok value) →
      Mirrors tree (next value) (nextBeside value)) :
    Mirrors tree (action >>= next) (beside >>= nextBeside) := by
  intro record memory
  have ends := first record memory
  generalize ran : outcome beside record memory = answer at ends
  obtain ⟨⟨result, later⟩, after⟩ := answer
  cases result with
  | error error => rw [outcome_bind_of_error ends, outcome_bind_of_error ran]
  | ok value =>
      rw [outcome_bind_of_ok ends, outcome_bind_of_ok ran]
      exact rest value ⟨record, memory, by rw [ran]⟩ later after

theorem bind {action : ExceptT ε (StateT ω (StateM (World σ))) α}
    {beside : ExceptT ε (StateT ω (StateM σ)) α}
    {next : α → ExceptT ε (StateT ω (StateM (World σ))) β}
    {nextBeside : α → ExceptT ε (StateT ω (StateM σ)) β} (first : Mirrors tree action beside)
    (rest : ∀ value, Mirrors tree (next value) (nextBeside value)) :
    Mirrors tree (action >>= next) (beside >>= nextBeside) :=
  first.bind_of fun value _ => rest value

theorem mapM {action : α → ExceptT ε (StateT ω (StateM (World σ))) β}
    {beside : α → ExceptT ε (StateT ω (StateM σ)) β} {items : List α}
    (each : ∀ item ∈ items, Mirrors tree (action item) (beside item)) :
    Mirrors tree (items.mapM action) (items.mapM beside) := by
  induction items with
  | nil => exact pure []
  | cons item items ih =>
      rw [List.mapM_cons, List.mapM_cons]
      refine (each item List.mem_cons_self).bind fun _ => ?_
      refine (ih fun other member => each other (List.mem_cons_of_mem _ member)).bind fun _ => ?_
      exact pure _

end Mirrors

/-! ## Compilations -/

/-- A preprocessor beside a tree of files. -/
def PreprocessorIn.outside (preprocessor : PreprocessorIn (StateM σ)) :
    PreprocessorIn (StateM (World σ)) :=
  fun template definitions => World.outside (preprocessor template definitions)

namespace Compiler

variable {tree : FileTree} (home : Path) (preprocessor : PreprocessorIn (StateM σ))

theorem mirrors_readFile (role : String) (path : Path) :
    Mirrors tree (readFile (FileTree.access home).read role path : Compiler (StateM (World σ)) _)
      (readFile (fun path => pure (tree.readText path)) role path) := by
  unfold readFile
  refine (Mirrors.read home path).bind fun answer => ?_
  cases Loaded.ofRead role path answer with
  | text content => exact Mirrors.pure _
  | failed error => exact Mirrors.throw _
  | nulInPath => exact Mirrors.throw _

theorem mirrors_preprocessCase (template : String) (declaration : VariantsDeclaration)
    (concrete : NumberedCase) :
    Mirrors tree (preprocessCase preprocessor.outside template declaration concrete)
      (preprocessCase preprocessor template declaration concrete) := by
  unfold preprocessCase expandCase
  refine Mirrors.bind ?_ fun _ => Mirrors.pure _
  refine (Mirrors.outside _).bind fun answer => ?_
  refine (Mirrors.modify _).bind fun _ => ?_
  cases answer with
  | ok source => exact (Mirrors.modify _).bind fun _ => Mirrors.pure _
  | error failure => exact Mirrors.throw _

theorem mirrors_compileDeclaration {module : Module} (rules : module.WellFormed)
    {declaration : VariantsDeclaration} (declared : declaration ∈ module.declarations)
    (baseDirectory : Path) :
    Mirrors tree (compileDeclaration (FileTree.access home).read baseDirectory
        preprocessor.outside module declaration)
      (compileDeclaration (fun path => pure (tree.readText path)) baseDirectory preprocessor
        module declaration) := by
  unfold compileDeclaration
  refine (mirrors_readFile home _ _).bind fun template => ?_
  rw [resolveDeclaration_eq rules declared, resolveDeclaration_eq rules declared,
    map_eq_pure_bind, map_eq_pure_bind]
  have cases : Mirrors tree _ _ := Mirrors.mapM fun concrete
      (_ : concrete ∈ declaration.variants.flatMap module.numberedCases) =>
    mirrors_preprocessCase preprocessor template declaration concrete
  refine (cases.bind fun _ => Mirrors.pure _).bind fun _ => ?_
  exact (Mirrors.modify _).bind fun _ => Mirrors.pure _

theorem mirrors_compileModule {module : Module} (rules : module.WellFormed)
    (baseDirectory : Path) :
    Mirrors tree (compileModule (FileTree.access home).read baseDirectory preprocessor.outside
        module)
      (compileModule (fun path => pure (tree.readText path)) baseDirectory preprocessor
        module) := by
  unfold compileModule
  refine Mirrors.bind (Mirrors.mapM fun declaration declared =>
    mirrors_compileDeclaration home preprocessor rules declared baseDirectory) fun resolved => ?_
  cases Generated.ofResolved module resolved with
  | ok generated => exact Mirrors.pure _
  | error error => exact Mirrors.throw _

theorem mirrors_tellAll (level : LogLevel) (messages : List String) :
    Mirrors tree (forIn messages PUnit.unit fun message _ => do
        tell level message
        Pure.pure (ForInStep.yield PUnit.unit) : Compiler (StateM (World σ)) PUnit)
      (forIn messages PUnit.unit fun message _ => do
        tell level message
        Pure.pure (ForInStep.yield PUnit.unit)) := by
  induction messages with
  | nil => exact Mirrors.pure _
  | cons message messages ih =>
      rw [List.forIn_cons, List.forIn_cons]
      refine ((Mirrors.modify _).bind fun _ => Mirrors.pure _).bind fun step => ?_
      cases step with
      | done => exact Mirrors.pure _
      | yield => exact ih

/-- A text is loaded in the same way everywhere. -/
theorem mirrors_loadModule (file : Path) (text : String) :
    Mirrors tree (loadModule file text : Compiler (StateM (World σ)) Module)
      (loadModule file text) := by
  unfold loadModule
  cases Module.ofText file text with
  | error refusal => exact Mirrors.throw _
  | ok module =>
      refine Mirrors.bind ?_ fun _ => Mirrors.pure module
      unfold validate
      refine (mirrors_tellAll .warning module.warnings).bind fun _ => ?_
      split
      · exact Mirrors.throw _
      · exact Mirrors.pure _

/-- A compilation of a file only reads files. -/
theorem mirrors_compileFile (baseDirectory path : Path) :
    Mirrors tree (compileFile (FileTree.access home).read baseDirectory preprocessor.outside path)
      (compileFile (fun path => pure (tree.readText path)) baseDirectory preprocessor path) := by
  unfold compileFile compileText
  refine (mirrors_readFile home _ _).bind fun text => ?_
  refine (mirrors_loadModule path text).bind_of fun module loads => ?_
  obtain ⟨trace, memory, loads⟩ := loads
  obtain ⟨later, ends, -⟩ := (yields_loadModule path text).outcome_eq trace memory
  rw [ends] at loads
  exact mirrors_compileModule home preprocessor (loaded_eq_ok_iff.mp loads).2.wellFormed
    baseDirectory

end Compiler

end ShaderVariants
