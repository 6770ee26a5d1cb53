import ShaderVariants.CommandLine.InMemory
import ShaderVariants.Proofs.ValidationResult

/-!
# Output of commands

A command prints one text after the other.  `Prints` says that an action ends with a value and adds
a text to what has been printed before, without any change to the files, and the lemmas below say it
for actions that are put together.
-/

namespace ShaderVariants.CommandLine

variable {σ α β : Type}

/-- A compilation is a step of a command that prints nothing. -/
theorem Session.outcome_ofCompiler {work : Compiler (StateM σ) α} {result : Except CompileError α}
    {later : Trace} {state after : σ}
    (ends : outcome work Trace.empty state = ((result, later), after)) (output : String) :
    outcome (Session.ofCompiler work) output state =
      ((result.mapError CommandError.compile, output), after) := by
  have first : outcome (liftM (work.run Trace.empty : StateM σ _) :
      Session (StateM σ) (Except CompileError α × Trace)) output state =
        ((.ok (result, later), output), after) := by
    rw [outcome_liftM]
    exact congrArg (fun ran => ((Except.ok ran.1, output), ran.2)) ends
  unfold Session.ofCompiler
  rw [outcome_bind_of_ok first]
  cases result <;> rfl

/-- In the given state, the action ends with the value and adds the text to the output. -/
def Session.Prints (state : σ) (action : Session (StateM σ) α) (value : α) (text : String) : Prop :=
  ∀ before, outcome action before state = ((.ok value, before ++ text), state)

namespace Session.Prints

variable {state : σ}

theorem pure (value : α) : Prints state (Pure.pure value) value "" := by
  intro before
  rw [outcome_pure, String.append_empty]

theorem bind {action : Session (StateM σ) α} {next : α → Session (StateM σ) β} {value : α}
    {result : β} {text rest : String} (first : Prints state action value text)
    (second : Prints state (next value) result rest) :
    Prints state (action >>= next) result (text ++ rest) := by
  intro before
  rw [outcome_bind_of_ok (first before), second, String.append_assoc]

/-- A first action that prints nothing. -/
theorem silent_bind {action : Session (StateM σ) α} {next : α → Session (StateM σ) β} {value : α}
    {result : β} {text : String} (first : Prints state action value "")
    (second : Prints state (next value) result text) :
    Prints state (action >>= next) result text := by
  have both := first.bind second
  rwa [String.empty_append] at both

theorem printLine (line : String) :
    Prints state (Session.printLine line) () (line ++ "\n") := by
  intro before
  rfl

/-- Actions one after the other, one for each item of a list. -/
theorem forM {action : α → Session (StateM σ) PUnit} {text : α → String} {items : List α}
    (each : ∀ item ∈ items, Prints state (action item) PUnit.unit (text item)) :
    Prints state (items.forM action) PUnit.unit (String.join (items.map text)) := by
  induction items with
  | nil => exact pure PUnit.unit
  | cons item items ih =>
      have first := each item (by simp)
      have rest := ih fun other member => each other (List.mem_cons_of_mem _ member)
      rw [List.map_cons, String.join_cons]
      exact first.bind rest

theorem forM_printLine (lines : List String) :
    Prints state (lines.forM Session.printLine) PUnit.unit (String.join (lines.map (· ++ "\n"))) :=
  forM fun line _ => printLine line

/-- A compilation that succeeds. -/
theorem ofCompiler {work : Compiler (StateM σ) α} {value : α} {later : Trace}
    (succeeds : outcome work Trace.empty state = ((.ok value, later), state)) :
    Prints state (Session.ofCompiler work) value "" := by
  intro before
  rw [outcome_ofCompiler succeeds, String.append_empty]
  rfl

/-- A file of declarations is read and loaded. -/
theorem load {μ : Type} {world : World μ} {home source : Path} {text : String} {module : Module}
    (read : world.tree.readText source = .ok text)
    (loads : Compiler.loaded source text = .ok module) :
    Prints world (Session.load (FileTree.access home) source) module "" := by
  have answer : ((FileTree.access home).read source).run world = (.ok text, world) := by
    rw [← read]
    rfl
  have reads : outcome (Compiler.readDeclarations (FileTree.access home).read source)
      Trace.empty world = ((.ok text, Trace.empty), world) := by
    let file : StateM (World μ) _ := (FileTree.access home).read source
    have first : outcome (liftM file : Compiler (StateM (World μ)) _) Trace.empty world =
          ((.ok (.ok text), Trace.empty), world) := by
      rw [outcome_liftM]
      exact congrArg (fun ran => ((Except.ok ran.1, Trace.empty), ran.2)) answer
    exact outcome_bind_of_ok first
  obtain ⟨later, loaded, -⟩ :=
    (Compiler.yields_loadModule source text).outcome_eq Trace.empty world
  rw [loads] at loaded
  have both : outcome (do
      let text ← Compiler.readDeclarations (FileTree.access home).read source
      Compiler.loadModule source text) Trace.empty world = ((.ok module, later), world) := by
    rw [outcome_bind_of_ok reads, loaded]
  exact ofCompiler both

theorem enumerated {value : α} : Prints state (Session.enumerated (.ok value)) value "" :=
  pure value

/-- What a console makes of a text is printed as it is. -/
theorem printShown (shown : String) :
    Prints state (Session.printShown (.ok shown)) PUnit.unit shown := by
  intro before
  rfl

/-- A command that ends without an error. -/
theorem run {files : FileAccess (StateM σ)} {tools : Tools (StateM σ)} {command : Command}
    {text : String} (prints : Prints state (Session.ofCommand files tools command) () text) :
    (CommandLine.run files tools command).run state = (⟨0, text, "", none⟩, state) := by
  have ran : ((Session.ofCommand files tools command).run.run "").run state =
      ((.ok (), "" ++ text), state) := prints ""
  rw [String.empty_append] at ran
  unfold CommandLine.run
  rw [StateT.run_bind, ran]
  rfl

end Session.Prints

end ShaderVariants.CommandLine
