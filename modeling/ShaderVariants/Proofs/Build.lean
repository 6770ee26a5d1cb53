import ShaderVariants.Proofs.Announcements
import ShaderVariants.Proofs.FileTreeChanges
import ShaderVariants.Proofs.SessionOutput
import ShaderVariants.Proofs.UntouchedFiles
import ShaderVariants.Proofs.VariantCases

/-!
# Builds

A build reads its manifest and compiles all targets before it writes anything.  An error on the way
leaves the tree of files as it was.  Otherwise the sources are written one after the other, so that
of two targets with one file the later one wins.  All this holds whatever engine expands templates
and whatever console announces files.
-/

namespace ShaderVariants

open CommandLine

variable {σ : Type}

/-! ## What a build reads -/

namespace FileTree

/-- The manifest that stands at a path of a tree, or why there is none. -/
def manifest (tree : FileTree) (path : Path) : Except ManifestError Manifest :=
  Id.run (Manifest.load (fun path => pure (tree.readText path)) path)

/-- What comes of a target of a manifest that is compiled from a tree, and what the engine remembers
afterwards. -/
def compiled (tree : FileTree) (engine : Template.Engine (StateM σ)) (manifest : Manifest)
    (target : Manifest.Target) (memory : σ) : Except CompileError String × σ :=
  let ((result, _), after) := outcome (Compiler.compileFile
    (fun path => pure (tree.readText path)) manifest.baseDirectory
    (engine.preprocessor manifest.templateSettings) target.source) Trace.empty memory
  (result, after)

/-- Targets are compiled one after the other, all of them from the same tree.  Each source belongs
to the file to write for its target. -/
inductive Compiles (tree : FileTree) (engine : Template.Engine (StateM σ)) (manifest : Manifest) :
    σ → List Manifest.Target → List (Path × String) → σ → Prop where
  | nil (memory : σ) : Compiles tree engine manifest memory [] [] memory
  | cons {memory middle after : σ} {target : Manifest.Target} {source : String}
      {targets : List Manifest.Target} {outputs : List (Path × String)}
      (compiles : tree.compiled engine manifest target memory = (.ok source, middle))
      (rest : Compiles tree engine manifest middle targets outputs after) :
      Compiles tree engine manifest memory (target :: targets)
        ((target.output, source) :: outputs) after

/-! ## What a build writes -/

/-- Sources are written into their files one after the other, each into a directory that is made
before.  A write comes to pass only when the one before has been announced. -/
inductive AllWritten (console : Console) : FileTree → List (Path × String) → FileTree → Prop where
  | nil {tree : FileTree} : AllWritten console tree [] tree
  | cons {tree opened written later : FileTree} {path : Path} {source : String}
      {outputs : List (Path × String)} (nulFree : path.hasNul = false)
      (opens : tree.makeDirectories path.parent = (.ok (), opened))
      (writes : opened.writeText path source = .ok written)
      (announced : outputs ≠ [] → ∃ text, console.text (announcement path) = .ok text)
      (rest : AllWritten console written outputs later) :
      AllWritten console tree ((path, source) :: outputs) later

/-- A tree differs from another one by files with sources and by directories above them.  A file
that several sources were meant for holds the last one. -/
structure HoldsOutputs (tree later : FileTree) (outputs : List (Path × String)) : Prop where
  home : later.home = tree.home
  changes : ∀ place, later.entryAt? place = tree.entryAt? place ∨
    (∃ output ∈ outputs, later.locate output.1 = .ok place) ∨
    (tree.entryAt? place = none ∧ later.entryAt? place = some .openDirectory ∧
      ∃ output ∈ outputs, ∃ depth,
        later.locate (Path.parent^[depth] output.1.parent) = .ok place)
  contents : ∀ before output behind, outputs = before ++ output :: behind →
    (∀ other ∈ behind, later.locate other.1 ≠ later.locate output.1) →
    ∃ place permissions, later.locate output.1 = .ok place ∧
      later.entryAt? place = some (.file output.2.toUTF8 permissions)

variable {console : Console} {tree later : FileTree} {outputs : List (Path × String)}

theorem AllWritten.grows (written : AllWritten console tree outputs later) : Grows tree later := by
  induction written with
  | nil => exact Grows.refl _
  | cons nulFree opens writes announced rest ih =>
      obtain ⟨place, permissions, leads, becomes, rfl⟩ := exists_place_of_writeText writes
      exact ((Opens.of_makeDirectories opens).grows.trans (Grows.put becomes)).trans ih

theorem AllWritten.holdsOutputs (written : AllWritten console tree outputs later) :
    HoldsOutputs tree later outputs := by
  induction written with
  | nil =>
      refine ⟨rfl, fun _ => .inl rfl, ?_⟩
      intro before output behind split
      simp at split
  | @cons tree opened written later path source outputs nulFree opens writes announced rest ih =>
      have way := Opens.of_makeDirectories opens
      obtain ⟨place, permissions, leads, becomes, rfl⟩ := exists_place_of_writeText writes
      have put := entryAt?_put opened place (.file source.toUTF8 permissions)
      have stored : Grows opened (opened.put place (.file source.toUTF8 permissions)) :=
        Grows.put becomes
      have leadsLater : later.locate path = .ok place :=
        (stored.trans rest.grows).locate_eq leads
      refine ⟨ih.home.trans way.home, ?changes, ?contents⟩
      case changes =>
        intro other
        rcases ih.changes other with same | ⟨output, member, own⟩ |
          ⟨missing, added, output, member, depth, above⟩
        · rw [same, put]
          by_cases here : other = place
          · exact .inr (.inl ⟨_, List.mem_cons_self, here ▸ leadsLater⟩)
          · rw [if_neg here]
            rcases way.changes other with same' | ⟨missing, added, depth, above⟩
            · exact .inl same'
            · exact .inr (.inr ⟨missing, added, _, List.mem_cons_self, depth,
                (stored.trans rest.grows).locate_eq above⟩)
        · exact .inr (.inl ⟨output, List.mem_cons_of_mem _ member, own⟩)
        · exact .inr (.inr ⟨((way.grows.trans stored).becomes other).none_of_none missing, added,
            output, List.mem_cons_of_mem _ member, depth, above⟩)
      case contents =>
        intro before output behind split last
        cases before with
        | cons _ before =>
            exact ih.contents before output behind (List.cons.inj split).2 last
        | nil =>
            obtain ⟨rfl, rfl⟩ := List.cons.inj split
            have here := put place
            rw [if_pos rfl] at here
            -- A later output at this place would be another one in the same file.
            rcases ih.changes place with same | ⟨other, member, own⟩ | ⟨missing, -⟩
            · exact ⟨place, permissions, leadsLater, same.trans here⟩
            · exact (last other member (own.trans leadsLater.symm)).elim
            · rw [here] at missing
              cases missing

end FileTree

/-! ## Steps of a build -/

namespace CommandLine.Session

variable {tree : FileTree} {memory : σ} {output : String}

theorem outcome_loadManifest (tree : FileTree) (home path : Path) (output : String) (memory : σ) :
    outcome (loadManifest (FileTree.access home) path) output ⟨tree, memory⟩ =
      (((tree.manifest path).mapError CommandError.manifest, output), ⟨tree, memory⟩) := by
  let loading : StateM (World σ) (Except ManifestError Manifest) :=
    Manifest.load (FileTree.access home).read path
  have answer : loading.run ⟨tree, memory⟩ = (tree.manifest path, ⟨tree, memory⟩) := rfl
  have first : outcome (liftM loading : Session (StateM (World σ)) _) output ⟨tree, memory⟩ =
      ((.ok (tree.manifest path), output), ⟨tree, memory⟩) := by
    rw [outcome_liftM, answer]
  unfold loadManifest
  rw [outcome_bind_of_ok first]
  cases tree.manifest path <;> rfl

theorem outcome_compileTarget (tools : Tools (StateM σ)) (home : Path) {manifest : Manifest}
    {target : Manifest.Target} {result : Except CompileError String} {after : σ}
    (compiles : tree.compiled tools.engine manifest target memory = (result, after))
    (output : String) :
    outcome (compileTarget (FileTree.access home) tools.outside manifest target) output
        ⟨tree, memory⟩ =
      (((result.mapError CommandError.compile).map fun source => (target.output, source), output),
        ⟨tree, after⟩) := by
  have sameRun : Mirrors tree _ _ := Compiler.mirrors_compileFile home
    (tools.engine.preprocessor manifest.templateSettings) manifest.baseDirectory target.source
  have mirrors := sameRun Trace.empty memory
  unfold FileTree.compiled at compiles
  generalize outcome (Compiler.compileFile (fun path => pure (tree.readText path))
    manifest.baseDirectory (tools.engine.preprocessor manifest.templateSettings) target.source)
    Trace.empty memory = ran at mirrors compiles
  obtain ⟨⟨result, trace⟩, after⟩ := ran
  obtain ⟨rfl, rfl⟩ := Prod.mk.inj compiles
  have first := outcome_ofCompiler mirrors output
  unfold compileTarget
  cases result with
  | error error => exact outcome_bind_of_error first
  | ok source => exact outcome_bind_of_ok first

variable {tools : Tools (StateM σ)} {manifest : Manifest} {targets : List Manifest.Target}
  {outputs : List (Path × String)} {after : σ}

theorem outcome_compileTargets
    (compiles : tree.Compiles tools.engine manifest memory targets outputs after) (home : Path)
    (output : String) :
    outcome (targets.mapM (compileTarget (FileTree.access home) tools.outside manifest)) output
        ⟨tree, memory⟩ = ((.ok outputs, output), ⟨tree, after⟩) := by
  induction compiles with
  | nil => rfl
  | cons compiles rest ih =>
      rw [List.mapM_cons, outcome_bind_of_ok (outcome_compileTarget tools home compiles output),
        outcome_bind_of_ok ih]
      rfl

/-- The first target that fails ends the compilation. -/
theorem outcome_compileTargets_error
    (compiles : tree.Compiles tools.engine manifest memory targets outputs after)
    {target : Manifest.Target} {error : CompileError} {last : σ}
    (fails : tree.compiled tools.engine manifest target after = (.error error, last))
    (behind : List Manifest.Target) (home : Path) (output : String) :
    outcome ((targets ++ target :: behind).mapM
        (compileTarget (FileTree.access home) tools.outside manifest)) output ⟨tree, memory⟩ =
      ((.error (.compile error), output), ⟨tree, last⟩) := by
  induction compiles with
  | nil =>
      rw [List.nil_append, List.mapM_cons,
        outcome_bind_of_error (outcome_compileTarget tools home fails output)]
  | cons compiles rest ih =>
      rw [List.cons_append, List.mapM_cons,
        outcome_bind_of_ok (outcome_compileTarget tools home compiles output),
        outcome_bind_of_error (ih fails)]

theorem outcome_ofFile {path : Path} (nulFree : path.hasNul = false)
    {work : StateM (World σ) (Except FileError Unit)} {world after : World σ}
    (succeeds : work.run world = (.ok (), after)) (output : String) :
    outcome (ofFile path work) output world = ((.ok (), output), after) := by
  have first : outcome (liftM work : Session (StateM (World σ)) _) output world =
      ((.ok (.ok ()), output), after) := by
    rw [outcome_liftM, succeeds]
  unfold ofFile
  rw [nulFree]
  exact outcome_bind_of_ok first

variable {opened written later : FileTree} {path : Path} {source : String}

/-- A file is written before it is announced. -/
theorem outcome_writeOutput (nulFree : path.hasNul = false)
    (opens : tree.makeDirectories path.parent = (.ok (), opened))
    (writes : opened.writeText path source = .ok written) (tools : Tools (StateM σ)) (home : Path)
    (output : String) (memory : σ) :
    outcome (writeOutput (FileTree.access home) tools.outside path source) output ⟨tree, memory⟩ =
      outcome (printShown (tools.console.text (announcement path))) output ⟨written, memory⟩ := by
  have nulFreeAbove : path.parent.hasNul = false := by
    unfold Path.hasNul at nulFree ⊢
    rw [List.any_eq_false] at nulFree ⊢
    exact fun name member => nulFree name (List.mem_of_mem_dropLast member)
  have made : ((FileTree.access home).makeDirectories path.parent).run ⟨tree, memory⟩ =
      (.ok (), ⟨opened, memory⟩) := by
    change ((tree.makeDirectories path.parent).1,
      World.mk (tree.makeDirectories path.parent).2 memory) = _
    rw [opens]
  have stored : ((FileTree.access home).write path source).run ⟨opened, memory⟩ =
      (.ok (), ⟨written, memory⟩) := by
    simp only [FileTree.access, StateT.run_bind, StateT.run_get, pure_bind]
    rw [writes]
    rfl
  unfold writeOutput
  rw [outcome_bind_of_ok (outcome_ofFile nulFreeAbove made output),
    outcome_bind_of_ok (outcome_ofFile nulFree stored output)]
  rfl

/-- Whatever is said of the last file, all files are written. -/
theorem state_writeOutputs
    (written : FileTree.AllWritten tools.console tree outputs later) (home : Path)
    (output : String) (memory : σ) :
    (outcome (outputs.forM fun (path, source) =>
      writeOutput (FileTree.access home) tools.outside path source) output ⟨tree, memory⟩).2 =
        ⟨later, memory⟩ := by
  induction written generalizing output with
  | nil => rfl
  | @cons tree opened written later path source outputs nulFree opens writes announced rest ih =>
      change (outcome (do
        writeOutput (FileTree.access home) tools.outside path source
        outputs.forM fun (path, source) =>
          writeOutput (FileTree.access home) tools.outside path source)
          output ⟨tree, memory⟩).2 = _
      have wrote := outcome_writeOutput nulFree opens writes tools home output memory
      cases said : tools.console.text (announcement path) with
      | ok shown =>
          rw [said] at wrote
          rw [outcome_bind_of_ok wrote]
          exact ih _
      | error failure =>
          rw [said] at wrote
          rw [outcome_bind_of_error wrote]
          cases outputs with
          | nil =>
              cases rest
              rfl
          | cons next outputs =>
              obtain ⟨shown, announces⟩ := announced (by simp)
              rw [said] at announces
              cases announces

end CommandLine.Session

namespace CommandLine

open Session

/-- What comes of a build, and the world that it leaves. -/
def built (tools : Tools (StateM σ)) (world : World σ) (path : Path) : Outcome × World σ :=
  (run (FileTree.access world.tree.homePath) tools.outside (.build path)).run world

theorem run_eq {files : FileAccess (StateM σ)} {tools : Tools (StateM σ)} (command : Command)
    {state after : σ} {result : Except CommandError Unit} {later : String}
    (ends : outcome (ofCommand files tools command) "" state = ((result, later), after)) :
    (run files tools command).run state = (Outcome.ofResult (result, later), after) := by
  have ran : ((ofCommand files tools command).run.run "").run state =
      ((result, later), after) := ends
  unfold run
  rw [StateT.run_bind, ran]
  rfl

theorem Outcome.exitCode_ofResult_error (error : CommandError) (output : String) :
    (ofResult (.error error, output)).exitCode ≠ 0 := by
  unfold ofResult
  dsimp only
  split <;> exact Nat.one_ne_zero

variable {tools : Tools (StateM σ)} {tree later : FileTree} {path : Path} {memory after : σ}
  {manifest : Manifest} {outputs : List (Path × String)}

theorem outcome_build_of_manifest_error {error : ManifestError}
    (unusable : tree.manifest path = .error error) (tools : Tools (StateM σ)) (home : Path)
    (output : String) (memory : σ) :
    outcome (build (FileTree.access home) tools.outside path) output ⟨tree, memory⟩ =
      ((.error (.manifest error), output), ⟨tree, memory⟩) := by
  have loads := outcome_loadManifest tree home path output memory
  rw [unusable] at loads
  exact outcome_bind_of_error loads

theorem outcome_build_of_target_error (read : tree.manifest path = .ok manifest)
    {before behind : List Manifest.Target} {target : Manifest.Target}
    (targets : manifest.targets = before ++ target :: behind)
    (compiles : tree.Compiles tools.engine manifest memory before outputs after)
    {error : CompileError} {last : σ}
    (fails : tree.compiled tools.engine manifest target after = (.error error, last))
    (home : Path) (output : String) :
    outcome (build (FileTree.access home) tools.outside path) output ⟨tree, memory⟩ =
      ((.error (.compile error), output), ⟨tree, last⟩) := by
  have loads := outcome_loadManifest tree home path output memory
  rw [read] at loads
  have stops := outcome_compileTargets_error compiles fails behind home output
  rw [← targets] at stops
  unfold build
  rw [outcome_bind_of_ok loads, outcome_bind_of_error stops]

/-- Where all targets compile, a build goes on to write the sources into the tree as it was. -/
theorem state_build (read : tree.manifest path = .ok manifest)
    (compiles : tree.Compiles tools.engine manifest memory manifest.targets outputs after)
    (written : FileTree.AllWritten tools.console tree outputs later) (home : Path)
    (output : String) :
    (outcome (build (FileTree.access home) tools.outside path) output ⟨tree, memory⟩).2 =
      ⟨later, after⟩ := by
  have loads := outcome_loadManifest tree home path output memory
  rw [read] at loads
  unfold build
  rw [outcome_bind_of_ok loads, outcome_bind_of_ok (outcome_compileTargets compiles home output),
    state_bind]
  case keeps =>
    intro _ output world
    split <;> rfl
  exact state_writeOutputs written home output after

/-- A build is all or nothing.  If the manifest cannot be loaded, or any of its targets cannot be
compiled after those in front of it, the tree of files stays as it was, and the exit code is not
zero.  If all targets compile, from the tree as it was, and all their sources are written, the tree
differs by these files, each with the last source for it, and by directories above them. -/
theorem build_all_or_nothing (tools : Tools (StateM σ)) (world : World σ) (path : Path) :
    (((∃ error, world.tree.manifest path = .error error) ∨
        ∃ manifest before target behind outputs middle error last,
          world.tree.manifest path = .ok manifest ∧
          manifest.targets = before ++ target :: behind ∧
          world.tree.Compiles tools.engine manifest world.memory before outputs middle ∧
          world.tree.compiled tools.engine manifest target middle = (.error error, last)) →
      (built tools world path).1.exitCode ≠ 0 ∧
        (built tools world path).2.tree = world.tree) ∧
    ∀ manifest outputs after later,
      world.tree.manifest path = .ok manifest →
      world.tree.Compiles tools.engine manifest world.memory manifest.targets outputs after →
      FileTree.AllWritten tools.console world.tree outputs later →
      (built tools world path).2.tree = later ∧
        FileTree.HoldsOutputs world.tree later outputs := by
  obtain ⟨tree, memory⟩ := world
  refine ⟨?fails, ?succeeds⟩
  case fails =>
    rintro (⟨error, unusable⟩ |
      ⟨manifest, before, target, behind, outputs, middle, error, last, read, targets, compiles,
        fails⟩)
    · have ends := run_eq (.build path)
        (outcome_build_of_manifest_error unusable tools tree.homePath "" memory)
      unfold built
      rw [ends]
      exact ⟨Outcome.exitCode_ofResult_error _ _, rfl⟩
    · have ends := run_eq (.build path)
        (outcome_build_of_target_error read targets compiles fails tree.homePath "")
      unfold built
      rw [ends]
      exact ⟨Outcome.exitCode_ofResult_error _ _, rfl⟩
  case succeeds =>
    intro manifest outputs after later read compiles written
    refine ⟨?_, written.holdsOutputs⟩
    have ends := state_build read compiles written tree.homePath ""
    generalize ran : outcome (build (FileTree.access tree.homePath) tools.outside path) ""
      ⟨tree, memory⟩ = answer at ends
    obtain ⟨⟨result, output⟩, world⟩ := answer
    unfold built
    rw [run_eq (.build path) ran]
    exact congrArg World.tree ends

/-- A manifest with two targets that have one output under different names, and what they need. -/
def sharedOutput : FileTree where
  home := ["home"]
  entries := [
    ([], .openDirectory),
    (["home"], .openDirectory),
    (["home", "m"], .ofContent ("[[generate]]\nsource = \"s\"\noutput = \"o/p\"\n"
      ++ "[[generate]]\nsource = \"r\"\noutput = \"../home/o/p\"\n").toUTF8),
    (["home", "s"], .ofContent "variants S from \"t\" \x7b\x7d".toUTF8),
    (["home", "r"], .ofContent "variants R from \"t\" \x7b\x7d".toUTF8),
    (["home", "t"], .ofContent "code".toUTF8)]

/-- The same without the second source. -/
def missingSource : FileTree :=
  { sharedOutput with entries := sharedOutput.entries.filter fun entry => entry.1 ≠ ["home", "r"] }

/-- The second name of the output leads to what is written under the first one. -/
theorem exists_allWritten_sharedOutput (source other : String) :
    ∃ later, FileTree.AllWritten terminal sharedOutput
      [(⟨.relative, ["o", "p"]⟩, source), (⟨.relative, ["..", "home", "o", "p"]⟩, other)] later ∧
      later.locate ⟨.relative, ["o", "p"]⟩ =
        later.locate ⟨.relative, ["..", "home", "o", "p"]⟩ := by
  let opened := sharedOutput.put ["home", "o"] .openDirectory
  let once := opened.put ["home", "o", "p"] (.ofContent source.toUTF8)
  let twice := once.put ["home", "o", "p"] (.ofContent other.toUTF8)
  have opens : sharedOutput.makeDirectories ⟨.relative, ["o"]⟩ = (.ok (), opened) := rfl
  have writes : opened.writeText ⟨.relative, ["o", "p"]⟩ source = .ok once := rfl
  have isOpen : once.makeDirectories ⟨.relative, ["..", "home", "o"]⟩ = (.ok (), once) := rfl
  have replaces : once.writeText ⟨.relative, ["..", "home", "o", "p"]⟩ other = .ok twice := rfl
  refine ⟨twice, .cons (by decide) opens writes ?_
    (.cons (by decide) isOpen replaces (fun others => (others rfl).elim) .nil), rfl⟩
  exact fun _ => exists_terminal_announcement (by decide)

/-- Both targets compile. -/
theorem exists_compiles_sharedOutput :
    ∃ manifest first second,
      sharedOutput.manifest (Path.ofString "m") = .ok manifest ∧
      sharedOutput.Compiles (Template.interpreter : Template.Engine (StateM Unit)) manifest ()
        manifest.targets
        [(⟨.relative, ["o", "p"]⟩, first), (⟨.relative, ["..", "home", "o", "p"]⟩, second)] () ∧
      sharedOutput.compiled (Template.interpreter : Template.Engine (StateM Unit)) manifest
        ⟨Path.ofString "r", Path.ofString "../home/o/p"⟩ () = (.ok second, ()) := by
  let engine : Template.Engine (StateM Unit) := Template.interpreter
  let first : Manifest.Target := ⟨⟨.relative, ["s"]⟩, ⟨.relative, ["o", "p"]⟩⟩
  let second : Manifest.Target := ⟨⟨.relative, ["r"]⟩, ⟨.relative, ["..", "home", "o", "p"]⟩⟩
  have succeeds : (sharedOutput.manifest (Path.ofString "m")).toOption.map (fun manifest =>
      (manifest.targets, manifest.targets.all fun target =>
        (sharedOutput.compiled engine manifest target ()).1.toOption.isSome)) =
          some ([first, second], true) := by
    decide +kernel
  cases read : sharedOutput.manifest (Path.ofString "m") with
  | error error =>
      rw [read] at succeeds
      cases succeeds
  | ok manifest =>
      rw [read] at succeeds
      obtain ⟨targets, compile⟩ := Prod.mk.inj (Option.some.inj succeeds)
      have source : ∀ target ∈ manifest.targets, ∃ source,
          sharedOutput.compiled engine manifest target () = (.ok source, ()) := by
        intro target listed
        obtain ⟨text, compiled⟩ :=
          Option.isSome_iff_exists.mp (List.all_eq_true.mp compile target listed)
        exact ⟨text, Prod.ext (eq_ok_of_toOption compiled) (Subsingleton.elim _ _)⟩
      obtain ⟨firstSource, firstCompiles⟩ := source first (by simp [targets])
      obtain ⟨secondSource, secondCompiles⟩ := source second (by simp [targets])
      refine ⟨manifest, firstSource, secondSource, rfl, ?_, secondCompiles⟩
      rw [targets]
      exact .cons firstCompiles (.cons secondCompiles (.nil ()))

/-- Without its source, the second target does not compile. -/
theorem exists_fails_missingSource :
    ∃ manifest first second outputs error,
      missingSource.manifest (Path.ofString "m") = .ok manifest ∧
      manifest.targets = [first, second] ∧
      missingSource.Compiles (Template.interpreter : Template.Engine (StateM Unit)) manifest ()
        [first] outputs () ∧
      missingSource.compiled (Template.interpreter : Template.Engine (StateM Unit)) manifest
        second () = (.error error, ()) := by
  let engine : Template.Engine (StateM Unit) := Template.interpreter
  let first : Manifest.Target := ⟨⟨.relative, ["s"]⟩, ⟨.relative, ["o", "p"]⟩⟩
  let second : Manifest.Target := ⟨⟨.relative, ["r"]⟩, ⟨.relative, ["..", "home", "o", "p"]⟩⟩
  have fails : (missingSource.manifest (Path.ofString "m")).toOption.map (fun manifest =>
      (manifest.targets, (missingSource.compiled engine manifest first ()).1.toOption.isSome,
        (missingSource.compiled engine manifest second ()).1.toOption)) =
        some ([first, second], true, none) := by
    decide +kernel
  cases read : missingSource.manifest (Path.ofString "m") with
  | error error =>
      rw [read] at fails
      cases fails
  | ok manifest =>
      rw [read] at fails
      obtain ⟨targets, rest⟩ := Prod.mk.inj (Option.some.inj fails)
      obtain ⟨begins, stops⟩ := Prod.mk.inj rest
      obtain ⟨text, firstCompiles⟩ := Option.isSome_iff_exists.mp begins
      have compiles : missingSource.Compiles engine manifest () [first] [(first.output, text)] () :=
        .cons (Prod.ext (eq_ok_of_toOption firstCompiles) (Subsingleton.elim _ _)) (.nil ())
      cases compiled : (missingSource.compiled engine manifest second ()).1 with
      | ok source =>
          rw [compiled] at stops
          cases stops
      | error error =>
          exact ⟨manifest, first, second, _, error, rfl, targets, compiles,
            Prod.ext compiled (Subsingleton.elim _ _)⟩

theorem build_all_or_nothing_shared :
    (∃ manifest source place permissions,
      sharedOutput.manifest (Path.ofString "m") = .ok manifest ∧
      (sharedOutput.compiled (σ := Unit) Template.interpreter manifest
        ⟨Path.ofString "r", Path.ofString "../home/o/p"⟩ ()).1 = .ok source ∧
      (built standardTools ⟨sharedOutput, ()⟩ (Path.ofString "m")).2.tree.locate
        (Path.ofString "o/p") = .ok place ∧
      (built standardTools ⟨sharedOutput, ()⟩ (Path.ofString "m")).2.tree.entryAt? place =
        some (.file source.toUTF8 permissions)) ∧
    (built standardTools ⟨missingSource, ()⟩ (Path.ofString "m")).1.exitCode ≠ 0 ∧
    (built standardTools ⟨missingSource, ()⟩ (Path.ofString "m")).2.tree = missingSource := by
  constructor
  · obtain ⟨manifest, first, second, read, compiles, compiled⟩ := exists_compiles_sharedOutput
    obtain ⟨later, written, oneFile⟩ := exists_allWritten_sharedOutput first second
    obtain ⟨leaves, holds⟩ := (build_all_or_nothing standardTools ⟨sharedOutput, ()⟩
      (Path.ofString "m")).2 manifest _ () later read compiles written
    obtain ⟨place, permissions, leads, here⟩ := holds.contents
      [(⟨.relative, ["o", "p"]⟩, first)] (⟨.relative, ["..", "home", "o", "p"]⟩, second) [] rfl
      (by simp)
    refine ⟨manifest, second, place, permissions, read, congrArg Prod.fst compiled, ?_, ?_⟩
    · rw [leaves]
      exact oneFile.trans leads
    · rw [leaves]
      exact here
  · obtain ⟨manifest, first, second, outputs, error, read, targets, compiles, fails⟩ :=
      exists_fails_missingSource
    exact (build_all_or_nothing standardTools ⟨missingSource, ()⟩ (Path.ofString "m")).1
      (.inr ⟨manifest, [first], second, [], outputs, (), error, (), read, targets, compiles, fails⟩)

end CommandLine

end ShaderVariants
