import ShaderVariants.Proofs.GeneratedLines

/-!
# Generated tables

An accepted module can always be generated, whatever its templates are, as long as the preprocessor
does not fail.  The preprocessor may remember its calls: it is called once for each case, in order,
and what it answers is what the table has for the case.
-/

namespace ShaderVariants.Compiler

variable {m : Type → Type} [Monad m]

def emit (module : Module) (resolved : List ResolvedDeclaration) : Compiler m Generated.Module :=
  match Generated.ofResolved module resolved with
  | .ok generated => pure generated
  | .error error => throw (.emission error)

/-- Preprocesses the cases of all declarations, whose templates are at hand, and emits the
module. -/
def generate (module : Module) (template : VariantsDeclaration → String)
    (preprocessor : PreprocessorIn m) : Compiler m Generated.Module := do
  let resolved ← module.declarations.mapM fun declaration =>
    resolveDeclaration module declaration (template declaration) preprocessor
  emit module resolved

variable [LawfulMonad m]

/-- The generation of an accepted module.  The preprocessor is asked for one source per case, and
nothing fails.  Each table of sources has one line per case, in order and with its source, under a
key that no other case has. -/
theorem generates_accepted {module : Module} (accepted : module.Accepted)
    (template : VariantsDeclaration → String) {preprocessor : PreprocessorIn m}
    {expand : String → Definitions → m String}
    (expands : ∀ text definitions,
      preprocessor text definitions = Except.ok <$> expand text definitions)
    (trace : Trace) :
    ∃ (later : Trace) (generated : List (List String) → Generated.Module),
      (generate module template preprocessor).run.run trace =
        (fun sources => (.ok (generated sources), later)) <$>
          module.declarations.mapM (fun declaration =>
            (module.casesOfDeclaration declaration).mapM fun concrete =>
              expand (template declaration) (concrete.definitions declaration)) ∧
      ∀ sources,
        (generated sources).families =
          List.zipWith (fun declaration => module.totalFamily declaration (template declaration))
            module.declarations sources ∧
        ∀ declaration texts, (declaration, texts) ∈ module.declarations.zip sources →
          module.sourceTable declaration texts <:+:
            (module.totalFamily declaration (template declaration) texts).lines ∧
          Generated.HasLines (generated sources).text.toList
            (module.sourceTable declaration texts) ∧
          ((module.casesOfDeclaration declaration).map fun concrete =>
            (concrete.key declaration).text).Nodup := by
  have rules := accepted.wellFormed
  have gathers := Gathers.mapM (m := m) fun declaration declared =>
    gathers_resolveDeclaration (expands (template declaration)) rules declared
  obtain ⟨later, run⟩ := gathers trace
  refine ⟨later, fun sources => module.emitted (module.resolvedWith template sources), ?_, ?_⟩
  · -- There are sources for as many cases as there are, so that the emitter finds nothing.
    have emitted {sources : List (List String)}
        (counts : List.Forall₂ module.Counts module.declarations sources) :
        Generated.ofResolved module (module.resolvedWith template sources) =
          .ok (module.emitted (module.resolvedWith template sources)) :=
      rules.ofResolved_of_covered (Module.covered_resolvedWith template counts)
    rw [generate, ExceptT.run_bind, StateT.run_bind, run, map_eq_pure_bind, map_eq_pure_bind,
      bind_assoc]
    refine mapM_bind_congr (fun declaration _ _ _ _ agree => mapM_bind_congr_of_length agree)
      fun sources (counts : List.Forall₂ module.Counts _ _) => ?_
    rw [pure_bind]
    change (emit module (module.resolvedWith template sources)).run.run later = _
    rw [emit, emitted counts]
    rfl
  · intro sources
    have families := module.families_resolvedWith template sources
    refine ⟨families, fun declaration texts listed => ?_⟩
    have inside := module.sourceTable_infix declaration (template declaration) texts
    have isFamily : module.totalFamily declaration (template declaration) texts ∈
        (module.emitted (module.resolvedWith template sources)).families := by
      rw [families, ← List.map_uncurry_zip_eq_zipWith]
      exact List.mem_map.mpr ⟨_, listed, rfl⟩
    have lines := inside.trans (Generated.Module.family_lines_infix isFamily)
    exact ⟨inside, Generated.Module.hasLines_of_infix lines,
      rules.nodup_keys (List.of_mem_zip listed).1⟩

/-- What a preprocessor answers that numbers its calls and shows its definitions. -/
def numbered (_ : String) (definitions : Definitions) : StateM Nat String := fun calls =>
  (s!"{calls} {ConcreteCase.listedDefinitions definitions}", calls + 1)

/-- The table of a small module. -/
theorem generates_small :
    ∃ later generated,
      ((generate Module.small (fun _ => "text") fun text definitions =>
        Except.ok <$> numbered text definitions).run.run Trace.empty).run 0 =
          ((.ok generated, later), 3) ∧
      ∃ family ∈ generated.families,
        let table := ["_SOURCES_Shader: dict[Shader, str] = \x7b",
          "    ShaderDebug(): '0 \x7bDEBUG: true\x7d',",
          "    ShaderProduct(Multi.Off): '1 \x7bDEBUG: false, MULTI: false\x7d',",
          "    ShaderProduct(Multi.On): '2 \x7bDEBUG: false, MULTI: true\x7d',",
          "\x7d"]
        table <:+: family.lines ∧ Generated.HasLines generated.text.toList table := by
  let declaration := Module.small.declarations.head (by decide)
  let texts := ["0 \x7bDEBUG: true\x7d", "1 \x7bDEBUG: false, MULTI: false\x7d",
    "2 \x7bDEBUG: false, MULTI: true\x7d"]
  obtain ⟨later, generated, run, tables⟩ := @generates_accepted (StateM Nat) _ _ Module.small
    Module.small_accepted (fun _ => "text") _ numbered (fun _ _ => rfl) Trace.empty
  have collected : (Module.small.declarations.mapM fun declaration =>
      (Module.small.casesOfDeclaration declaration).mapM fun concrete =>
        numbered "text" (concrete.definitions declaration)).run 0 = ([texts], 3) := by
    rfl
  obtain ⟨families, lines⟩ := tables [texts]
  have isPair : (declaration, texts) ∈ Module.small.declarations.zip [texts] := by
    simp [declaration, Module.small]
  obtain ⟨inside, stands, -⟩ := lines declaration texts isPair
  refine ⟨later, generated [texts], ?_, Module.small.totalFamily declaration "text" texts, ?_, ?_⟩
  · have ran := congrArg (fun action => StateT.run action 0) run
    refine ran.trans ?_
    rw [StateT.run_map, collected]
    rfl
  · rw [families]
    simp [declaration, Module.small]
  · have table : Module.small.sourceTable declaration texts = [
        "_SOURCES_Shader: dict[Shader, str] = \x7b",
        "    ShaderDebug(): '0 \x7bDEBUG: true\x7d',",
        "    ShaderProduct(Multi.Off): '1 \x7bDEBUG: false, MULTI: false\x7d',",
        "    ShaderProduct(Multi.On): '2 \x7bDEBUG: false, MULTI: true\x7d',",
        "\x7d"] := by
      decide +kernel
    rw [← table]
    exact ⟨inside, stands⟩

end ShaderVariants.Compiler
