import ShaderVariants.Proofs.CompilerResult
import ShaderVariants.Proofs.VariantCases

/-!
# Sources of cases

The bridge keeps one set of definitions for all combinations of a cross product.  A combination
sets the same keys as the ones before it, so that nothing of them is left.  Working through a
declaration on its bridge is therefore the same action as preprocessing its cases one by one, each
under the shared definitions overridden by its own, whatever the preprocessor remembers.
-/

namespace ShaderVariants

/-- The case with its source. -/
def VariantCase.resolved (concrete : VariantCase) (source : String) : ResolvedCase :=
  ⟨concrete.variant.name, concrete.selections, source⟩

namespace Combination

/-- A combination of a variant as a case. -/
def numbered (variant : Variant) (combination : Combination) : NumberedCase :=
  ⟨⟨variant, combination.selections⟩, some combination.index⟩

theorem keys_selections {valueEnums : List ValueEnum} {selections : List Selection}
    (member : selections ∈ Selection.choices valueEnums) :
    (selections.map Selection.definition).map Prod.fst = valueEnums.map ValueEnum.name := by
  rw [← Selection.map_valueEnum_of_mem_choices member, List.map_map, List.map_map]
  rfl

theorem selections_mem_of_mem_chosen {valueEnums : List ValueEnum} {combination : Combination}
    (member : combination ∈ chosen valueEnums) :
    combination.selections ∈ Selection.choices valueEnums := by
  obtain ⟨⟨selections, index⟩, numbered, rfl⟩ := List.mem_map.mp member
  exact List.fst_mem_of_mem_zipIdx numbered

/-- Each combination sets the names of the value enums that it selects from. -/
theorem keys_of_mem_chosen {valueEnums : List ValueEnum} {combination : Combination}
    (member : combination ∈ chosen valueEnums) :
    (combination.selections.map Selection.definition).map Prod.fst =
      valueEnums.map ValueEnum.name :=
  keys_selections (selections_mem_of_mem_chosen member)

theorem entries_overrides {valueEnums : List ValueEnum}
    (distinct : (valueEnums.map ValueEnum.name).Nodup) {combination : Combination}
    (member : combination ∈ chosen valueEnums) :
    combination.overrides.entries = combination.selections.map Selection.definition := by
  apply OrderedMap.entries_ofList
  rw [keys_of_mem_chosen member]
  exact distinct

end Combination

theorem Module.map_numbered_chosen (module : Module) {variant : Variant} {references : List String}
    (body : variant.body = .crossProduct references) :
    (Combination.chosen (module.referenced references)).map (Combination.numbered variant) =
      module.numberedCases variant := by
  unfold numberedCases
  rw [body, Combination.chosen, List.map_map]
  rfl

/-- Actions on the parts of some items, one part after the other. -/
theorem flatten_mapM_eq {m : Type → Type} [Monad m] [LawfulMonad m] {α β γ : Type}
    {action : α → m (List γ)} {parts : α → List β} {each : β → m γ} {items : List α}
    (agree : ∀ item ∈ items, action item = (parts item).mapM each) :
    List.flatten <$> items.mapM action = (items.flatMap parts).mapM each := by
  induction items with
  | nil => simp
  | cons item items ih =>
      have first := agree item (by simp)
      have rest := ih fun other member => agree other (List.mem_cons_of_mem _ member)
      rw [List.flatMap_cons, List.mapM_append, ← first, ← rest, List.mapM_cons]
      simp

/-- What follows a traversal depends only on answers that belong to the items. -/
theorem mapM_bind_congr {m : Type → Type} [Monad m] [LawfulMonad m] {α β γ : Type}
    {holds : α → β → Prop} {effect : α → m β}
    {items : List α}
    (each : ∀ item ∈ items, ∀ {δ : Type} {next next' : β → m δ},
      (∀ answer, holds item answer → next answer = next' answer) →
        effect item >>= next = effect item >>= next')
    {next next' : List β → m γ}
    (agree : ∀ answers, List.Forall₂ holds items answers → next answers = next' answers) :
    items.mapM effect >>= next = items.mapM effect >>= next' := by
  induction items generalizing next next' with
  | nil => simpa using agree [] .nil
  | cons item items ih =>
      rw [List.forall_mem_cons] at each
      simp only [List.mapM_cons, bind_assoc, pure_bind]
      refine each.1 fun answer here => ?_
      exact ih each.2 fun answers others => agree _ (.cons here others)

/-- Of an item by item traversal, there are as many answers as items. -/
theorem mapM_bind_congr_of_length {m : Type → Type} [Monad m] [LawfulMonad m] {α β γ : Type}
    {effect : α → m β} {items : List α} {next next' : List β → m γ}
    (agree : ∀ answers, answers.length = items.length → next answers = next' answers) :
    items.mapM effect >>= next = items.mapM effect >>= next' := by
  have each : ∀ item ∈ items, ∀ {δ : Type} {next next' : β → m δ},
      (∀ answer, (fun (_ : α) (_ : β) => True) item answer → next answer = next' answer) →
        effect item >>= next = effect item >>= next' := by
    intro item _ δ next next' same
    rw [funext fun answer => same answer trivial]
  exact mapM_bind_congr each fun answers related => agree answers related.length_eq.symm

namespace Compiler

section

variable {m : Type → Type} [Monad m]

/-- Expands a template under the definitions of a case, and says so. -/
def expandCase (preprocessor : PreprocessorIn m) (template : String)
    (declaration variant : String) (index : Option Nat) (definitions : Definitions) :
    Compiler m String := do
  let answer ← (preprocessor template definitions : m _)
  modify fun trace => trace.call definitions
  match answer with
  | .ok source =>
    let suffix := (index.map fun index => s!" #{index}").getD ""
    tell .debug s!"Preprocessed {declaration}::{variant}{suffix}"
    return source
  | .error failure =>
    throw (.preprocessing ⟨declaration, variant, index.map Int.ofNat, some failure.reason⟩)

/-- Preprocesses a case of a declaration without a bridge. -/
def preprocessCase (preprocessor : PreprocessorIn m) (template : String)
    (declaration : VariantsDeclaration) (concrete : NumberedCase) : Compiler m ResolvedCase := do
  let source ← expandCase preprocessor template declaration.name concrete.variant.name
    concrete.index (concrete.definitions declaration)
  return ⟨concrete.variant.name, concrete.selections, source⟩

end

variable {m : Type → Type} [Monad m] [LawfulMonad m]

/-- A case on a bridge where its variant has begun. -/
theorem processCase_eq {bridge : BridgeIn m} {variant : String}
    (active : bridge.variant = some variant) (selections : List Selection)
    (overrides : Definitions) (index : Option Nat) :
    processCase bridge variant selections overrides index = (do
      let definitions := bridge.definitions.setAll overrides.entries
      let source ← expandCase bridge.preprocessor bridge.template bridge.declaration variant index
        definitions
      return (⟨variant, selections, source⟩, { bridge with definitions })) := by
  unfold processCase expandCase BridgeIn.process
  simp only [active, liftM_bind, bind_assoc]
  congr 1
  funext answer
  cases answer with
  | ok source => simp
  | error failure => simp

/-- Rows of digits that select combinations which all set the same keys, on a bridge whose
definitions differ from the shared ones in these keys only. -/
theorem processCombinations_eq {bridge : BridgeIn m} {declaration : VariantsDeclaration}
    {variant : Variant} {references keys : List String} {valueEnums : List ValueEnum}
    (body : variant.body = .crossProduct references)
    (active : bridge.variant = some variant.name) (names : bridge.declaration = declaration.name)
    (leaves : ∀ entries : List (String × Scalar), entries.map Prod.fst = keys →
      bridge.definitions.setAll entries = declaration.sharedDefinitions.setAll entries)
    {rows : List (List Nat × Nat)} {combinations : List Combination}
    (select : List.Forall₂
      (fun row combination => Combination.ofRow valueEnums row = .ok combination)
      rows combinations)
    (own : ∀ combination ∈ combinations,
      combination.overrides.entries = combination.selections.map Selection.definition)
    (sameKeys : ∀ combination ∈ combinations,
      (combination.selections.map Selection.definition).map Prod.fst = keys) :
    processCombinations variant.name valueEnums bridge rows =
      (combinations.map (Combination.numbered variant)).mapM
        (preprocessCase bridge.preprocessor bridge.template declaration) := by
  induction select generalizing bridge with
  | nil => rfl
  | @cons row combination rows combinations selected others ih =>
      have here := sameKeys combination (by simp)
      have definitions :
          bridge.definitions.setAll combination.overrides.entries =
            (combination.numbered variant).definitions declaration := by
        rw [own combination (by simp), leaves _ here]
        simp only [VariantCase.definitions, VariantCase.ownDefinitions, Combination.numbered, body]
      -- The next combination finds other definitions on the bridge, but sets the same keys again.
      let after : BridgeIn m :=
        { bridge with definitions := (combination.numbered variant).definitions declaration }
      have rest := @ih after active names
        (fun entries same => by
          have again := OrderedMap.setAll_setAll declaration.sharedDefinitions
            (here.trans same.symm)
          simpa only [after, VariantCase.definitions, VariantCase.ownDefinitions,
            Combination.numbered, body] using again)
        (fun other member => own other (List.mem_cons_of_mem _ member))
        (fun other member => sameKeys other (List.mem_cons_of_mem _ member))
      simp only [after, names] at rest
      have found : combinationOf valueEnums row = (pure combination : Compiler m _) := by
        rw [combinationOf, selected]
      rw [processCombinations, found, pure_bind, processCase_eq active, List.map_cons,
        List.mapM_cons, preprocessCase]
      simp only [definitions, bind_assoc, pure_bind, names, rest]
      rfl

section

variable {module : Module} {declaration : VariantsDeclaration} {variant : Variant}
  {bridge : BridgeIn m}

/-- A hardcoded variant on the bridge of its declaration. -/
theorem processVariant_hardcoded_eq (rules : module.WellFormed)
    (declared : declaration ∈ module.declarations) (inside : variant ∈ declaration.variants)
    {definitions : List Definition} (body : variant.body = .hardcoded definitions)
    (names : bridge.declaration = declaration.name)
    (startsShared : bridge.shared = declaration.sharedDefinitions) :
    processVariant module bridge variant =
      (module.numberedCases variant).mapM
        (preprocessCase bridge.preprocessor bridge.template declaration) := by
  have bodyRules := (rules.declarations declaration declared).bodies variant inside
  rw [body] at bodyRules
  have own := Definition.entries_toMap (Variant.HardcodedWellFormed.keysDiffer bodyRules)
  have active : (bridge.beginVariant variant.name).variant = some variant.name := rfl
  have starts : (bridge.beginVariant variant.name).definitions =
      declaration.sharedDefinitions := startsShared
  have first := processCase_eq active [] (Definition.toMap definitions) none
  rw [own, starts] at first
  unfold processVariant Module.numberedCases
  rw [body]
  simp only [first, bind_assoc, pure_bind, List.mapM_cons, List.mapM_nil, preprocessCase,
    VariantCase.definitions, VariantCase.ownDefinitions, body, ← names]
  rfl

/-- A cross product on the bridge of its declaration. -/
theorem processVariant_crossProduct_eq (rules : module.WellFormed)
    (declared : declaration ∈ module.declarations) (inside : variant ∈ declaration.variants)
    {references : List String} (body : variant.body = .crossProduct references)
    (names : bridge.declaration = declaration.name)
    (startsShared : bridge.shared = declaration.sharedDefinitions) :
    processVariant module bridge variant =
      (module.numberedCases variant).mapM
        (preprocessCase bridge.preprocessor bridge.template declaration) := by
  have resolves := rules.resolves declared inside body
  have distinct := rules.nodup_names_referenced declared inside body
  have active : (bridge.beginVariant variant.name).variant = some variant.name := rfl
  have starts : (bridge.beginVariant variant.name).definitions =
      declaration.sharedDefinitions := startsShared
  have combinations := processCombinations_eq (m := m) body active names
    (fun entries _ => by rw [starts])
    (Combination.forall₂_ofRow_rows (module.referenced references))
    (fun combination member => Combination.entries_overrides distinct member)
    (fun combination member => Combination.keys_of_mem_chosen member)
  rw [module.map_numbered_chosen body] at combinations
  unfold processVariant
  rw [body]
  dsimp only
  rw [Module.resolve_eq_referenced resolves]
  exact combinations

/-- A variant on the bridge of its declaration, of which any variants may have been before. -/
theorem processVariant_eq (rules : module.WellFormed)
    (declared : declaration ∈ module.declarations) (inside : variant ∈ declaration.variants)
    (names : bridge.declaration = declaration.name)
    (startsShared : bridge.shared = declaration.sharedDefinitions) :
    processVariant module bridge variant =
      (module.numberedCases variant).mapM
        (preprocessCase bridge.preprocessor bridge.template declaration) := by
  cases body : variant.body with
  | hardcoded definitions =>
      exact processVariant_hardcoded_eq rules declared inside body names startsShared
  | crossProduct references =>
      exact processVariant_crossProduct_eq rules declared inside body names startsShared

end

/-- All cases of a declaration are preprocessed one by one. -/
theorem resolveDeclaration_eq {module : Module} (rules : module.WellFormed)
    {declaration : VariantsDeclaration} (declared : declaration ∈ module.declarations)
    (template : String) (preprocessor : PreprocessorIn m) :
    resolveDeclaration module declaration template preprocessor =
      ResolvedDeclaration.mk declaration template <$>
        (declaration.variants.flatMap module.numberedCases).mapM
          (preprocessCase preprocessor template declaration) := by
  let bridge :=
    BridgeIn.make preprocessor template declaration.name declaration.sharedDefinitions
  have variants : List.flatten <$> declaration.variants.mapM (processVariant module bridge) =
      (declaration.variants.flatMap module.numberedCases).mapM
        (preprocessCase preprocessor template declaration) :=
    flatten_mapM_eq fun variant inside => processVariant_eq rules declared inside rfl rfl
  rw [← variants, map_eq_pure_bind, map_eq_pure_bind, bind_assoc]
  simp only [pure_bind]
  rfl

section

variable {preprocessor : PreprocessorIn m} {template : String} {expand : Definitions → m String}
  (expands : ∀ definitions, preprocessor template definitions = Except.ok <$> expand definitions)
include expands

/-- A case, with a preprocessor that does not fail on its template. -/
theorem gathers_preprocessCase (declaration : VariantsDeclaration) (concrete : NumberedCase) :
    Gathers (preprocessCase preprocessor template declaration concrete)
      (expand (concrete.definitions declaration)) concrete.resolved := by
  let suffix := (concrete.index.map fun index => s!" #{index}").getD ""
  unfold preprocessCase expandCase
  rw [expands, liftM_map, bind_map_left, bind_assoc]
  refine Gathers.of_effect ⟨fun trace => (trace.call (concrete.definitions declaration)).tell .debug
    s!"Preprocessed {declaration.name}::{concrete.variant.name}{suffix}", fun source trace => ?_⟩
  rw [bind_assoc, run_bind_of_ok (run_modify (m := m) _ trace), bind_assoc,
    run_bind_of_ok (run_tell (m := m) _ _ _), pure_bind]
  rfl

/-- All cases of a declaration, in order. -/
theorem gathers_resolveDeclaration {module : Module} (rules : module.WellFormed)
    {declaration : VariantsDeclaration} (declared : declaration ∈ module.declarations) :
    Gathers (resolveDeclaration module declaration template preprocessor)
      ((module.casesOfDeclaration declaration).mapM fun concrete =>
        expand (concrete.definitions declaration))
      fun sources => ⟨declaration, template,
        List.zipWith VariantCase.resolved (module.casesOfDeclaration declaration) sources⟩ := by
  have cases := Gathers.mapM fun concrete
      (_ : concrete ∈ declaration.variants.flatMap module.numberedCases) =>
    gathers_preprocessCase expands declaration concrete
  have resolved := cases.map (ResolvedDeclaration.mk declaration template)
  rw [resolveDeclaration_eq rules declared, ← module.map_toVariantCase_flatMap declaration,
    List.mapM_map]
  simp only [List.zipWith_map_left]
  exact resolved

end

end Compiler

end ShaderVariants
