import ShaderVariants.Compilation
import ShaderVariants.Proofs.Acceptance

/-!
# Order of declarations

The rules of a module do not depend on the order in which its value enums and its variants
declarations stand.  A look-up does depend on it in general, because it answers with the first value
enum of a type name; where a module follows the rules there is one at most, so that every reference
leads to the same value enum in any order.
-/

namespace ShaderVariants

namespace Module

/-- The value enums and the variants declarations of a module in another order. -/
structure Reorders (other module : Module) : Prop where
  valueEnums : other.valueEnums.Perm module.valueEnums
  declarations : other.declarations.Perm module.declarations

variable {module other : Module}

theorem Reorders.symm (reorders : other.Reorders module) : module.Reorders other :=
  ⟨reorders.valueEnums.symm, reorders.declarations.symm⟩

theorem Reorders.classNames (reorders : other.Reorders module) :
    other.classNames.Perm module.classNames :=
  (reorders.valueEnums.map ValueEnum.typeName).append
    (reorders.declarations.flatMap_right declarationClassNames)

end Module

theorem Variant.CrossProductWellFormed.of_reorders {module other : Module}
    {shared : List Definition} {references : List String}
    (rules : CrossProductWellFormed module shared references) (reorders : other.Reorders module) :
    CrossProductWellFormed other shared references := by
  refine ⟨?_, rules.referencesDiffer, ?_, rules.fieldsDiffer, rules.fieldsUsable,
    rules.fieldsFree⟩
  · intro reference member
    obtain ⟨valueEnum, declared, named⟩ := rules.resolved reference member
    exact ⟨valueEnum, reorders.valueEnums.mem_iff.mpr declared, named⟩
  · intro valueEnum declared
    exact rules.sharedKeysFree valueEnum (reorders.valueEnums.mem_iff.mp declared)

theorem VariantsDeclaration.WellFormed.of_reorders {module other : Module}
    {declaration : VariantsDeclaration} (rules : declaration.WellFormed module)
    (reorders : other.Reorders module) : declaration.WellFormed other := by
  refine ⟨rules.nameUsable, rules.sharedKeysDiffer, rules.variantNamesDiffer,
    rules.variantNamesUsable, rules.variantNamesFree, ?_⟩
  intro variant inside
  have body := rules.bodies variant inside
  cases same : variant.body with
  | hardcoded definitions =>
      rw [same] at body
      exact body
  | crossProduct references =>
      rw [same] at body
      exact Variant.CrossProductWellFormed.of_reorders body reorders

namespace Module

variable {module other : Module}

theorem WellFormed.of_reorders (rules : module.WellFormed) (reorders : other.Reorders module) :
    other.WellFormed where
  enumNamesDiffer :=
    (reorders.valueEnums.map ValueEnum.name).nodup_iff.mpr rules.enumNamesDiffer
  valueEnums valueEnum declared :=
    rules.valueEnums valueEnum (reorders.valueEnums.mem_iff.mp declared)
  declarationNamesDiffer :=
    (reorders.declarations.map VariantsDeclaration.name).nodup_iff.mpr
      rules.declarationNamesDiffer
  declarations declaration declared :=
    (rules.declarations declaration (reorders.declarations.mem_iff.mp declared)).of_reorders
      reorders
  classNamesDiffer := reorders.classNames.nodup_iff.mpr rules.classNamesDiffer
  classNamesFree name member :=
    rules.classNamesFree name (reorders.classNames.mem_iff.mp member)

theorem Reorders.accepted_iff (reorders : other.Reorders module) :
    other.Accepted ↔ module.Accepted := by
  constructor
  · intro accepted
    exact (accepted.wellFormed.of_reorders reorders.symm).accepted
  · intro accepted
    exact (accepted.wellFormed.of_reorders reorders).accepted

/-- Where type names differ, a reference leads to one value enum, wherever it stands. -/
theorem Reorders.valueEnum?_eq (reorders : other.Reorders module)
    (distinct : (module.valueEnums.map ValueEnum.typeName).Nodup) (reference : String) :
    other.valueEnum? reference = module.valueEnum? reference := by
  simpa only [valueEnum?, Bool.beq_eq_decide_eq] using
    Repetition.find?_eq_of_perm reorders.valueEnums distinct reference

theorem resolve_congr
    (same : ∀ reference, other.valueEnum? reference = module.valueEnum? reference)
    (variant : String) (references : List String) :
    other.resolve variant references = module.resolve variant references := by
  induction references with
  | nil => rfl
  | cons reference references ih => rw [resolve, resolve, same, ih]

/-- Two value enums that bear each other's names as aliases. -/
def crossed : Module where
  file := "crossed.wgslv"
  valueEnums := [
    ⟨"Fast", some "Smooth", .bool, [⟨"No", .ofBool false, none⟩, ⟨"Yes", .ofBool true, none⟩],
      true, none⟩,
    ⟨"Smooth", some "Fast", .bool, [⟨"Off", .ofBool false, none⟩, ⟨"On", .ofBool true, none⟩],
      true, none⟩]
  declarations := [
    ⟨"First", "first.wgsl", none, [⟨"Both", .crossProduct ["Smooth", "Fast"], none⟩], true, none⟩,
    ⟨"Second", "second.wgsl", none, [⟨"One", .crossProduct ["Fast"], none⟩], true, none⟩]

/-- The same declarations the other way round. -/
def crossedBack : Module where
  file := "crossed.wgslv"
  valueEnums := crossed.valueEnums.reverse
  declarations := crossed.declarations.reverse

end Module

namespace Compiler

variable {m : Type → Type} [Monad m] {module other : Module}

theorem processVariant_congr
    (same : ∀ variant references,
      other.resolve variant references = module.resolve variant references)
    (bridge : BridgeIn m) (variant : Variant) :
    processVariant other bridge variant = processVariant module bridge variant := by
  unfold processVariant
  simp only [same]

/-- What a declaration resolves to depends on the module through its references only. -/
theorem resolveDeclaration_congr
    (same : ∀ variant references,
      other.resolve variant references = module.resolve variant references)
    (declaration : VariantsDeclaration) (template : String) (preprocessor : PreprocessorIn m) :
    resolveDeclaration other declaration template preprocessor =
      resolveDeclaration module declaration template preprocessor := by
  have variants (bridge : BridgeIn m) :
      processVariant other bridge = processVariant module bridge :=
    funext fun variant => processVariant_congr same bridge variant
  unfold resolveDeclaration
  simp only [variants]

/-- The order of value enums and variants declarations matters neither to whether a module is
accepted nor to what a declaration of an accepted module resolves to: its cases, their order, their
selections and sources are the same, and so is every call of the preprocessor on the way, whatever
it remembers. -/
theorem reordered_resolves_alike {module other : Module} (reorders : other.Reorders module) :
    (other.Accepted ↔ module.Accepted) ∧
    (module.Accepted → ∀ (m : Type → Type) [Monad m] (declaration : VariantsDeclaration)
      (template : String) (preprocessor : PreprocessorIn m),
      resolveDeclaration other declaration template preprocessor =
        resolveDeclaration module declaration template preprocessor) := by
  refine ⟨reorders.accepted_iff, ?_⟩
  intro accepted m _ declaration template preprocessor
  have references := reorders.valueEnum?_eq accepted.wellFormed.typeNamesDiffer
  exact resolveDeclaration_congr (Module.resolve_congr references) declaration template
    preprocessor

theorem reordered_resolves_alike_crossed :
    Module.crossedBack.Accepted ∧
    ∀ declaration ∈ Module.crossed.declarations,
      (resolveDeclaration Module.crossedBack declaration "text"
        (fun _ _ => do modify (· + 1); return .ok "source") : Compiler (StateM Nat) _) =
      resolveDeclaration Module.crossed declaration "text"
        (fun _ _ => do modify (· + 1); return .ok "source") := by
  have accepted : Module.crossed.Accepted := by decide +kernel
  have reorders : Module.crossedBack.Reorders Module.crossed :=
    ⟨List.reverse_perm _, List.reverse_perm _⟩
  obtain ⟨acceptance, resolution⟩ := reordered_resolves_alike reorders
  exact ⟨acceptance.mpr accepted,
    fun declaration _ => resolution accepted (StateM Nat) declaration "text" _⟩

end Compiler

end ShaderVariants
