import ShaderVariants.Proofs.CaseListing
import ShaderVariants.Proofs.Docstrings
import ShaderVariants.Proofs.Literals
import ShaderVariants.Proofs.PrintedNames

/-!
# Visible definitions

Which definitions a template sees under their own names.  Keys are identifiers for the declarations,
names of arguments for the engine, and expressions for the template.  The key that cannot be such an
argument makes every template fail, a key that is an operator cannot stand alone, and one that
spells a constant is hidden behind the constant, even where its value is another one.  All other
keys are variables, which print as the values that the case defines.
-/

namespace ShaderVariants

/-- The text that a literal has in a shader. -/
def Literal.inShader : Literal → String
  | .bool true => "true"
  | .bool false => "false"
  | .integer value => toString value

theorem Literal.toString_ne_of_mem {word : String} {c : Char} (member : c ∈ word.toList)
    (noDigit : c.isDigit = false) (noSign : c ≠ '-') (value : Int) : toString value ≠ word := by
  rintro rfl
  rcases Location.mem_toString_int member with sign | digit
  · exact noSign sign
  · rw [noDigit] at digit
    cases digit

theorem Literal.inShader_eq_true_iff {literal : Literal} :
    literal.inShader = "true" ↔ literal = .bool true := by
  cases literal with
  | bool value => cases value <;> simp [inShader]
  | integer value =>
      have apart := toString_ne_of_mem (by decide : 't' ∈ "true".toList) (by decide) (by decide)
      exact iff_of_false (apart value) nofun

theorem Literal.inShader_eq_false_iff {literal : Literal} :
    literal.inShader = "false" ↔ literal = .bool false := by
  cases literal with
  | bool value => cases value <;> simp [inShader]
  | integer value =>
      have apart := toString_ne_of_mem (by decide : 'f' ∈ "false".toList) (by decide) (by decide)
      exact iff_of_false (apart value) nofun

theorem Literal.inShader_ne_none (literal : Literal) : literal.inShader ≠ "None" := by
  cases literal with
  | bool value => cases value <;> decide
  | integer value =>
      exact toString_ne_of_mem (by decide : 'N' ∈ "None".toList) (by decide) (by decide) value

/-- The integers of a kind are short enough to be written. -/
theorem Scalar.Kind.exceedsWriting_eq_false {kind : Scalar.Kind} {value : Int}
    (included : kind.Includes (.integer value)) : Decimal.exceedsWriting value = false := by
  have power {limit : Nat} (least : 10 ≤ limit) : 10 ^ 10 ≤ Nat.pow 10 limit :=
    Nat.pow_le_pow_right (by decide) least
  have short := natAbs_lt_of_includes included
  have small : value.natAbs < 10 ^ 10 := by omega
  simp only [Decimal.exceedsWriting, decide_eq_false_iff_not, Nat.not_le]
  exact Nat.lt_of_lt_of_le small (power (by decide))

namespace Template

variable {name : String}

/-- The text of the constant that a name spells, if it spells one. -/
def constantText? (name : String) : Option String :=
  if name = "true" ∨ name = "True" then some "true"
  else if name = "false" ∨ name = "False" then some "false"
  else if name = "none" ∨ name = "None" then some "None"
  else none

/-- A constant prints like a literal only if it is that literal. -/
theorem getD_constantText?_eq_iff {literal : Literal} :
    (constantText? name).getD literal.inShader = literal.inShader ↔
      name ≠ "none" ∧ name ≠ "None" ∧ (name = "true" ∨ name = "True" → literal = .bool true) ∧
        (name = "false" ∨ name = "False" → literal = .bool false) := by
  unfold constantText?
  split_ifs with truth falsehood nothing
  · have other : name ≠ "none" ∧ name ≠ "None" ∧ ¬(name = "false" ∨ name = "False") := by
      rcases truth with rfl | rfl <;> decide
    have same : "true" = literal.inShader ↔ literal = .bool true :=
      eq_comm.trans Literal.inShader_eq_true_iff
    simp [truth, other, same]
  · have other : name ≠ "none" ∧ name ≠ "None" := by
      rcases falsehood with rfl | rfl <;> decide
    have same : "false" = literal.inShader ↔ literal = .bool false :=
      eq_comm.trans Literal.inShader_eq_false_iff
    simp [truth, falsehood, other, same]
  · have constant : ¬(name ≠ "none" ∧ name ≠ "None") := by
      rcases nothing with rfl | rfl <;> decide
    have apart := literal.inShader_ne_none.symm
    simp only [Option.getD_some, apart, false_iff]
    tauto
  · obtain ⟨small, capital⟩ := not_or.mp nothing
    simp [truth, falsehood, small, capital]

/-! ## What an engine prints -/

namespace Engine.PrintsNames

variable {σ : Type} {engine : Engine (StateM σ)} (prints : engine.PrintsNames)
  {definitions : Definitions} {scalar : Scalar}

include prints

theorem text_inShader_bool (value : Bool) :
    engine.text (engine.inShader (engine.ofLiteral (.bool value))) =
      .ok (Literal.bool value).inShader := by
  rw [inShader, prints.truth?_bool]
  cases value with
  | true => exact prints.text_ofText "true"
  | false => exact prints.text_ofText "false"

theorem text_inShader_nothing : engine.text (engine.inShader engine.nothing) = .ok "None" := by
  rw [inShader, prints.truth?_nothing]
  exact prints.text_nothing

/-- Definitions are integers of 32 bits, or truth values. -/
theorem text_inShader_scalar (scalar : Scalar) :
    engine.text (engine.inShader (engine.ofLiteral scalar.literal)) =
      .ok scalar.literal.inShader := by
  have included := scalar.includes
  cases same : scalar.literal with
  | bool value => exact prints.text_inShader_bool value
  | integer value =>
      rw [same] at included
      rw [inShader, prints.truth?_integer]
      exact prints.text_integer value (Scalar.Kind.exceedsWriting_eq_false included)

theorem preprocessor_printOf (plain : IsPlainName name) (operand : name ≠ "not")
    (defined : definitions.get? name = some scalar)
    (free : definitions.contains "self" = false) (state : σ) :
    ((engine.preprocessor .default (printOf name) definitions).run state).1 =
      .ok ((constantText? name).getD scalar.literal.inShader) := by
  have given : (engine.context definitions).get? name = some (engine.ofLiteral scalar.literal) :=
    OrderedMap.get?_mapValues defined _
  have unused : (engine.context definitions).contains "self" = false := by
    rw [context, OrderedMap.contains_mapValues, free]
  unfold constantText?
  split_ifs with truth falsehood nothing
  · refine prints.prints_constant _ _ (engine.ofLiteral (.bool true)) _ _ _ ?_ unused
      (prints.text_inShader_bool true)
    rcases truth with rfl | rfl <;> simp
  · refine prints.prints_constant _ _ (engine.ofLiteral (.bool false)) _ _ _ ?_ unused
      (prints.text_inShader_bool false)
    rcases falsehood with rfl | rfl <;> simp
  · refine prints.prints_constant _ _ engine.nothing _ _ _ ?_ unused prints.text_inShader_nothing
    rcases nothing with rfl | rfl <;> simp
  · have noWord : name ∉ wordNames := by
      simp only [wordNames, List.mem_cons, List.not_mem_nil]
      tauto
    exact prints.prints_variable _ _ _ _ _ _ plain noWord unused given
      (prints.text_inShader_scalar scalar)

end Engine.PrintsNames

end Template

namespace Compiler

/-- A text that has been loaded.  A template that prints the key of a definition shows the value of
the definition exactly if no definition of the case has the reserved name, and the key is neither an
operator nor a constant of another value. -/
theorem definitions_visible_iff {σ : Type} {engine : Template.Engine (StateM σ)}
    (prints : engine.PrintsNames) {file : Path} {text : String} {trace : Trace} {module : Module}
    (loads : ((loadModule file text : Compiler Id Module).run.run trace).1 = .ok module)
    {declaration : VariantsDeclaration} (declared : declaration ∈ module.declarations) :
    ∃ cases, module.concreteCases declaration = .ok cases ∧
      ∀ case ∈ cases, ∀ key scalar, case.definitions.get? key = some scalar →
        Template.IsPlainName key → ∀ state,
        (((engine.preprocessor .default (Template.printOf key) case.definitions).run state).1 =
            .ok scalar.literal.inShader ↔
          case.definitions.contains "self" = false ∧ key ≠ "not" ∧
            key ≠ "none" ∧ key ≠ "None" ∧
            (key = "true" ∨ key = "True" → scalar.literal = .bool true) ∧
            (key = "false" ∨ key = "False" → scalar.literal = .bool false)) := by
  rw [loadModule_result] at loads
  have rules := (loaded_eq_ok_iff.mp loads).2.wellFormed
  refine ⟨_, rules.concreteCases_eq declared, ?_⟩
  intro case member key scalar defined plain state
  rw [← Template.getD_constantText?_eq_iff]
  by_cases operator : key = "not"
  · obtain ⟨failure, fails⟩ := prints.refuses_operator engine.inShader
      (engine.context case.definitions) state
    subst operator
    rw [Template.Engine.preprocessor, fails]
    simp
  · cases reserved : case.definitions.contains "self" with
    | true =>
        have given : (engine.context case.definitions).contains "self" = true := by
          rw [Template.Engine.context, OrderedMap.contains_mapValues, reserved]
        obtain ⟨failure, fails⟩ := prints.refuses_self engine.inShader (Template.printOf key)
          (engine.context case.definitions) state given
        rw [Template.Engine.preprocessor, fails]
        simp
    | false =>
        rw [prints.preprocessor_printOf plain operator defined reserved]
        simp [operator]

/-- A text with a definition whose key is a constant. -/
def hiddenText : String :=
  "variants A from \"t\" \x7b B \x7b D: i32 = -5, True: u32 = 7 \x7d \x7d"

/-- What the text declares in a file of its own. -/
def hiddenModule : Module where
  file := "s"
  valueEnums := []
  declarations := [⟨"A", "t", none, [⟨"B", .hardcoded [
    ⟨"D", ⟨.i32, .integer (-5), rfl⟩, some ⟨"s", 1, 27⟩⟩,
    ⟨"True", ⟨.u32, .integer 7, rfl⟩, some ⟨"s", 1, 40⟩⟩], some ⟨"s", 1, 23⟩⟩], false,
    some ⟨"s", 1, 1⟩⟩]

/-- One definition of a case is visible, the other one is hidden behind a constant. -/
theorem definitions_visible_hidden :
    ∃ case declaration, hiddenModule.concreteCases declaration = .ok [case] ∧
      case.definitions.keys = ["D", "True"] ∧
      let expand := (Template.interpreter : Template.Engine (StateM Unit)).preprocessor .default
      ((expand (Template.printOf "D") case.definitions).run ()).1 = .ok "-5" ∧
      ((expand (Template.printOf "True") case.definitions).run ()).1 ≠ .ok "7" := by
  have loads : ((loadModule (Path.ofString "s") hiddenText : Compiler Id Module).run.run
      Trace.empty).1.toOption = some hiddenModule := by
    decide +kernel
  obtain ⟨cases, listed, visible⟩ := definitions_visible_iff
    (Template.printsNames_interpreter (σ := Unit)) (eq_ok_of_toOption loads)
    (List.mem_singleton_self _)
  obtain rfl : _ = cases := Except.ok.inj listed
  have inside := visible _ (List.mem_singleton_self _)
  refine ⟨_, _, listed, rfl, ?_, fun shown => ?_⟩
  · have plain : Template.IsPlainName "D" := ⟨by decide, by simp⟩
    exact (inside "D" ⟨.i32, .integer (-5), rfl⟩ rfl plain ()).mpr (by decide)
  · have plain : Template.IsPlainName "True" := ⟨by decide, by simp⟩
    have same := ((inside "True" ⟨.u32, .integer 7, rfl⟩ rfl plain ()).mp shown).2.2.2.2.1
    exact absurd (same (by decide)) (by decide)

end Compiler

end ShaderVariants
