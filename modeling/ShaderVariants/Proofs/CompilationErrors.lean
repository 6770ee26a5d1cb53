import ShaderVariants.Proofs.CompilationSteps
import ShaderVariants.Proofs.Refusals
import ShaderVariants.Proofs.ValidationResult

/-!
# Errors of compilations

A compilation of a text ends with a source or with an error, and nearly all errors are of the four
kinds that are reported to users.  Two are not.  A template path may hold a NUL character, which no
file operation takes, and a decimal numeral may have so many zeros in front that it is not
converted.  No other error comes out of any text, and the emitter never finds anything wrong.
-/

namespace ShaderVariants

/-- The errors that compilations report: those of a text, of a module, of a template and of a
preprocessor. -/
def CompileError.IsReported (error : CompileError) : Prop :=
  error.kindName? ∈ [some "ParseError", some "ValidationError", some "ResourceError",
    some "PreprocessingError"]

/-- A text has a decimal numeral that is short without the zeros in front, but has more digits than
are converted. -/
def HasOversizedNumeral (text : String) (digits : Nat) : Prop :=
  ∃ tokens token numeral,
    Token.ofText text = .ok tokens ∧ token ∈ tokens ∧ token.kind = .number ∧
    Numeral.parse? token.text = some numeral ∧ numeral.radix = 10 ∧
    numeral.digits.length = digits ∧ Decimal.conversionLimit < digits ∧
    numeral.significantDigits ≤ Parser.digitLimit

/-- Tokens of a text that are no end stand in its stream. -/
theorem TokenStream.mem_of_shows_ofTokens {tokens : List Token} {token : Token}
    (shown : (ofTokens tokens).Shows token) (inside : token.kind ≠ .endOfInput) :
    token ∈ tokens := by
  rcases shown with pending | ending
  · unfold ofTokens at pending
    cases last : tokens.getLast? with
    | none =>
        rw [last] at pending
        cases pending
    | some ending =>
        rw [last] at pending
        exact List.mem_of_mem_dropLast pending
  · rw [ending] at inside
    exact (inside rfl).elim

theorem Module.refusal_of_ofText {file : Path} {text : String} {refusal : Refusal}
    (refused : ofText file text = .error refusal) :
    (∃ fault, refusal = .fault fault) ∨
      ∃ digits, refusal = .oversizedNumeral digits ∧ HasOversizedNumeral text digits := by
  unfold ofText at refused
  cases read : Token.ofText text with
  | error fault =>
      rw [read] at refused
      exact .inl ⟨fault, (Except.error.inj refused).symm⟩
  | ok tokens =>
      rw [read] at refused
      obtain ⟨token, shown, points⟩ := Parser.exists_pointsTo_of_module_error refused
      cases points with
      | fault cause => exact .inl ⟨_, rfl⟩
      | @oversizedNumeral numeral kind written decimal oversized small =>
          have inside := TokenStream.mem_of_shows_ofTokens shown (by simp [kind])
          exact .inr ⟨_, rfl, tokens, token, numeral, read, inside, kind, written, decimal, rfl,
            oversized, small⟩

theorem Numeral.splitSuffix_zeros (count : Nat) :
    splitSuffix (List.replicate count '0') = (List.replicate count '0', none) := by
  have unsuffixed (kind : Scalar.Kind) (two : '2' ∈ kind.name.toList) :
      kind.name.toList.isSuffixOf (List.replicate count '0') = false := by
    rw [Bool.eq_false_iff]
    intro suffixed
    have inside := (List.isSuffixOf_iff_suffix.mp suffixed).subset two
    exact absurd (List.eq_of_mem_replicate inside) (by decide)
  simp [splitSuffix, unsuffixed .i32 (by decide), unsuffixed .u32 (by decide)]

/-- Zeros are digits of a decimal number. -/
theorem Numeral.parse?_zeros {count : Nat} (several : 1 < count) :
    parse? (String.ofList (List.replicate count '0')) =
      some ⟨10, List.replicate count '0', none⟩ := by
  obtain ⟨others, rfl⟩ : ∃ others, count = others + 2 := ⟨count - 2, by omega⟩
  have zero : isDigitOf 10 '0' = true := by decide
  have unbroken : withoutFinalNewline (List.replicate (others + 2) '0') =
      List.replicate (others + 2) '0' := by
    simp [withoutFinalNewline, List.getLast?_replicate]
  unfold parse?
  rw [String.toList_ofList, unbroken, splitSuffix_zeros]
  simp [List.replicate_succ, digits?, zero, isBodyCharacter]

namespace Compiler

theorem error_of_loaded {file : Path} {text : String} {error : CompileError}
    (failed : loaded file text = .error error) :
    error.IsReported ∨
      ∃ digits, error = .oversizedNumeral digits ∧ HasOversizedNumeral text digits := by
  unfold loaded at failed
  cases declared : Module.ofText file text with
  | error refusal =>
      rw [declared] at failed
      rcases Module.refusal_of_ofText declared with faulty | oversized
      · obtain ⟨fault, rfl⟩ := faulty
        cases failed
        exact .inl (by simp [CompileError.IsReported, CompileError.ofRefusal,
          CompileError.kindName?])
      · obtain ⟨digits, rfl, numeral⟩ := oversized
        cases failed
        exact .inr ⟨digits, rfl, numeral⟩
  | ok module =>
      rw [declared] at failed
      dsimp only at failed
      split at failed
      · cases failed
      · cases failed
        exact .inl (by simp [CompileError.IsReported, CompileError.kindName?])

variable {σ : Type}

/-- A compilation over a tree of files, of any text and with any preprocessor.  It gives a source or
an error that is reported, but for two cases.  The first step that fails reads a template whose path
holds a NUL character, or the text has a decimal numeral that is not converted. -/
theorem compileText_result (tree : FileTree) (baseDirectory : Path)
    (preprocessor : PreprocessorIn (StateM σ)) (file : Path) (text : String) (trace : Trace)
    (state : σ) :
    let surroundings : Surroundings σ := ⟨tree.readText, baseDirectory, preprocessor⟩
    let result := (outcome (compileText (fun path => pure (tree.readText path)) baseDirectory
      preprocessor file text) trace state).1.1
    (∃ source, result = .ok source) ∨
    ∃ error, result = .error error ∧
      (error.IsReported ∨
        (error = .nulInPath ∧ ∃ module before declaration behind middle,
          loaded file text = .ok module ∧
          module.steps = before ++ .read declaration :: behind ∧
          CompilationStep.AllSucceed surroundings before state middle ∧
          (declaration.templateBelow baseDirectory).hasNul = true) ∨
        ∃ digits, error = .oversizedNumeral digits ∧ HasOversizedNumeral text digits) := by
  intro surroundings result
  obtain ⟨later, loads, -⟩ := (yields_loadModule file text).outcome_eq trace state
  cases answered : loaded file text with
  | error error =>
      rw [answered] at loads
      have ends : result = .error error := by
        unfold result compileText
        rw [outcome_bind_of_error loads]
      refine .inr ⟨error, ends, ?_⟩
      rcases error_of_loaded answered with reported | oversized
      · exact .inl reported
      · exact .inr (.inr oversized)
  | ok module =>
      rw [answered] at loads
      have rules := (loaded_eq_ok_iff.mp answered).2.wellFormed
      have goesOn : result = (outcome (compileModule (fun path => pure (surroundings.files path))
          surroundings.baseDirectory surroundings.preprocessor module) later state).1.1 := by
        unfold result compileText
        rw [outcome_bind_of_ok loads]
      -- A walk that finishes has been emitted, so that only the steps are left to fail.
      have walk := Performs.compileModule surroundings rules later state
      generalize outcome (compileModule (fun path => pure (surroundings.files path))
        surroundings.baseDirectory surroundings.preprocessor module) later state = ends at *
      cases walk with
      | @finished source _ _ _ _ _ => exact .inl ⟨source, goesOn⟩
      | @stopped before behind failing middle after error _ place succeed fails _ =>
          refine .inr ⟨error, goesOn, ?_⟩
          rcases fails.blames with blamed | refused
          · cases blamed with
            | read => exact .inl (by simp [CompileError.IsReported, CompileError.kindName?])
            | preprocess => exact .inl (by simp [CompileError.IsReported, CompileError.kindName?])
          · obtain ⟨rfl, declaration, rfl, nul⟩ := refused
            have holds := (tree.readText_eq_nulInPath_iff _).mp nul
            exact .inr (.inl ⟨rfl, module, before, declaration, behind, middle, rfl, place,
              succeed, holds⟩)

/-- A template path with a NUL character is accepted, and the compilation then ends with an error
that is not reported. -/
theorem compileText_nul_escapes :
    (outcome (compileText (fun path => pure ((FileTree.empty []).readText path))
      (Path.ofString ".") (fun _ _ => pure (.ok "")) (Path.ofString "s")
      "variants A from \"a\x00b\" \x7bB \x7b\x7d\x7d") Trace.empty ()).1.1 =
        .error .nulInPath := by
  decide +kernel

/-- So does the number zero, written with too many zeros, whatever it is read for. -/
theorem integerScalar_zeros_escapes {count : Nat} (many : Decimal.conversionLimit < count)
    {number : Token} (zeros : number.text = String.ofList (List.replicate count '0'))
    (kind : Scalar.Kind) (owner key : String) (first : Token) (negative : Bool) :
    Parser.integerScalar kind owner key first number negative =
      .error (.oversizedNumeral count) := by
  have several : 1 < count := Nat.lt_trans (by decide) many
  have nonempty : (List.replicate count '0').isEmpty = false := by
    simp [Nat.ne_of_gt (Nat.zero_lt_of_lt several)]
  have insignificant :
      (⟨10, List.replicate count '0', none⟩ : Numeral).significantDigits = 0 := by
    simp [Numeral.significantDigits]
  have unconvertible :
      Parser.isUnconvertible ⟨10, List.replicate count '0', none⟩ = true := by
    simpa [Parser.isUnconvertible, Decimal.isOversized] using many
  unfold Parser.integerScalar
  rw [zeros, Numeral.parse?_zeros several]
  simp [nonempty, insignificant, unconvertible]

end Compiler

end ShaderVariants
