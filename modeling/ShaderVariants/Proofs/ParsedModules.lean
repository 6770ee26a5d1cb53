import ShaderVariants.Proofs.ParserExactness

/-!
# Modules of token lists

A reading of tokens ends with the token that marks the end of the text.  What stands in front of
that token is what the grammar speaks about: the parser answers with a module exactly when these
tokens write it.
-/

namespace ShaderVariants

open Grammar

/-! ## Where readings end -/

theorem Cursor.getLast?_readTokens (cursor : Cursor)
    (faultless : cursor.readTokens.fault = none) :
    ∃ last, cursor.readTokens.tokens.getLast? = some last ∧ last.kind = .endOfInput := by
  fun_induction Cursor.readTokens cursor with
  | case1 cursor gap fault unclosed => cases faultless
  | case2 cursor gap closed ended position => exact ⟨_, rfl, rfl⟩
  | case3 cursor gap closed c rest following scan fault stray => cases faultless
  | case4 cursor gap closed c rest following scan token read lexed ih =>
      obtain ⟨last, found, ending⟩ := ih faultless
      refine ⟨last, ?_, ending⟩
      rw [List.getLast?_cons, found]
      rfl

/-- The tokens of a reading, also of one that goes on from an earlier one, end with the token that
marks the end. -/
theorem Lexer.getLast?_readTokens {lexer : Lexer} {tokens : List Token}
    (read : lexer.readTokens.1 = .ok tokens) :
    ∃ last, tokens.getLast? = some last ∧ last.kind = .endOfInput := by
  unfold Lexer.readTokens at read
  cases faultless : lexer.cursor.readTokens.fault with
  | some fault =>
      simp only [faultless] at read
      cases read
  | none =>
      simp only [faultless, Except.ok.injEq] at read
      obtain ⟨last, found, ending⟩ := lexer.cursor.getLast?_readTokens faultless
      refine ⟨last, ?_, ending⟩
      rw [← read, List.getLast?_append, found]
      rfl

/-! ## In front of the end -/

/-- Tokens in front of the first end, followed by that end, are those that are taken as long as
there is no end. -/
theorem takeWhile_inside {tokens others : List Token} (inside : Inside tokens)
    (ends : ∃ token rest, others = token :: rest ∧ token.kind = .endOfInput) :
    (tokens ++ others).takeWhile (·.kind ≠ .endOfInput) = tokens := by
  obtain ⟨token, rest, rfl, ending⟩ := ends
  induction tokens with
  | nil => simp [ending]
  | cons first tokens ih =>
      obtain ⟨here, later⟩ := inside_cons_iff.mp inside
      simpa [here] using ih later

/-- A stream stands at the end exactly when the next token, or else the last one, is the end. -/
theorem TokenStream.current_eq_end_iff (stream : TokenStream) {last : Token}
    (ending : last.kind = .endOfInput) :
    stream.current.kind = .endOfInput ↔
      ∃ token rest, stream.pending ++ [last] = token :: rest ∧ token.kind = .endOfInput := by
  cases pending : stream.pending with
  | nil => simp [TokenStream.current, TokenStream.endToken, pending, ending]
  | cons token rest => simp [TokenStream.current, pending]

/-- The tokens that are left when those in front of the first end are taken. -/
theorem exists_passes_takeWhile (stream : TokenStream) {last : Token}
    (ending : last.kind = .endOfInput) :
    ∃ rest, stream.Passes ((stream.pending ++ [last]).takeWhile (·.kind ≠ .endOfInput)) rest ∧
      rest.current.kind = .endOfInput := by
  let front := stream.pending.takeWhile (·.kind ≠ .endOfInput)
  let rest : TokenStream := { stream with
    index := stream.index + front.length
    pending := stream.pending.dropWhile (·.kind ≠ .endOfInput) }
  have pending : stream.pending = front ++ rest.pending := List.takeWhile_append_dropWhile.symm
  have inside : Inside front := by
    intro token member
    simpa using List.all_eq_true.mp List.all_takeWhile token member
  have atEnd : rest.current.kind = .endOfInput := by
    have next := List.head?_dropWhile_not (·.kind ≠ .endOfInput) stream.pending
    change (rest.pending.head?.getD rest.endToken).kind = .endOfInput
    cases behind : rest.pending with
    | nil => rfl
    | cons token others =>
        change stream.pending.dropWhile _ = _ at behind
        rw [behind] at next
        simpa using next
  refine ⟨rest, ?_, atEnd⟩
  rw [pending, List.append_assoc,
    takeWhile_inside inside ((rest.current_eq_end_iff ending).mp atEnd)]
  exact ⟨pending, rfl, rfl, rfl⟩

/-- The parser answers on the tokens of a reading exactly with the module that the tokens in front
of the end write. -/
theorem Parser.module_result_iff (file : String) {lexer : Lexer} {tokens : List Token}
    (read : lexer.readTokens.1 = .ok tokens) (module : Module) :
    (Parser.module file (TokenStream.ofTokens tokens)).result = .ok module ↔
      IsModule file (tokens.takeWhile (·.kind ≠ .endOfInput)) module := by
  obtain ⟨last, found, ending⟩ := Lexer.getLast?_readTokens read
  have split : tokens = (TokenStream.ofTokens tokens).pending ++ [last] := by
    obtain ⟨front, rfl⟩ := List.getLast?_eq_some_iff.mp found
    simp [TokenStream.ofTokens]
  constructor
  · intro answered
    obtain ⟨consumed, written, passes, atEnd⟩ := Parser.answers_module_iff.mp ⟨answered, rfl⟩
    have front := takeWhile_inside written.inside
      ((TokenStream.current_eq_end_iff _ ending).mp atEnd)
    rw [split, passes.pending, List.append_assoc, front]
    exact written
  · intro written
    rw [split] at written
    obtain ⟨rest, passes, atEnd⟩ := exists_passes_takeWhile (TokenStream.ofTokens tokens) ending
    exact (Parser.answers_module_iff.mpr ⟨_, written, passes, atEnd⟩).1

/-- A short text and the module that it declares. -/
theorem Parser.module_result_short :
    ∃ tokens, (Lexer.ofText "variants S from \"t\" \x7bA(M,)\x7d").readTokens.1 = .ok tokens ∧
      (Parser.module "s" (TokenStream.ofTokens tokens)).result =
        .ok ⟨"s", [], [⟨"S", "t", none, [⟨"A", .crossProduct ["M"], some ⟨"s", 1, 22⟩⟩], false,
          some ⟨"s", 1, 1⟩⟩]⟩ := by
  have found : (Lexer.ofText "variants S from \"t\" \x7bA(M,)\x7d").readTokens.1.toOption = some [
      ⟨.keyword .variantsWord, "variants", 1, 1⟩, ⟨.identifier, "S", 1, 10⟩,
      ⟨.keyword .fromWord, "from", 1, 12⟩, ⟨.string, "t", 1, 17⟩,
      ⟨.mark .leftBrace, "\x7b", 1, 21⟩, ⟨.identifier, "A", 1, 22⟩,
      ⟨.mark .leftParen, "(", 1, 23⟩, ⟨.identifier, "M", 1, 24⟩, ⟨.mark .comma, ",", 1, 25⟩,
      ⟨.mark .rightParen, ")", 1, 26⟩, ⟨.mark .rightBrace, "\x7d", 1, 27⟩,
      ⟨.endOfInput, "", 1, 28⟩] := by
    decide +kernel
  cases read : (Lexer.ofText "variants S from \"t\" \x7bA(M,)\x7d").readTokens.1 with
  | error fault =>
      rw [read] at found
      cases found
  | ok tokens =>
      rw [read] at found
      obtain rfl := Option.some.inj found
      refine ⟨_, rfl, (Parser.module_result_iff "s" read _).mpr ?_⟩
      have reference : IsReference [⟨.identifier, "M", 1, 24⟩] "M" := .intro rfl
      have references : CommaList IsReference
          [⟨.identifier, "M", 1, 24⟩, ⟨.mark .comma, ",", 1, 25⟩] ["M"] :=
        .more reference rfl .empty
      have variant : IsVariant "s"
          [⟨.identifier, "A", 1, 22⟩, ⟨.mark .leftParen, "(", 1, 23⟩,
            ⟨.identifier, "M", 1, 24⟩, ⟨.mark .comma, ",", 1, 25⟩,
            ⟨.mark .rightParen, ")", 1, 26⟩]
          ⟨"A", .crossProduct ["M"], some ⟨"s", 1, 22⟩⟩ :=
        .crossProduct rfl rfl references rfl
      have variants : IsVariants "s" false
          [⟨.keyword .variantsWord, "variants", 1, 1⟩, ⟨.identifier, "S", 1, 10⟩,
            ⟨.keyword .fromWord, "from", 1, 12⟩, ⟨.string, "t", 1, 17⟩,
            ⟨.mark .leftBrace, "\x7b", 1, 21⟩, ⟨.identifier, "A", 1, 22⟩,
            ⟨.mark .leftParen, "(", 1, 23⟩, ⟨.identifier, "M", 1, 24⟩,
            ⟨.mark .comma, ",", 1, 25⟩, ⟨.mark .rightParen, ")", 1, 26⟩,
            ⟨.mark .rightBrace, "\x7d", 1, 27⟩]
          ⟨"S", "t", none, [⟨"A", .crossProduct ["M"], some ⟨"s", 1, 22⟩⟩], false,
            some ⟨"s", 1, 1⟩⟩ :=
        .intro rfl rfl rfl rfl rfl (.last variant) rfl ⟨rfl, rfl⟩
      exact .intro (.more (.variants .hidden variants) .empty)

end ShaderVariants
