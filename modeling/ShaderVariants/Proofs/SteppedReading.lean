import ShaderVariants.Proofs.LexicalGrammar

/-!
# Readings in steps

A reading in steps shares one cursor between readers that are called in any order, and again after
a fault.  Each reader passes over some characters of the text, whether it ends with a fault or not,
and leaves the cursor behind them.  So the cursor stands in the text after every run of readers,
with the line and the column of its place, and it never goes back.

Reading ends: a token costs a character, so the rounds that a reader makes are no more than the
characters that it passes over, and one.
-/

namespace ShaderVariants

namespace Cursor

/-- From one cursor to another one, behind some characters. -/
structure Passes (passed : List Char) (cursor next : Cursor) : Prop where
  rest : cursor.rest = passed ++ next.rest
  position : next.position = cursor.position.after passed

theorem Passes.refl (cursor : Cursor) : Passes [] cursor cursor := ⟨rfl, rfl⟩

theorem Passes.trans {first second : List Char} {cursor middle next : Cursor}
    (passes : Passes first cursor middle) (passes' : Passes second middle next) :
    Passes (first ++ second) cursor next := by
  refine ⟨by rw [passes.rest, passes'.rest, List.append_assoc], ?_⟩
  rw [passes'.position, passes.position, Position.after, Position.after, Position.after,
    List.foldl_append]

theorem Passes.cons {c : Char} {passed rest : List Char} {position : Position} {next : Cursor}
    (passes : Passes passed ⟨position.step c, rest⟩ next) :
    Passes (c :: passed) ⟨position, c :: rest⟩ next :=
  ⟨congrArg (c :: ·) passes.rest, passes.position⟩

/-! ## What the readers pass over -/

theorem passes_advance (cursor : Cursor) : ∃ passed, cursor.Passes passed cursor.advance := by
  obtain ⟨position, rest⟩ := cursor
  cases rest with
  | nil => exact ⟨[], .refl _⟩
  | cons c rest => exact ⟨[c], Passes.cons (.refl _)⟩

/-- Each round of a gap reader passes over one character or two, unless it is the last one. -/
theorem passes_skipGapFrom (state : GapState) (position : Position) (cs : List Char) :
    ∃ passed, Passes passed ⟨position, cs⟩ (skipGapFrom state position cs).cursor := by
  fun_induction skipGapFrom state position cs with
  | case1 position rest ih | case2 position rest ih | case7 _ position rest ih =>
      obtain ⟨passed, passes⟩ := ih
      exact ⟨_, passes.cons.cons⟩
  | case3 position c rest _ _ _ ih | case5 position rest ih | case6 position c rest _ ih
  | case8 _ position c rest _ ih =>
      obtain ⟨passed, passes⟩ := ih
      exact ⟨_, passes.cons⟩
  | case4 | case9 | case10 => exact ⟨[], .refl _⟩

theorem passes_readStringFrom (opening position : Position) (cs : List Char) :
    ∃ passed, Passes passed ⟨position, cs⟩ (readStringFrom opening position cs).cursor := by
  fun_induction readStringFrom opening position cs with
  | case1 position rest | case3 position => exact ⟨_, Passes.cons (.refl _)⟩
  | case2 position c rest _ ih =>
      obtain ⟨passed, passes⟩ := ih
      exact ⟨_, passes.cons.cons⟩
  | case4 position c rest _ _ _ _ ih =>
      obtain ⟨passed, passes⟩ := ih
      exact ⟨_, passes.cons⟩
  | case5 => exact ⟨[], .refl _⟩

theorem passes_skipGap (cursor : Cursor) :
    ∃ passed, cursor.Passes passed cursor.skipGap.cursor :=
  passes_skipGapFrom .blanks cursor.position cursor.rest

theorem passes_readString (cursor : Cursor) :
    ∃ passed, cursor.Passes passed cursor.readString.cursor := by
  obtain ⟨first, passes⟩ := passes_advance cursor
  obtain ⟨second, passes'⟩ :=
    passes_readStringFrom cursor.position cursor.advance.position cursor.advance.rest
  exact ⟨_, passes.trans passes'⟩

theorem passes_readWord (cursor : Cursor) :
    cursor.Passes cursor.readWord.1 cursor.readWord.2 :=
  ⟨List.takeWhile_append_dropWhile.symm, rfl⟩

/-- A token costs its first character at least. -/
theorem passes_readToken (position : Position) (c : Char) (rest : List Char) :
    ∃ passed, Passes passed ⟨position, c :: rest⟩ (readToken position c rest).cursor ∧
      ∀ token, (readToken position c rest).result = .ok token → passed ≠ [] := by
  have word : Passes (c :: rest.takeWhile Text.isWordCharacter) ⟨position, c :: rest⟩
      (readWord ⟨position.step c, rest⟩).2 :=
    (passes_readWord ⟨position.step c, rest⟩).cons
  unfold readToken
  dsimp only
  split_ifs
  · obtain ⟨passed, passes⟩ := passes_readStringFrom position (position.step c) rest
    exact ⟨_, passes.cons, by simp⟩
  · exact ⟨_, word, by simp⟩
  · exact ⟨_, word, by simp⟩
  · cases PunctuationMark.ofCharacter? c with
    | some mark => exact ⟨[c], Passes.cons (.refl _), by simp⟩
    | none => exact ⟨[], .refl _, by simp⟩

/-- A token, behind the gap in front of it. -/
theorem passes_skipGap_readToken {cursor : Cursor} {c : Char} {rest : List Char}
    (following : cursor.skipGap.cursor.rest = c :: rest) :
    ∃ passed, cursor.Passes passed (readToken cursor.skipGap.cursor.position c rest).cursor ∧
      ∀ token, (readToken cursor.skipGap.cursor.position c rest).result = .ok token →
        passed ≠ [] := by
  obtain ⟨first, passes⟩ := passes_skipGap cursor
  obtain ⟨second, passes', costs⟩ := passes_readToken cursor.skipGap.cursor.position c rest
  rw [← following] at passes'
  exact ⟨_, passes.trans passes', fun token read => by simp [costs token read]⟩

/-- Every round of a reading passes over a character, but for the last one.  As all of them but the
last one read a token, the tokens bound the rounds. -/
theorem passes_readTokens (cursor : Cursor) :
    ∃ passed, cursor.Passes passed cursor.readTokens.cursor ∧
      cursor.readTokens.tokens.length ≤ passed.length + 1 := by
  fun_induction readTokens cursor with
  | case1 cursor | case2 cursor =>
      obtain ⟨passed, passes⟩ := passes_skipGap cursor
      exact ⟨passed, passes, by simp⟩
  | case3 cursor _ _ c rest following =>
      obtain ⟨passed, passes, -⟩ := passes_skipGap_readToken following
      exact ⟨passed, passes, by simp⟩
  | case4 cursor _ _ c rest following _ token read lexed ih =>
      obtain ⟨first, passes, costs⟩ := passes_skipGap_readToken following
      obtain ⟨second, passes', bound⟩ := ih
      refine ⟨_, passes.trans passes', ?_⟩
      have costsOne : 0 < first.length := List.length_pos_iff.mpr (costs token read)
      have others : lexed.tokens.length ≤ second.length + 1 := bound
      rw [List.length_append, List.length_cons]
      omega

/-! ## Where a cursor stands -/

/-- A cursor stands at a place of a text, and knows the line and the column of it. -/
structure StandsIn (cursor : Cursor) (text : List Char) : Prop where
  inside : cursor.position.offset ≤ text.length
  rest : cursor.rest = text.drop cursor.position.offset
  line : cursor.position.line = 1 + (text.take cursor.position.offset).count '\n'
  column : cursor.position.column =
    1 + ((text.take cursor.position.offset).reverse.takeWhile (· ≠ '\n')).length

theorem standsIn_iff {cursor : Cursor} {text : List Char} :
    cursor.StandsIn text ↔
      ∃ front, text = front ++ cursor.rest ∧ cursor.position = .behind front := by
  constructor
  · intro stands
    refine ⟨text.take cursor.position.offset, ?_, ?_⟩
    · rw [stands.rest, List.take_append_drop]
    · rw [Position.behind, ← stands.line, ← stands.column, List.length_take_of_le stands.inside]
  · rintro ⟨front, whole, place⟩
    have offset : cursor.position.offset = front.length := by rw [place]; rfl
    have before : text.take cursor.position.offset = front := by rw [offset, whole]; simp
    refine ⟨?_, ?_, ?_, ?_⟩
    · rw [offset, whole]
      simp
    · rw [offset, whole]
      simp
    · rw [before, place]
      rfl
    · rw [before, place]
      rfl

/-- Behind what it passes over, a cursor stands in the same text, and no further in front. -/
theorem Passes.standsIn {passed text : List Char} {cursor next : Cursor}
    (passes : cursor.Passes passed next) (stands : cursor.StandsIn text) :
    next.StandsIn text ∧
      next.position.offset = cursor.position.offset + passed.length := by
  obtain ⟨front, whole, place⟩ := standsIn_iff.mp stands
  have place' : next.position = .behind (front ++ passed) := by
    rw [passes.position, place, Position.after_behind]
  refine ⟨standsIn_iff.mpr ⟨front ++ passed, ?_, place'⟩, ?_⟩
  · rw [whole, passes.rest, List.append_assoc]
  · rw [place', place]
    exact List.length_append

end Cursor

/-! ## Runs -/

namespace Lexer

/-- What may be done in one step of a reading. -/
inductive Operation where
  | advance
  | skipGap
  | readString
  | readNumber
  | readIdentifier
  | readTokens
  deriving DecidableEq, Repr

/-- The reading after one step, which may have met a fault.  Numbers and identifiers are read
alike. -/
def perform (lexer : Lexer) : Operation → Lexer
  | .advance => lexer.advance
  | .skipGap => lexer.skipGap.2
  | .readString => lexer.readString.2
  | .readNumber => lexer.readWord.2
  | .readIdentifier => lexer.readWord.2
  | .readTokens => lexer.readTokens.2

def performAll (lexer : Lexer) (operations : List Operation) : Lexer :=
  operations.foldl perform lexer

/-- What a step does: it passes over some characters of the text that stays, and it may add tokens
behind those read before, at most one more than it passes over characters. -/
theorem perform_passes (lexer : Lexer) (operation : Operation) :
    ∃ passed tokens, lexer.cursor.Passes passed (lexer.perform operation).cursor ∧
      (lexer.perform operation).text = lexer.text ∧
      (lexer.perform operation).tokens = lexer.tokens ++ tokens ∧
      tokens.length ≤ passed.length + 1 := by
  cases operation with
  | advance =>
      obtain ⟨passed, passes⟩ := lexer.cursor.passes_advance
      exact ⟨passed, [], passes, rfl, (List.append_nil _).symm, Nat.zero_le _⟩
  | skipGap =>
      obtain ⟨passed, passes⟩ := lexer.cursor.passes_skipGap
      exact ⟨passed, [], passes, rfl, (List.append_nil _).symm, Nat.zero_le _⟩
  | readString =>
      obtain ⟨passed, passes⟩ := lexer.cursor.passes_readString
      exact ⟨passed, [], passes, rfl, (List.append_nil _).symm, Nat.zero_le _⟩
  | readNumber | readIdentifier =>
      exact ⟨_, [], lexer.cursor.passes_readWord, rfl, (List.append_nil _).symm, Nat.zero_le _⟩
  | readTokens =>
      obtain ⟨passed, passes, bound⟩ := lexer.cursor.passes_readTokens
      exact ⟨passed, lexer.cursor.readTokens.tokens, passes, rfl, rfl, bound⟩

/-- A step leaves the cursor in the text, and never further in front.  The tokens that it adds are
paid for by the characters it passes over, all but one. -/
theorem perform_standsIn {lexer : Lexer} (stands : lexer.cursor.StandsIn lexer.text)
    (operation : Operation) :
    let next := lexer.perform operation
    next.text = lexer.text ∧ next.cursor.StandsIn lexer.text ∧
      lexer.cursor.position.offset ≤ next.cursor.position.offset ∧
      next.tokens.length + lexer.cursor.position.offset ≤
        lexer.tokens.length + next.cursor.position.offset + 1 := by
  obtain ⟨passed, tokens, passes, sameText, added, bound⟩ := lexer.perform_passes operation
  obtain ⟨stands', offset⟩ := passes.standsIn stands
  refine ⟨sameText, stands', by omega, ?_⟩
  rw [added, List.length_append]
  omega

theorem performAll_standsIn {lexer : Lexer} (stands : lexer.cursor.StandsIn lexer.text)
    (operations : List Operation) :
    let last := lexer.performAll operations
    last.text = lexer.text ∧ last.cursor.StandsIn lexer.text ∧
      lexer.cursor.position.offset ≤ last.cursor.position.offset ∧
      last.tokens.length + lexer.cursor.position.offset ≤
        lexer.tokens.length + last.cursor.position.offset + operations.length := by
  induction operations generalizing lexer with
  | nil => exact ⟨rfl, stands, Nat.le_refl _, Nat.le_refl _⟩
  | cons operation operations ih =>
      obtain ⟨sameText, stands', forward, bound⟩ := perform_standsIn stands operation
      obtain ⟨sameText', stands'', forward', bound'⟩ := ih (sameText ▸ stands')
      refine ⟨sameText'.trans sameText, sameText ▸ stands'', forward.trans forward', ?_⟩
      rw [performAll, List.foldl_cons, ← performAll, List.length_cons]
      omega

/-- After any operations on a text, with or without faults, the cursor stands in the text at a
place whose line and column it knows, and further operations never take it back.  They end: the
rounds that read tokens are no more than the characters passed over and the operations. -/
theorem performAll_ofText (text : String) (earlier later : List Operation) :
    let before := (ofText text).performAll earlier
    let last := (ofText text).performAll (earlier ++ later)
    last.text = text.toList ∧ last.cursor.StandsIn text.toList ∧
      before.cursor.position.offset ≤ last.cursor.position.offset ∧
      last.tokens.length + before.cursor.position.offset ≤
        before.tokens.length + last.cursor.position.offset + later.length := by
  have start : (ofText text).cursor.StandsIn (ofText text).text :=
    Cursor.standsIn_iff.mpr ⟨[], rfl, rfl⟩
  obtain ⟨sameText, stands, -, -⟩ := performAll_standsIn start earlier
  obtain ⟨sameText', stands', forward, bound⟩ :=
    performAll_standsIn (sameText ▸ stands) later
  dsimp only
  rw [performAll, List.foldl_append, ← performAll, ← performAll]
  rw [sameText] at stands'
  exact ⟨sameText'.trans sameText, stands', forward, bound⟩

end Lexer

end ShaderVariants
