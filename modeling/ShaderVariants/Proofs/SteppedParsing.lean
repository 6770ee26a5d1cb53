import ShaderVariants.Proofs.Grammar
import ShaderVariants.Proofs.Outcome
import ShaderVariants.Proofs.TokenReading

/-!
# Parsing in steps

A parsing in steps shares one stream of tokens between parsers that are called in any order, and
again after a refusal.  The type of parsers says that each of them leaves a stream that follows the
one it was given.  So after every run of parsers the stream stands in the tokens of the text, at the
end or in front of it, and it never goes back.

Parsing ends.  `Loops` says what a loop does without a bound on its rounds, and both loops of the
parsers have such runs from every stream, because a round that does not refuse consumes a token.
-/

namespace ShaderVariants

open Grammar

/-! ## Tokens of a text -/

namespace Token

/-- The end of the text is marked once, behind all other tokens. -/
inductive EndsOnce : List Token → Prop where
  | intro {inside : List Token} (isInside : Inside inside) (line column : Nat) :
      EndsOnce (inside ++ [⟨.endOfInput, "", line, column⟩])

end Token

theorem Lexical.Splits.isInside {passed text rest : List Char} {tokens : List Token}
    (splits : Splits passed text tokens rest) : Inside tokens := by
  induction splits with
  | nil => exact inside_nil
  | more isGap isLexeme delimits others ih =>
      refine inside_cons_iff.mpr ⟨?_, ih⟩
      cases isLexeme <;> simp [tokenAt]

/-- What is read from a text ends once. -/
theorem Token.endsOnce_of_ofText {text : String} {tokens : List Token}
    (read : ofText text = .ok tokens) : EndsOnce tokens := by
  rcases splitsInto_or_failsWith text.toList with ⟨others, splits⟩ | ⟨fault, fails⟩
  · cases read.symm.trans (ofText_of_splitsInto splits)
    obtain ⟨inside, last, split, -, rfl⟩ := splits
    exact .intro split.isInside _ _
  · cases read.symm.trans (ofText_of_failsWith fails)

/-! ## Where a stream stands -/

namespace TokenStream

/-- A stream stands at a token of a list, in front of the end or at it: its current token is that
of the list, and so are the tokens behind. -/
structure StandsIn (stream : TokenStream) (tokens : List Token) : Prop where
  inside : stream.index ≤ tokens.findIdx fun token => token.kind = .endOfInput
  current : tokens[stream.index]? = some stream.current
  pending : tokens.drop stream.index = stream.pending ++ [stream.endToken]

/-- Whatever follows the stream of some tokens stands in them. -/
theorem Follows.standsIn {tokens : List Token} (ends : Token.EndsOnce tokens)
    {stream : TokenStream} (follows : stream.Follows (.ofTokens tokens)) :
    stream.StandsIn tokens := by
  obtain @⟨inside, isInside, line, column⟩ := ends
  let ending : Token := ⟨.endOfInput, "", line, column⟩
  have start : ofTokens (inside ++ [ending]) = ⟨0, inside, line, column⟩ := by
    simp [ofTokens, ending]
  obtain ⟨consumed, pending, index, sameEnd⟩ := follows
  rw [start] at pending index sameEnd
  have whole : inside = consumed ++ stream.pending := pending
  have index : stream.index = consumed.length := by rw [index, Nat.zero_add]
  have firstEnd : (inside ++ [ending]).findIdx (fun token => token.kind = .endOfInput) =
      inside.length := by
    have none : inside.findIdx (fun token => token.kind = .endOfInput) = inside.length :=
      List.findIdx_eq_length_of_false fun token member => by simpa using isInside token member
    simp [List.findIdx_append, none, ending]
  have behind : (inside ++ [ending]).drop stream.index = stream.pending ++ [stream.endToken] := by
    rw [whole, index, List.append_assoc, List.drop_left, sameEnd]
    rfl
  refine ⟨?_, ?_, behind⟩
  · rw [firstEnd, index, whole, List.length_append]
    exact Nat.le_add_right _ _
  · rw [← List.head?_drop, behind, TokenStream.current]
    cases stream.pending <;> rfl

theorem Follows.index_le {later earlier : TokenStream} (follows : later.Follows earlier) :
    earlier.index ≤ later.index := by
  obtain ⟨consumed, -, index, -⟩ := follows
  omega

/-- The fewer tokens are left, the further is a stream. -/
theorem Follows.index_lt {later earlier : TokenStream} (follows : later.Follows earlier)
    (fewer : later.pending.length < earlier.pending.length) : earlier.index < later.index := by
  obtain ⟨consumed, pending, index, -⟩ := follows
  have lengths := congrArg List.length pending
  rw [List.length_append] at lengths
  omega

/-- A stream that has another current token is further. -/
theorem Follows.index_lt_of_current_ne {later earlier : TokenStream}
    (follows : later.Follows earlier) (other : later.current.kind ≠ earlier.current.kind) :
    earlier.index < later.index := by
  refine follows.index_lt (Nat.lt_of_le_of_ne follows.length_le ?_)
  intro same
  obtain ⟨consumed, pending, -, sameEnd⟩ := follows
  have nothing : consumed = [] := by
    have lengths := congrArg List.length pending
    rw [List.length_append] at lengths
    exact List.length_eq_zero_iff.mp (by omega)
  rw [nothing, List.nil_append] at pending
  exact other (by rw [TokenStream.current, TokenStream.current, pending, sameEnd])

end TokenStream

/-- What a parser comes to: its result, and the stream that it leaves. -/
def Step.outcome {stream : TokenStream} {α : Type} (step : Step stream α) :
    Except Refusal α × TokenStream :=
  (step.result, step.rest)

namespace Parser

variable {α β σ : Type} {stream : TokenStream}

theorem outcome_bind_of_ok {parser : Parser α} {value : α} {rest : TokenStream}
    (answered : (parser stream).outcome = (.ok value, rest)) (next : α → Parser β) :
    ((parser >>= next) stream).outcome = (next value rest).outcome := by
  obtain ⟨result, rfl⟩ := Prod.mk.inj answered
  rw [bind_apply]
  simp only [Parser.bind, Step.outcome, result]

theorem outcome_bind_of_error {parser : Parser α} {refusal : Refusal} {rest : TokenStream}
    (refused : (parser stream).outcome = (.error refusal, rest)) (next : α → Parser β) :
    ((parser >>= next) stream).outcome = (.error refusal, rest) := by
  obtain ⟨result, rfl⟩ := Prod.mk.inj refused
  rw [bind_apply]
  simp only [Parser.bind, Step.outcome, result]

theorem outcome_pure (value : α) : ((Pure.pure value : Parser α) stream).outcome =
    (.ok value, stream) := rfl

theorem outcome_isAt_bind (kinds : List Token.Kind) (next : Bool → Parser β) :
    ((isAt kinds >>= next) stream).outcome =
      (next (stream.current.kind ∈ kinds) stream).outcome := rfl

theorem outcome_current_bind (next : Token → Parser β) :
    ((Parser.current >>= next) stream).outcome = (next stream.current stream).outcome := rfl

theorem outcome_expect (kind : Token.Kind) (wanted : String) :
    (expect kind wanted stream).outcome =
      if stream.current.kind = kind then (.ok stream.current, stream.advance)
      else (.error (.fault (stream.current.fault
        (.unexpectedToken wanted stream.current.description))), stream) := by
  unfold expect
  rw [outcome_current_bind]
  split <;> rfl

/-! ## Loops -/

/-- The run of a loop from a state and a stream.  As long as the current token is not of the kind
that stops the loop, there is one more round, which leads to another state or refuses.  Where the
loop stops, it leaves the stream as told.  Nothing bounds the rounds. -/
inductive Loops (stop : Token.Kind) (leave : TokenStream → TokenStream) (round : σ → Parser σ) :
    σ → TokenStream → Except Refusal σ × TokenStream → Prop where
  | stopped {state : σ} {stream : TokenStream} (here : stream.current.kind = stop) :
      Loops stop leave round state stream (.ok state, leave stream)
  | refused {state : σ} {stream rest : TokenStream} {refusal : Refusal}
      (more : stream.current.kind ≠ stop)
      (refused : (round state stream).outcome = (.error refusal, rest)) :
      Loops stop leave round state stream (.error refusal, rest)
  | again {state next : σ} {stream rest : TokenStream} {outcome : Except Refusal σ × TokenStream}
      (more : stream.current.kind ≠ stop)
      (answered : (round state stream).outcome = (.ok next, rest))
      (others : Loops stop leave round next rest outcome) :
      Loops stop leave round state stream outcome

/-- A parser is a loop that ends, from every state and on every stream: each of its rounds refuses
or consumes a token. -/
structure IsLoop (stop : Token.Kind) (leave : TokenStream → TokenStream) (round : σ → Parser σ)
    (loop : σ → Parser σ) : Prop where
  consumes : ∀ {state next : σ} {stream rest : TokenStream}, stream.current.kind ≠ stop →
    (round state stream).outcome = (.ok next, rest) → stream.index < rest.index
  ends : ∀ (state : σ) (stream : TokenStream),
    Loops stop leave round state stream (loop state stream).outcome

/-- One round of a list: an item, and a comma unless the list closes behind the item. -/
def commaRound (close : Token.Kind) (item : σ → Parser σ) (state : σ) : Parser σ := do
  if ← isAt [.endOfInput] then fail (← current) (.unclosedList close.label)
  else
    let next ← item state
    if ← isAt [close] then return next
    else
      let _ ← expect (.mark .comma) s!"',' or '{close.label}'"
      return next

theorem outcome_commaRound_of_end (close : Token.Kind) (item : σ → Parser σ) (state : σ)
    (ending : stream.current.kind = .endOfInput) :
    (commaRound close item state stream).outcome =
      (.error (.fault (stream.current.fault (.unclosedList close.label))), stream) := by
  unfold commaRound
  rw [outcome_isAt_bind, decide_eq_true (List.mem_singleton.mpr ending)]
  rfl

/-- Behind its item, a round ends in front of the closing token or behind a comma. -/
theorem outcome_commaRound (close : Token.Kind) (item : σ → Parser σ) (state : σ)
    (more : stream.current.kind ≠ .endOfInput) :
    (commaRound close item state stream).outcome =
      match (item state stream).outcome with
      | (.error refusal, rest) => (.error refusal, rest)
      | (.ok next, rest) =>
        if rest.current.kind = close then (.ok next, rest)
        else if rest.current.kind = .mark .comma then (.ok next, rest.advance)
        else (.error (.fault (rest.current.fault
          (.unexpectedToken s!"',' or '{close.label}'" rest.current.description))), rest) := by
  unfold commaRound
  rw [outcome_isAt_bind, decide_eq_false (mt List.mem_singleton.mp more), if_neg (by simp)]
  rcases read : (item state stream).outcome with ⟨refusal | next, rest⟩
  · exact outcome_bind_of_error read _
  · rw [outcome_bind_of_ok read, outcome_isAt_bind]
    by_cases closing : rest.current.kind = close
    · rw [if_pos (by simp [closing]), outcome_pure]
      exact (if_pos closing).symm
    · rw [if_neg (by simp [closing])]
      dsimp only
      rw [if_neg closing]
      have behind : (expect (.mark .comma) s!"',' or '{close.label}'" rest).outcome = _ :=
        outcome_expect _ _
      by_cases comma : rest.current.kind = .mark .comma
      · rw [if_pos comma] at behind
        rw [outcome_bind_of_ok behind, outcome_pure, if_pos comma]
      · rw [if_neg comma] at behind
        rw [outcome_bind_of_error behind, if_neg comma]

/-- What a round has read when it does not refuse. -/
theorem item_of_commaRound {close : Token.Kind} {item : σ → Parser σ} {state next : σ}
    {rest : TokenStream}
    (answered : (commaRound close item state stream).outcome = (.ok next, rest)) :
    ∃ behind, (item state stream).outcome = (.ok next, behind) ∧
      (behind.current.kind = close ∧ rest = behind ∨
        behind.current.kind = .mark .comma ∧ rest = behind.advance) := by
  by_cases ending : stream.current.kind = .endOfInput
  · rw [outcome_commaRound_of_end close item state ending] at answered
    cases answered
  · rw [outcome_commaRound close item state ending] at answered
    rcases read : (item state stream).outcome with ⟨refusal | value, behind⟩
    · rw [read] at answered
      cases answered
    · rw [read] at answered
      dsimp only at answered
      split at answered
      · rename_i closing
        cases answered
        exact ⟨_, rfl, .inl ⟨closing, rfl⟩⟩
      · split at answered
        · rename_i comma
          cases answered
          exact ⟨_, rfl, .inr ⟨comma, rfl⟩⟩
        · cases answered

/-- A round of a list consumes a token.  In front of the closing token that is done by the item,
which began elsewhere, and otherwise by the comma. -/
theorem index_lt_of_commaRound {close : Token.Kind} {item : σ → Parser σ} {state next : σ}
    {rest : TokenStream} (notClosed : stream.current.kind ≠ close)
    (answered : (commaRound close item state stream).outcome = (.ok next, rest)) :
    stream.index < rest.index := by
  obtain ⟨behind, read, goesOn⟩ := item_of_commaRound answered
  obtain ⟨-, rfl⟩ := Prod.mk.inj read
  have follows := (item state stream).follows
  rcases goesOn with ⟨closing, rfl⟩ | ⟨comma, rfl⟩
  · exact follows.index_lt_of_current_ne (by rw [closing]; exact notClosed.symm)
  · have fewer := @TokenStream.length_advance_lt (item state stream).rest (by simp [comma])
    exact Nat.lt_of_le_of_lt follows.index_le ((TokenStream.Follows.advance _).index_lt fewer)

/-- A list is the loop of its rounds, at the end of which the closing token is consumed. -/
theorem loops_commaFoldWithin (close : Token.Kind) (item : σ → Parser σ) (bound : Nat) (state : σ)
    (stream : TokenStream) (bounded : stream.pending.length < bound) :
    Loops close .advance (commaRound close item) state stream
      (commaFoldWithin close item bound state stream bounded).outcome := by
  induction bound generalizing state stream with
  | zero => exact absurd bounded (Nat.not_lt_zero _)
  | succ bound ih =>
      rw [commaFoldWithin]
      by_cases closing : stream.current.kind = close
      · rw [if_pos closing]
        exact .stopped closing
      · rw [if_neg closing]
        by_cases ending : stream.current.kind = .endOfInput
        · rw [if_pos ending]
          exact .refused closing (outcome_commaRound_of_end close item state ending)
        · rw [if_neg ending]
          have round := outcome_commaRound close item state ending
          dsimp only
          split
          · rename_i refusal refused
            have read : (item state stream).outcome = (.error refusal, (item state stream).rest) :=
              Prod.ext refused rfl
            rw [read] at round
            exact .refused closing round
          · rename_i next answered
            have read : (item state stream).outcome = (.ok next, (item state stream).rest) :=
              Prod.ext answered rfl
            rw [read] at round
            dsimp only at round
            by_cases closed : (item state stream).rest.current.kind = close
            · -- Here the bound loop is left at once, where `Loops` looks for one more round.
              rw [if_pos closed] at round ⊢
              exact .again closing round (.stopped closed)
            · rw [if_neg closed] at round ⊢
              by_cases comma : (item state stream).rest.current.kind = .mark .comma
              · rw [if_pos comma] at round
                rw [dif_pos comma]
                exact .again closing round (ih _ _ _)
              · rw [if_neg comma] at round
                rw [dif_neg comma]
                exact .refused closing round

theorem isLoop_commaFold (close : Token.Kind) (item : σ → Parser σ) :
    IsLoop close .advance (commaRound close item) (commaFold close item) where
  consumes := index_lt_of_commaRound
  ends state stream := loops_commaFoldWithin close item _ state stream (Nat.lt_succ_self _)

theorem loops_untilEndWithin (round : σ → Parser σ) (consuming : ∀ state, Consuming (round state))
    (bound : Nat) (state : σ) (stream : TokenStream) (bounded : stream.pending.length < bound) :
    Loops .endOfInput id round state stream
      (untilEndWithin round consuming bound state stream bounded).outcome := by
  induction bound generalizing state stream with
  | zero => exact absurd bounded (Nat.not_lt_zero _)
  | succ bound ih =>
      rw [untilEndWithin]
      by_cases ending : stream.current.kind = .endOfInput
      · rw [if_pos ending]
        exact .stopped ending
      · rw [if_neg ending]
        dsimp only
        split
        · rename_i refusal refused
          exact .refused ending (Prod.ext refused rfl)
        · rename_i next answered
          exact .again ending (Prod.ext answered rfl) (ih _ _ _)

theorem isLoop_untilEnd (round : σ → Parser σ) (consuming : ∀ state, Consuming (round state)) :
    IsLoop .endOfInput id round (untilEnd round consuming) where
  consumes := by
    intro state next stream rest _ answered
    obtain ⟨result, rfl⟩ := Prod.mk.inj answered
    exact (round state stream).follows.index_lt (consuming state stream next result)
  ends state stream := loops_untilEndWithin round consuming _ state stream (Nat.lt_succ_self _)

/-! ## Runs -/

/-- What may be done in one step of a parsing. -/
inductive Operation where
  | advance
  | isAt (kinds : List Token.Kind)
  | expect (kind : Token.Kind) (wanted : String)
  | expectName (role : String)
  | visibility
  | scalarKind
  | literal (kind : Scalar.Kind) (owner key : String)
  | names (close : Token.Kind) (role : String)
  | valueEnum (isPublic : Bool)
  | variant (declaration : String)
  | variants (isPublic : Bool)
  | module

/-- The stream after one step, which may have refused. -/
def perform (file : String) (stream : TokenStream) : Operation → TokenStream
  | .advance => (Parser.advance stream).rest
  | .isAt kinds => (Parser.isAt kinds stream).rest
  | .expect kind wanted => (Parser.expect kind wanted stream).rest
  | .expectName role => (Parser.expectName role stream).rest
  | .visibility => (Parser.visibility stream).rest
  | .scalarKind => (Parser.scalarKind stream).rest
  | .literal kind owner key => (Parser.literal kind owner key stream).rest
  | .names close role => (commaList close (return (← Parser.expectName role).text) stream).rest
  | .valueEnum isPublic => (Parser.valueEnum file isPublic stream).rest
  | .variant declaration => (Parser.variant file declaration stream).rest
  | .variants isPublic => (Parser.variants file isPublic stream).rest
  | .module => (Parser.module file stream).rest

def performAll (file : String) (stream : TokenStream) (operations : List Operation) :
    TokenStream :=
  operations.foldl (perform file) stream

theorem follows_perform (file : String) (stream : TokenStream) (operation : Operation) :
    (perform file stream operation).Follows stream := by
  cases operation <;> exact Step.follows _

theorem follows_performAll (file : String) (stream : TokenStream) (operations : List Operation) :
    (performAll file stream operations).Follows stream := by
  induction operations generalizing stream with
  | nil => exact .refl stream
  | cons operation operations ih => exact (ih _).trans (follows_perform file stream operation)

/-- After any operations on tokens that end once, as those of a text do, the stream stands in the
tokens, in front of the end or at it, whether operations were refused or not.  Further operations
never take it back, and wherever they come on their way it stands in the tokens too.  They end: the
loops that they are made of, which read lists and modules, end on every stream, and every round of
them refuses or consumes a token. -/
theorem performAll_ofTokens {tokens : List Token} (ends : Token.EndsOnce tokens) (file : String)
    (earlier later : List Operation) :
    let before := performAll file (.ofTokens tokens) earlier
    let last := performAll file (.ofTokens tokens) (earlier ++ later)
    last.StandsIn tokens ∧ before.index ≤ last.index ∧
      (∀ between : TokenStream, between.Follows before → between.StandsIn tokens) ∧
      (∀ (σ : Type) (close : Token.Kind) (item : σ → Parser σ),
        IsLoop close .advance (commaRound close item) (commaFold close item)) ∧
      IsLoop .endOfInput id (declaration file)
        (untilEnd (declaration file) (consuming_declaration file)) := by
  intro before last
  have further : last.Follows before := by
    have run : last = performAll file before later := List.foldl_append
    rw [run]
    exact follows_performAll file before later
  have start : before.Follows (.ofTokens tokens) := follows_performAll file _ earlier
  refine ⟨(further.trans start).standsIn ends, further.index_le, ?_, ?_, ?_⟩
  · intro between follows
    exact (follows.trans start).standsIn ends
  · intro σ close item
    exact isLoop_commaFold close item
  · exact isLoop_untilEnd _ _

/-- A parsing that is refused at a word, goes on in the middle of the list behind it, and is refused
again at the end, where it stays. -/
theorem performAll_ofTokens_refused :
    ∃ tokens, Token.ofText "value_enum E: u32 \x7bA = x, B\x7d pub" = .ok tokens ∧
      Token.EndsOnce tokens ∧
      let before := performAll "s" (.ofTokens tokens) [.expect (.mark .comma) "','", .module]
      let last := performAll "s" (.ofTokens tokens)
        ([.expect (.mark .comma) "','", .module] ++
          [.advance, .advance, .names (.mark .rightBrace) "item", .module, .advance])
      last.StandsIn tokens ∧ before.index = 7 ∧ last.index = 12 ∧ tokens.length = 13 := by
  have found : (Token.ofText "value_enum E: u32 \x7bA = x, B\x7d pub").toOption = some [
      ⟨.keyword .valueEnumWord, "value_enum", 1, 1⟩, ⟨.identifier, "E", 1, 12⟩,
      ⟨.mark .colon, ":", 1, 13⟩, ⟨.identifier, "u32", 1, 15⟩, ⟨.mark .leftBrace, "\x7b", 1, 19⟩,
      ⟨.identifier, "A", 1, 20⟩, ⟨.mark .equals, "=", 1, 22⟩, ⟨.identifier, "x", 1, 24⟩,
      ⟨.mark .comma, ",", 1, 25⟩, ⟨.identifier, "B", 1, 27⟩, ⟨.mark .rightBrace, "\x7d", 1, 28⟩,
      ⟨.keyword .pubWord, "pub", 1, 30⟩, ⟨.endOfInput, "", 1, 33⟩] := by
    decide +kernel
  have read := eq_ok_of_toOption found
  have ends := Token.endsOnce_of_ofText read
  refine ⟨_, read, ends, (performAll_ofTokens ends "s" _ _).1, ?_, ?_, rfl⟩
  · decide +kernel
  · decide +kernel

end Parser

end ShaderVariants
