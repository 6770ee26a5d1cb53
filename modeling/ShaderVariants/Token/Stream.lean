import ShaderVariants.Text.Identifier
import ShaderVariants.Token.Basic

/-!
# Token streams and parsers

A token stream is what a parser has still before it. A parser answers with a value or a refusal,
and in both cases with the stream that it leaves behind. That stream is always a later part of
the one it was given: the type of parsers says so, and the loops below end because of it.
-/

namespace ShaderVariants

/-- The tokens that are not consumed yet, how many have been, and the place where the text
ends. -/
structure TokenStream where
  index : Nat
  pending : List Token
  endLine : Nat
  endColumn : Nat

namespace TokenStream

/-- The stream of a whole text, given with the token that marks its end. -/
def ofTokens (tokens : List Token) : TokenStream :=
  match tokens.getLast? with
  | some last => ⟨0, tokens.dropLast, last.line, last.column⟩
  | none => ⟨0, [], 1, 1⟩

def endToken (stream : TokenStream) : Token :=
  ⟨.endOfInput, "", stream.endLine, stream.endColumn⟩

/-- The token at some distance; behind the end there is the end again. -/
def peek (stream : TokenStream) (distance : Nat) : Token :=
  stream.pending[distance]?.getD stream.endToken

/-- The first token that is not consumed. -/
def current (stream : TokenStream) : Token := stream.pending.head?.getD stream.endToken

/-- The stream without its first token; the end of the text is never consumed. -/
def advance (stream : TokenStream) : TokenStream :=
  match stream.pending with
  | [] => stream
  | _ :: rest => { stream with index := stream.index + 1, pending := rest }

/-- One stream is what another one becomes when some of its tokens are consumed. -/
def Follows (later earlier : TokenStream) : Prop :=
  ∃ consumed : List Token,
    earlier.pending = consumed ++ later.pending ∧
    later.index = earlier.index + consumed.length ∧
    later.endToken = earlier.endToken

namespace Follows

theorem refl (stream : TokenStream) : stream.Follows stream := ⟨[], by simp⟩

theorem trans {last middle first : TokenStream} (second : last.Follows middle)
    (beginning : middle.Follows first) : last.Follows first := by
  obtain ⟨late, latePending, lateIndex, lateEnd⟩ := second
  obtain ⟨early, earlyPending, earlyIndex, earlyEnd⟩ := beginning
  refine ⟨early ++ late, ?_, ?_, lateEnd.trans earlyEnd⟩
  · rw [earlyPending, latePending, List.append_assoc]
  · rw [lateIndex, earlyIndex, List.length_append, Nat.add_assoc]

theorem advance (stream : TokenStream) : stream.advance.Follows stream := by
  unfold TokenStream.advance
  cases pending : stream.pending with
  | nil => exact refl stream
  | cons token rest => exact ⟨[token], by simp [pending, endToken]⟩

theorem length_le {later earlier : TokenStream} (follows : later.Follows earlier) :
    later.pending.length ≤ earlier.pending.length := by
  obtain ⟨consumed, pending, -, -⟩ := follows
  rw [pending, List.length_append]
  omega

end Follows

theorem length_advance_lt {stream : TokenStream} (more : stream.current.kind ≠ .endOfInput) :
    stream.advance.pending.length < stream.pending.length := by
  unfold current at more
  unfold advance
  cases pending : stream.pending with
  | nil => simp [pending, endToken] at more
  | cons token rest => simp

end TokenStream

/-- A parser's answer and the stream it leaves behind, which follows the one it was given. -/
structure Step (stream : TokenStream) (α : Type) where
  result : Except Refusal α
  rest : TokenStream
  follows : rest.Follows stream

/-- What reads a value off the front of a token stream. -/
def Parser (α : Type) : Type := (stream : TokenStream) → Step stream α

namespace Parser

variable {α β σ : Type}

/-- Consumes nothing. -/
def pure (value : α) : Parser α := fun stream => ⟨.ok value, stream, .refl stream⟩

/-- Goes on where the first parser stopped, unless it refused. -/
def bind (parser : Parser α) (next : α → Parser β) : Parser β := fun stream =>
  let first := parser stream
  match first.result with
  | .error refusal => ⟨.error refusal, first.rest, first.follows⟩
  | .ok value =>
    let second := next value first.rest
    ⟨second.result, second.rest, second.follows.trans first.follows⟩

instance : Monad Parser where
  pure := Parser.pure
  bind := Parser.bind

def current : Parser Token := fun stream => ⟨.ok stream.current, stream, .refl stream⟩

/-- Consumes the current token and returns it. -/
def advance : Parser Token := fun stream =>
  ⟨.ok stream.current, stream.advance, .advance stream⟩

def fail (token : Token) (cause : Fault.Cause) : Parser α := fun stream =>
  ⟨.error (.fault (token.fault cause)), stream, .refl stream⟩

def isAt (kinds : List Token.Kind) : Parser Bool := do
  return (← current).kind ∈ kinds

/-- Consumes a token of a kind, which messages may give a name of its own. -/
def expect (kind : Token.Kind) (wanted : String := s!"'{kind.label}'") : Parser Token := do
  let token ← current
  if token.kind = kind then advance
  else fail token (.unexpectedToken wanted token.description)

/-- Consumes a name. A keyword in its place is told apart from other tokens. -/
def expectName (role : String := "identifier") : Parser Token := do
  let token ← current
  if token.kind = .identifier then advance
  else if token.text ≠ "" && Text.isIdentifier token.text then
    fail token (.reservedWord token.text role)
  else fail token (.unexpectedToken role token.description)

/-- Reads an optional mark of visibility, with or without a scope, and tells whether it was
there. -/
def visibility : Parser Bool := do
  if ← isAt [.keyword .pubWord] then
    let _ ← advance
    if ← isAt [.mark .leftParen] then
      let _ ← advance
      let _ ← expectName "visibility scope"
      let _ ← expect (.mark .rightParen)
    return true
  else return false

/-- Reads items that commas separate, up to and with the closing token. One more comma may stand
before the closing token. Each item changes a state that begins as given; the bound says that the
tokens last for less than `bound` rounds. -/
def commaFoldWithin (close : Token.Kind) (item : σ → Parser σ) :
    (bound : Nat) → σ → (stream : TokenStream) → stream.pending.length < bound → Step stream σ
  | 0, _, _, bounded => absurd bounded (Nat.not_lt_zero _)
  | bound + 1, state, stream, bounded =>
    if stream.current.kind = close then ⟨.ok state, stream.advance, .advance stream⟩
    else if stream.current.kind = .endOfInput then
      let fault := stream.current.fault (.unclosedList close.label)
      ⟨.error (.fault fault), stream, .refl stream⟩
    else
      let read := item state stream
      match read.result with
      | .error refusal => ⟨.error refusal, read.rest, read.follows⟩
      | .ok state =>
        if read.rest.current.kind = close then
          ⟨.ok state, read.rest.advance, (TokenStream.Follows.advance _).trans read.follows⟩
        else if comma : read.rest.current.kind = .mark .comma then
          have shorter : read.rest.advance.pending.length < bound := by
            have consumed := @TokenStream.length_advance_lt read.rest (by simp [comma])
            have before := read.follows.length_le
            omega
          let others := commaFoldWithin close item bound state read.rest.advance shorter
          ⟨others.result, others.rest,
            (others.follows.trans (.advance _)).trans read.follows⟩
        else
          let token := read.rest.current
          let cause := .unexpectedToken s!"',' or '{close.label}'" token.description
          ⟨.error (.fault (token.fault cause)), read.rest, read.follows⟩

/-- Reads items that commas separate, up to and with the closing token, into a state. -/
def commaFold (close : Token.Kind) (item : σ → Parser σ) (state : σ) : Parser σ :=
  fun stream => commaFoldWithin close item (stream.pending.length + 1) state stream (by omega)

/-- Reads items that commas separate, up to and with the closing token. -/
def commaList (close : Token.Kind) (item : Parser α) : Parser (List α) := do
  let items ← commaFold close (fun items => return (← item) :: items) []
  return items.reverse

/-- A parser that never answers without having consumed a token. -/
def Consuming (parser : Parser α) : Prop :=
  ∀ stream value, (parser stream).result = .ok value →
    (parser stream).rest.pending.length < stream.pending.length

theorem bind_apply (parser : Parser α) (next : α → Parser β) (stream : TokenStream) :
    (parser >>= next) stream = Parser.bind parser next stream := rfl

theorem Consuming.bind_left {parser : Parser α} {next : α → Parser β}
    (consuming : Consuming parser) : Consuming (parser >>= next) := by
  intro stream value answered
  rw [bind_apply] at answered ⊢
  unfold Parser.bind at answered ⊢
  cases first : (parser stream).result with
  | error refusal => simp [first] at answered
  | ok middle =>
      simp only [first]
      exact Nat.lt_of_le_of_lt (next middle (parser stream).rest).follows.length_le
        (consuming stream middle first)

theorem Consuming.bind_right {parser : Parser α} {next : α → Parser β}
    (consuming : ∀ middle, Consuming (next middle)) : Consuming (parser >>= next) := by
  intro stream value answered
  rw [bind_apply] at answered ⊢
  unfold Parser.bind at answered ⊢
  cases first : (parser stream).result with
  | error refusal => simp [first] at answered
  | ok middle =>
      simp only [first] at answered ⊢
      exact Nat.lt_of_lt_of_le (consuming middle _ value answered)
        (parser stream).follows.length_le

theorem Consuming.fail (token : Token) (cause : Fault.Cause) :
    Consuming (fail token cause : Parser α) := by
  intro stream value answered
  simp [Parser.fail] at answered

theorem Consuming.expect {kind : Token.Kind} (inside : kind ≠ .endOfInput) (wanted : String) :
    Consuming (expect kind wanted) := by
  intro stream token answered
  have unfolded : Parser.expect kind wanted stream =
      Parser.bind current (fun token => if token.kind = kind then advance
        else Parser.fail token (.unexpectedToken wanted token.description)) stream := rfl
  rw [unfolded] at answered ⊢
  simp only [Parser.bind, current] at answered ⊢
  by_cases matching : stream.current.kind = kind
  · simp only [matching, if_true, advance]
    exact TokenStream.length_advance_lt (by rw [matching]; exact inside)
  · simp [matching, Parser.fail] at answered

/-- Repeats a parser up to the end of the text, with a state that changes from round to round.
The bound says that the tokens last for less than `bound` rounds. -/
def untilEndWithin (round : σ → Parser σ) (consuming : ∀ state, Consuming (round state)) :
    (bound : Nat) → σ → (stream : TokenStream) → stream.pending.length < bound → Step stream σ
  | 0, _, _, bounded => absurd bounded (Nat.not_lt_zero _)
  | bound + 1, state, stream, bounded =>
    if stream.current.kind = .endOfInput then ⟨.ok state, stream, .refl stream⟩
    else
      let read := round state stream
      match answered : read.result with
      | .error refusal => ⟨.error refusal, read.rest, read.follows⟩
      | .ok next =>
        have shorter : read.rest.pending.length < bound :=
          Nat.lt_of_lt_of_le (consuming state stream next answered)
            (Nat.le_of_lt_succ bounded)
        let others := untilEndWithin round consuming bound next read.rest shorter
        ⟨others.result, others.rest, others.follows.trans read.follows⟩

/-- Repeats a parser up to the end of the text, with a state that begins as given. -/
def untilEnd (round : σ → Parser σ) (consuming : ∀ state, Consuming (round state)) (state : σ) :
    Parser σ := fun stream =>
  untilEndWithin round consuming (stream.pending.length + 1) state stream (by omega)

end Parser

end ShaderVariants
