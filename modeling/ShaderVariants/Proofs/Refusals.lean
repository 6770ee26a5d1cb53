import ShaderVariants.Module.Parser

/-!
# Refusals of parsers

A parser that refuses points to a token: to one that it has before it, or to one that it has
consumed.  Which tokens these can be is known from the stream that the whole reading begins with.
`PointsWithin` fixes a set of tokens for a reading, and says of a parser what its answers are and
that its refusals point to tokens of the set.
-/

namespace ShaderVariants

namespace TokenStream

/-- The tokens that a stream can show: those that are not consumed yet, and the end. -/
def Shows (stream : TokenStream) (token : Token) : Prop :=
  token ∈ stream.pending ∨ token = stream.endToken

theorem shows_current (stream : TokenStream) : stream.Shows stream.current := by
  unfold Shows current
  cases pending : stream.pending with
  | nil => exact .inr rfl
  | cons token rest => exact .inl (by simp)

/-- Nothing new is shown later. -/
theorem Follows.shows {later earlier : TokenStream} (follows : later.Follows earlier)
    {token : Token} (shown : later.Shows token) : earlier.Shows token := by
  obtain ⟨consumed, pending, -, sameEnd⟩ := follows
  rcases shown with inside | ending
  · exact .inl (by rw [pending]; exact List.mem_append_right _ inside)
  · exact .inr (ending.trans sameEnd)

end TokenStream

/-- What a refusal points to.  A fault shows at a token.  A numeral that is not converted is a
decimal number of many digits, nearly all of them zeros in front. -/
inductive Refusal.PointsTo (token : Token) : Refusal → Prop where
  | fault (cause : Fault.Cause) : PointsTo token (.fault (token.fault cause))
  | oversizedNumeral {numeral : Numeral} (kind : token.kind = .number)
      (written : Numeral.parse? token.text = some numeral) (decimal : numeral.radix = 10)
      (oversized : Decimal.conversionLimit < numeral.digits.length)
      (small : numeral.significantDigits ≤ Parser.digitLimit) :
      PointsTo token (.oversizedNumeral numeral.digits.length)

namespace Parser

variable {α β σ : Type} {known : Token → Prop}

/-- A result that is as described, or a refusal that points to a known token. -/
def EndsWithin (known : Token → Prop) (holds : α → Prop) : Except Refusal α → Prop
  | .ok value => holds value
  | .error refusal => ∃ token, known token ∧ refusal.PointsTo token

/-- On streams that show known tokens only, an answer is as described, and a refusal points to a
known token. -/
def PointsWithin (known : Token → Prop) (parser : Parser α) (holds : α → Prop) : Prop :=
  ∀ stream, (∀ token, stream.Shows token → known token) →
    EndsWithin known holds (parser stream).result

namespace PointsWithin

theorem pure {value : α} {holds : α → Prop} (result : holds value) :
    PointsWithin known (Pure.pure value) holds := by
  intro stream _
  exact result

theorem fail {token : Token} (shown : known token) (cause : Fault.Cause) (holds : α → Prop) :
    PointsWithin known (Parser.fail token cause) holds := by
  intro stream _
  exact ⟨token, shown, .fault cause⟩

theorem bind {parser : Parser α} {next : α → Parser β} {holds : α → Prop} {holds' : β → Prop}
    (first : PointsWithin known parser holds)
    (rest : ∀ value, holds value → PointsWithin known (next value) holds') :
    PointsWithin known (parser >>= next) holds' := by
  intro stream shown
  have here := first stream shown
  rw [bind_apply]
  cases answered : (parser stream).result with
  | error refusal =>
      rw [answered] at here
      simp only [Parser.bind, answered]
      exact here
  | ok value =>
      rw [answered] at here
      -- The second parser is shown nothing new, so that the same tokens are known to it.
      have there := rest value here (parser stream).rest fun token later =>
        shown token ((parser stream).follows.shows later)
      simp only [Parser.bind, answered]
      exact there

theorem current : PointsWithin known Parser.current known := by
  intro stream shown
  exact shown _ stream.shows_current

theorem advance : PointsWithin known Parser.advance known := by
  intro stream shown
  exact shown _ stream.shows_current

theorem isAt (kinds : List Token.Kind) :
    PointsWithin known (Parser.isAt kinds) fun _ => True :=
  current.bind fun _ _ => pure trivial

/-- A token of a kind is known and of the kind. -/
theorem expect (kind : Token.Kind) (wanted : String) :
    PointsWithin known (Parser.expect kind wanted)
      (fun token => known token ∧ token.kind = kind) := by
  intro stream shown
  have here := shown _ stream.shows_current
  have unfolded : Parser.expect kind wanted stream = Parser.bind Parser.current (fun token =>
      if token.kind = kind then Parser.advance
      else Parser.fail token (.unexpectedToken wanted token.description)) stream := rfl
  rw [unfolded]
  by_cases matching : stream.current.kind = kind
  · simp only [Parser.bind, Parser.current, matching, if_true]
    exact ⟨here, matching⟩
  · simp only [Parser.bind, Parser.current, matching, if_false]
    exact ⟨_, here, .fault _⟩

theorem expectName (role : String) : PointsWithin known (Parser.expectName role) known := by
  unfold Parser.expectName
  refine current.bind fun token here => ?_
  split
  · exact advance
  · split
    · exact fail here _ _
    · exact fail here _ _

theorem visibility : PointsWithin known Parser.visibility fun _ => True := by
  unfold Parser.visibility
  refine (isAt _).bind fun isPublic _ => ?_
  split
  · refine advance.bind fun _ _ => ?_
    refine (isAt _).bind fun bracketed _ => ?_
    split
    · refine advance.bind fun _ _ => ?_
      refine (expectName _).bind fun _ _ => ?_
      exact (expect _ _).bind fun _ _ => pure trivial
    · exact pure trivial
  · exact pure trivial

/-! ## Loops -/

theorem commaFoldWithin {close : Token.Kind} {item : σ → Parser σ}
    (items : ∀ state, PointsWithin known (item state) fun _ => True) (bound : Nat) (state : σ)
    (stream : TokenStream) (bounded : stream.pending.length < bound)
    (shown : ∀ token, stream.Shows token → known token) :
    EndsWithin known (fun _ => True)
      (Parser.commaFoldWithin close item bound state stream bounded).result := by
  induction bound generalizing state stream with
  | zero => exact absurd bounded (Nat.not_lt_zero _)
  | succ bound ih =>
      have first := items state stream shown
      have behind : ∀ token, (item state stream).rest.Shows token → known token :=
        fun token later => shown token ((item state stream).follows.shows later)
      unfold Parser.commaFoldWithin
      by_cases closed : stream.current.kind = close
      · rw [if_pos closed]
        trivial
      · rw [if_neg closed]
        by_cases ended : stream.current.kind = .endOfInput
        · rw [if_pos ended]
          exact ⟨_, shown _ stream.shows_current, .fault _⟩
        · rw [if_neg ended]
          dsimp only
          cases answered : (item state stream).result with
          | error refusal =>
              rw [answered] at first
              exact first
          | ok next =>
              dsimp only
              split
              · trivial
              · split
                · refine ih next _ _ fun token later => behind token ?_
                  exact (TokenStream.Follows.advance _).shows later
                · exact ⟨_, behind _ (item state stream).rest.shows_current, .fault _⟩

theorem commaFold {close : Token.Kind} {item : σ → Parser σ}
    (items : ∀ state, PointsWithin known (item state) fun _ => True) (state : σ) :
    PointsWithin known (Parser.commaFold close item state) fun _ => True := by
  intro stream shown
  exact commaFoldWithin items _ state stream _ shown

theorem commaList {close : Token.Kind} {item : Parser α}
    (items : PointsWithin known item fun _ => True) :
    PointsWithin known (Parser.commaList close item) fun _ => True := by
  unfold Parser.commaList
  refine (commaFold (fun state => items.bind fun _ _ => pure trivial) _).bind fun _ _ => ?_
  exact pure trivial

theorem untilEndWithin {round : σ → Parser σ} (consuming : ∀ state, Consuming (round state))
    (rounds : ∀ state, PointsWithin known (round state) fun _ => True) (bound : Nat) (state : σ)
    (stream : TokenStream) (bounded : stream.pending.length < bound)
    (shown : ∀ token, stream.Shows token → known token) :
    EndsWithin known (fun _ => True)
      (Parser.untilEndWithin round consuming bound state stream bounded).result := by
  induction bound generalizing state stream with
  | zero => exact absurd bounded (Nat.not_lt_zero _)
  | succ bound ih =>
      have first := rounds state stream shown
      unfold Parser.untilEndWithin
      split
      · trivial
      · dsimp only
        split
        · rename_i refusal answered
          rw [answered] at first
          exact first
        · rename_i next answered
          exact ih next _ _ fun token later =>
            shown token ((round state stream).follows.shows later)

theorem untilEnd {round : σ → Parser σ} (consuming : ∀ state, Consuming (round state))
    (rounds : ∀ state, PointsWithin known (round state) fun _ => True) (state : σ) :
    PointsWithin known (Parser.untilEnd round consuming state) fun _ => True := by
  intro stream shown
  exact untilEndWithin consuming rounds _ state stream _ shown

/-! ## The grammar -/

/-- The value of a numeral, where the tokens it is blamed on are known. -/
theorem integerScalar {kind : Scalar.Kind} {owner key : String} {first number : Token}
    {negative : Bool} (firstKnown : known first) (numberKnown : known number)
    (isNumber : number.kind = .number) :
    EndsWithin known (fun _ => True)
      (Parser.integerScalar kind owner key first number negative) := by
  unfold Parser.integerScalar
  cases written : Numeral.parse? number.text with
  | none => exact ⟨number, numberKnown, .fault _⟩
  | some numeral =>
      dsimp only
      split
      · exact ⟨number, numberKnown, .fault _⟩
      · split
        · exact ⟨number, numberKnown, .fault _⟩
        · split
          · exact ⟨first, firstKnown, .fault _⟩
          · split
            · rename_i few unconvertible
              obtain ⟨decimal, oversized⟩ : numeral.radix = 10 ∧
                  Decimal.conversionLimit < numeral.digits.length := by
                simpa [isUnconvertible, Decimal.isOversized] using unconvertible
              exact ⟨number, numberKnown,
                .oversizedNumeral isNumber written decimal oversized (Nat.le_of_not_lt few)⟩
            · cases Scalar.ofLiteral kind _ with
              | ok scalar => trivial
              | error misfit => exact ⟨first, firstKnown, .fault _⟩

theorem literal (kind : Scalar.Kind) (owner key : String) :
    PointsWithin known (Parser.literal kind owner key) fun _ => True := by
  unfold Parser.literal
  refine current.bind fun first firstKnown => ?_
  refine (isAt _).bind fun isTruth _ => ?_
  split
  · split
    · exact advance.bind fun _ _ => pure trivial
    · exact fail firstKnown _ _
  · refine (isAt _).bind fun isNumber _ => ?_
    split
    · exact fail firstKnown _ _
    · split
      · exact fail firstKnown _ _
      · refine (isAt _).bind fun negative _ => ?_
        -- Faults of the value show at the first token, although a sign is consumed by then.
        have value : PointsWithin known (do
            let number ← Parser.expect .number "integer literal"
            ofExcept (Parser.integerScalar kind owner key first number negative))
            fun _ => True :=
          (expect _ _).bind fun number here _ _ => integerScalar firstKnown here.1 here.2
        dsimp only
        split
        · exact advance.bind fun _ _ => value
        · exact value

theorem scalarKind : PointsWithin known Parser.scalarKind fun _ => True := by
  unfold Parser.scalarKind
  refine current.bind fun token here => ?_
  split
  · exact advance.bind fun _ _ => pure trivial
  · exact fail here _ _

theorem enumCase (file : String) (kind : Scalar.Kind) (owner : String) :
    PointsWithin known (Parser.enumCase file kind owner) fun _ => True := by
  unfold Parser.enumCase
  refine (expectName _).bind fun name _ => ?_
  refine (expect _ _).bind fun _ _ => ?_
  exact (literal _ _ _).bind fun _ _ => pure trivial

theorem enumAlias : PointsWithin known Parser.enumAlias fun _ => True := by
  unfold Parser.enumAlias
  refine (isAt _).bind fun isAlias _ => ?_
  split
  · refine advance.bind fun _ _ => ?_
    exact (expectName _).bind fun _ _ => pure trivial
  · exact pure trivial

theorem valueEnum (file : String) (isPublic : Bool) :
    PointsWithin known (Parser.valueEnum file isPublic) fun _ => True := by
  unfold Parser.valueEnum
  refine (expect _ _).bind fun _ _ => ?_
  refine (expectName _).bind fun _ _ => ?_
  refine enumAlias.bind fun _ _ => ?_
  refine (expect _ _).bind fun _ _ => ?_
  refine scalarKind.bind fun _ _ => ?_
  refine (expect _ _).bind fun _ _ => ?_
  exact (commaList (enumCase _ _ _)).bind fun _ _ => pure trivial

theorem definition (file owner : String) :
    PointsWithin known (Parser.definition file owner) fun _ => True := by
  unfold Parser.definition
  refine (expectName _).bind fun _ _ => ?_
  refine (expect _ _).bind fun _ _ => ?_
  refine scalarKind.bind fun _ _ => ?_
  refine (expect _ _).bind fun _ _ => ?_
  exact (literal _ _ _).bind fun _ _ => pure trivial

theorem variant (file declaration : String) :
    PointsWithin known (Parser.variant file declaration) fun _ => True := by
  unfold Parser.variant
  refine (expectName _).bind fun name _ => ?_
  refine current.bind fun next here => ?_
  split
  · refine advance.bind fun _ _ => ?_
    exact (commaList (definition _ _)).bind fun _ _ => pure trivial
  · split
    · refine advance.bind fun _ _ => ?_
      refine (commaList ?_).bind fun _ _ => pure trivial
      exact (expectName _).bind fun _ _ => pure trivial
    · exact fail here _ _

theorem entry (file declaration : String) (entries : Entries) :
    PointsWithin known (Parser.entry file declaration entries) fun _ => True := by
  unfold Parser.entry
  refine current.bind fun first here => ?_
  refine (variant _ _).bind fun one _ => ?_
  split
  · exact pure trivial
  · split
    · exact fail here _ _
    · exact fail here _ _
    · exact pure trivial

theorem variants (file : String) (isPublic : Bool) :
    PointsWithin known (Parser.variants file isPublic) fun _ => True := by
  unfold Parser.variants
  refine (expect _ _).bind fun _ _ => ?_
  refine (expectName _).bind fun _ _ => ?_
  refine (expect _ _).bind fun _ _ => ?_
  refine (expect _ _).bind fun _ _ => ?_
  refine (expect _ _).bind fun _ _ => ?_
  exact (commaFold (entry _ _) _).bind fun _ _ => pure trivial

theorem declaration (file : String) (declarations : Declarations) :
    PointsWithin known (Parser.declaration file declarations) fun _ => True := by
  unfold Parser.declaration
  refine visibility.bind fun isPublic _ => ?_
  refine current.bind fun token here => ?_
  split
  · exact (valueEnum _ _).bind fun _ _ => pure trivial
  · split
    · exact (variants _ _).bind fun _ _ => pure trivial
    · exact fail here _ _

theorem module (file : String) : PointsWithin known (Parser.module file) fun _ => True := by
  unfold Parser.module
  exact (untilEnd _ (declaration file) _).bind fun _ _ => pure trivial

end PointsWithin

/-- A refusal of a stream points to a token that the stream shows. -/
theorem exists_pointsTo_of_module_error {file : String} {stream : TokenStream} {refusal : Refusal}
    (refused : (module file stream).result = .error refusal) :
    ∃ token, stream.Shows token ∧ refusal.PointsTo token := by
  have ends : EndsWithin stream.Shows (fun _ => True) (module file stream).result :=
    PointsWithin.module file stream fun _ shown => shown
  rw [refused] at ends
  exact ends

end Parser

end ShaderVariants
