import ShaderVariants.Proofs.Grammar

/-!
# Answers of parsers

`Answers` says that a parser reads a value off a stream and which stream it leaves.  A chain of
parsers answers when its members do, one behind the other, so that the tokens of a chain are the
tokens of its members behind each other.  Loops answer exactly on the lists and sequences of the
grammar, provided that no item begins with the token that ends them.
-/

namespace ShaderVariants

namespace TokenStream

/-- A stream becomes another one when some tokens are consumed. -/
structure Passes (earlier : TokenStream) (consumed : List Token) (later : TokenStream) : Prop where
  pending : earlier.pending = consumed ++ later.pending
  index : later.index = earlier.index + consumed.length
  endLine : later.endLine = earlier.endLine
  endColumn : later.endColumn = earlier.endColumn

theorem passes_nil_iff {earlier later : TokenStream} :
    earlier.Passes [] later ↔ later = earlier := by
  constructor
  · intro passes
    obtain ⟨pending, index, endLine, endColumn⟩ := passes
    obtain ⟨_, _, _, _⟩ := earlier
    obtain ⟨_, _, _, _⟩ := later
    simp_all
  · intro same
    subst same
    exact ⟨rfl, rfl, rfl, rfl⟩

theorem passes_append_iff {earlier later : TokenStream} {first second : List Token} :
    earlier.Passes (first ++ second) later ↔
      ∃ middle, earlier.Passes first middle ∧ middle.Passes second later := by
  constructor
  · intro passes
    obtain ⟨pending, index, endLine, endColumn⟩ := passes
    refine ⟨⟨earlier.index + first.length, second ++ later.pending, earlier.endLine,
      earlier.endColumn⟩, ⟨?_, rfl, rfl, rfl⟩, ⟨rfl, ?_, endLine, endColumn⟩⟩
    · rw [pending, List.append_assoc]
    · rw [index, List.length_append, Nat.add_assoc]
  · intro parts
    obtain ⟨middle, beginning, rest⟩ := parts
    refine ⟨?_, ?_, rest.endLine.trans beginning.endLine, rest.endColumn.trans beginning.endColumn⟩
    · rw [beginning.pending, rest.pending, List.append_assoc]
    · rw [rest.index, beginning.index, List.length_append, Nat.add_assoc]

theorem passes_cons_iff {earlier later : TokenStream} {token : Token} {tokens : List Token} :
    earlier.Passes (token :: tokens) later ↔
      ∃ middle, earlier.Passes [token] middle ∧ middle.Passes tokens later :=
  @passes_append_iff earlier later [token] tokens

theorem Passes.current {earlier later : TokenStream} {token : Token} {tokens : List Token}
    (passes : earlier.Passes (token :: tokens) later) : earlier.current = token := by
  simp [TokenStream.current, passes.pending]

theorem Passes.advance {earlier later : TokenStream} {token : Token}
    (passes : earlier.Passes [token] later) : earlier.advance = later := by
  obtain ⟨pending, index, endLine, endColumn⟩ := passes
  obtain ⟨_, _, _, _⟩ := later
  simp_all [TokenStream.advance]

/-- A token that is not the end of the text is consumed by advancing. -/
theorem passes_advance {stream : TokenStream} (more : stream.current.kind ≠ .endOfInput) :
    stream.Passes [stream.current] stream.advance := by
  cases pending : stream.pending with
  | nil => simp [TokenStream.current, endToken, pending] at more
  | cons token rest =>
      exact ⟨by simp [TokenStream.current, TokenStream.advance, pending],
        by simp [TokenStream.advance, pending], by simp [TokenStream.advance, pending],
        by simp [TokenStream.advance, pending]⟩

theorem passes_front {stream : TokenStream} {kind : Token.Kind}
    (here : stream.current.kind = kind) (inside : kind ≠ .endOfInput) :
    stream.Passes [stream.current] stream.advance :=
  passes_advance (by rw [here]; exact inside)

end TokenStream

open TokenStream (passes_nil_iff passes_append_iff passes_cons_iff passes_front)

namespace Parser

variable {α β σ : Type}

/-- The parser reads a value off a stream and leaves another stream. -/
def Answers (parser : Parser α) (stream : TokenStream) (value : α) (rest : TokenStream) : Prop :=
  (parser stream).result = .ok value ∧ (parser stream).rest = rest

/-- The parser answers exactly with the trees of a language, behind their tokens. -/
def Reads (parser : Parser α) (language : List Token → α → Prop) : Prop :=
  ∀ stream value rest, parser.Answers stream value rest ↔
    ∃ consumed, language consumed value ∧ stream.Passes consumed rest

/-- A parser that does not refuse answers in one way only. -/
theorem answers_iff_of_ok {parser : Parser α} {stream : TokenStream} {value : α}
    (answered : (parser stream).result = .ok value) {answer : α} {rest : TokenStream} :
    parser.Answers stream answer rest ↔ answer = value ∧ rest = (parser stream).rest := by
  unfold Answers
  rw [answered, Except.ok.injEq, eq_comm, @eq_comm _ _ rest]

theorem not_answers_of_error {parser : Parser α} {stream : TokenStream} {refusal : Refusal}
    (refused : (parser stream).result = .error refusal) {answer : α} {rest : TokenStream} :
    ¬parser.Answers stream answer rest := by
  intro answer
  obtain ⟨answered, -⟩ := answer
  rw [refused] at answered
  cases answered

/-- What follows an answer follows the only one. -/
theorem exists_answers_iff {parser : Parser α} {stream : TokenStream} {value : α}
    (answered : (parser stream).result = .ok value) {goesOn : α → TokenStream → Prop} :
    (∃ first middle, parser.Answers stream first middle ∧ goesOn first middle) ↔
      goesOn value (parser stream).rest := by
  constructor
  · intro answering
    obtain ⟨first, middle, answer, on⟩ := answering
    obtain ⟨rfl, rfl⟩ := (answers_iff_of_ok answered).mp answer
    exact on
  · intro on
    exact ⟨_, _, ⟨answered, rfl⟩, on⟩

theorem answers_bind_iff {parser : Parser α} {next : α → Parser β}
    {stream rest : TokenStream} {value : β} :
    (parser >>= next).Answers stream value rest ↔
      ∃ first middle, parser.Answers stream first middle ∧
        (next first).Answers middle value rest := by
  cases answered : (parser stream).result with
  | error refusal =>
      have refused : ((parser >>= next) stream).result = .error refusal := by
        rw [bind_apply]
        simp only [Parser.bind, answered]
      constructor
      · intro answer
        exact absurd answer (not_answers_of_error refused)
      · intro answering
        obtain ⟨_, _, answer, -⟩ := answering
        exact absurd answer (not_answers_of_error answered)
  | ok first =>
      rw [exists_answers_iff answered]
      unfold Answers
      rw [bind_apply]
      simp only [Parser.bind, answered]

theorem answers_pure_iff {stream rest : TokenStream} {value answer : α} :
    (Pure.pure value : Parser α).Answers stream answer rest ↔
      answer = value ∧ rest = stream :=
  @answers_iff_of_ok _ (Pure.pure value) stream value rfl answer rest

theorem answers_advance_iff {stream rest : TokenStream} {token : Token} :
    Parser.advance.Answers stream token rest ↔
      token = stream.current ∧ rest = stream.advance :=
  answers_iff_of_ok rfl

theorem not_answers_fail {stream rest : TokenStream} {token : Token} {cause : Fault.Cause}
    {value : α} : ¬(fail token cause : Parser α).Answers stream value rest :=
  not_answers_of_error rfl

theorem answers_ofExcept_iff {stream rest : TokenStream} {answer : Except Refusal α} {value : α} :
    (ofExcept answer).Answers stream value rest ↔ answer = .ok value ∧ rest = stream := by
  change (answer = .ok value ∧ stream = rest) ↔ _
  rw [@eq_comm _ stream]

/-- Looking at the current token decides how to go on. -/
theorem answers_current_bind_iff {next : Token → Parser β} {stream rest : TokenStream}
    {value : β} :
    (Parser.current >>= next).Answers stream value rest ↔
      (next stream.current).Answers stream value rest := by
  rw [answers_bind_iff, exists_answers_iff rfl]
  rfl

theorem answers_isAt_bind_iff {kinds : List Token.Kind} {next : Bool → Parser β}
    {stream rest : TokenStream} {value : β} :
    (isAt kinds >>= next).Answers stream value rest ↔
      (next (decide (stream.current.kind ∈ kinds))).Answers stream value rest := by
  rw [answers_bind_iff, exists_answers_iff rfl]
  rfl

theorem answers_advance_bind_iff {next : Token → Parser β} {stream rest : TokenStream}
    {value : β} :
    (Parser.advance >>= next).Answers stream value rest ↔
      (next stream.current).Answers stream.advance value rest := by
  rw [answers_bind_iff, exists_answers_iff rfl]
  rfl

/-! ## Single tokens -/

/-- Consuming a token of some kind, other than the end of the text. -/
theorem current_and_advance_iff {kind : Token.Kind} (inside : kind ≠ .endOfInput)
    {stream rest : TokenStream} {token : Token} :
    stream.current.kind = kind ∧ token = stream.current ∧ rest = stream.advance ↔
      token.kind = kind ∧ stream.Passes [token] rest := by
  constructor
  · intro consuming
    obtain ⟨matching, rfl, rfl⟩ := consuming
    exact ⟨matching, passes_front matching inside⟩
  · intro consuming
    obtain ⟨matching, passes⟩ := consuming
    exact ⟨by rw [passes.current, matching], passes.current.symm, passes.advance.symm⟩

theorem answers_expect_iff (kind : Token.Kind) (inside : kind ≠ .endOfInput) {wanted : String}
    {stream rest : TokenStream} {token : Token} :
    (expect kind wanted).Answers stream token rest ↔
      token.kind = kind ∧ stream.Passes [token] rest := by
  unfold expect
  rw [answers_current_bind_iff, ← current_and_advance_iff inside]
  split
  · rename_i matching
    rw [answers_advance_iff]
    simp [matching]
  · rename_i other
    simp [not_answers_fail, other]

theorem answers_expectName_iff {role : String} {stream rest : TokenStream} {token : Token} :
    (expectName role).Answers stream token rest ↔
      token.kind = .identifier ∧ stream.Passes [token] rest := by
  unfold expectName
  rw [answers_current_bind_iff, ← current_and_advance_iff (by simp)]
  split
  · rename_i matching
    rw [answers_advance_iff]
    simp [matching]
  · rename_i other
    split <;> simp [not_answers_fail, other]

/-! ## Loops -/

/-- A list of tokens that begins with a token of some kind. -/
def BeginsWith (kind : Token.Kind → Prop) (tokens : List Token) : Prop :=
  ∃ token others, tokens = token :: others ∧ kind token.kind

theorem BeginsWith.current {kind : Token.Kind → Prop} {tokens others : List Token}
    (begins : BeginsWith kind tokens) {earlier later : TokenStream}
    (passes : earlier.Passes (tokens ++ others) later) : kind earlier.current.kind := by
  obtain ⟨token, behind, rfl, matching⟩ := begins
  rw [List.cons_append] at passes
  rw [passes.current]
  exact matching

/-- A parser of items that keeps a state answers with the next state of an item that it reads. -/
def ReadsItems (item : σ → Parser σ) (language : List Token → α → Prop)
    (next : σ → α → Option σ) : Prop :=
  ∀ state stream state' rest, (item state).Answers stream state' rest ↔
    ∃ consumed value, language consumed value ∧ next state value = some state' ∧
      stream.Passes consumed rest

open Grammar (CommaList Sequence)

variable {item : σ → Parser σ} {language : List Token → α → Prop} {next : σ → α → Option σ}
  {close : Token.Kind}

/-- Some tokens are a list of items with the closing token behind it, and the items lead from one
state to another. -/
def ListLeads (language : List Token → α → Prop) (next : σ → α → Option σ) (close : Token.Kind)
    (state : σ) (stream : TokenStream) (state' : σ) (rest : TokenStream) : Prop :=
  ∃ tokens values last, CommaList language tokens values ∧ last.kind = close ∧
    values.foldlM next state = some state' ∧ stream.Passes (tokens ++ [last]) rest

/-- A list ends at once, or begins with an item, behind which it ends or goes on after a comma. -/
theorem listLeads_iff (inside : close ≠ .endOfInput) {state state' : σ}
    {stream rest : TokenStream} :
    ListLeads language next close state stream state' rest ↔
      (stream.current.kind = close ∧ state' = state ∧ rest = stream.advance) ∨
      ∃ consumed value middle state₁, language consumed value ∧
        next state value = some state₁ ∧ stream.Passes consumed middle ∧
        ((middle.current.kind = close ∧ state' = state₁ ∧ rest = middle.advance) ∨
          (middle.current.kind = .mark .comma ∧
            ListLeads language next close state₁ middle.advance state' rest)) := by
  constructor
  · intro leading
    obtain ⟨tokens, values, last, list, isLast, leads, passes⟩ := leading
    cases list with
    | empty =>
        obtain ⟨closing, -, ended⟩ := (current_and_advance_iff inside).mpr ⟨isLast, passes⟩
        exact .inl ⟨closing, by simpa using leads.symm, ended⟩
    | last isItem =>
        obtain ⟨middle, before, behind⟩ := passes_append_iff.mp passes
        obtain ⟨closing, -, ended⟩ := (current_and_advance_iff inside).mpr ⟨isLast, behind⟩
        refine .inr ⟨tokens, _, middle, state', isItem, ?_, before, .inl ⟨closing, rfl, ended⟩⟩
        simpa using leads
    | more isItem isComma others =>
        rw [List.append_assoc, List.cons_append] at passes
        obtain ⟨middle, before, behind⟩ := passes_append_iff.mp passes
        obtain ⟨later, comma, behind⟩ := passes_cons_iff.mp behind
        obtain ⟨found, -, rfl⟩ := (current_and_advance_iff (by simp)).mpr ⟨isComma, comma⟩
        rw [List.foldlM_cons, Option.bind_eq_bind, Option.bind_eq_some_iff] at leads
        obtain ⟨state₁, first, leads⟩ := leads
        exact .inr ⟨_, _, middle, state₁, isItem, first, before,
          .inr ⟨found, _, _, last, others, isLast, leads, behind⟩⟩
  · intro cases
    rcases cases with ⟨closing, rfl, rfl⟩ | ⟨consumed, value, middle, state₁, isItem, first, before,
      (⟨closing, rfl, rfl⟩ | ⟨found, tokens, values, last, list, isLast, leads, passes⟩)⟩
    · refine ⟨[], [], stream.current, .empty, closing, rfl, ?_⟩
      exact passes_front closing inside
    · refine ⟨consumed, [value], middle.current, .last isItem, closing, by simpa using first, ?_⟩
      exact passes_append_iff.mpr
        ⟨middle, before, passes_front closing inside⟩
    · refine ⟨consumed ++ middle.current :: tokens, value :: values, last,
        .more isItem found list, isLast, ?_, ?_⟩
      · simpa [first] using leads
      · rw [List.append_assoc, List.cons_append]
        refine passes_append_iff.mpr ⟨middle, before, passes_cons_iff.mpr ⟨_, ?_, passes⟩⟩
        exact passes_front found (by simp)

/-- One round of a list: it ends at once, or an item is read, behind which it ends or goes on after
a comma. -/
theorem commaFoldWithin_succ_iff {bound : Nat} {state : σ} {stream : TokenStream}
    (bounded : stream.pending.length < bound + 1) {state' : σ} {rest : TokenStream} :
    ((commaFoldWithin close item (bound + 1) state stream bounded).result = .ok state' ∧
      (commaFoldWithin close item (bound + 1) state stream bounded).rest = rest) ↔
      (stream.current.kind = close ∧ state' = state ∧ rest = stream.advance) ∨
      (stream.current.kind ≠ close ∧ stream.current.kind ≠ .endOfInput ∧
        ∃ state₁ middle, (item state).Answers stream state₁ middle ∧
          ((middle.current.kind = close ∧ state' = state₁ ∧ rest = middle.advance) ∨
            (middle.current.kind ≠ close ∧ middle.current.kind = .mark .comma ∧
              ∃ shorter : middle.advance.pending.length < bound,
                (commaFoldWithin close item bound state₁ middle.advance shorter).result =
                  .ok state' ∧
                (commaFoldWithin close item bound state₁ middle.advance shorter).rest =
                  rest))) := by
  rw [commaFoldWithin]
  by_cases closing : stream.current.kind = close
  · simp [closing, eq_comm]
  · by_cases ending : stream.current.kind = .endOfInput
    · rw [if_neg closing, if_pos ending]
      constructor
      · intro answer
        obtain ⟨answered, -⟩ := answer
        cases answered
      · intro goingOn
        rcases goingOn with ⟨closed, -⟩ | ⟨-, more, -⟩
        · exact absurd closed closing
        · exact absurd ending more
    · rw [if_neg closing, if_neg ending]
      cases answered : (item state stream).result with
      | error refusal => simp [not_answers_of_error answered, answered, closing]
      | ok state₁ =>
          simp only [exists_answers_iff answered, answered, closing, ending, false_and, false_or,
            ne_eq, not_false_eq_true, true_and]
          by_cases ended : (item state stream).rest.current.kind = close
          · rw [if_pos ended]
            simp [ended, eq_comm]
          · rw [if_neg ended]
            by_cases comma : (item state stream).rest.current.kind = .mark .comma
            · rw [dif_pos comma]
              constructor
              · intro others
                exact .inr ⟨ended, comma, _, others⟩
              · intro goingOn
                rcases goingOn with ⟨closed, -⟩ | ⟨-, -, shorter, others⟩
                · exact absurd closed ended
                · exact others
            · rw [dif_neg comma]
              simp [ended, comma]

theorem commaFoldWithin_iff (reads : ReadsItems item language next)
    (begins : ∀ tokens value, language tokens value →
      BeginsWith (fun kind => kind ≠ close ∧ kind ≠ .endOfInput) tokens)
    (inside : close ≠ .endOfInput) (apart : close ≠ .mark .comma) {bound : Nat} {state : σ}
    {stream : TokenStream} (bounded : stream.pending.length < bound) {state' : σ}
    {rest : TokenStream} :
    ((commaFoldWithin close item bound state stream bounded).result = .ok state' ∧
      (commaFoldWithin close item bound state stream bounded).rest = rest) ↔
      ListLeads language next close state stream state' rest := by
  induction bound generalizing state stream with
  | zero => exact absurd bounded (Nat.not_lt_zero _)
  | succ bound ih =>
      rw [listLeads_iff inside, commaFoldWithin_succ_iff bounded]
      constructor
      · intro goingOn
        rcases goingOn with ended | ⟨-, -, state₁, middle, answered, goesOn⟩
        · exact .inl ended
        · obtain ⟨consumed, value, isItem, first, before⟩ := (reads _ _ _ _).mp answered
          refine .inr ⟨consumed, value, middle, state₁, isItem, first, before, ?_⟩
          rcases goesOn with ended | ⟨-, found, shorter, others⟩
          · exact .inl ended
          · exact .inr ⟨found, (ih shorter).mp others⟩
      · intro cases
        rcases cases with ended | ⟨consumed, value, middle, state₁, isItem, first, before, goesOn⟩
        · exact .inl ended
        · have nonempty := begins consumed value isItem
          have front : stream.Passes (consumed ++ []) middle := by rwa [List.append_nil]
          obtain ⟨notClose, notEnd⟩ := nonempty.current front
          have answered := (reads _ _ _ _).mpr ⟨consumed, value, isItem, first, before⟩
          refine .inr ⟨notClose, notEnd, state₁, middle, answered, ?_⟩
          rcases goesOn with ended | ⟨found, others⟩
          · exact .inl ended
          · have more : middle.current.kind ≠ .endOfInput := by simp [found]
            have consumed := TokenStream.length_advance_lt more
            have fewer := congrArg List.length before.pending
            rw [List.length_append] at fewer
            have shorter : middle.advance.pending.length < bound := by omega
            refine .inr ⟨by rw [found]; exact apart.symm, found, shorter, (ih shorter).mpr others⟩

theorem answers_commaFold_iff (reads : ReadsItems item language next)
    (begins : ∀ tokens value, language tokens value →
      BeginsWith (fun kind => kind ≠ close ∧ kind ≠ .endOfInput) tokens)
    (inside : close ≠ .endOfInput) (apart : close ≠ .mark .comma) {state state' : σ}
    {stream rest : TokenStream} :
    (commaFold close item state).Answers stream state' rest ↔
      ListLeads language next close state stream state' rest :=
  commaFoldWithin_iff reads begins inside apart (Nat.lt_succ_self _)

/-- Items that are put in front of each other, each behind its own tokens. -/
theorem reads_consItem {parser : Parser α} (reads : Reads parser language) :
    ReadsItems (fun items => return (← parser) :: items) language
      (fun items value => some (value :: items)) := by
  intro items stream items' rest
  simp only [answers_bind_iff, answers_pure_iff]
  constructor
  · intro chain
    obtain ⟨value, middle, answered, rfl, rfl⟩ := chain
    obtain ⟨consumed, isItem, passes⟩ := (reads _ _ _).mp answered
    exact ⟨consumed, value, isItem, rfl, passes⟩
  · intro derivation
    obtain ⟨consumed, value, isItem, same, passes⟩ := derivation
    cases same
    exact ⟨value, rest, (reads _ _ _).mpr ⟨consumed, isItem, passes⟩, rfl, rfl⟩

theorem foldlM_cons_eq (values items : List α) :
    values.foldlM (fun items value => some (value :: items)) items =
      some (values.reverse ++ items) := by
  induction values generalizing items with
  | nil => rfl
  | cons value values ih => simp [ih]

/-- A comma list answers exactly on the lists of its items with the closing token behind them. -/
theorem answers_commaList_iff {parser : Parser α} (reads : Reads parser language)
    (begins : ∀ tokens value, language tokens value →
      BeginsWith (fun kind => kind ≠ close ∧ kind ≠ .endOfInput) tokens)
    (inside : close ≠ .endOfInput) (apart : close ≠ .mark .comma) {values : List α}
    {stream rest : TokenStream} :
    (commaList close parser).Answers stream values rest ↔
      ∃ tokens last, CommaList language tokens values ∧ last.kind = close ∧
        stream.Passes (tokens ++ [last]) rest := by
  unfold commaList
  simp only [answers_bind_iff, answers_pure_iff,
    answers_commaFold_iff (reads_consItem reads) begins inside apart]
  constructor
  · intro chain
    obtain ⟨_, middle, ⟨tokens, items, last, list, isLast, leads, passes⟩, rfl, rfl⟩ := chain
    rw [foldlM_cons_eq, List.append_nil] at leads
    cases leads
    rw [List.reverse_reverse]
    exact ⟨tokens, last, list, isLast, passes⟩
  · intro derivation
    obtain ⟨tokens, last, list, isLast, passes⟩ := derivation
    refine ⟨values.reverse, rest, ⟨tokens, values, last, list, isLast, ?_, passes⟩,
      values.reverse_reverse.symm, rfl⟩
    rw [foldlM_cons_eq, List.append_nil]

/-! ## Up to the end -/

/-- Some tokens up to the end are a sequence of items, and the items lead from one state to
another. -/
def SequenceLeads (language : List Token → α → Prop) (next : σ → α → Option σ)
    (state : σ) (stream : TokenStream) (state' : σ) (rest : TokenStream) : Prop :=
  ∃ tokens values, Sequence language tokens values ∧ values.foldlM next state = some state' ∧
    stream.Passes tokens rest ∧ rest.current.kind = .endOfInput

/-- A sequence is over at the end, and begins with an item elsewhere. -/
theorem sequenceLeads_iff
    (begins : ∀ tokens value, language tokens value →
      BeginsWith (fun kind => kind ≠ .endOfInput) tokens) {state state' : σ}
    {stream rest : TokenStream} :
    SequenceLeads language next state stream state' rest ↔
      (stream.current.kind = .endOfInput ∧ state' = state ∧ rest = stream) ∨
      (stream.current.kind ≠ .endOfInput ∧
        ∃ consumed value middle state₁, language consumed value ∧
          next state value = some state₁ ∧ stream.Passes consumed middle ∧
          SequenceLeads language next state₁ middle state' rest) := by
  constructor
  · intro leading
    obtain ⟨tokens, values, sequence, leads, passes, last⟩ := leading
    cases sequence with
    | empty =>
        cases leads
        have same := passes_nil_iff.mp passes
        exact .inl ⟨same ▸ last, rfl, same⟩
    | more isItem others =>
        obtain ⟨middle, before, behind⟩ := passes_append_iff.mp passes
        rw [List.foldlM_cons, Option.bind_eq_bind, Option.bind_eq_some_iff] at leads
        obtain ⟨state₁, first, leads⟩ := leads
        exact .inr ⟨(begins _ _ isItem).current passes, _, _, middle, state₁, isItem, first,
          before, _, _, others, leads, behind, last⟩
  · intro cases
    rcases cases with ⟨ending, rfl, rfl⟩ | ⟨-, consumed, value, middle, state₁, isItem, first,
      before, tokens, values, sequence, leads, behind, last⟩
    · exact ⟨[], [], .empty, rfl, passes_nil_iff.mpr rfl, ending⟩
    · refine ⟨consumed ++ tokens, value :: values, .more isItem sequence, ?_,
        passes_append_iff.mpr ⟨middle, before, behind⟩, last⟩
      simpa [first] using leads

/-- One round of a repetition: it is over at the end, and elsewhere goes on behind an item. -/
theorem untilEndWithin_succ_iff {round : σ → Parser σ}
    {consuming : ∀ state, Consuming (round state)} {bound : Nat} {state : σ}
    {stream : TokenStream} (bounded : stream.pending.length < bound + 1) {state' : σ}
    {rest : TokenStream} :
    ((untilEndWithin round consuming (bound + 1) state stream bounded).result = .ok state' ∧
      (untilEndWithin round consuming (bound + 1) state stream bounded).rest = rest) ↔
      (stream.current.kind = .endOfInput ∧ state' = state ∧ rest = stream) ∨
      (stream.current.kind ≠ .endOfInput ∧
        ∃ state₁ middle, (round state).Answers stream state₁ middle ∧
          ∃ shorter : middle.pending.length < bound,
            (untilEndWithin round consuming bound state₁ middle shorter).result = .ok state' ∧
            (untilEndWithin round consuming bound state₁ middle shorter).rest = rest) := by
  rw [untilEndWithin]
  by_cases ending : stream.current.kind = .endOfInput
  · simp [ending, eq_comm]
  · rw [if_neg ending]
    dsimp only
    split
    · rename_i refusal refused
      simp [not_answers_of_error refused, ending]
    · rename_i state₁ answered
      simp only [exists_answers_iff answered, ending, false_and, false_or, ne_eq,
        not_false_eq_true, true_and]
      constructor
      · intro others
        exact ⟨_, others⟩
      · intro goingOn
        obtain ⟨shorter, others⟩ := goingOn
        exact others

theorem untilEndWithin_iff {round : σ → Parser σ}
    {consuming : ∀ state, Consuming (round state)} (reads : ReadsItems round language next)
    (begins : ∀ tokens value, language tokens value →
      BeginsWith (fun kind => kind ≠ .endOfInput) tokens) {bound : Nat} {state : σ}
    {stream : TokenStream} (bounded : stream.pending.length < bound) {state' : σ}
    {rest : TokenStream} :
    ((untilEndWithin round consuming bound state stream bounded).result = .ok state' ∧
      (untilEndWithin round consuming bound state stream bounded).rest = rest) ↔
      SequenceLeads language next state stream state' rest := by
  induction bound generalizing state stream with
  | zero => exact absurd bounded (Nat.not_lt_zero _)
  | succ bound ih =>
      rw [sequenceLeads_iff begins, untilEndWithin_succ_iff bounded]
      constructor
      · intro goingOn
        rcases goingOn with ended | ⟨more, state₁, middle, answered, shorter, others⟩
        · exact .inl ended
        · obtain ⟨consumed, value, isItem, first, before⟩ := (reads _ _ _ _).mp answered
          exact .inr ⟨more, consumed, value, middle, state₁, isItem, first, before,
            (ih shorter).mp others⟩
      · intro cases
        rcases cases with ended | ⟨more, consumed, value, middle, state₁, isItem, first, before,
          others⟩
        · exact .inl ended
        · have answered := (reads _ _ _ _).mpr ⟨consumed, value, isItem, first, before⟩
          have fewer := consuming state stream state₁ answered.1
          rw [answered.2] at fewer
          have shorter : middle.pending.length < bound := by omega
          exact .inr ⟨more, state₁, middle, answered, shorter, (ih shorter).mpr others⟩

/-- Repetition up to the end answers exactly on the sequences of its items. -/
theorem answers_untilEnd_iff {round : σ → Parser σ}
    {consuming : ∀ state, Consuming (round state)} (reads : ReadsItems round language next)
    (begins : ∀ tokens value, language tokens value →
      BeginsWith (fun kind => kind ≠ .endOfInput) tokens) {state state' : σ}
    {stream rest : TokenStream} :
    (untilEnd round consuming state).Answers stream state' rest ↔
      SequenceLeads language next state stream state' rest :=
  untilEndWithin_iff reads begins (Nat.lt_succ_self _)

end Parser

end ShaderVariants
