import Mathlib.Tactic.SplitIfs
import ShaderVariants.Proofs.CharacterClasses
import ShaderVariants.Proofs.OrderedMap
import ShaderVariants.Proofs.UsableName
import ShaderVariants.Template.Interpreter

/-!
# Templates that print a name

A template that is nothing but a print of one identifier.  The lexer reads three tokens off it,
whatever the name is.  The parser goes down through all levels of precedence, each of which finds
no operator of its own; one name only is an operator there, and the operand behind it is missing.
Three names, which may begin with a small or a capital letter, are constants, whose texts the
preparation puts in place.  What is left is a piece of text or a variable, which is looked up in the
context.  So the interpreter is an engine that prints names as engines do.
-/

namespace ShaderVariants.Template

namespace Lexer

variable {settings : Settings} {opening : Opening} {position : Position} {c : Char}
  {rest : List Char} {length : Nat}

/-! ## Steps inside of a tag -/

theorem readFrom_tag_blanks (goesOn : endingLength? settings opening (c :: rest) = none)
    (blanks : lexeme? (c :: rest) = some (.blanks, length)) :
    readFrom settings (.tag opening) position [] (c :: rest) =
      readFrom settings (.tag opening) (position.after (c :: rest.take (length - 1))) []
        (rest.drop (length - 1)) := by
  rw [readFrom]
  simp [goesOn, blanks]

theorem readFrom_tag_name (goesOn : endingLength? settings opening (c :: rest) = none)
    {name : String} (named : lexeme? (c :: rest) = some (.token (.name name), length)) :
    readFrom settings (.tag opening) position [] (c :: rest) =
      Lexed.prepend [⟨.name name, position.line⟩]
        (readFrom settings (.tag opening) (position.after (c :: rest.take (length - 1))) []
          (rest.drop (length - 1))) := by
  rw [readFrom]
  simp [goesOn, named, bracketsAfter]

theorem readFrom_tag_ending (ends : endingLength? settings opening (c :: rest) = some length) :
    readFrom settings (.tag opening) position [] (c :: rest) =
      Lexed.prepend [⟨Opening.endToken opening, position.line⟩]
        (readFrom settings .text (position.after (c :: rest.take (length - 1))) []
          (rest.drop (length - 1))) := by
  conv => lhs; rw [readFrom]
  simp [ends]

/-! ## Names and nothing else -/

theorem isDigit_eq_false_of_isDecimalDigit_eq_false (noDigit : Text.isDecimalDigit c = false) :
    Decimal.isDigit c = false := by
  rw [Bool.eq_false_iff]
  intro digit
  simp only [Decimal.isDigit, decide_eq_true_eq, Char.le_def, UInt32.le_iff_toNat_le] at digit
  have zero : '0'.val.toNat = 0x30 := rfl
  have nine : '9'.val.toNat = 0x39 := rfl
  have within : 0x30 ≤ c.toNat ∧ c.toNat < 0x30 + 10 := by
    change 0x30 ≤ c.val.toNat ∧ c.val.toNat < 0x30 + 10
    omega
  have decimal : Text.isDecimalDigit c = true := by
    rw [Text.isDecimalDigit, Text.decimalValue?, Option.isSome_map, List.find?_isSome]
    exact ⟨0x30, by decide, by simpa using within⟩
  exact Bool.false_ne_true (noDigit.symm.trans decimal)

theorem integer?_eq_none (rest : List Char) (noDigit : Text.isDecimalDigit c = false) :
    Literal.integer? (c :: rest) = none := by
  have other : c ≠ '0' := by
    rintro rfl
    exact absurd noDigit (by decide)
  have noRadix : Literal.radixInteger? (c :: rest) = none := by
    unfold Literal.radixInteger?
    split
    · rename_i same
      exact absurd (List.cons.inj same).1 other
    · rfl
  simp [Literal.integer?, noRadix, other, isDigit_eq_false_of_isDecimalDigit_eq_false noDigit]

theorem name?_append_blank {name : String} (identifier : Text.isIdentifier name = true)
    (rest : List Char) :
    name? (name.toList ++ ' ' :: rest) = some (.token (.name name), name.toList.length) := by
  have word : (name.toList ++ ' ' :: rest).takeWhile isNameCharacter = name.toList := by
    have noPart : isNameCharacter ' ' = false := by decide
    rw [List.takeWhile_append_of_pos fun c member => by
      simp [isNameCharacter, Text.isIdentifierPart_of_mem identifier member]]
    simp [noPart]
  simp [name?, word, Text.toList_ne_nil_of_isIdentifier identifier, String.ofList_toList,
    identifier]

/-- An identifier does not begin like a blank or a number, which are tried before names. -/
theorem lexeme?_append_blank {name : String} (identifier : Text.isIdentifier name = true)
    (rest : List Char) :
    lexeme? (name.toList ++ ' ' :: rest) =
      some (.token (.name name), name.toList.length) := by
  have named := name?_append_blank identifier rest
  obtain ⟨initial, others, characters, start⟩ := Text.exists_cons_of_isIdentifier identifier
  have noDigit := Text.isDecimalDigit_eq_false_of_isIdentifierStart start
  have noBlank := Text.isBlank_eq_false_of_isIdentifierStart start
  rw [characters] at named ⊢
  have blanks : blanks? (initial :: others ++ ' ' :: rest) = none := by
    simp [blanks?, blankLength, noBlank]
  have real : realLexeme? (initial :: others ++ ' ' :: rest) = none := by
    simp [realLexeme?, Literal.real?, Literal.groupLength, noDigit]
  have integer : integerLexeme? (initial :: others ++ ' ' :: rest) = none := by
    simp [integerLexeme?, integer?_eq_none _ noDigit]
  rw [lexeme?, blanks, real, integer, named]
  rfl

/-- The blank in front of an identifier is no longer than one character. -/
theorem lexeme?_blank {name : String} (identifier : Text.isIdentifier name = true)
    (rest : List Char) : lexeme? (' ' :: (name.toList ++ rest)) = some (.blanks, 1) := by
  obtain ⟨initial, others, characters, start⟩ := Text.exists_cons_of_isIdentifier identifier
  have length : blankLength (' ' :: (name.toList ++ rest)) = 1 := by
    have space : Text.isBlank ' ' = true := by decide
    simp [blankLength, characters, space, Text.isBlank_eq_false_of_isIdentifierStart start]
  rw [lexeme?, blanks?, length]
  rfl

/-! ## The tokens of a template that prints a name -/

/-- The tokens behind a name. -/
def endTokens (second : Nat) : Lexed := ⟨[⟨.printEnd, second⟩], none⟩

/-- The tokens behind the opening mark. -/
def nameTokens (name : String) (first second : Nat) : Lexed :=
  Lexed.prepend [⟨.name name, first⟩] (endTokens second)

/-- All tokens. -/
def printTokens (name : String) (first second : Nat) : Lexed :=
  Lexed.prepend [⟨.printBegin, 1⟩] (nameTokens name first second)

theorem readFrom_print_mark (rest : List Char) :
    readFrom .default .text .start [] ('\x7b' :: '\x7b' :: ' ' :: rest) =
      Lexed.prepend [⟨.printBegin, 1⟩]
        (readFrom .default (.tag .print) (Position.start.after ['\x7b', '\x7b']) []
          (' ' :: rest)) := by
  rw [readFrom]
  rfl

theorem readFrom_print_end (position : Position) :
    ∃ second, readFrom .default (.tag .print) position [] [' ', '\x7d', '\x7d'] =
      endTokens second := by
  have ends : endingLength? .default .print ['\x7d', '\x7d'] = some 2 := rfl
  have blank : lexeme? [' ', '\x7d', '\x7d'] = some (.blanks, 1) := rfl
  rw [readFrom_tag_blanks rfl blank]
  simp only [Nat.sub_self, List.take_zero, List.drop_zero]
  rw [readFrom_tag_ending ends, readFrom]
  exact ⟨_, rfl⟩

theorem readFrom_print_name {name : String} (identifier : Text.isIdentifier name = true)
    (position : Position) :
    ∃ first second, readFrom .default (.tag .print) position []
      (name.toList ++ [' ', '\x7d', '\x7d']) = nameTokens name first second := by
  have word := lexeme?_append_blank identifier ['\x7d', '\x7d']
  obtain ⟨initial, others, characters, start⟩ := Text.exists_cons_of_isIdentifier identifier
  have goesOn : endingLength? .default .print
      (initial :: (others ++ [' ', '\x7d', '\x7d'])) = none := by
    have minus : '-' ≠ initial := by
      rintro rfl
      exact absurd start (by decide)
    have brace : '\x7d' ≠ initial := by
      rintro rfl
      exact absurd start (by decide)
    simp [endingLength?, printClosing, minus, brace]
  have behind : (others ++ [' ', '\x7d', '\x7d']).drop ((initial :: others).length - 1) =
      [' ', '\x7d', '\x7d'] := by simp
  rw [characters, List.cons_append] at word
  rw [characters, List.cons_append, readFrom_tag_name goesOn word, behind]
  obtain ⟨second, ends⟩ := readFrom_print_end (position.after (initial ::
    (others ++ [' ', '\x7d', '\x7d']).take ((initial :: others).length - 1)))
  exact ⟨position.line, second, congrArg (Lexed.prepend _) ends⟩

theorem unifyNewlines_eq_self {cs : List Char} (unbroken : '\r' ∉ cs) :
    Text.unifyNewlines cs = cs := by
  fun_induction Text.unifyNewlines cs <;> simp_all

theorem ofSource_printOf {name : String} (identifier : Text.isIdentifier name = true) :
    ∃ first second, Lexed.ofSource .default (printOf name) = printTokens name first second := by
  have characters : (printOf name).toList =
      '\x7b' :: '\x7b' :: ' ' :: (name.toList ++ [' ', '\x7d', '\x7d']) := by
    simp [printOf, String.toList_append]
  have unbroken : '\r' ∉ (printOf name).toList := by
    have outside := Text.notMem_of_isIdentifier identifier
      (by decide : Text.isIdentifierPart '\r' = false)
    simp [characters, outside]
  obtain ⟨first, second, named⟩ := readFrom_print_name identifier
    ((Position.start.after ['\x7b', '\x7b']).after
      (' ' :: (name.toList ++ [' ', '\x7d', '\x7d']).take 0))
  rw [Lexed.ofSource, unifyNewlines_eq_self unbroken, characters, readFrom_print_mark,
    readFrom_tag_blanks rfl (lexeme?_blank identifier _)]
  exact ⟨first, second, congrArg (Lexed.prepend _) named⟩

end Lexer

namespace Parser

open Lexer (endTokens nameTokens printTokens)

variable {α β : Type} {lexed middle rest : Lexed}

/-! ## Parsers that answer -/

/-- A parser has an answer and leaves some tokens, however many there are in the template. -/
def Reads (parser : Parser α) (lexed : Lexed) (answer : α) (rest : Lexed) : Prop :=
  ∀ total, (parser.run total).run lexed = .ok (answer, rest)

theorem Reads.bind {parser : Parser α} {next : α → Parser β} {answer : α} {result : β}
    (reads : Reads parser lexed answer middle) (goesOn : Reads (next answer) middle result rest) :
    Reads (parser >>= next) lexed result rest := by
  intro total
  rw [ReaderT.run_bind, StateT.run_bind, reads total]
  exact goesOn total

theorem Reads.iterateWithin_done {step : α → Parser (Option α)} {state : α}
    (reads : Reads (step state) lexed none rest) (bound : Nat) :
    Reads (iterateWithin step (bound + 1) state) lexed state rest :=
  reads.bind fun _ => rfl

theorem Reads.iterate_done {step : α → Parser (Option α)} {state : α}
    (reads : Reads (step state) lexed none rest) : Reads (iterate step state) lexed state rest :=
  fun total => reads.iterateWithin_done total total

/-- The last round takes nothing, so that it does not matter whether the bound allows it. -/
theorem Reads.iterate_once {step : α → Parser (Option α)} {state : α} (next : α)
    (reads : Reads (step state) lexed (some next) rest) (done : Reads (step next) rest none rest) :
    Reads (iterate step state) lexed next rest := by
  intro total
  have ends : Reads (iterateWithin step total next) rest next rest := by
    cases total with
    | zero => exact fun _ => rfl
    | succ bound => exact done.iterateWithin_done bound
  have both : Reads (iterateWithin step (total + 1) state) lexed next rest := reads.bind ends
  exact both total

/-! ## An expression that is a name

The levels of precedence from operands up to comparisons look at the kinds of tokens only, and so do
those from conjunctions on once the name has been read.  In between a name may be the operator of
negations. -/

variable {name : String} {first second : Nat}

theorem reads_comparisons (nested : Parser Expression) :
    Reads (comparisons nested) (nameTokens name first second) (ofName name) (endTokens second) :=
  fun _ => rfl

theorem reads_skipName {word : String} (other : name ≠ word) :
    Reads (skipName word) (nameTokens name first second) false (nameTokens name first second) := by
  have found : Reads (isName [word]) (nameTokens name first second) false
      (nameTokens name first second) := by
    intro total
    have different : decide (name ∈ [word]) = false := by simpa using other
    change Except.ok (decide (name ∈ [word]), nameTokens name first second) = _
    rw [different]
  exact found.bind fun _ => rfl

theorem reads_negations (operand : name ≠ "not") (nested : Parser Expression) :
    Reads (negations nested) (nameTokens name first second) (ofName name) (endTokens second) := by
  have count : Reads (iterate (fun count => do
      if ← skipName "not" then return some (count + 1) else return none) 0)
      (nameTokens name first second) 0 (nameTokens name first second) :=
    Reads.iterate_done ((reads_skipName operand).bind fun _ => rfl)
  exact count.bind ((reads_comparisons nested).bind fun _ => rfl)

theorem reads_disjunctions (operand : name ≠ "not") (nested : Parser Expression) :
    Reads (disjunctions nested) (nameTokens name first second) (ofName name)
      (endTokens second) := by
  have conjunction : Reads (conjunctions nested) (nameTokens name first second) (ofName name)
      (endTokens second) :=
    (reads_negations operand nested).bind (Reads.iterate_done fun _ => rfl)
  exact conjunction.bind (Reads.iterate_done fun _ => rfl)

theorem reads_expression (operand : name ≠ "not") :
    Reads expression (nameTokens name first second) (ofName name) (endTokens second) := by
  have line : Reads currentLine (nameTokens name first second) first
      (nameTokens name first second) := fun _ => rfl
  exact line.bind ((reads_disjunctions operand _).bind
    ((Reads.iterate_done fun _ => rfl).bind fun _ => rfl))

theorem reads_tuple (operand : name ≠ "not") :
    Reads (tuple expression false []) (nameTokens name first second) (ofName name)
      (endTokens second) := by
  have begins : Reads (isTupleEnd []) (nameTokens name first second) false
      (nameTokens name first second) := fun _ => rfl
  exact begins.bind ((reads_expression operand).bind
    ((Reads.iterate_done fun _ => rfl).bind fun _ => rfl))

/-! ## The whole template -/

theorem reads_template (operand : name ≠ "not") :
    Reads template (printTokens name first second) [.output [.print (ofName name)]] ⟨[], none⟩ := by
  intro total
  have nodes : Reads (nodesWithin (total + 1) []) (printTokens name first second)
      [.output [.print (ofName name)]] ⟨[], none⟩ := by
    have marked : Reads current? (printTokens name first second) (some .printBegin)
        (printTokens name first second) := fun _ => rfl
    have opened : Reads advance (printTokens name first second) ()
        (nameTokens name first second) := fun _ => rfl
    refine Reads.bind (Reads.iterate_once [.output [.print (ofName name)]] ?_ fun _ => rfl)
      fun _ => rfl
    exact marked.bind (opened.bind ((reads_tuple operand).bind fun _ => rfl))
  exact nodes total

/-- The one operator among the names lacks its operand. -/
theorem template_not : (template.run 3).run (printTokens "not" first second) =
    .error (.noOperand Token.Kind.printEnd.description) := rfl

end Parser

/-- A template that prints a name is read as that, unless the name is an operator. -/
theorem Node.ofSource_printOf {name : String} (identifier : Text.isIdentifier name = true) :
    Node.ofSource .default (printOf name) =
      if name = "not" then .error (.noOperand Token.Kind.printEnd.description)
      else .ok [.output [.print (Parser.ofName name)]] := by
  obtain ⟨first, second, lexed⟩ := Lexer.ofSource_printOf identifier
  rw [Node.ofSource, lexed]
  by_cases operator : name = "not"
  · rw [operator, if_pos rfl]
    exact congrArg (Except.map Prod.fst) Parser.template_not
  · rw [if_neg operator]
    exact congrArg (Except.map Prod.fst) (Parser.reads_template operator 3)

variable {finalize : Value → Value} {context : OrderedMap Value} {name text : String}
  {value : Value}

/-- The preparation leaves a variable to the expansion. -/
theorem Node.preparedAll_variable (finalize : Value → Value) (name : String) :
    preparedAll finalize false [.output [.print (.variable name)]] =
      .ok [.output [.print (.variable name)]] := rfl

/-- The preparation writes a constant out. -/
theorem Node.preparedAll_constant (shown : (finalize value).asText = .ok text) :
    preparedAll finalize false [.output [.print (.constant value)]] =
      .ok [.output [.data text]] := by
  have settled : Piece.settled finalize (.print (.constant value)) = .ok (.data text) := by
    change Preparation.ofEvaluation (do return Piece.data (← value.printed finalize)) = _
    rw [Value.printed, shown]
    rfl
  have prepares : Node.prepared finalize false (.output [.print (.constant value)]) =
      .ok (.output [.data text]) := by
    rw [Node.prepared, List.mapM_cons, settled]
    rfl
  rw [preparedAll, prepares]
  rfl

/-! ## The scope of a template that prints a name -/

theorem definition?_eq (given : context.get? name = some value) (frames : List Frame) :
    Scope.definition? ⟨context.entries, frames⟩ name = some value := by
  unfold Scope.definition?
  rw [show (context.entries.find? (·.1 == name)).map Prod.snd = some value from given]
  rfl

/-- A name that is printed has a place behind that of the template itself. -/
theorem layoutOf_print (free : reservedName ≠ name) (values : List (String × Value)) :
    (Scope.ofDefinitions values).layoutOf [reservedName] [.output [.print (.variable name)]] =
      ⟨⟨[(reservedName, .given), (name, .defined)], by simpa using free⟩, [reservedName]⟩ := by
  simp [Scope.layoutOf, Layout.giving, Layout.give, Layout.empty, Layout.withNode,
    Layout.withNodes, Layout.readAll, Layout.read, OrderedMap.set, OrderedMap.setIn,
    OrderedMap.empty, OrderedMap.contains, Piece.names, Expression.names, Scope.knows,
    Scope.ofDefinitions, free]

/-- The value of the name comes into its place last, so that it is found first, even if the normal
form of the name were the reserved one. -/
theorem rootScope_print (free : reservedName ≠ name) (given : context.get? name = some value) :
    ∃ others, rootScope [.output [.print (.variable name)]] context =
      ⟨context.entries, [⟨[reservedName, name],
        (Text.normalForm name, value) :: others⟩]⟩ := by
  have found := definition?_eq given []
  have scope : rootScope [.output [.print (.variable name)]] context =
      (Scope.ofDefinitions context.entries).enter
        ((Scope.ofDefinitions context.entries).layoutOf [reservedName]
          [.output [.print (.variable name)]]) [(reservedName, .builtin .template)] := rfl
  rw [scope, layoutOf_print free]
  simp [Scope.enter, Scope.push, Scope.start, Scope.set, Scope.begin, Scope.ofDefinitions,
    Frame.fill, Frame.set, Frame.clear, OrderedMap.keys, found]

theorem value_rootScope (free : reservedName ≠ name) (given : context.get? name = some value) :
    (rootScope [.output [.print (.variable name)]] context).value name = value := by
  obtain ⟨others, scope⟩ := rootScope_print free given
  simp [scope, Scope.value, Scope.value?, Frame.value?]

/-! ## Expanding the template -/

theorem expandNodes_piece {piece : Piece} (free : context.contains reservedName = false)
    (expands : piece.expand finalize (rootScope [.output [piece]] context) = .ok text) :
    expandNodes finalize [.output [piece]] context = .ok text := by
  simp only [expandNodes, free, Node.expandAll, Node.expand, List.mapM_cons, List.mapM_nil,
    expands]
  simp [bind, Except.bind, pure, Except.pure, String.join]

theorem expandNodes_variable (given : context.get? name = some value)
    (free : context.contains reservedName = false)
    (shown : (finalize value).asText = .ok text) :
    expandNodes finalize [.output [.print (.variable name)]] context = .ok text := by
  have other : reservedName ≠ name := by
    rintro rfl
    have outside := List.any_eq_false.mp free _ (OrderedMap.get?_eq_some_iff.mp given)
    exact outside (beq_self_eq_true reservedName)
  refine expandNodes_piece free ?_
  rw [Piece.expand, Expression.evaluate, value_rootScope other given]
  exact shown

theorem expandNodes_reserved (nodes : List Node)
    (reserved : context.contains reservedName = true) :
    expandNodes finalize nodes context = .error (.reservedDefinition reservedName) := by
  simp only [expandNodes, reserved]
  rfl

/-! ## The interpreter as an engine -/

theorem render_default (finalize : Value → Value) (template : String)
    (context : OrderedMap Value) :
    render finalize .default template context =
      (expand finalize .default template context).mapError ExpansionError.toFailure := rfl

theorem render_printOf (identifier : Text.isIdentifier name = true) (operand : name ≠ "not")
    {nodes : List Node}
    (prepares : Node.preparedAll finalize false [.output [.print (Parser.ofName name)]] =
      .ok nodes) (expands : expandNodes finalize nodes context = .ok text) :
    render finalize .default (printOf name) context = .ok text := by
  rw [render_default]
  unfold expand
  rw [Node.ofSource_printOf identifier, if_neg operand]
  simp only [Except.mapError, bind, Except.bind, prepares, expands]

theorem render_reserved (template : String) (reserved : context.contains reservedName = true) :
    ∃ failure, render finalize .default template context = .error failure := by
  rw [render_default]
  unfold expand
  cases Node.ofSource Settings.default template with
  | error fault => exact ⟨_, rfl⟩
  | ok nodes =>
      simp only [Except.mapError, bind, Except.bind]
      cases Node.preparedAll finalize false nodes with
      | error rejection => exact ⟨_, rfl⟩
      | ok prepared =>
          simp only [expandNodes_reserved prepared reserved]
          exact ⟨_, rfl⟩

theorem render_operator (finalize : Value → Value) (context : OrderedMap Value) :
    ∃ failure, render finalize .default (printOf "not") context = .error failure := by
  rw [render_default]
  unfold expand
  rw [Node.ofSource_printOf (by decide), if_pos rfl]
  exact ⟨_, rfl⟩

theorem asText_integer {value : Int} (short : Decimal.exceedsWriting value = false) :
    (Value.integer value).asText = .ok (toString value) := by
  have writable : (Value.integer value).isWritable = true := by
    simp only [Value.isWritable, short, Bool.not_false]
  simp only [Value.asText, Value.asWritten, writable, if_true]
  rfl

theorem output_eq_ok_iff : value.output = .ok text ↔ value.asText = .ok text := by
  unfold Value.output
  cases value.asText <;> simp [Except.mapError]

/-- The interpreter prints names as engines do. -/
theorem printsNames_interpreter {σ : Type} : (interpreter : Engine (StateM σ)).PrintsNames where
  text_ofText _ := rfl
  text_integer value short := by
    rw [ofLiteral_interpreter, text_interpreter]
    exact output_eq_ok_iff.mpr (asText_integer short)
  text_nothing := rfl
  truth?_bool _ := rfl
  truth?_integer _ := rfl
  truth?_nothing := rfl
  prints_variable finalize name context _ _ state plain noWord free given shown := by
    have unnamed : Parser.ofName name = .variable name := by
      simp only [wordNames, List.mem_cons, not_or] at noWord
      simp [Parser.ofName, noWord]
    have operand : name ≠ "not" := by
      rintro rfl
      exact noWord (by decide)
    have prepares : Node.preparedAll finalize false [.output [.print (Parser.ofName name)]] =
        .ok [.output [.print (.variable name)]] := by
      rw [unnamed]
      exact Node.preparedAll_variable finalize name
    have expands := expandNodes_variable given free (output_eq_ok_iff.mp shown)
    exact (answer_interpreter finalize .default (printOf name) context state).trans
      (render_printOf plain.1 operand prepares expands)
  prints_constant finalize name value context text state known free shown := by
    have prepares : Node.preparedAll finalize false
        [.output [.print (.constant value)]] = .ok [.output [.data text]] :=
      Node.preparedAll_constant (output_eq_ok_iff.mp shown)
    have constant : Text.isIdentifier name = true ∧ name ≠ "not" ∧
        Parser.ofName name = .constant value := by
      simp only [List.mem_cons, Prod.mk.injEq, List.not_mem_nil, or_false] at known
      rcases known with known | known | known | known | known | known <;>
        obtain ⟨rfl, rfl⟩ := known <;> exact ⟨by decide, by decide, rfl⟩
    rw [← constant.2.2] at prepares
    exact (answer_interpreter finalize .default (printOf name) context state).trans
      (render_printOf constant.1 constant.2.1 prepares (expandNodes_piece free rfl))
  refuses_operator finalize context state := by
    obtain ⟨failure, fails⟩ := render_operator finalize context
    exact ⟨failure, (answer_interpreter finalize .default _ context state).trans fails⟩
  refuses_self finalize template context state reserved := by
    obtain ⟨failure, fails⟩ : ∃ failure, render finalize .default template context =
        .error failure := render_reserved template reserved
    exact ⟨failure, (answer_interpreter finalize .default template context state).trans fails⟩

end ShaderVariants.Template
