import ShaderVariants.Proofs.LexicalGrammar

/-!
# Reading along the lexical grammar

What the readers of gaps, strings and tokens do with each form of the lexical grammar, whatever
stands behind it, and so what becomes of a text.  As every text splits to its end or up to a place
from which nothing can be read, its tokens are those that it splits into, and its fault is that of
the place.
-/

namespace ShaderVariants

open Lexical

/-- Keywords are words. -/
theorem Keyword.begins_spelling (keyword : Keyword) :
    ∃ c word, keyword.spelling.toList = c :: word ∧ Text.isLetter c = true ∧
      ∀ c ∈ word, Text.isWordCharacter c = true := by
  cases keyword <;> exact ⟨_, _, rfl, by decide, List.all_eq_true.mp (by decide)⟩

/-- What was read, with some characters in front. -/
def Scan.prepend (text : List Char) (scan : Scan (List Char)) : Scan (List Char) :=
  { scan with result := (text ++ ·) <$> scan.result }

theorem Scan.prepend_nil (scan : Scan (List Char)) : scan.prepend [] = scan := by
  obtain ⟨result, cursor⟩ := scan
  cases result <;> rfl

theorem Scan.prepend_prepend (first second : List Char) (scan : Scan (List Char)) :
    (scan.prepend second).prepend first = scan.prepend (first ++ second) := by
  obtain ⟨result, cursor⟩ := scan
  cases result <;> simp [prepend]

namespace Cursor

/-! ## Gaps -/

theorem skipGapFrom_blank {c : Char} (blank : Text.isBlank c = true) (position : Position)
    (cs : List Char) :
    skipGapFrom .blanks position (c :: cs) = skipGapFrom .blanks (position.step c) cs := by
  have noSlash : c ≠ '/' := by
    rintro rfl
    cases blank
  rw [skipGapFrom]
  · rw [if_pos blank]
  · intro rest first
    exact (noSlash first).elim
  · intro rest first
    exact (noSlash first).elim

theorem skipGapFrom_lineComment {body : List Char} (inLine : '\n' ∉ body) (position : Position)
    (cs : List Char) :
    skipGapFrom .lineComment position (body ++ '\n' :: cs) =
      skipGapFrom .blanks (position.after (body ++ ['\n'])) cs := by
  induction body generalizing position with
  | nil => rfl
  | cons c body ih =>
      obtain ⟨first, others⟩ : '\n' ≠ c ∧ '\n' ∉ body := by simpa using inLine
      rw [List.cons_append, skipGapFrom, if_neg (Ne.symm first), ih others]
      rfl

theorem skipGapFrom_lastComment {body : List Char} (inLine : '\n' ∉ body) (position : Position) :
    skipGapFrom .lineComment position body = ⟨.ok (), ⟨position.after body, []⟩⟩ := by
  induction body generalizing position with
  | nil => rfl
  | cons c body ih =>
      obtain ⟨first, others⟩ : '\n' ≠ c ∧ '\n' ∉ body := by simpa using inLine
      rw [skipGapFrom, if_neg (Ne.symm first), ih others]
      rfl

theorem skipGapFrom_blockComment_cons {c : Char} {cs : List Char}
    (notClosed : ¬['*', '/'] <+: c :: cs) (opening position : Position) :
    skipGapFrom (.blockComment opening) position (c :: cs) =
      skipGapFrom (.blockComment opening) (position.step c) cs := by
  rw [skipGapFrom]
  intro rest first others
  exact notClosed ⟨rest, by rw [first, others]; rfl⟩

theorem skipGapFrom_blockComment {body : List Char} (notClosed : ¬['*', '/'] <:+: body)
    (opening position : Position) (cs : List Char) :
    skipGapFrom (.blockComment opening) position (body ++ '*' :: '/' :: cs) =
      skipGapFrom .blanks (position.after (body ++ ['*', '/'])) cs := by
  induction body generalizing position with
  | nil => rfl
  | cons c body ih =>
      rw [List.infix_cons_iff, not_or] at notClosed
      obtain ⟨first, others⟩ := notClosed
      have early : ¬['*', '/'] <+: c :: (body ++ '*' :: '/' :: cs) := by
        intro closes
        cases body with
        | nil => simp at closes
        | cons next body =>
            apply first
            simpa using closes
      rw [List.cons_append, skipGapFrom_blockComment_cons early, ih others]
      rfl

theorem skipGapFrom_unclosed {body : List Char} (notClosed : ¬['*', '/'] <:+: body)
    (opening position : Position) :
    skipGapFrom (.blockComment opening) position body =
      ⟨.error (opening.fault .unclosedComment), ⟨position.after body, []⟩⟩ := by
  induction body generalizing position with
  | nil => rfl
  | cons c body ih =>
      rw [List.infix_cons_iff, not_or] at notClosed
      rw [skipGapFrom_blockComment_cons notClosed.1, ih notClosed.2]
      rfl

theorem skipGapFrom_part {part : List Char} (isPart : IsGapPart part) (position : Position)
    (cs : List Char) :
    skipGapFrom .blanks position (part ++ cs) = skipGapFrom .blanks (position.after part) cs := by
  cases isPart with
  | blank isBlank => exact skipGapFrom_blank isBlank position cs
  | @lineComment body inLine =>
      have comment := skipGapFrom_lineComment inLine ((position.step '/').step '/') cs
      simpa [skipGapFrom, Position.after] using comment
  | @blockComment body notClosed =>
      have comment :=
        skipGapFrom_blockComment notClosed position ((position.step '/').step '*') cs
      simpa [skipGapFrom, Position.after] using comment

theorem skipGapFrom_gap {gap : List Char} (isGap : IsGap gap) (position : Position)
    (cs : List Char) :
    skipGapFrom .blanks position (gap ++ cs) = skipGapFrom .blanks (position.after gap) cs := by
  induction isGap generalizing position with
  | nil => rfl
  | @more part rest isPart _ ih =>
      rw [List.append_assoc, skipGapFrom_part isPart, ih]
      simp [Position.after]

theorem skipGapFrom_last {gap : List Char} (isLast : IsLastGap gap) (position : Position) :
    skipGapFrom .blanks position gap = ⟨.ok (), ⟨position.after gap, []⟩⟩ := by
  cases isLast with
  | closed isGap =>
      have skipped := skipGapFrom_gap isGap position []
      rw [List.append_nil] at skipped
      rw [skipped]
      rfl
  | @lineComment gap body isGap inLine =>
      rw [skipGapFrom_gap isGap, skipGapFrom, skipGapFrom_lastComment inLine]
      simp [Position.after]

/-- Nothing is passed over where no gap begins. -/
theorem skipGapFrom_stop {c : Char} {rest : List Char} (noBlank : Text.isBlank c = false)
    (noComment : ¬BeginsComment (c :: rest)) (position : Position) :
    skipGapFrom .blanks position (c :: rest) = ⟨.ok (), ⟨position, c :: rest⟩⟩ := by
  rw [skipGapFrom]
  · simp [noBlank]
  · intro others first second
    exact noComment (.inl ⟨others, by rw [first, second]; rfl⟩)
  · intro others first second
    exact noComment (.inr ⟨others, by rw [first, second]; rfl⟩)

/-! ## Strings -/

theorem unescape_of_escapes {c written : Char} (escapes : Escapes c written) :
    unescape c = written := by
  cases escapes with
  | newline => rfl
  | tab => rfl
  | itself noNewline noTab => simp [unescape, noNewline, noTab]

theorem readStringFrom_plain {c : Char} (noQuote : c ≠ '"') (noBackslash : c ≠ '\\')
    (opening position : Position) (cs : List Char) :
    readStringFrom opening position (c :: cs) =
      (readStringFrom opening (position.step c) cs).prepend [c] := by
  rw [readStringFrom]
  · rfl
  · intro first
    exact (noQuote first).elim
  · intro d rest first
    exact (noBackslash first).elim
  · intro first
    exact (noBackslash first).elim

theorem readStringFrom_escaped {c written : Char} (escapes : Escapes c written)
    (opening position : Position) (cs : List Char) :
    readStringFrom opening position ('\\' :: c :: cs) =
      (readStringFrom opening ((position.step '\\').step c) cs).prepend [written] := by
  rw [readStringFrom, unescape_of_escapes escapes]
  rfl

/-- What stands in front in a string is read in front of whatever comes of the rest. -/
theorem readStringFrom_append {body text : List Char} (unescapes : Unescapes body text)
    (opening position : Position) (cs : List Char) :
    readStringFrom opening position (body ++ cs) =
      (readStringFrom opening (position.after body) cs).prepend text := by
  induction unescapes generalizing position with
  | nil => exact (Scan.prepend_nil _).symm
  | plain noQuote noBackslash _ ih =>
      rw [List.cons_append, readStringFrom_plain noQuote noBackslash, ih, Scan.prepend_prepend]
      rfl
  | escaped escapes _ ih =>
      rw [List.cons_append, List.cons_append, readStringFrom_escaped escapes, ih,
        Scan.prepend_prepend]
      rfl

theorem readStringFrom_closed {body text : List Char} (unescapes : Unescapes body text)
    (opening position : Position) (cs : List Char) :
    readStringFrom opening position (body ++ '"' :: cs) =
      ⟨.ok text, ⟨position.after (body ++ ['"']), cs⟩⟩ := by
  rw [readStringFrom_append unescapes]
  simp [readStringFrom, Scan.prepend, Position.after]

theorem result_readStringFrom_unclosed {body : List Char} (unclosed : IsUnclosed body)
    (opening position : Position) :
    (readStringFrom opening position body).result = .error (opening.fault .unclosedString) := by
  cases unclosed with
  | plain unescapes =>
      have read := readStringFrom_append unescapes opening position []
      rw [List.append_nil] at read
      rw [read]
      rfl
  | backslash unescapes =>
      rw [readStringFrom_append unescapes]
      rfl

/-! ## Tokens -/

theorem readWord_append {word rest : List Char}
    (continues : ∀ c ∈ word, Text.isWordCharacter c = true)
    (stops : ∀ c ∈ rest.head?, Text.isWordCharacter c = false) (position : Position) :
    (⟨position, word ++ rest⟩ : Cursor).readWord = (word, ⟨position.after word, rest⟩) := by
  have ending : rest.takeWhile Text.isWordCharacter = [] ∧
      rest.dropWhile Text.isWordCharacter = rest := by
    cases rest with
    | nil => exact ⟨rfl, rfl⟩
    | cons c rest => simp [stops c rfl]
  unfold readWord
  rw [List.takeWhile_append_of_pos continues, List.dropWhile_append_of_pos continues, ending.1,
    ending.2, List.append_nil]

theorem ne_quote_of_isWordCharacter {c : Char} (word : Text.isWordCharacter c = true) :
    c ≠ '"' := by
  rintro rfl
  cases word

theorem wordKind_keyword (keyword : Keyword) :
    wordKind (String.ofList keyword.spelling.toList) = .keyword keyword := by
  cases keyword <;> rfl

theorem wordKind_name {word : List Char}
    (free : ∀ keyword : Keyword, keyword.spelling.toList ≠ word) :
    wordKind (String.ofList word) = .identifier := by
  have none : Keyword.ofSpelling? (String.ofList word) = none := by
    rw [Keyword.ofSpelling?, List.find?_eq_none]
    intro keyword _ spelled
    apply free keyword
    rw [eq_of_beq spelled, String.toList_ofList]
  rw [wordKind, none]

theorem readToken_number {c : Char} {word rest : List Char} (digit : Text.isDigit c = true)
    (continues : ∀ c ∈ word, Text.isWordCharacter c = true)
    (stops : ∀ c ∈ rest.head?, Text.isWordCharacter c = false) (position : Position) :
    readToken position c (word ++ rest) =
      ⟨.ok (tokenAt position .number (c :: word)), ⟨position.after (c :: word), rest⟩⟩ := by
  have noQuote := ne_quote_of_isWordCharacter (isWordCharacter_of_isDigit digit)
  unfold readToken
  dsimp only
  rw [if_neg noQuote, if_pos digit, readWord_append continues stops]
  rfl

theorem readToken_word {c : Char} {word rest : List Char} {kind : Token.Kind}
    (begins : Text.isLetter c = true ∨ c = '_')
    (continues : ∀ c ∈ word, Text.isWordCharacter c = true)
    (stops : ∀ c ∈ rest.head?, Text.isWordCharacter c = false)
    (known : wordKind (String.ofList (c :: word)) = kind) (position : Position) :
    readToken position c (word ++ rest) =
      ⟨.ok (tokenAt position kind (c :: word)), ⟨position.after (c :: word), rest⟩⟩ := by
  have noQuote := ne_quote_of_isWordCharacter (isWordCharacter_of_begins begins)
  have noDigit : ¬Text.isDigit c = true := by
    rcases begins with letter | rfl
    · simp [Text.isDigit_eq_false_of_isLetter letter]
    · decide
  unfold readToken
  dsimp only
  rw [if_neg noQuote, if_neg noDigit, if_pos (by simpa using begins),
    readWord_append continues stops, known]
  rfl

theorem readToken_mark (mark : PunctuationMark) (position : Position) (rest : List Char) :
    readToken position mark.character rest =
      ⟨.ok (tokenAt position (.mark mark) [mark.character]),
        ⟨position.after [mark.character], rest⟩⟩ := by
  cases mark <;> rfl

/-- A lexeme is read as its token, with nothing of what stands behind it. -/
theorem readToken_lexeme {lexeme value rest : List Char} {kind : Token.Kind}
    (isLexeme : IsLexeme lexeme kind value) (delimits : Delimits kind rest)
    (position : Position) :
    ∃ c cs, lexeme = c :: cs ∧ readToken position c (cs ++ rest) =
      ⟨.ok (tokenAt position kind value), ⟨position.after lexeme, rest⟩⟩ := by
  cases isLexeme with
  | @string body text unescapes =>
      refine ⟨_, _, rfl, ?_⟩
      rw [List.append_assoc, List.singleton_append, readToken, if_pos rfl,
        readStringFrom_closed unescapes]
      rfl
  | number isNumber =>
      obtain ⟨c, word, rfl, digit⟩ := isNumber.begins
      obtain ⟨-, continues⟩ := List.forall_mem_cons.mp isNumber.continues
      exact ⟨c, word, rfl, readToken_number digit continues (delimits trivial) position⟩
  | identifier isName =>
      obtain ⟨c, word, rfl, begins⟩ := isName.begins
      obtain ⟨-, continues⟩ := List.forall_mem_cons.mp isName.continues
      exact ⟨c, word, rfl, readToken_word begins continues (delimits trivial)
        (wordKind_name isName.free) position⟩
  | keyword keyword =>
      obtain ⟨c, word, spelled, letter, continues⟩ := Keyword.begins_spelling keyword
      have known := wordKind_keyword keyword
      rw [spelled] at known ⊢
      exact ⟨c, word, rfl, readToken_word (.inl letter) continues (delimits trivial) known
        position⟩
  | mark mark => exact ⟨_, _, rfl, readToken_mark mark position rest⟩

/-- No gap begins where a lexeme does. -/
theorem skipGapFrom_lexeme {lexeme value : List Char} {kind : Token.Kind}
    (isLexeme : IsLexeme lexeme kind value) (position : Position) (rest : List Char) :
    skipGapFrom .blanks position (lexeme ++ rest) = ⟨.ok (), ⟨position, lexeme ++ rest⟩⟩ := by
  have stop {c : Char} {cs : List Char} (noBlank : Text.isBlank c = false) (noSlash : c ≠ '/') :
      skipGapFrom .blanks position (c :: cs ++ rest) = ⟨.ok (), ⟨position, c :: cs ++ rest⟩⟩ := by
    refine skipGapFrom_stop noBlank ?_ position
    rintro (⟨others, same⟩ | ⟨others, same⟩) <;> exact noSlash (List.cons.inj same).1.symm
  have stopWord {c : Char} {cs : List Char} (word : Text.isWordCharacter c = true) :
      skipGapFrom .blanks position (c :: cs ++ rest) = ⟨.ok (), ⟨position, c :: cs ++ rest⟩⟩ := by
    refine stop (Text.isBlank_eq_false_of_isWordCharacter word) ?_
    rintro rfl
    cases word
  cases isLexeme with
  | string unescapes => exact stop (by decide) (by decide)
  | number isNumber =>
      obtain ⟨c, word, rfl, digit⟩ := isNumber.begins
      exact stopWord (isWordCharacter_of_isDigit digit)
  | identifier isName =>
      obtain ⟨c, word, rfl, begins⟩ := isName.begins
      exact stopWord (isWordCharacter_of_begins begins)
  | keyword keyword =>
      obtain ⟨c, word, spelled, letter, -⟩ := Keyword.begins_spelling keyword
      rw [spelled]
      exact stopWord (isWordCharacter_of_begins (.inl letter))
  | mark mark => cases mark <;> exact stop (by decide) (by decide)

/-! ## Texts -/

/-- One round of reading, without the facts that its end rests on. -/
theorem readTokens_eq (cursor : Cursor) :
    cursor.readTokens =
      match cursor.skipGap with
      | ⟨.error fault, stopped⟩ => ⟨[], some fault, stopped⟩
      | ⟨.ok (), ⟨position, []⟩⟩ => ⟨[tokenAt position .endOfInput []], none, ⟨position, []⟩⟩
      | ⟨.ok (), ⟨position, c :: rest⟩⟩ =>
        match readToken position c rest with
        | ⟨.error fault, stopped⟩ => ⟨[], some fault, stopped⟩
        | ⟨.ok token, next⟩ =>
          { next.readTokens with tokens := token :: next.readTokens.tokens } := by
  rw [readTokens]
  dsimp only
  generalize cursor.skipGap = gap
  obtain ⟨result, position, rest⟩ := gap
  cases result with
  | error fault => rfl
  | ok passed =>
      cases rest with
      | nil => rfl
      | cons c rest =>
          dsimp only
          generalize readToken position c rest = scan
          obtain ⟨result, next⟩ := scan
          cases result <;> rfl

/-- Reading on behind the tokens that a text splits into. -/
theorem readTokens_splits {passed text rest : List Char} {tokens : List Token}
    (splits : Splits passed text tokens rest) :
    ∃ front, passed ++ text = front ++ rest ∧
      readTokens ⟨.behind passed, text⟩ =
        let lexed := readTokens ⟨.behind front, rest⟩
        { lexed with tokens := tokens ++ lexed.tokens } := by
  induction splits with
  | nil => exact ⟨_, rfl, rfl⟩
  | @more passed gap lexeme text value rest kind tokens isGap isLexeme delimits _ ih =>
      obtain ⟨front, whole, reads⟩ := ih
      have skips : skipGap ⟨.behind passed, gap ++ (lexeme ++ text)⟩ =
          ⟨.ok (), ⟨.behind (passed ++ gap), lexeme ++ text⟩⟩ := by
        rw [skipGap, skipGapFrom_gap isGap, Position.after_behind, skipGapFrom_lexeme isLexeme]
      obtain ⟨c, cs, rfl, reads'⟩ := readToken_lexeme isLexeme delimits (.behind (passed ++ gap))
      refine ⟨front, by rw [← whole]; simp, ?_⟩
      rw [readTokens_eq, skips]
      dsimp only [List.cons_append]
      rw [reads', Position.after_behind]
      dsimp only
      rw [reads]

theorem readTokens_last {gap : List Char} (isLast : IsLastGap gap) (passed : List Char) :
    readTokens ⟨.behind passed, gap⟩ =
      ⟨[tokenAt (.behind (passed ++ gap)) .endOfInput []], none,
        ⟨.behind (passed ++ gap), []⟩⟩ := by
  rw [readTokens_eq, skipGap, skipGapFrom_last isLast, Position.after_behind]

theorem result_readToken_string {body : List Char} (unclosed : IsUnclosed body)
    (position : Position) :
    (readToken position '"' body).result = .error (position.fault .unclosedString) := by
  rw [readToken, if_pos rfl]
  dsimp only
  rw [result_readStringFrom_unclosed unclosed]
  rfl

theorem result_readToken_stray {c : Char} {rest : List Char} (stray : IsStray c rest)
    (position : Position) :
    (readToken position c rest).result = .error (position.fault (.strayCharacter c)) := by
  have noMark : PunctuationMark.ofCharacter? c = none := by
    rw [PunctuationMark.ofCharacter?, List.find?_eq_none]
    intro mark _ same
    exact stray.noMark mark (eq_of_beq same)
  unfold readToken
  dsimp only
  rw [if_neg stray.noQuote, if_neg (by simp [stray.noDigit]),
    if_neg (by simp [stray.noLetter, stray.noUnderscore]), noMark]

theorem fault_readTokens_of_readToken {cursor : Cursor} {position : Position} {c : Char}
    {rest : List Char} {fault : Fault}
    (skips : cursor.skipGap = ⟨.ok (), ⟨position, c :: rest⟩⟩)
    (fails : (readToken position c rest).result = .error fault) :
    cursor.readTokens.fault = some fault := by
  rw [readTokens_eq, skips]
  dsimp only
  generalize readToken position c rest = scan at fails
  obtain ⟨result, stopped⟩ := scan
  cases fails
  rfl

/-- Behind a gap at which nothing can be read there is a fault, and it shows there. -/
theorem fault_readTokens {gap rest : List Char} {cause : Fault.Cause} (isGap : IsGap gap)
    (unreadable : IsUnreadable rest cause) (passed : List Char) :
    (readTokens ⟨.behind passed, gap ++ rest⟩).fault =
      some ((Position.behind (passed ++ gap)).fault cause) := by
  have skips : skipGap ⟨.behind passed, gap ++ rest⟩ =
      skipGapFrom .blanks (.behind (passed ++ gap)) rest := by
    rw [skipGap, skipGapFrom_gap isGap, Position.after_behind]
  cases unreadable with
  | comment notClosed => rw [readTokens_eq, skips, skipGapFrom, skipGapFrom_unclosed notClosed]
  | @string body unclosed =>
      have noComment : ¬BeginsComment ('"' :: body) := by
        rintro (⟨others, same⟩ | ⟨others, same⟩) <;> simp at same
      rw [skipGapFrom_stop (by decide) noComment] at skips
      exact fault_readTokens_of_readToken skips (result_readToken_string unclosed _)
  | character stray =>
      rw [skipGapFrom_stop stray.noBlank stray.noComment] at skips
      exact fault_readTokens_of_readToken skips (result_readToken_stray stray _)

end Cursor

namespace Token

/-- Behind tokens and a last gap, a text has been read. -/
theorem ofText_of_splitsInto {text : String} {tokens : List Token}
    (splits : SplitsInto text.toList tokens) : ofText text = .ok tokens := by
  obtain ⟨inside, last, split, isLast, rfl⟩ := splits
  obtain ⟨front, whole, reads⟩ := Cursor.readTokens_splits split
  rw [List.nil_append] at whole
  have start : Cursor.start text.toList = ⟨.behind [], text.toList⟩ := rfl
  rw [ofText, start, reads, Cursor.readTokens_last isLast, ← whole]

theorem ofText_of_failsWith {text : String} {fault : Fault}
    (fails : FailsWith text.toList fault) : ofText text = .error fault := by
  obtain ⟨front, inside, gap, rest, cause, whole, split, isGap, unreadable, rfl⟩ := fails
  obtain ⟨before, place, reads⟩ := Cursor.readTokens_splits split
  have start : Cursor.start text.toList = ⟨.behind [], text.toList⟩ := rfl
  have ends := Cursor.fault_readTokens isGap unreadable before
  have same : before ++ gap = front := by
    rw [List.nil_append, whole, ← List.append_assoc] at place
    exact (List.append_cancel_right place).symm
  rw [ofText, start, reads]
  dsimp only
  rw [ends, same]

theorem splitsInto_or_failsWith (text : List Char) :
    (∃ tokens, SplitsInto text tokens) ∨ ∃ fault, FailsWith text fault := by
  obtain ⟨tokens, rest, splits, ending⟩ := exists_splits [] text
  rcases ending with isLast | ⟨gap, unread, cause, rfl, isGap, unreadable⟩
  · exact .inl ⟨_, tokens, rest, splits, isLast, rfl⟩
  · obtain ⟨front, whole, -⟩ := Cursor.readTokens_splits splits
    rw [List.nil_append, ← List.append_assoc] at whole
    exact .inr ⟨_, front ++ gap, tokens, gap, unread, cause, whole, splits, isGap, unreadable, rfl⟩

/-- A text is read as the tokens that it splits into, and refused with the fault that it fails
with. -/
theorem ofText_result (text : String) :
    (∀ tokens, ofText text = .ok tokens ↔ SplitsInto text.toList tokens) ∧
      ∀ fault, ofText text = .error fault ↔ FailsWith text.toList fault := by
  refine ⟨fun tokens => ⟨?_, ofText_of_splitsInto⟩, fun fault => ⟨?_, ofText_of_failsWith⟩⟩
  · intro read
    rcases splitsInto_or_failsWith text.toList with ⟨others, splits⟩ | ⟨fault, fails⟩
    · cases read.symm.trans (ofText_of_splitsInto splits)
      exact splits
    · cases read.symm.trans (ofText_of_failsWith fails)
  · intro refused
    rcases splitsInto_or_failsWith text.toList with ⟨tokens, splits⟩ | ⟨other, fails⟩
    · cases refused.symm.trans (ofText_of_splitsInto splits)
    · cases refused.symm.trans (ofText_of_failsWith fails)
      exact fails

end Token

end ShaderVariants
