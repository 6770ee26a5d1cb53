import Mathlib.Data.List.TakeWhile
import ShaderVariants.Proofs.CharacterClasses
import ShaderVariants.Token.Lexer

/-!
# The lexical grammar

How a declaration text falls into gaps and lexemes, said without a cursor.  A gap is made of blanks
and comments, a lexeme is what a token is written as.  Every text splits to its end, or up to a
place from which nothing can be read: a comment or a string that is not closed, or a character that
begins no token.
-/

namespace ShaderVariants

/-- The place behind some characters of a text.  Lines are counted by the newlines, columns by the
characters behind the last of them. -/
def Position.behind (passed : List Char) : Position where
  offset := passed.length
  line := 1 + passed.count '\n'
  column := 1 + (passed.reverse.takeWhile (· ≠ '\n')).length

theorem Position.step_behind (passed : List Char) (c : Char) :
    (behind passed).step c = behind (passed ++ [c]) := by
  by_cases newline : c = '\n'
  · simp [behind, step, newline, Nat.add_assoc]
  · simp [behind, step, newline, Nat.add_comm]

theorem Position.after_behind (passed cs : List Char) :
    (behind passed).after cs = behind (passed ++ cs) := by
  induction cs generalizing passed with
  | nil => simp [after]
  | cons c cs ih =>
      have step := ih (passed ++ [c])
      rw [List.append_assoc, List.singleton_append] at step
      rw [← step, ← step_behind]
      rfl

namespace Lexical

/-! ## Gaps -/

/-- A part of a gap that needs nothing behind it. -/
inductive IsGapPart : List Char → Prop where
  | blank {c : Char} (isBlank : Text.isBlank c = true) : IsGapPart [c]
  | lineComment {body : List Char} (inLine : '\n' ∉ body) :
      IsGapPart ('/' :: '/' :: (body ++ ['\n']))
  | blockComment {body : List Char} (notClosed : ¬['*', '/'] <:+: body) :
      IsGapPart ('/' :: '*' :: (body ++ ['*', '/']))

/-- Blanks and closed comments in any order. -/
inductive IsGap : List Char → Prop where
  | nil : IsGap []
  | more {part rest : List Char} (isPart : IsGapPart part) (isGap : IsGap rest) :
      IsGap (part ++ rest)

/-- A gap that the text ends with.  Its last comment may lack the newline. -/
inductive IsLastGap : List Char → Prop where
  | closed {gap : List Char} (isGap : IsGap gap) : IsLastGap gap
  | lineComment {gap body : List Char} (isGap : IsGap gap) (inLine : '\n' ∉ body) :
      IsLastGap (gap ++ '/' :: '/' :: body)

/-- A comment of either form begins here. -/
def BeginsComment (cs : List Char) : Prop := ['/', '/'] <+: cs ∨ ['/', '*'] <+: cs

/-! ## Lexemes -/

/-- The character that another one stands for behind a backslash. -/
inductive Escapes : Char → Char → Prop where
  | newline : Escapes 'n' '\n'
  | tab : Escapes 't' '\t'
  | itself {c : Char} (noNewline : c ≠ 'n') (noTab : c ≠ 't') : Escapes c c

/-- What stands between quotes, and the text that it writes. -/
inductive Unescapes : List Char → List Char → Prop where
  | nil : Unescapes [] []
  | plain {c : Char} {body text : List Char} (noQuote : c ≠ '"') (noBackslash : c ≠ '\\')
      (rest : Unescapes body text) : Unescapes (c :: body) (c :: text)
  | escaped {c written : Char} {body text : List Char} (escapes : Escapes c written)
      (rest : Unescapes body text) : Unescapes ('\\' :: c :: body) (written :: text)

/-- All that is left of a text, when a string that has begun does not end. -/
inductive IsUnclosed : List Char → Prop where
  | plain {body text : List Char} (unescapes : Unescapes body text) : IsUnclosed body
  | backslash {body text : List Char} (unescapes : Unescapes body text) :
      IsUnclosed (body ++ ['\\'])

/-- A number begins with a digit, in any script. -/
structure IsNumber (word : List Char) : Prop where
  begins : ∃ c rest, word = c :: rest ∧ Text.isDigit c = true
  continues : ∀ c ∈ word, Text.isWordCharacter c = true

/-- A name begins with a letter or an underscore, and is no keyword. -/
structure IsName (word : List Char) : Prop where
  begins : ∃ c rest, word = c :: rest ∧ (Text.isLetter c = true ∨ c = '_')
  continues : ∀ c ∈ word, Text.isWordCharacter c = true
  free : ∀ keyword : Keyword, keyword.spelling.toList ≠ word

/-- What a token of a kind and a text is written as. -/
inductive IsLexeme : List Char → Token.Kind → List Char → Prop where
  | string {body text : List Char} (unescapes : Unescapes body text) :
      IsLexeme ('"' :: (body ++ ['"'])) .string text
  | number {word : List Char} (isNumber : IsNumber word) : IsLexeme word .number word
  | identifier {word : List Char} (isName : IsName word) : IsLexeme word .identifier word
  | keyword (keyword : Keyword) :
      IsLexeme keyword.spelling.toList (.keyword keyword) keyword.spelling.toList
  | mark (mark : PunctuationMark) : IsLexeme [mark.character] (.mark mark) [mark.character]

/-- The kinds of tokens that are words: they would go on with any character of a word. -/
def IsWord : Token.Kind → Prop
  | .identifier | .number | .keyword _ => True
  | .string | .mark _ | .endOfInput => False

/-- What stands behind a token: behind a word, no character of a word. -/
def Delimits (kind : Token.Kind) (rest : List Char) : Prop :=
  IsWord kind → ∀ c ∈ rest.head?, Text.isWordCharacter c = false

/-! ## Texts -/

/-- The token of a kind and a text that begins at a place. -/
def tokenAt (position : Position) (kind : Token.Kind) (text : List Char) : Token :=
  ⟨kind, String.ofList text, position.line, position.column⟩

/-- Behind some characters, a text consists of lexemes with gaps in front of them and of some rest.
The tokens know where their lexemes begin. -/
inductive Splits : List Char → List Char → List Token → List Char → Prop where
  | nil {passed rest : List Char} : Splits passed rest [] rest
  | more {passed gap lexeme text value rest : List Char} {kind : Token.Kind}
      {tokens : List Token} (isGap : IsGap gap) (isLexeme : IsLexeme lexeme kind value)
      (delimits : Delimits kind text) (others : Splits (passed ++ gap ++ lexeme) text tokens rest) :
      Splits passed (gap ++ (lexeme ++ text))
        (tokenAt (.behind (passed ++ gap)) kind value :: tokens) rest

/-- A character that begins neither a gap nor a lexeme. -/
structure IsStray (c : Char) (rest : List Char) : Prop where
  noBlank : Text.isBlank c = false
  noComment : ¬BeginsComment (c :: rest)
  noQuote : c ≠ '"'
  noDigit : Text.isDigit c = false
  noLetter : Text.isLetter c = false
  noUnderscore : c ≠ '_'
  noMark : ∀ mark : PunctuationMark, mark.character ≠ c

/-- The rest of a text from which nothing can be read, and why. -/
inductive IsUnreadable : List Char → Fault.Cause → Prop where
  | comment {body : List Char} (notClosed : ¬['*', '/'] <:+: body) :
      IsUnreadable ('/' :: '*' :: body) .unclosedComment
  | string {body : List Char} (unclosed : IsUnclosed body) :
      IsUnreadable ('"' :: body) .unclosedString
  | character {c : Char} {rest : List Char} (stray : IsStray c rest) :
      IsUnreadable (c :: rest) (.strayCharacter c)

/-- A text splits to its end. -/
def SplitsInto (text : List Char) (tokens : List Token) : Prop :=
  ∃ inside last, Splits [] text inside last ∧ IsLastGap last ∧
    tokens = inside ++ [tokenAt (.behind text) .endOfInput []]

/-- A text splits up to a place from which nothing can be read, at which the fault shows. -/
def FailsWith (text : List Char) (fault : Fault) : Prop :=
  ∃ front inside gap rest cause, text = front ++ rest ∧ Splits [] text inside (gap ++ rest) ∧
    IsGap gap ∧ IsUnreadable rest cause ∧ fault = (Position.behind front).fault cause

/-! ## Every text splits -/

/-- A comment ends at the first closing mark behind its beginning, or not at all. -/
theorem exists_comment_end (cs : List Char) :
    (∃ body rest, cs = body ++ '*' :: '/' :: rest ∧ ¬['*', '/'] <:+: body) ∨
      ¬['*', '/'] <:+: cs := by
  induction cs with
  | nil => exact .inr (by simp)
  | cons c cs ih =>
      by_cases closes : ['*', '/'] <+: c :: cs
      · obtain ⟨rest, whole⟩ := closes
        exact .inl ⟨[], rest, whole.symm, by simp⟩
      · rcases ih with ⟨body, rest, rfl, notClosed⟩ | notClosed
        · refine .inl ⟨c :: body, rest, rfl, ?_⟩
          rw [List.infix_cons_iff, not_or]
          exact ⟨fun early => closes (early.trans (List.prefix_append (c :: body) _)), notClosed⟩
        · refine .inr ?_
          rw [List.infix_cons_iff, not_or]
          exact ⟨closes, notClosed⟩

theorem IsLastGap.cons {part gap : List Char} (isPart : IsGapPart part) (isLast : IsLastGap gap) :
    IsLastGap (part ++ gap) := by
  cases isLast with
  | closed isGap => exact .closed (.more isPart isGap)
  | lineComment isGap inLine =>
      rw [← List.append_assoc]
      exact .lineComment (IsGap.more isPart isGap) inLine

/-- Where a gap ends within a text: in front of a comment that is not closed, or of a character
that begins no gap. -/
inductive EndsGap : List Char → Prop where
  | comment {body : List Char} (notClosed : ¬['*', '/'] <:+: body) :
      EndsGap ('/' :: '*' :: body)
  | character {c : Char} {rest : List Char} (noBlank : Text.isBlank c = false)
      (noComment : ¬BeginsComment (c :: rest)) : EndsGap (c :: rest)

theorem exists_gap (cs : List Char) :
    IsLastGap cs ∨ ∃ gap rest, cs = gap ++ rest ∧ IsGap gap ∧ EndsGap rest := by
  induction h : cs.length using Nat.strongRecOn generalizing cs with
  | _ length ih =>
    subst h
    -- A part of a gap is passed over, and the rest is shorter.
    have pass {part : List Char} (isPart : IsGapPart part) (nonempty : part ≠ [])
        (rest : List Char) (whole : cs = part ++ rest) :
        IsLastGap cs ∨ ∃ gap rest, cs = gap ++ rest ∧ IsGap gap ∧ EndsGap rest := by
      have shorter : rest.length < cs.length := by
        have positive := List.length_pos_iff.mpr nonempty
        rw [whole, List.length_append]
        omega
      rcases ih _ shorter rest rfl with isLast | ⟨gap, behind, rfl, isGap, ends⟩
      · exact .inl (whole ▸ isLast.cons isPart)
      · exact .inr ⟨part ++ gap, behind, by rw [whole, List.append_assoc], .more isPart isGap, ends⟩
    cases cs with
    | nil => exact .inl (.closed .nil)
    | cons c cs =>
        by_cases blank : Text.isBlank c = true
        · exact pass (.blank blank) (by simp) cs rfl
        · by_cases comment : BeginsComment (c :: cs)
          · rcases comment with ⟨behind, whole⟩ | ⟨behind, whole⟩
            · by_cases newline : '\n' ∈ behind
              · obtain ⟨body, rest, rfl, inLine⟩ := List.eq_append_cons_of_mem newline
                exact pass (.lineComment inLine) (by simp) rest (by simp [← whole])
              · rw [← whole]
                exact .inl (.lineComment .nil newline)
            · rcases exists_comment_end behind with ⟨body, rest, rfl, notClosed⟩ | notClosed
              · exact pass (.blockComment notClosed) (by simp) rest (by simp [← whole])
              · rw [← whole]
                exact .inr ⟨[], _, rfl, .nil, .comment notClosed⟩
          · exact .inr ⟨[], _, rfl, .nil, .character (by simpa using blank) comment⟩

theorem exists_escapes (c : Char) : ∃ written, Escapes c written := by
  by_cases newline : c = 'n'
  · exact ⟨'\n', newline ▸ .newline⟩
  · by_cases tab : c = 't'
    · exact ⟨'\t', tab ▸ .tab⟩
    · exact ⟨c, .itself newline tab⟩

theorem IsUnclosed.cons {c : Char} {cs : List Char} (noQuote : c ≠ '"') (noBackslash : c ≠ '\\')
    (unclosed : IsUnclosed cs) : IsUnclosed (c :: cs) := by
  cases unclosed with
  | plain unescapes => exact .plain (.plain noQuote noBackslash unescapes)
  | backslash unescapes => exact .backslash (.plain noQuote noBackslash unescapes)

theorem IsUnclosed.escaped {c written : Char} {cs : List Char} (escapes : Escapes c written)
    (unclosed : IsUnclosed cs) : IsUnclosed ('\\' :: c :: cs) := by
  cases unclosed with
  | plain unescapes => exact .plain (.escaped escapes unescapes)
  | backslash unescapes => exact .backslash (.escaped escapes unescapes)

/-- A string ends at the first quote that no backslash escapes, or not at all. -/
theorem exists_string_end (cs : List Char) :
    (∃ body text rest, cs = body ++ '"' :: rest ∧ Unescapes body text) ∨ IsUnclosed cs := by
  induction h : cs.length using Nat.strongRecOn generalizing cs with
  | _ length ih =>
    subst h
    match cs with
    | [] => exact .inr (.plain .nil)
    | c :: cs =>
        by_cases quote : c = '"'
        · exact .inl ⟨[], [], cs, by rw [quote]; rfl, .nil⟩
        · by_cases backslash : c = '\\'
          · subst backslash
            match cs with
            | [] => exact .inr (.backslash .nil)
            | c :: cs =>
                obtain ⟨written, escapes⟩ := exists_escapes c
                have shorter : cs.length < ('\\' :: c :: cs).length := by
                  rw [List.length_cons, List.length_cons]
                  omega
                rcases ih _ shorter cs rfl with ⟨body, text, rest, rfl, unescapes⟩ | unclosed
                · exact .inl ⟨_, _, rest, rfl, .escaped escapes unescapes⟩
                · exact .inr (unclosed.escaped escapes)
          · rcases ih _ (by simp) cs rfl with ⟨body, text, rest, rfl, unescapes⟩ | unclosed
            · exact .inl ⟨_, _, rest, rfl, .plain quote backslash unescapes⟩
            · exact .inr (unclosed.cons quote backslash)

/-- A word runs as far as there are characters of words. -/
theorem exists_word_end (cs : List Char) :
    ∃ word rest, cs = word ++ rest ∧ (∀ c ∈ word, Text.isWordCharacter c = true) ∧
      ∀ c ∈ rest.head?, Text.isWordCharacter c = false := by
  refine ⟨cs.takeWhile Text.isWordCharacter, cs.dropWhile Text.isWordCharacter,
    List.takeWhile_append_dropWhile.symm, fun c member => List.mem_takeWhile_imp member, ?_⟩
  intro c first
  have fails := List.head?_dropWhile_not Text.isWordCharacter cs
  rw [Option.mem_def.mp first] at fails
  simpa using fails

theorem isWordCharacter_of_begins {c : Char}
    (begins : Text.isLetter c = true ∨ c = '_') : Text.isWordCharacter c = true := by
  rcases begins with letter | rfl
  · simp [Text.isWordCharacter, Text.isAlphanumeric_of_isLetter letter]
  · decide

theorem isWordCharacter_of_isDigit {c : Char} (digit : Text.isDigit c = true) :
    Text.isWordCharacter c = true := by
  simp [Text.isWordCharacter, Text.isAlphanumeric_of_isDigit digit]

/-- A word that begins with a letter or an underscore is a keyword or a name. -/
theorem exists_isLexeme_word {c : Char} {word : List Char}
    (begins : Text.isLetter c = true ∨ c = '_')
    (continues : ∀ c ∈ word, Text.isWordCharacter c = true) :
    ∃ kind, IsLexeme (c :: word) kind (c :: word) := by
  by_cases spelled : ∃ keyword : Keyword, keyword.spelling.toList = c :: word
  · obtain ⟨keyword, same⟩ := spelled
    exact ⟨.keyword keyword, same ▸ .keyword keyword⟩
  · refine ⟨.identifier, .identifier ⟨⟨c, word, rfl, begins⟩, ?_, ?_⟩⟩
    · exact List.forall_mem_cons.mpr ⟨isWordCharacter_of_begins begins, continues⟩
    · exact not_exists.mp spelled

/-- What begins no gap begins a lexeme, or nothing can be read from there. -/
theorem exists_lexeme {cs : List Char} (ends : EndsGap cs) :
    (∃ lexeme rest kind value, cs = lexeme ++ rest ∧ IsLexeme lexeme kind value ∧
      Delimits kind rest) ∨ ∃ cause, IsUnreadable cs cause := by
  cases ends with
  | comment notClosed => exact .inr ⟨_, .comment notClosed⟩
  | @character c cs noBlank noComment =>
      obtain ⟨word, rest, whole, continues, stops⟩ := exists_word_end cs
      by_cases quote : c = '"'
      · subst quote
        rcases exists_string_end cs with ⟨body, text, rest, rfl, unescapes⟩ | unclosed
        · exact .inl ⟨'"' :: (body ++ ['"']), rest, _, _, by simp, .string unescapes,
            fun isWord => isWord.elim⟩
        · exact .inr ⟨_, .string unclosed⟩
      · by_cases digit : Text.isDigit c = true
        · have isNumber : IsNumber (c :: word) := ⟨⟨c, word, rfl, digit⟩,
            List.forall_mem_cons.mpr ⟨isWordCharacter_of_isDigit digit, continues⟩⟩
          exact .inl ⟨c :: word, rest, _, _, by rw [whole]; rfl, .number isNumber, fun _ => stops⟩
        · by_cases begins : Text.isLetter c = true ∨ c = '_'
          · obtain ⟨kind, isLexeme⟩ := exists_isLexeme_word begins continues
            exact .inl ⟨c :: word, rest, kind, _, by rw [whole]; rfl, isLexeme, fun _ => stops⟩
          · rw [not_or] at begins
            by_cases marked : ∃ mark : PunctuationMark, mark.character = c
            · obtain ⟨mark, rfl⟩ := marked
              exact .inl ⟨[mark.character], cs, _, _, rfl, .mark mark, fun isWord => isWord.elim⟩
            · exact .inr ⟨_, .character ⟨noBlank, noComment, quote, by simpa using digit,
                by simpa using begins.1, begins.2, not_exists.mp marked⟩⟩

theorem IsLexeme.ne_nil {lexeme value : List Char} {kind : Token.Kind}
    (isLexeme : IsLexeme lexeme kind value) : lexeme ≠ [] := by
  cases isLexeme with
  | string unescapes => simp
  | number isNumber =>
      obtain ⟨c, rest, rfl, -⟩ := isNumber.begins
      simp
  | identifier isName =>
      obtain ⟨c, rest, rfl, -⟩ := isName.begins
      simp
  | keyword keyword => cases keyword <;> decide
  | mark mark => simp

/-- A text splits to its end, or to a place from which nothing can be read. -/
theorem exists_splits (passed text : List Char) :
    ∃ tokens rest, Splits passed text tokens rest ∧
      (IsLastGap rest ∨ ∃ gap unread cause, rest = gap ++ unread ∧ IsGap gap ∧
        IsUnreadable unread cause) := by
  induction h : text.length using Nat.strongRecOn generalizing passed text with
  | _ length ih =>
    subst h
    rcases exists_gap text with isLast | ⟨gap, behind, rfl, isGap, ends⟩
    · exact ⟨[], text, .nil, .inl isLast⟩
    · rcases exists_lexeme ends with ⟨lexeme, rest, kind, value, rfl, isLexeme, delimits⟩ | unread
      · have shorter : rest.length < (gap ++ (lexeme ++ rest)).length := by
          have positive := List.length_pos_iff.mpr isLexeme.ne_nil
          rw [List.length_append, List.length_append]
          omega
        obtain ⟨tokens, last, others, ending⟩ := ih _ shorter (passed ++ gap ++ lexeme) rest rfl
        exact ⟨_, last, .more isGap isLexeme delimits others, ending⟩
      · obtain ⟨cause, unreadable⟩ := unread
        exact ⟨[], _, .nil, .inr ⟨gap, behind, cause, rfl, isGap, unreadable⟩⟩

end Lexical

end ShaderVariants
