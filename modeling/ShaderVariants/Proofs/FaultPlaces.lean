import ShaderVariants.Proofs.Refusals
import ShaderVariants.Proofs.TokenReading

/-!
# Places of faults

A fault knows the line and the column of its place, where only newlines end lines, and a report
shows the line of that number among the lines of the text, which ten further characters end.  Both
countings agree as long as every line end before the line is a newline, alone or behind a carriage
return.  The first other one makes reports show an earlier line from there on.
-/

namespace ShaderVariants

namespace Text

/-! ## Two countings of lines -/

/-- Every line end is a newline, alone or behind a carriage return. -/
def EndsByNewlines (cs : List Char) : Prop :=
  ∀ front c rest, cs = front ++ c :: rest → endsLine c = true →
    c = '\n' ∨ c = '\r' ∧ rest.head? = some '\n'

theorem endsByNewlines_nil : EndsByNewlines [] := by
  intro front c rest whole
  simp at whole

theorem endsByNewlines_cons {c : Char} {cs : List Char} :
    EndsByNewlines (c :: cs) ↔
      (endsLine c = true → c = '\n' ∨ c = '\r' ∧ cs.head? = some '\n') ∧ EndsByNewlines cs := by
  constructor
  · intro ends
    refine ⟨ends [] c cs rfl, ?_⟩
    rintro front d rest rfl
    exact ends (c :: front) d rest rfl
  · intro ends front d rest whole
    cases front with
    | nil =>
        obtain ⟨rfl, rfl⟩ := List.cons.inj whole
        exact ends.1
    | cons _ front =>
        obtain ⟨-, rfl⟩ := List.cons.inj whole
        exact ends.2 front d rest rfl

/-- A carriage return and a newline end one line, and any other character is looked at alone. -/
theorem linesFrom_cons {c : Char} {cs : List Char} (noPair : ¬(c = '\r' ∧ cs.head? = some '\n'))
    (line : List Char) :
    linesFrom line (c :: cs) =
      if endsLine c then line.reverse :: linesFrom [] cs else linesFrom (c :: line) cs := by
  rw [linesFrom]
  rintro rest rfl rfl
  exact noPair ⟨rfl, rfl⟩

theorem getLast?_eq_of_cons {c : Char} {cs : List Char}
    (ended : ∀ d ∈ (c :: cs).getLast?, d = '\n') :
    (∀ d ∈ cs.getLast?, d = '\n') ∧ (cs = [] → c = '\n') := by
  cases cs with
  | nil => exact ⟨by simp, fun _ => ended c rfl⟩
  | cons d cs => exact ⟨by simpa using ended, by simp⟩

/-- Behind a newline the lines are those of the rest. -/
theorem linesFrom_append {line earlier : List Char}
    (ended : ∀ c ∈ earlier.getLast?, c = '\n') (begun : earlier = [] → line = [])
    (rest : List Char) :
    linesFrom line (earlier ++ rest) = linesFrom line earlier ++ linesFrom [] rest := by
  fun_induction linesFrom line earlier with
  | case1 line empty => simp [begun rfl]
  | case2 line nonempty => simp [begun rfl] at nonempty
  | case3 line cs ih =>
      have ended' := (getLast?_eq_of_cons (getLast?_eq_of_cons ended).1).1
      simp [linesFrom, ih ended' fun _ => rfl]
  | case4 line c cs noPair ends ih =>
      obtain ⟨ended', last⟩ := getLast?_eq_of_cons ended
      have noPair' : ¬(c = '\r' ∧ (cs ++ rest).head? = some '\n') := by
        rintro ⟨rfl, newline⟩
        cases cs with
        | nil => exact absurd (last rfl) (by decide)
        | cons d cs => exact noPair cs rfl (by simp_all)
      rw [List.cons_append, linesFrom_cons noPair', if_pos ends, ih ended' fun _ => rfl,
        List.cons_append]
  | case5 line c cs noPair goesOn ih =>
      obtain ⟨ended', last⟩ := getLast?_eq_of_cons ended
      have noPair' : ¬(c = '\r' ∧ (cs ++ rest).head? = some '\n') := by
        rintro ⟨rfl, -⟩
        exact goesOn (by decide)
      have more : cs ≠ [] := by
        intro ending
        rw [last ending] at goesOn
        exact goesOn (by decide)
      rw [List.cons_append, linesFrom_cons noPair', if_neg goesOn, ih ended' (absurd · more)]

/-- There is a line for every newline, and for every other line end one more. -/
theorem count_le_length_linesFrom {line cs : List Char} (ended : ∀ c ∈ cs.getLast?, c = '\n')
    (begun : cs = [] → line = []) :
    cs.count '\n' ≤ (linesFrom line cs).length ∧
      (EndsByNewlines cs ↔ (linesFrom line cs).length = cs.count '\n') := by
  fun_induction linesFrom line cs with
  | case1 line empty => simp [endsByNewlines_nil]
  | case2 line nonempty => simp [begun rfl] at nonempty
  | case3 line cs ih =>
      have ended' := (getLast?_eq_of_cons (getLast?_eq_of_cons ended).1).1
      obtain ⟨enough, exactly⟩ := ih ended' fun _ => rfl
      simp [endsByNewlines_cons, enough, exactly]
  | case4 line c cs noPair ends ih =>
      obtain ⟨enough, exactly⟩ := ih (getLast?_eq_of_cons ended).1 fun _ => rfl
      by_cases newline : c = '\n'
      · simp [endsByNewlines_cons, newline, enough, exactly]
      · have foreign : ¬EndsByNewlines (c :: cs) := by
          rw [endsByNewlines_cons]
          rintro ⟨allowed, -⟩
          obtain ⟨rfl, first⟩ := (allowed ends).resolve_left newline
          obtain ⟨rest, rfl⟩ := List.head?_eq_some_iff.mp first
          exact noPair rest rfl rfl
        simp only [foreign, List.length_cons, List.count_cons_of_ne newline, false_iff]
        omega
  | case5 line c cs noPair goesOn ih =>
      obtain ⟨ended', last⟩ := getLast?_eq_of_cons ended
      have other : c ≠ '\n' := by
        rintro rfl
        exact goesOn (by decide)
      obtain ⟨enough, exactly⟩ := ih ended' (absurd · (mt last other))
      simpa [endsByNewlines_cons, goesOn, List.count_cons_of_ne other] using ⟨enough, exactly⟩

/-- The first line goes up to the first line end of any kind. -/
theorem head?_linesFrom {line cs : List Char} (more : line ≠ [] ∨ cs ≠ []) :
    (linesFrom line cs).head? = some (line.reverse ++ cs.takeWhile (!endsLine ·)) := by
  fun_induction linesFrom line cs with
  | case1 line empty => simp_all
  | case2 line nonempty => simp
  | case3 line cs ih => simp [endsLine]
  | case4 line c cs noPair ends ih => simp [ends]
  | case5 line c cs noPair goesOn ih => simp [goesOn, ih]

end Text

/-! ## Places -/

/-- A place in a text: the lines before its own line, that line before and behind the place, and
the newline and the lines behind. -/
structure Place where
  earlier : List Char
  lead : List Char
  tail : List Char
  later : List Char
  ended : ∀ c ∈ earlier.getLast?, c = '\n'
  begun : ∀ c ∈ later.head?, c = '\n'
  inLine : '\n' ∉ lead ++ tail

namespace Place

/-- The line that the place is in, without its newline. -/
def line (place : Place) : List Char := place.lead ++ place.tail

def text (place : Place) : List Char := place.earlier ++ (place.line ++ place.later)

def lineNumber (place : Place) : Nat := 1 + place.earlier.count '\n'

def column (place : Place) : Nat := 1 + place.lead.length

/-- The line as far as it is shown: a further line end within it ends it there. -/
def shown (place : Place) : List Char := place.line.takeWhile (!Text.endsLine ·)

/-- The place between two parts of a text. -/
def between (front rest : List Char) : Place where
  earlier := (front.reverse.dropWhile (· ≠ '\n')).reverse
  lead := (front.reverse.takeWhile (· ≠ '\n')).reverse
  tail := rest.takeWhile (· ≠ '\n')
  later := rest.dropWhile (· ≠ '\n')
  ended := by
    intro c last
    rw [List.getLast?_reverse] at last
    have stops := List.head?_dropWhile_not (· ≠ '\n') front.reverse
    rw [Option.mem_def.mp last] at stops
    simpa using stops
  begun := by
    intro c first
    have stops := List.head?_dropWhile_not (· ≠ '\n') rest
    rw [Option.mem_def.mp first] at stops
    simpa using stops
  inLine := by
    rw [List.mem_append, List.mem_reverse, not_or]
    exact ⟨fun inside => by simpa using List.mem_takeWhile_imp inside,
      fun inside => by simpa using List.mem_takeWhile_imp inside⟩

theorem earlier_append_lead_between (front rest : List Char) :
    (between front rest).earlier ++ (between front rest).lead = front := by
  rw [between, ← List.reverse_append, List.takeWhile_append_dropWhile, List.reverse_reverse]

theorem tail_append_later_between (front rest : List Char) :
    (between front rest).tail ++ (between front rest).later = rest :=
  List.takeWhile_append_dropWhile

theorem text_between (front rest : List Char) : (between front rest).text = front ++ rest := by
  calc (between front rest).text
      = ((between front rest).earlier ++ (between front rest).lead) ++
          ((between front rest).tail ++ (between front rest).later) := by
        simp only [text, line, List.append_assoc]
    _ = front ++ rest := by rw [earlier_append_lead_between, tail_append_later_between]

theorem notMem_lead (place : Place) : '\n' ∉ place.lead :=
  fun inside => place.inLine (List.mem_append_left _ inside)

/-- Reading counts the same line and column. -/
theorem behind_between (front rest : List Char) :
    (Position.behind front).line = (between front rest).lineNumber ∧
      (Position.behind front).column = (between front rest).column := by
  have counted : ((between front rest).earlier ++ (between front rest).lead).count '\n' =
      (between front rest).earlier.count '\n' := by
    rw [List.count_append, List.count_eq_zero_of_not_mem (between front rest).notMem_lead,
      Nat.add_zero]
  rw [earlier_append_lead_between] at counted
  refine ⟨congrArg (1 + ·) counted, ?_⟩
  simp only [Position.behind, column, between, List.length_reverse]

/-- What stops at a newline stops where the line of the place ends. -/
theorem takeWhile_later (place : Place) {goesOn : Char → Bool} (stops : goesOn '\n' = false) :
    place.later.takeWhile goesOn = [] := by
  cases behind : place.later with
  | nil => rfl
  | cons c others =>
      have newline : c = '\n' := place.begun c (by rw [behind]; rfl)
      simp [newline, stops]

theorem eq_takeWhile_tail (place : Place) :
    place.tail = (place.tail ++ place.later).takeWhile (· ≠ '\n') := by
  have inLine : ∀ c ∈ place.tail, c ≠ '\n' := by
    rintro c inside rfl
    exact place.inLine (List.mem_append_right _ inside)
  rw [List.takeWhile_append_of_pos (by simpa using inLine),
    place.takeWhile_later (by simp), List.append_nil]

/-- Two beginnings of a text that both end with a newline, and have as many newlines, are one. -/
theorem earlier_eq {first second : List Char} (ended : ∀ c ∈ second.getLast?, c = '\n')
    (begins : first <+: second) (sameCount : first.count '\n' = second.count '\n') :
    first = second := by
  obtain ⟨more, rfl⟩ := begins
  rcases List.eq_nil_or_concat more with rfl | ⟨front, c, rfl⟩
  · exact (List.append_nil first).symm
  · have newline : c = '\n' := ended c (by simp [← List.append_assoc])
    simp [newline] at sameCount

/-- No other place of the text is on the line and in the column. -/
theorem eq_of_position {place other : Place} (sameText : place.text = other.text)
    (sameLine : place.lineNumber = other.lineNumber) (sameColumn : place.column = other.column) :
    place = other := by
  have sameCount : place.earlier.count '\n' = other.earlier.count '\n' :=
    Nat.add_left_cancel sameLine
  have sameLength : place.lead.length = other.lead.length := Nat.add_left_cancel sameColumn
  have begins : place.earlier <+: place.text := List.prefix_append _ _
  have begins' : other.earlier <+: place.text := sameText ▸ List.prefix_append _ _
  have earlier : place.earlier = other.earlier := by
    rcases List.prefix_or_prefix_of_prefix begins begins' with shorter | longer
    · exact earlier_eq other.ended shorter sameCount
    · exact (earlier_eq place.ended longer sameCount.symm).symm
  have behind : place.lead ++ (place.tail ++ place.later) =
      other.lead ++ (other.tail ++ other.later) := by
    rw [text, text, earlier, line, line, List.append_assoc, List.append_assoc] at sameText
    exact List.append_cancel_left sameText
  obtain ⟨lead, rest⟩ := List.append_inj behind sameLength
  have tail : place.tail = other.tail := by
    rw [eq_takeWhile_tail place, eq_takeWhile_tail other, rest]
  have later : place.later = other.later := by
    rw [tail] at rest
    exact List.append_cancel_left rest
  obtain ⟨_, _, _, _, _, _, _⟩ := place
  obtain ⟨_, _, _, _, _, _, _⟩ := other
  congr

/-! ## The line that is shown -/

variable (place : Place)

theorem takeWhile_line_append_later :
    (place.line ++ place.later).takeWhile (!Text.endsLine ·) = place.shown := by
  rw [List.takeWhile_append, place.takeWhile_later (by decide), List.append_nil]
  split
  · rename_i whole
    exact ((List.takeWhile_prefix _).eq_of_length whole).symm
  · rfl

/-- The line is shown whole when no line end of any kind is in it. -/
theorem shown_eq_line_iff :
    place.shown = place.line ↔ ∀ c ∈ place.line, Text.endsLine c = false := by
  simp [shown, List.takeWhile_eq_self_iff]

/-- What stands before the place is shown when no line end is in it, and the place behind it. -/
theorem shown_eq_append (unbroken : ∀ c ∈ place.lead, Text.endsLine c = false) :
    place.shown = place.lead ++ place.tail.takeWhile (!Text.endsLine ·) :=
  List.takeWhile_append_of_pos (by simpa using unbroken)

variable {text : String}

theorem lineOf_eq (same : place.text = text.toList) :
    ParseError.lineOf text place.lineNumber =
      (Text.linesFrom [] place.earlier ++
        Text.linesFrom [] (place.line ++ place.later))[place.earlier.count '\n']?.map
          String.ofList := by
  have positive : 0 < (place.lineNumber : Int) := by
    unfold lineNumber
    omega
  have index : ((place.lineNumber : Int) - 1).toNat = place.earlier.count '\n' := by
    unfold lineNumber
    omega
  rw [ParseError.lineOf, if_pos positive, index, Text.lines, ← same, Place.text,
    Text.linesFrom_append place.ended fun _ => rfl, List.getElem?_map]

/-- While only newlines have ended lines, the line of the place is shown, if there is anything from
its beginning on. -/
theorem lineOf_of_endsByNewlines (same : place.text = text.toList)
    (plain : Text.EndsByNewlines place.earlier) :
    ParseError.lineOf text place.lineNumber =
      if place.line ++ place.later = [] then none else some (String.ofList place.shown) := by
  have counted := (Text.count_le_length_linesFrom place.ended fun _ => rfl).2.mp plain
  rw [lineOf_eq place same, List.getElem?_append_right counted.le, counted, Nat.sub_self,
    ← List.head?_eq_getElem?]
  split
  · rename_i nothing
    rw [nothing]
    rfl
  · rename_i something
    rw [Text.head?_linesFrom (.inr something), place.takeWhile_line_append_later]
    rfl

/-- Behind any other line end, what is shown ends before the line of the place begins. -/
theorem lineOf_of_not_endsByNewlines (same : place.text = text.toList)
    (foreign : ¬Text.EndsByNewlines place.earlier) :
    ∃ piece ∈ Text.linesFrom [] place.earlier,
      ParseError.lineOf text place.lineNumber = some (String.ofList piece) := by
  obtain ⟨enough, exactly⟩ := Text.count_le_length_linesFrom place.ended fun _ => rfl
  have more : place.earlier.count '\n' < (Text.linesFrom [] place.earlier).length :=
    lt_of_le_of_ne enough fun same => foreign (exactly.mpr same.symm)
  refine ⟨_, List.getElem_mem more, ?_⟩
  rw [lineOf_eq place same, List.getElem?_append_left more, List.getElem?_eq_getElem more]
  rfl

end Place

/-! ## What a fault shows at -/

namespace Lexical

/-- What begins at the place of a fault: what cannot be read, a lexeme, or the end of the text. -/
inductive ShowsAt (cause : Fault.Cause) : List Char → Prop where
  | unreadable {rest : List Char} (unread : IsUnreadable rest cause) : ShowsAt cause rest
  | lexeme {lexeme value rest : List Char} {kind : Token.Kind}
      (isLexeme : IsLexeme lexeme kind value) : ShowsAt cause (lexeme ++ rest)
  | ending : ShowsAt cause []

/-- A lexeme begins with a character that is no blank. -/
theorem IsLexeme.exists_begins {lexeme value : List Char} {kind : Token.Kind}
    (isLexeme : IsLexeme lexeme kind value) :
    ∃ c cs, lexeme = c :: cs ∧ Text.isBlank c = false := by
  cases isLexeme with
  | string unescapes => exact ⟨_, _, rfl, by decide⟩
  | number isNumber =>
      obtain ⟨c, word, rfl, digit⟩ := isNumber.begins
      exact ⟨c, word, rfl,
        Text.isBlank_eq_false_of_isWordCharacter (isWordCharacter_of_isDigit digit)⟩
  | identifier isName =>
      obtain ⟨c, word, rfl, begins⟩ := isName.begins
      exact ⟨c, word, rfl,
        Text.isBlank_eq_false_of_isWordCharacter (isWordCharacter_of_begins begins)⟩
  | keyword keyword =>
      obtain ⟨c, word, spelled, letter, -⟩ := Keyword.begins_spelling keyword
      exact ⟨c, word, spelled,
        Text.isBlank_eq_false_of_isWordCharacter (isWordCharacter_of_begins (.inl letter))⟩
  | mark mark => exact ⟨_, _, rfl, by cases mark <;> decide⟩

/-- Where a fault shows, no line ends. -/
theorem ShowsAt.endsLine_head {cause : Fault.Cause} {rest : List Char}
    (shows : ShowsAt cause rest) : ∀ c ∈ rest.head?, Text.endsLine c = false := by
  have noEnd {c : Char} (noBlank : Text.isBlank c = false) : Text.endsLine c = false :=
    Text.endsLine_eq_false_of_isBlank_eq_false noBlank
  cases shows with
  | unreadable unread =>
      cases unread with
      | comment notClosed => simpa using noEnd (c := '/') (by decide)
      | string unclosed => simpa using noEnd (c := '"') (by decide)
      | character stray => simpa using noEnd stray.noBlank
  | lexeme isLexeme =>
      obtain ⟨c, cs, rfl, noBlank⟩ := isLexeme.exists_begins
      simpa using noEnd noBlank
  | ending => simp

/-- A token of a text knows where its lexeme begins. -/
theorem Splits.exists_front {passed text rest : List Char} {tokens : List Token}
    (splits : Splits passed text tokens rest) {token : Token} (inside : token ∈ tokens) :
    ∃ front lexeme behind kind value, passed ++ text = front ++ (lexeme ++ behind) ∧
      IsLexeme lexeme kind value ∧ token = tokenAt (.behind front) kind value := by
  induction splits with
  | nil => cases inside
  | @more passed gap lexeme text value rest kind tokens isGap isLexeme delimits others ih =>
      rcases List.mem_cons.mp inside with rfl | later
      · exact ⟨passed ++ gap, lexeme, text, kind, value, by simp, isLexeme, rfl⟩
      · obtain ⟨front, lexeme', behind, kind', value', whole, isLexeme', same⟩ := ih later
        exact ⟨front, lexeme', behind, kind', value', by simpa using whole, isLexeme', same⟩

/-- What the stream of a text shows stands at a place of the text. -/
theorem SplitsInto.exists_front {text : List Char} {tokens : List Token}
    (splits : SplitsInto text tokens) {token : Token}
    (shown : (TokenStream.ofTokens tokens).Shows token) (cause : Fault.Cause) :
    ∃ front rest, text = front ++ rest ∧ ShowsAt cause rest ∧
      token.fault cause = (Position.behind front).fault cause := by
  obtain ⟨inside, last, split, -, rfl⟩ := splits
  have stream : TokenStream.ofTokens (inside ++ [tokenAt (.behind text) .endOfInput []]) =
      ⟨0, inside, (Position.behind text).line, (Position.behind text).column⟩ := by
    simp [TokenStream.ofTokens, tokenAt]
  rw [stream] at shown
  rcases shown with pending | rfl
  · obtain ⟨front, lexeme, behind, kind, value, whole, isLexeme, rfl⟩ := split.exists_front pending
    exact ⟨front, lexeme ++ behind, whole, .lexeme isLexeme, rfl⟩
  · exact ⟨text, [], by simp, .ending, rfl⟩

/-- A fault of a text, found while reading it or while parsing it, shows at a place of the text. -/
theorem exists_front_of_fault {file : Path} {text : String} {fault : Fault}
    (faulty : Token.ofText text = .error fault ∨
      Module.ofText file text = .error (.fault fault)) :
    ∃ front rest, text.toList = front ++ rest ∧ ShowsAt fault.cause rest ∧
      fault = (Position.behind front).fault fault.cause := by
  rcases Token.splitsInto_or_failsWith text.toList with ⟨tokens, splits⟩ | ⟨other, fails⟩
  · have read := Token.ofText_of_splitsInto splits
    rw [Module.ofText, read] at faulty
    obtain ⟨token, shown, points⟩ :=
      Parser.exists_pointsTo_of_module_error (faulty.resolve_left (by simp))
    cases points with
    | fault cause => exact splits.exists_front shown cause
  · have read := Token.ofText_of_failsWith fails
    have same : fault = other := by
      rcases faulty with unread | unparsed
      · exact (Except.error.inj (read.symm.trans unread)).symm
      · rw [Module.ofText, read] at unparsed
        exact (Refusal.fault.inj (Except.error.inj unparsed)).symm
    subst same
    obtain ⟨front, inside, gap, rest, cause, whole, -, -, unread, rfl⟩ := fails
    exact ⟨front, rest, whole, .unreadable unread, rfl⟩

end Lexical

/-! ## Reports -/

/-- How a report shows a place.  The line is shown as far as no other line end is in it, unless
other line ends before it make an earlier line take its number.  The mark stands as many columns
behind the margin as there are characters before the place. -/
structure Place.IsReportedBy (place : Place) (report : ParseError) : Prop where
  line : report.line = place.lineNumber
  column : report.column = place.column
  snippet : Text.EndsByNewlines place.earlier → report.snippet =
    if place.line ++ place.later = [] then none else some (String.ofList place.shown)
  misplaced : ¬Text.EndsByNewlines place.earlier →
    ∃ piece ∈ Text.linesFrom [] place.earlier, report.snippet = some (String.ofList piece)
  marked : ∀ snippet, report.snippet = some snippet →
    let margin := ParseError.lineNumber report.line ++ " | "
    report.context = s!"{report.file}:{report.line}:{report.column}" ++ "\n" ++
      (margin ++ snippet ++ "\n" ++
        String.ofList (List.replicate (margin.length + place.lead.length) ' ') ++ "^^^")

theorem Place.isReportedBy (place : Place) {text : String} (same : place.text = text.toList)
    {fault : Fault} (line : fault.line = place.lineNumber) (column : fault.column = place.column)
    (file : Path) : place.IsReportedBy (fault.report file (some text)) where
  line := congrArg Nat.cast line
  column := congrArg Nat.cast column
  snippet := by
    intro plain
    rw [← place.lineOf_of_endsByNewlines same plain, ← line]
    rfl
  misplaced := by
    intro foreign
    obtain ⟨piece, inside, shown⟩ := place.lineOf_of_not_endsByNewlines same foreign
    rw [← line] at shown
    exact ⟨piece, inside, shown⟩
  marked := by
    intro snippet shown margin
    have indent : ((margin.length : Int) + fault.column - 1).toNat =
        margin.length + place.lead.length := by
      rw [column, Place.column]
      omega
    rw [ParseError.context, shown, ← indent]
    rfl

/-- Every fault of a text is reported with the line and the column of a place of the text at which
something begins, or the text ends.  As much of the line as is shown is the whole line exactly when
there is no further line end in it.  When there is none before the place, the mark stands under the
character at the place. -/
theorem Fault.report_shows_place {file : Path} {text : String} {fault : Fault}
    (faulty : Token.ofText text = .error fault ∨
      Module.ofText file text = .error (.fault fault)) :
    ∃ place : Place, place.text = text.toList ∧
      place.IsReportedBy (fault.report file (some text)) ∧
      Lexical.ShowsAt fault.cause (place.tail ++ place.later) ∧
      (place.shown = place.line ↔ ∀ c ∈ place.line, Text.endsLine c = false) ∧
      ((∀ c ∈ place.lead, Text.endsLine c = false) →
        ∃ behind, place.shown = place.lead ++ behind ∧ behind.head? = place.tail.head?) := by
  obtain ⟨front, rest, whole, shows, fault_eq⟩ := Lexical.exists_front_of_fault faulty
  obtain ⟨line, column⟩ := Place.behind_between front rest
  have same : (Place.between front rest).text = text.toList :=
    (Place.text_between front rest).trans whole.symm
  rw [← Place.tail_append_later_between front rest] at shows
  generalize Place.between front rest = place at *
  rw [fault_eq] at faulty ⊢
  refine ⟨place, same, place.isReportedBy same line column file, shows, place.shown_eq_line_iff,
    fun unbroken => ⟨_, place.shown_eq_append unbroken, ?_⟩⟩
  cases behind : place.tail with
  | nil => rfl
  | cons c others =>
      have goesOn : Text.endsLine c = false := shows.endsLine_head c (by simp [behind])
      simp [goesOn]

/-- A form feed ends a line for reports only, so that behind it they show the line before. -/
theorem Fault.report_formFeed :
    ∃ fault, Token.ofText "\x0c\n$" = .error fault ∧
    ∃ place : Place, place.text = "\x0c\n$".toList ∧
      place.IsReportedBy (fault.report (Path.ofString "a.wgslv") (some "\x0c\n$")) ∧
      place.line = ['$'] ∧
      (fault.report (Path.ofString "a.wgslv") (some "\x0c\n$")).snippet = some "" := by
  let fault : Fault := ⟨.strayCharacter '$', 2, 1⟩
  have unread : Token.ofText "\x0c\n$" = .error fault := by decide +kernel
  have faulty : Token.ofText "\x0c\n$" = .error fault ∨
      Module.ofText (Path.ofString "a.wgslv") "\x0c\n$" = .error (.fault fault) := .inl unread
  obtain ⟨place, same, reported, -⟩ := Fault.report_shows_place faulty
  have known : place = .between ['\x0c', '\n'] ['$'] :=
    Place.eq_of_position same (Int.ofNat.inj reported.line.symm)
      (Int.ofNat.inj reported.column.symm)
  refine ⟨_, unread, place, same, reported, ?_, by decide +kernel⟩
  rw [known]
  decide

end ShaderVariants
