import ShaderVariants.Proofs.BoundNames
import ShaderVariants.Proofs.CodeReading

/-!
# Statements of a text

The statements at the top level of a text are read off the lines of its code.  What they bind is
found where they begin: behind the word of a class statement or of an import, or in front of an
equals sign.  Everything that the reader does not understand is refused, so that nothing is bound
behind its back: several statements on one line, a second equals sign, statements that hold others.

Lines of a text give statements one after the other, each line on its own or several together.
-/

namespace ShaderVariants

namespace Generated

open Text.Code (Reads StandsAlone Indented atMargin topLevel?)

/-! ## Reading statements -/

/-- A statement at the top level: a literal on its own, a decorator of what is defined next, one
that binds a name, or one that sets an attribute. -/
inductive Statement where
  | literal
  | decorator
  | binds (binding : Binding)
  | setsAttribute (owner member : String)
  deriving DecidableEq

namespace Statement

def binding? : Statement → Option Binding
  | binds binding => some binding
  | _ => none

/-- A class statement, from behind its first word on. -/
def ofClass? (rest : List Char) : Option Statement :=
  let name := leadingName (rest.drop 1)
  let behind := (rest.drop 1).drop name.length
  if rest.head? = some ' ' ∧ name ≠ [] ∧ (behind.head? = some '(' ∨ behind.head? = some ':')
      ∧ '=' ∉ rest then
    some (.binds (.defines (String.ofList name)))
  else none

/-- The import of a name, from behind the word on that announces it. -/
def ofImport? (rest : List Char) : Option Statement :=
  let name := rest.drop 1
  if rest.head? = some ' ' ∧ name ≠ [] ∧ leadingName name = name then
    some (.binds (.imports (String.ofList name)))
  else none

/-- The import of a name from another module, from behind the first word on. -/
def ofFrom? (rest : List Char) : Option Statement :=
  let behind := (rest.drop 1).drop (leadingName (rest.drop 1)).length
  if rest.head? = some ' ' ∧ " import".toList <+: behind then
    ofImport? (behind.drop " import".toList.length)
  else none

/-- An assignment to a name, with an annotation or without one, or to an attribute of a name. -/
def ofAssignment? (word rest : List Char) : Option Statement :=
  if rest.count '=' ≠ 1 ∨ String.ofList word ∈ Name.keywords then none
  else if " = ".toList <+: rest ∨ ": ".toList <+: rest ∧ " = ".toList <:+: rest then
    some (.binds (.assigns (String.ofList word)))
  else if rest.head? = some '.' then
    let member := leadingName (rest.drop 1)
    if member ≠ [] ∧ " = ".toList <+: (rest.drop 1).drop member.length then
      some (.setsAttribute (String.ofList word) (String.ofList member))
    else none
  else none

/-- The statement of a line of code.  Lines with other statements, or with more than one, are not
understood. -/
def ofLine? (line : List Char) : Option Statement :=
  let word := leadingName line
  let rest := line.drop word.length
  if ';' ∈ line then none
  else if word = "class".toList then ofClass? rest
  else if word = "import".toList then ofImport? rest
  else if word = "from".toList then ofFrom? rest
  else if word ≠ [] then ofAssignment? word rest
  else if line = ['"'] ∨ line = ['\''] then some .literal
  else if line.head? = some '@' ∧ ¬":=".toList <:+: line then some .decorator
  else none

end Statement

/-- The statements at the top level of a text, if all of them are understood. -/
def statements? (text : List Char) : Option (List Statement) :=
  (topLevel? text).bind (·.mapM Statement.ofLine?)

example : statements? "import a\n@b\nclass C(d):\n    e = 1\nf: g = [\n'h']\nC.i = f\n".toList =
    some [.binds (.imports "a"), .decorator, .binds (.defines "C"), .binds (.assigns "f"),
      .setsAttribute "C" "i"] := by
  decide +kernel

namespace Statement

theorem notMem_of_isIdentifier {name : String} (identifier : Text.isIdentifier name = true)
    {c : Char} (ends : Text.isIdentifierPart c = false) : c ∉ name.toList := by
  intro inside
  rw [Text.isIdentifierPart_of_mem identifier inside] at ends
  cases ends

/-- What begins with a blank is no statement at the top level. -/
theorem atMargin_of_ofLine? {line : List Char} {statement : Statement}
    (read : ofLine? line = some statement) : atMargin line = true := by
  cases line with
  | nil => cases read
  | cons c rest =>
      have nameless {c : Char} (ends : Text.isIdentifierPart c = false) (noMark : c ≠ '"')
          (noMark' : c ≠ '\'') (noAt : c ≠ '@') : ofLine? (c :: rest) = none := by
        have word : leadingName (c :: rest) = [] := List.takeWhile_cons_of_neg (by simp [ends])
        simp [ofLine?, word, noMark, noMark', noAt]
      have noBlank : c ≠ ' ' := by
        rintro rfl
        rw [nameless (by decide) (by decide) (by decide) (by decide)] at read
        cases read
      have noTab : c ≠ '\t' := by
        rintro rfl
        rw [nameless (by decide) (by decide) (by decide) (by decide)] at read
        cases read
      simp [atMargin, noBlank, noTab]

theorem ofLine?_class {name : String} (identifier : Text.isIdentifier name = true) {c : Char}
    (opens : c = '(' ∨ c = ':') {rest : List Char} (noAssignment : '=' ∉ rest)
    (single : ';' ∉ rest) :
    ofLine? ("class".toList ++ ' ' :: (name.toList ++ c :: rest)) =
      some (.binds (.defines name)) := by
  have word := leadingName_append (by decide : "class".toList.all Text.isIdentifierPart = true)
    (by decide : ' ' ∈ nameEnds) (name.toList ++ c :: rest)
  have ends : c ∈ nameEnds := by rcases opens with rfl | rfl <;> decide
  have front := leadingName_append (Text.all_isIdentifierPart identifier) ends rest
  have nonempty := Text.toList_ne_nil_of_isIdentifier identifier
  have noEquals : '=' ∉ name.toList := notMem_of_isIdentifier identifier (by decide)
  have noSemicolon : ';' ∉ name.toList := notMem_of_isIdentifier identifier (by decide)
  have whole : ';' ∉ "class".toList ++ ' ' :: (name.toList ++ c :: rest) := by
    rcases opens with rfl | rfl <;> simp [noSemicolon, single]
  have other : '=' ∉ ' ' :: (name.toList ++ c :: rest) := by
    rcases opens with rfl | rfl <;> simp [noEquals, noAssignment]
  unfold ofLine?
  dsimp only
  rw [if_neg whole, word, if_pos rfl, List.drop_left]
  unfold ofClass?
  rcases opens with rfl | rfl <;> simp [front, nonempty, noEquals, noAssignment]

theorem ofLine?_decorator {rest : List Char} (noColon : ':' ∉ rest) (single : ';' ∉ rest) :
    ofLine? ('@' :: rest) = some .decorator := by
  have word : leadingName ('@' :: rest) = [] := leadingName_cons (by decide) rest
  have noWalrus : ¬":=".toList <:+: '@' :: rest := by
    intro inside
    have colon : ':' ∈ '@' :: rest := inside.subset (by decide)
    simp [noColon] at colon
  unfold ofLine?
  simp only [word, noWalrus]
  simp [single]

/-- A line that begins with a name and no keyword. -/
theorem ofLine?_append {word : List Char} (inside : word.all Text.isIdentifierPart = true)
    (nonempty : word ≠ []) (noKeyword : String.ofList word ∉ Name.keywords) {c : Char}
    (ends : c ∈ nameEnds) {rest : List Char} (single : ';' ∉ rest) :
    ofLine? (word ++ c :: rest) = ofAssignment? word (c :: rest) := by
  have front := leadingName_append inside ends rest
  have noWord {other : String} (keyword : other ∈ Name.keywords) : word ≠ other.toList := by
    rintro rfl
    rw [String.ofList_toList] at noKeyword
    exact noKeyword keyword
  have noSemicolon : ';' ∉ word := by
    intro member
    have part := List.all_eq_true.mp inside _ member
    revert part
    decide
  have noEnd : c ≠ ';' := by
    rintro rfl
    revert ends
    decide
  have whole : ';' ∉ word ++ c :: rest := by
    simp [noSemicolon, single, noEnd.symm]
  unfold ofLine?
  dsimp only
  rw [if_neg whole, front, if_neg (noWord (by decide)), if_neg (noWord (by decide)),
    if_neg (noWord (by decide)), if_pos nonempty, List.drop_left]

/-- An assignment to a name that is no keyword. -/
theorem ofLine?_assigns {word : List Char} (inside : word.all Text.isIdentifierPart = true)
    (nonempty : word ≠ []) (noKeyword : String.ofList word ∉ Name.keywords) {c : Char}
    (ends : c ∈ nameEnds) (rest : List Char) (single : ';' ∉ rest)
    (once : (c :: rest).count '=' = 1)
    (assigns : " = ".toList <+: c :: rest ∨
      ": ".toList <+: c :: rest ∧ " = ".toList <:+: c :: rest) :
    ofLine? (word ++ c :: rest) = some (.binds (.assigns (String.ofList word))) := by
  rw [ofLine?_append inside nonempty noKeyword ends single, ofAssignment?,
    if_neg (by simp [once, noKeyword]), if_pos assigns]

theorem ofLine?_setsAttribute {owner member : String} (usable : Name.Usable owner)
    (identifier : Text.isIdentifier member = true) {value : List Char} (single : ';' ∉ value)
    (noEquals : '=' ∉ value) :
    ofLine? (owner.toList ++ '.' :: (member.toList ++ ' ' :: ("= ".toList ++ value))) =
      some (.setsAttribute owner member) := by
  let behind := ' ' :: ("= ".toList ++ value)
  have front : leadingName (member.toList ++ behind) = member.toList :=
    leadingName_append (Text.all_isIdentifierPart identifier) (by decide) _
  have assigns : " = ".toList <+: behind := List.prefix_append " = ".toList value
  have noSemicolon : ';' ∉ member.toList := notMem_of_isIdentifier identifier (by decide)
  have memberEquals : '=' ∉ member.toList := notMem_of_isIdentifier identifier (by decide)
  have noKeyword : String.ofList owner.toList ∉ Name.keywords := by
    rw [String.ofList_toList]
    exact usable.notMem_keywords
  have nonempty := Text.toList_ne_nil_of_isIdentifier identifier
  have once : ('.' :: (member.toList ++ ' ' :: ("= ".toList ++ value))).count '=' = 1 := by
    simp [List.count_eq_zero.mpr noEquals, List.count_eq_zero.mpr memberEquals]
  rw [ofLine?_append (Text.all_isIdentifierPart usable.isIdentifier) usable.toList_ne_nil noKeyword
    (by decide) (by simp [noSemicolon, single]), ofAssignment?,
    if_neg (by simp only [once, noKeyword]; decide), if_neg (by simp), if_pos (by simp)]
  have dropped : ('.' :: (member.toList ++ ' ' :: ("= ".toList ++ value))).drop 1 =
      member.toList ++ behind := rfl
  simp only [dropped, front, List.drop_left, nonempty, assigns, ne_eq, not_false_iff, and_self,
    if_true, String.ofList_toList]

end Statement

/-! ## Lines and their statements -/

/-- Lines of a text are whole lines of code, of which those at the left margin are some
statements. -/
def LinesGive (lines : List String) (statements : List Statement) : Prop :=
  ∃ outlines : List (List Char), Reads .start (lines.flatMap fun line => line.toList ++ ['\n'])
      (outlines.flatMap (· ++ ['\n'])) .start ∧
    (∀ outline ∈ outlines, '\n' ∉ outline) ∧
    (outlines.filter atMargin).mapM Statement.ofLine? = some statements

namespace LinesGive

variable {lines lines' : List String} {statements statements' : List Statement}

theorem nil : LinesGive [] [] := ⟨[], rfl, by simp, rfl⟩

theorem append (first : LinesGive lines statements) (second : LinesGive lines' statements') :
    LinesGive (lines ++ lines') (statements ++ statements') := by
  obtain ⟨outlines, reads, unbroken, understood⟩ := first
  obtain ⟨outlines', reads', unbroken', understood'⟩ := second
  refine ⟨outlines ++ outlines', ?_, ?_, ?_⟩
  · rw [List.flatMap_append, List.flatMap_append]
    exact reads.append reads'
  · rw [List.forall_mem_append]
    exact ⟨unbroken, unbroken'⟩
  · rw [List.filter_append, List.mapM_append, understood, understood']
    rfl

theorem flatMap {α : Type} {lines : α → List String} {statements : α → List Statement}
    {items : List α} (each : ∀ item ∈ items, LinesGive (lines item) (statements item)) :
    LinesGive (items.flatMap lines) (items.flatMap statements) := by
  induction items with
  | nil => exact nil
  | cons item items ih =>
      rw [List.forall_mem_cons] at each
      rw [List.flatMap_cons, List.flatMap_cons]
      exact each.1.append (ih each.2)

/-- Lines that make up one statement. -/
theorem statement {outline : List Char} {statement : Statement}
    (reads : Reads .start (lines.flatMap fun line => line.toList ++ ['\n']) (outline ++ ['\n'])
      .start)
    (unbroken : '\n' ∉ outline) (understood : Statement.ofLine? outline = some statement) :
    LinesGive lines [statement] := by
  refine ⟨[outline], by simpa using reads, by simpa using unbroken, ?_⟩
  simp [Statement.atMargin_of_ofLine? understood, understood]

/-- A line that is its own outline. -/
theorem line {line : String} {statement : Statement}
    (reads : Reads .start line.toList line.toList .start) (unbroken : '\n' ∉ line.toList)
    (understood : Statement.ofLine? line.toList = some statement) :
    LinesGive [line] [statement] := by
  have ending : Reads .start ['\n'] ['\n'] .start := rfl
  have whole : Reads .start ([line].flatMap fun line => line.toList ++ ['\n'])
      (line.toList ++ ['\n']) .start := by
    simpa using reads.append ending
  exact LinesGive.statement whole unbroken understood

/-- Lines that are empty or begin with a blank belong to the statement in front of them. -/
theorem inner (standAlone : ∀ line ∈ lines, StandsAlone line)
    (indented : ∀ line ∈ lines, Indented line) : LinesGive lines [] := by
  induction lines with
  | nil => exact nil
  | cons line lines ih =>
      rw [List.forall_mem_cons] at standAlone indented
      obtain ⟨outline, reads, unbroken⟩ := standAlone.1
      have noMargin : atMargin outline = false := by
        cases characters : line.toList with
        | nil =>
            rw [characters] at reads
            have ends : ['\n'] = outline ++ ['\n'] :=
              congrArg Prod.fst (Option.some.inj reads)
            have empty : outline = [] := by simpa using ends
            rw [empty]
            rfl
        | cons c rest =>
            have blank : c = ' ' := indented.1 c (by rw [characters]; rfl)
            rw [characters, blank] at reads
            obtain ⟨behind, same⟩ := Text.Code.exists_of_reads_blank reads
            cases outline with
            | nil => cases same
            | cons d outline =>
                obtain rfl := (List.cons.inj same).1
                rfl
      have first : LinesGive [line] [] :=
        ⟨[outline], by simpa using reads, by simpa using unbroken, by simp [noMargin]⟩
      exact first.append (ih standAlone.2 indented.2)

theorem blank : LinesGive [""] [] := by
  have empty : StandsAlone "" := .of_leads (by decide)
  exact inner (by simpa using empty) (by simp [Indented])

theorem statements?_eq {text : List Char} (give : LinesGive lines statements)
    (same : text = lines.flatMap fun line => line.toList ++ ['\n']) :
    statements? text = some statements := by
  obtain ⟨outlines, reads, unbroken, understood⟩ := give
  have joined : outlines.flatMap (· ++ ['\n']) = ['\n'].intercalate (outlines ++ [[]]) := by
    clear reads unbroken understood
    induction outlines with
    | nil => rfl
    | cons outline outlines ih =>
        rw [List.flatMap_cons, List.cons_append, List.intercalate_cons_of_ne_nil (by simp), ih,
          List.append_assoc]
  have split : (outlines.flatMap (· ++ ['\n'])).splitOn '\n' = outlines ++ [[]] := by
    rw [joined]
    refine List.splitOn_intercalate _ ?_ (by simp)
    rw [List.forall_mem_append, List.forall_mem_singleton]
    exact ⟨unbroken, List.not_mem_nil⟩
  have codeLines : Text.Code.lines? text = some (outlines ++ [[]]) := by
    unfold Text.Code.lines?
    rw [same, reads]
    simp [split]
  simp [statements?, topLevel?, codeLines, atMargin, understood]

end LinesGive

end Generated

end ShaderVariants
