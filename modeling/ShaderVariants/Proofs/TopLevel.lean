import ShaderVariants.Proofs.ClassLines
import ShaderVariants.Proofs.Statements
import ShaderVariants.Proofs.VariantCases

/-!
# Statements at the top level

The text of a generated module is code, and its statements at the top level are those that the
emitter means, as long as all docstrings keep their ends.  They import, decorate, define and assign
names that are all different, and set attributes of classes that are there already.
-/

namespace ShaderVariants

namespace Generated

open Text.Code (Reads Leads StandsAlone Indented)
open Text.Code.State (start within)

/-! ## Lines of classes -/

open Text.StringLiteral (split? docstringMarks)
open Text.Code (leads_identifier)

/-- A line with a class statement. -/
theorem linesGive_class {name behind : String} (identifier : Text.isIdentifier name = true)
    {c : Char} {rest : List Char} (same : behind.toList = c :: rest)
    (opens : c = '(' ∨ c = ':') (reads : Reads .start behind.toList behind.toList .start)
    (unbroken : '\n' ∉ behind.toList) (noAssignment : '=' ∉ rest) (single : ';' ∉ rest) :
    LinesGive ["class " ++ name ++ behind] [.binds (.defines name)] := by
  have word : Reads .start "class ".toList "class ".toList .start := rfl
  have named := Text.Code.reads_identifier identifier []
  have noBreak := Text.Code.noBreak_of_notMem_marks
    (Text.Code.notMem_marks_of_isIdentifier identifier)
  have characters : ("class " ++ name ++ behind).toList =
      "class".toList ++ ' ' :: (name.toList ++ c :: rest) := by
    rw [String.toList_append, String.toList_append, same]
    simp
  apply LinesGive.line
  · rw [String.toList_append, String.toList_append]
    exact (word.append named).append reads
  · simp [noBreak, unbroken]
  · rw [characters]
    exact Statement.ofLine?_class identifier opens noAssignment single

namespace EnumClass

variable {enumClass : EnumClass} (identifier : Text.isIdentifier enumClass.name = true)
include identifier

theorem linesGive_statement :
    LinesGive (enumClass.lines.take 2) [.decorator, .binds (.defines enumClass.name)] := by
  have decorator : LinesGive ["@functools.total_ordering"] [.decorator] :=
    .line rfl (by decide) (Statement.ofLine?_decorator (by decide) (by decide))
  have statement : LinesGive ["class " ++ enumClass.name ++ "(enum.Enum):"]
      [.binds (.defines enumClass.name)] :=
    linesGive_class identifier (rfl : "(enum.Enum):".toList = '(' :: "enum.Enum):".toList)
      (.inl rfl) (by decide) (by decide) (by decide) (by decide)
  exact decorator.append statement

/-- The lines behind the docstring. -/
theorem linesGive_body
    (members : ∀ member ∈ enumClass.members, Text.isIdentifier member.1 = true) :
    LinesGive (enumClass.lines.drop 3) [] := by
  have behind : enumClass.lines.drop 3 = (enumClass.lines.drop 2).drop 1 := by
    rw [List.drop_drop]
  refine .inner (standsAlone_body identifier members) fun line listed => ?_
  rw [behind] at listed
  exact enumClass.indented_lines line (List.mem_of_mem_drop listed)

theorem linesGive_lines
    (members : ∀ member ∈ enumClass.members, Text.isIdentifier member.1 = true)
    (notClosed : split? docstringMarks enumClass.summary.toList = none) :
    LinesGive enumClass.lines [.decorator, .binds (.defines enumClass.name)] := by
  have docstring : LinesGive [s!"    \"\"\"{enumClass.summary}\"\"\""] [] := by
    refine .inner (fun line listed => ?_) (by simp [Indented, toString])
    refine standsAlone_lines identifier members notClosed line ?_
    rw [List.mem_singleton.mp listed]
    simp [lines]
  have body := docstring.append (linesGive_body identifier members)
  exact (linesGive_statement identifier).append body

end EnumClass

namespace CaseClass

variable {caseClass : CaseClass} {family : String}

theorem linesGive_lines (readable : caseClass.IsReadable)
    (identifier : Text.isIdentifier family = true) :
    LinesGive (caseClass.lines family) [.decorator, .binds (.defines caseClass.name)] := by
  have decorator : LinesGive ["@dataclasses.dataclass(frozen=True)"] [.decorator] :=
    .line rfl (by decide) (Statement.ofLine?_decorator (by decide) (by decide))
  have noBreak := Text.Code.noBreak_of_notMem_marks
    (Text.Code.notMem_marks_of_isIdentifier identifier)
  have noEquals := Statement.notMem_of_isIdentifier identifier (c := '=') (by decide)
  have noSemicolon := Statement.notMem_of_isIdentifier identifier (c := ';') (by decide)
  have statement : LinesGive ["class " ++ caseClass.name ++ ("(" ++ family ++ "):")]
      [.binds (.defines caseClass.name)] := by
    have opening : Reads .start "(".toList "(".toList (within [')']) := rfl
    have closing : Reads (within [')']) "):".toList "):".toList .start := rfl
    have named := Text.Code.reads_identifier identifier [')']
    have characters : ("(" ++ family ++ "):").toList = '(' :: (family.toList ++ "):".toList) := by
      simp
    refine linesGive_class readable.name characters (.inl rfl) ?_ (by simp [noBreak])
      (by simp [noEquals]) (by simp [noSemicolon])
    simp only [String.toList_append]
    exact (opening.append named).append closing
  have body : LinesGive ((caseClass.lines family).drop 2) [] :=
    .inner (standsAlone_body readable identifier) (caseClass.indented_lines family)
  have same : caseClass.lines family = ["@dataclasses.dataclass(frozen=True)"]
      ++ ["class " ++ caseClass.name ++ ("(" ++ family ++ "):")]
      ++ (caseClass.lines family).drop 2 := by
    simp [lines, toString, String.append_assoc]
  rw [same]
  exact (decorator.append statement).append body

end CaseClass

/-! ## Lines of tables -/

/-- A text of names with dots between them. -/
def IsNamePath (text : String) : Prop := ∀ c ∈ text.toList, Text.isIdentifierPart c = true ∨ c = '.'

/-- A key applies a class to members of classes. -/
structure CaseKey.IsReadable (key : CaseKey) : Prop where
  className : IsNamePath key.className
  arguments : ∀ argument ∈ key.arguments, IsNamePath argument

/-- Some characters neither open nor close anything, assign nothing and end no statement. -/
def ArePlain (cs : List Char) : Prop := ∀ c ∈ cs, c ∉ Text.Code.marks ∧ c ≠ '=' ∧ c ≠ ';'

namespace ArePlain

variable {cs : List Char}

theorem append {first second : List Char} (plain : ArePlain first) (plain' : ArePlain second) :
    ArePlain (first ++ second) := List.forall_mem_append.mpr ⟨plain, plain'⟩

theorem reads (plain : ArePlain cs) (closers : List Char) :
    Reads (.within closers) cs cs (.within closers) :=
  Text.Code.reads_of_notMem_marks (fun c member => (plain c member).1) closers

theorem noBreak (plain : ArePlain cs) : '\n' ∉ cs :=
  Text.Code.noBreak_of_notMem_marks fun c member => (plain c member).1

theorem noEquals (plain : ArePlain cs) : '=' ∉ cs := fun member => (plain _ member).2.1 rfl

theorem noSemicolon (plain : ArePlain cs) : ';' ∉ cs := fun member => (plain _ member).2.2 rfl

theorem of_isNamePath {text : String} (path : IsNamePath text) : ArePlain text.toList := by
  intro c member
  rcases path c member with part | rfl
  · refine ⟨Text.Code.notMem_marks_of_isIdentifierPart part, ?_, ?_⟩
    · rintro rfl
      revert part
      decide
    · rintro rfl
      revert part
      decide
  · simp [Text.Code.marks]

theorem of_isIdentifier {name : String} (identifier : Text.isIdentifier name = true) :
    ArePlain name.toList :=
  of_isNamePath fun _ member => .inl (Text.isIdentifierPart_of_mem identifier member)

theorem leads (plain : ArePlain cs) (closers : List Char) :
    Leads (.within closers) cs (.within closers) :=
  ⟨cs, plain.reads closers, plain.noBreak⟩

theorem intercalate {texts : List String} (each : ∀ text ∈ texts, ArePlain text.toList) :
    ArePlain (String.intercalate ", " texts).toList := by
  induction texts with
  | nil => simp [ArePlain]
  | cons text texts ih =>
      obtain ⟨here, later⟩ := List.forall_mem_cons.mp each
      cases texts with
      | nil => simpa using here
      | cons next texts =>
          have comma : ArePlain ", ".toList := by simp [ArePlain, Text.Code.marks]
          rw [String.intercalate_cons_cons, String.toList_append, String.toList_append]
          exact (here.append comma).append (ih later)

end ArePlain

/-- An outline in which nothing is assigned and no statement ends. -/
structure GoesOn (outline : List Char) : Prop where
  noBreak : '\n' ∉ outline
  noEquals : '=' ∉ outline
  noSemicolon : ';' ∉ outline

namespace GoesOn

theorem append {first second : List Char} (goesOn : GoesOn first) (goesOn' : GoesOn second) :
    GoesOn (first ++ second) where
  noBreak := by simp [goesOn.noBreak, goesOn'.noBreak]
  noEquals := by simp [goesOn.noEquals, goesOn'.noEquals]
  noSemicolon := by simp [goesOn.noSemicolon, goesOn'.noSemicolon]

theorem flatMap {α : Type} {items : List α} {outline : α → List Char}
    (each : ∀ item ∈ items, GoesOn (outline item)) : GoesOn (items.flatMap outline) := by
  induction items with
  | nil => constructor <;> exact List.not_mem_nil
  | cons item items ih =>
      rw [List.forall_mem_cons] at each
      rw [List.flatMap_cons]
      exact each.1.append (ih each.2)

end GoesOn

theorem ArePlain.goesOn {cs : List Char} (plain : ArePlain cs) : GoesOn cs :=
  ⟨plain.noBreak, plain.noEquals, plain.noSemicolon⟩

/-- Code that is its own outline within any brackets, and goes on behind it. -/
structure IsExpression (cs : List Char) : Prop where
  reads : ∀ closers, Reads (.within closers) cs cs (.within closers)
  goesOn : GoesOn cs

theorem CaseKey.IsReadable.isExpression {key : CaseKey} (readable : key.IsReadable) :
    IsExpression key.text.toList := by
  have className := ArePlain.of_isNamePath readable.className
  have arguments := ArePlain.intercalate fun argument listed =>
    ArePlain.of_isNamePath (readable.arguments argument listed)
  have characters : key.text.toList = key.className.toList ++
      ('(' :: ((String.intercalate ", " key.arguments).toList ++ [')'])) := by
    simp [CaseKey.text]
  rw [characters]
  generalize (String.intercalate ", " key.arguments).toList = inner at arguments
  constructor
  · intro closers
    have opening : Reads (.within closers) ['('] ['('] (.within (')' :: closers)) := rfl
    have closing : Reads (.within (')' :: closers)) [')'] [')'] (.within closers) := rfl
    exact (className.reads closers).append
      (opening.append ((arguments.reads (')' :: closers)).append closing))
  · have brackets : GoesOn ['('] ∧ GoesOn [')'] := by
      constructor <;> constructor <;> decide
    exact className.goesOn.append (brackets.1.append (arguments.goesOn.append brackets.2))

/-! ### Entries with quoted text -/

/-- The outline of an entry of a list: what stands in front of the text, and a mark for the text. -/
def entryOutline (front : List Char) (text : String) : List Char :=
  front ++ [Text.Quoted.mark text.toList, ',']

-- The comma keeps the mark apart from what follows, and the brackets swallow the line break.
theorem reads_entry {front : List Char} {closer : Char} {closers : List Char}
    (reads : Reads (.within (closer :: closers)) front front (.within (closer :: closers)))
    (text : String) :
    Reads (.within (closer :: closers))
      (front ++ (Text.Quoted.encodeChars text.toList ++ [',']) ++ ['\n'])
      (entryOutline front text) (.within (closer :: closers)) := by
  have ends : Text.Code.readOutside (closer :: closers) ',' =
      some ([','], .within (closer :: closers)) :=
    Text.Code.readOutside_of_notMem_marks (by decide) _
  have quoted := Text.Code.reads_encodeChars text.toList ends (Text.Quoted.ne_mark (by decide) _)
  have lineEnd : Reads (.within (closer :: closers)) ['\n'] [] (.within (closer :: closers)) := rfl
  have whole := (reads.append quoted).append lineEnd
  rwa [List.append_nil] at whole

theorem goesOn_entryOutline {front : List Char} (goesOn : GoesOn front) (text : String) :
    GoesOn (entryOutline front text) := by
  have noQuote {c : Char} (other : ¬Text.Quoted.IsQuote c) (noComma : c ≠ ',') :
      c ∉ [Text.Quoted.mark text.toList, ','] := by
    simp [Text.Quoted.ne_mark other, noComma]
  exact goesOn.append ⟨noQuote (by decide) (by decide), noQuote (by decide) (by decide),
    noQuote (by decide) (by decide)⟩

/-- What can be read of the classes and tables of a declaration, if its docstring keeps its end. -/
structure Family.IsReadable (family : Family) : Prop where
  name : Name.Usable family.name
  docstring : split? docstringMarks family.summary.toList = none
  caseClasses : ∀ caseClass ∈ family.caseClasses, caseClass.IsReadable
  keys : ∀ entry ∈ family.sources, entry.1.IsReadable

namespace Family

variable {family : Family}

/-- The statements of the classes and tables. -/
def statements (family : Family) : List Statement :=
  [.decorator, .binds (.defines family.name)]
    ++ family.caseClasses.flatMap (fun caseClass =>
      [.decorator, .binds (.defines caseClass.name)])
    ++ family.caseClasses.map (fun caseClass =>
      .setsAttribute family.name caseClass.variant)
    ++ family.tableNames.map fun name => .binds (.assigns name)

/-- The name of a table. -/
theorem isNamePath_table {front : String} (isFront : front ∈ tablePrefixes)
    (identifier : Text.isIdentifier family.name = true) : IsNamePath (front ++ family.name) := by
  have fronts : ∀ front ∈ tablePrefixes, front.toList.all Text.isIdentifierPart = true := by decide
  intro c member
  rw [String.toList_append, List.mem_append] at member
  rcases member with inFront | inName
  · exact .inl (List.all_eq_true.mp (fronts front isFront) c inFront)
  · exact .inl (Text.isIdentifierPart_of_mem identifier inName)

theorem standsAlone_path (path : String) :
    StandsAlone s!"    TEMPLATE_PATH = {Text.Quoted.encode path}" := by
  have front : Reads .start "    TEMPLATE_PATH = ".toList "    TEMPLATE_PATH = ".toList .start := by
    decide
  have ends : Text.Code.readOutside [] '\n' = some (['\n'], .start) := rfl
  have other : '\n' ≠ Text.Quoted.mark path.toList := Text.Quoted.ne_mark (by decide) _
  have quoted := Text.Code.reads_encodeChars path.toList ends other
  refine ⟨"    TEMPLATE_PATH = ".toList ++ [Text.Quoted.mark path.toList], ?_, ?_⟩
  · simpa [toString, Text.Quoted.encode] using front.append quoted
  · simp [other]

/-- The lines of a base class, if its docstring keeps its end. -/
theorem standsAlone_baseLines (usable : Name.Usable family.name)
    (notClosed : split? docstringMarks family.summary.toList = none) :
    ∀ line ∈ family.baseLines.drop 2, StandsAlone line := by
  have outside := leads_identifier usable.isIdentifier
  obtain ⟨init, ends⟩ : ∃ init, family.summary.toList = init ++ ['.'] :=
    ⟨_, String.toList_append⟩
  have table {front : String} (isFront : front ∈ tablePrefixes) (closers : List Char) :=
    (ArePlain.of_isNamePath (isNamePath_table isFront usable.isIdentifier)).leads closers
  have shader : StandsAlone ("        return " ++ family.sourcesName ++ "[self]") :=
    standsAlone_of_name (by decide) (table (by decide) []) (by decide)
  have raw : StandsAlone ("        return " ++ family.rawName ++ "") :=
    standsAlone_of_name (by decide) (table (by decide) []) (by decide)
  have lister : StandsAlone ("    def cases() -> tuple[" ++ family.name ++ ", ...]:") :=
    standsAlone_of_name (by decide) (outside [']']) (by decide)
  have cases : StandsAlone ("        return tuple(" ++ family.sourcesName ++ ")") :=
    standsAlone_of_name (by decide) (table (by decide) [')']) (by decide)
  have check : StandsAlone ("        if not isinstance(other, " ++ family.name ++ "):") :=
    standsAlone_of_name (by decide) (outside [')']) (by decide)
  have orders : StandsAlone ("        return " ++ family.orderName
      ++ ("[self] < " ++ family.orderName ++ "[other]")) := by
    refine standsAlone_of_name (by decide) (table (by decide) []) ?_
    rw [String.toList_append, String.toList_append]
    have between : Leads .start "[self] < ".toList .start := by decide
    exact (between.append (table (by decide) [])).append (by decide)
  have empty : StandsAlone "" := .of_leads (by decide)
  have path := standsAlone_path family.templatePath
  have docstring := standsAlone_docstring ends notClosed
  simp only [baseLines, List.drop_succ_cons, List.drop_zero, List.forall_mem_cons,
    List.not_mem_nil, false_implies, implies_true, and_true]
  rw [String.append_empty] at raw
  rw [← String.append_assoc, ← String.append_assoc] at orders
  refine ⟨docstring, empty, path, empty, .of_leads ?_, shader, empty, .of_leads ?_, .of_leads ?_,
    raw, empty, .of_leads ?_, lister, cases, empty, .of_leads ?_, check, .of_leads ?_, orders⟩
  all_goals
    simp only [String.reduceToList]
    decide

theorem linesGive_baseLines (usable : Name.Usable family.name)
    (notClosed : split? docstringMarks family.summary.toList = none) :
    LinesGive family.baseLines [.decorator, .binds (.defines family.name)] := by
  have decorator : LinesGive ["@functools.total_ordering"] [.decorator] :=
    .line rfl (by decide) (Statement.ofLine?_decorator (by decide) (by decide))
  have statement : LinesGive ["class " ++ family.name ++ ":"] [.binds (.defines family.name)] :=
    linesGive_class usable.isIdentifier (rfl : ":".toList = [':']) (.inr rfl) (by decide)
      (by decide) (by decide) (by decide)
  have body : LinesGive (family.baseLines.drop 2) [] := by
    refine .inner (standsAlone_baseLines usable notClosed) ?_
    simp only [baseLines, List.drop_succ_cons, List.drop_zero, List.forall_mem_cons]
    simp [Indented, toString]
  exact (decorator.append statement).append body

/-- The lines that set the attributes of the base class. -/
theorem linesGive_memberLines (usable : Name.Usable family.name)
    (caseClasses : ∀ caseClass ∈ family.caseClasses, caseClass.IsReadable) :
    LinesGive family.memberLines (family.caseClasses.map fun caseClass =>
      .setsAttribute family.name caseClass.variant) := by
  rw [memberLines, List.map_eq_flatMap, List.map_eq_flatMap]
  apply LinesGive.flatMap
  intro caseClass member
  have readable := caseClasses caseClass member
  have owner := ArePlain.of_isIdentifier usable.isIdentifier
  have variant := ArePlain.of_isIdentifier readable.variant
  have name := ArePlain.of_isIdentifier readable.name
  have dot : ArePlain ".".toList := by simp [ArePlain, Text.Code.marks]
  have equals : Reads .start " = ".toList " = ".toList .start := rfl
  have characters : (s!"{family.name}.{caseClass.variant} = {caseClass.name}").toList =
      family.name.toList ++ ".".toList ++ caseClass.variant.toList ++ " = ".toList
        ++ caseClass.name.toList := by
    simp [toString]
  have reads := (((owner.append dot).append variant).reads []).append
    (equals.append (name.reads []))
  have understood := Statement.ofLine?_setsAttribute usable readable.variant name.noSemicolon
    name.noEquals
  apply LinesGive.line
  · rw [characters]
    simpa using reads
  · rw [characters]
    simp [owner.noBreak, variant.noBreak, name.noBreak]
  · rw [characters]
    simpa using understood

/-- A statement that assigns to the name of a table. -/
theorem ofLine?_table (identifier : Text.isIdentifier family.name = true) {front : String}
    (isFront : front ∈ tablePrefixes) {c : Char} (ends : c ∈ nameEnds) (rest : List Char)
    (single : ';' ∉ rest) (once : (c :: rest).count '=' = 1)
    (assigns : " = ".toList <+: c :: rest ∨
      ": ".toList <+: c :: rest ∧ " = ".toList <:+: c :: rest) :
    Statement.ofLine? ((front ++ family.name).toList ++ c :: rest) =
      some (.binds (.assigns (front ++ family.name))) := by
  have heads : ∀ front ∈ tablePrefixes, front.toList.head? = some '_' := by decide
  have head : (front ++ family.name).toList.head? = some '_' := by
    rw [String.toList_append, List.head?_append, heads front isFront, Option.some_or]
  have inside : (front ++ family.name).toList.all Text.isIdentifierPart = true := by
    have fronts : ∀ front ∈ tablePrefixes, front.toList.all Text.isIdentifierPart = true := by
      decide
    rw [String.toList_append, List.all_append, fronts front isFront,
      Text.all_isIdentifierPart identifier, Bool.and_self]
  have nonempty : (front ++ family.name).toList ≠ [] := by
    intro empty
    rw [empty] at head
    cases head
  have noKeyword : String.ofList (front ++ family.name).toList ∉ Name.keywords := by
    rw [String.ofList_toList]
    intro keyword
    have letters : ∀ word ∈ Name.keywords, word.toList.head? ≠ some '_' := by decide
    exact letters _ keyword head
  have read := Statement.ofLine?_assigns inside nonempty noKeyword ends rest single once assigns
  rwa [String.ofList_toList] at read

theorem linesGive_raw (identifier : Text.isIdentifier family.name = true) :
    LinesGive [s!"{family.rawName} = {Text.Quoted.encode family.template}"]
      [.binds (.assigns ("_RAW_" ++ family.name))] := by
  let mark := Text.Quoted.mark family.template.toList
  have other {c : Char} (noQuote : ¬Text.Quoted.IsQuote c) : c ≠ mark :=
    Text.Quoted.ne_mark noQuote _
  have name := ArePlain.of_isNamePath
    (isNamePath_table (by decide : "_RAW_" ∈ tablePrefixes) identifier)
  have equals : Reads .start " = ".toList " = ".toList .start := rfl
  have ends : Text.Code.readOutside [] '\n' = some (['\n'], .start) := rfl
  have quoted := Text.Code.reads_encodeChars family.template.toList ends (other (by decide))
  have reads := (name.reads []).append (equals.append quoted)
  have single : ';' ∉ ['=', ' ', mark] := by simp [other (c := ';') (by decide)]
  have once : [' ', '=', ' ', mark].count '=' = 1 := by
    have noEquals : mark ≠ '=' := (other (by decide)).symm
    simp [noEquals]
  have understood := ofLine?_table identifier (by decide : "_RAW_" ∈ tablePrefixes)
    (by decide : ' ' ∈ nameEnds) ['=', ' ', mark] single once (.inl (by simp))
  refine LinesGive.statement ?_ ?_ understood
  · simpa [toString, rawName, Text.Quoted.encode] using reads
  · rw [List.mem_append, not_or]
    exact ⟨name.noBreak, by simp [other (c := '\n') (by decide)]⟩

/-- The outline of a row of the table: its key, and a mark for its source. -/
def rowOutline (entry : CaseKey × String) : List Char :=
  entryOutline ("    ".toList ++ entry.1.text.toList ++ ": ".toList) entry.2

theorem reads_row {entry : CaseKey × String} (readable : entry.1.IsReadable) :
    Reads (.within ['\x7d'])
      ((s!"    {entry.1.text}: {Text.Quoted.encode entry.2},").toList ++ ['\n'])
      (rowOutline entry) (.within ['\x7d']) := by
  have indent : Reads (.within ['\x7d']) "    ".toList "    ".toList (.within ['\x7d']) := rfl
  have colon : Reads (.within ['\x7d']) ": ".toList ": ".toList (.within ['\x7d']) := rfl
  have key := readable.isExpression.reads ['\x7d']
  have characters : (s!"    {entry.1.text}: {Text.Quoted.encode entry.2},").toList =
      "    ".toList ++ entry.1.text.toList ++ ": ".toList ++
        (Text.Quoted.encodeChars entry.2.toList ++ [',']) := by
    simp [toString, Text.Quoted.encode]
  rw [characters]
  exact reads_entry ((indent.append key).append colon) entry.2

theorem goesOn_rowOutline {entry : CaseKey × String} (readable : entry.1.IsReadable) :
    GoesOn (rowOutline entry) := by
  have indent : GoesOn "    ".toList := by constructor <;> decide
  have colon : GoesOn ": ".toList := by constructor <;> decide
  exact goesOn_entryOutline ((indent.append readable.isExpression.goesOn).append colon) entry.2

theorem linesGive_table (usable : Name.Usable family.name)
    (keys : ∀ entry ∈ family.sources, entry.1.IsReadable) :
    LinesGive ([s!"{family.sourcesName}: dict[{family.name}, str] = \x7b"] ++ family.tableLines
      ++ ["\x7d"]) [.binds (.assigns ("_SOURCES_" ++ family.name))] := by
  let rows := family.sources.flatMap rowOutline
  have table := ArePlain.of_isNamePath
    (isNamePath_table (by decide : "_SOURCES_" ∈ tablePrefixes) usable.isIdentifier)
  have name := ArePlain.of_isIdentifier usable.isIdentifier
  have goesOn : GoesOn rows := .flatMap fun entry listed => goesOn_rowOutline (keys entry listed)
  have reads : Reads .start
      ((family.sourcesName.toList ++ ": dict[".toList ++ family.name.toList
          ++ ", str] = \x7b\n".toList)
        ++ (family.sources.flatMap fun entry =>
          (s!"    {entry.1.text}: {Text.Quoted.encode entry.2},").toList ++ ['\n'])
        ++ "\x7d\n".toList)
      ((("_SOURCES_" ++ family.name).toList ++ ": dict[".toList ++ family.name.toList
          ++ ", str] = \x7b".toList) ++ rows ++ "\x7d\n".toList) .start := by
    have opening : Reads .start ": dict[".toList ": dict[".toList (.within [']']) := rfl
    have closing : Reads (.within [']']) ", str] = \x7b\n".toList ", str] = \x7b".toList
      (.within ['\x7d']) := rfl
    have last : Reads (.within ['\x7d']) "\x7d\n".toList "\x7d\n".toList .start := rfl
    have entries := Reads.flatMap fun entry listed => reads_row (keys entry listed)
    exact ((((((table.reads []).append opening).append (name.reads [']'])).append closing).append
      entries).append last)
  have understood := ofLine?_table usable.isIdentifier
    (by decide : "_SOURCES_" ∈ tablePrefixes) (by decide : ':' ∈ nameEnds)
    (" dict[".toList ++ family.name.toList ++ ", str] = \x7b".toList ++ rows ++ "\x7d".toList)
    (by simp [name.noSemicolon, goesOn.noSemicolon])
    (by simp [List.count_eq_zero.mpr name.noEquals, List.count_eq_zero.mpr goesOn.noEquals])
    (.inr ⟨by simp, by
      refine ⟨": dict[".toList ++ family.name.toList ++ ", str]".toList, "\x7b".toList ++ rows
        ++ "\x7d".toList, ?_⟩
      simp⟩)
  refine LinesGive.statement ?_ ?_ understood
  · simpa [toString, sourcesName, tableLines, List.flatMap_map, Function.comp_def] using reads
  · simp [goesOn.noBreak, name.noBreak]

theorem linesGive_order (usable : Name.Usable family.name) :
    LinesGive [s!"{family.orderName} = \x7bcase: index for index, case in "
      ++ s!"enumerate({family.sourcesName})\x7d"]
      [.binds (.assigns ("_ORDER_" ++ family.name))] := by
  have order := ArePlain.of_isNamePath
    (isNamePath_table (by decide : "_ORDER_" ∈ tablePrefixes) usable.isIdentifier)
  have sources := ArePlain.of_isNamePath
    (isNamePath_table (by decide : "_SOURCES_" ∈ tablePrefixes) usable.isIdentifier)
  let opening := "= \x7bcase: index for index, case in enumerate(".toList
  let rest := opening ++ ("_SOURCES_" ++ family.name).toList ++ ")\x7d".toList
  have blank : Reads .start [' '] [' '] .start := rfl
  have opens : Reads .start opening opening (.within [')', '\x7d']) := rfl
  have closes : Reads (.within [')', '\x7d']) ")\x7d".toList ")\x7d".toList .start := rfl
  have reads := (order.reads []).append
    (blank.append ((opens.append (sources.reads [')', '\x7d'])).append closes))
  have characters : (s!"{family.orderName} = \x7bcase: index for index, case in "
      ++ s!"enumerate({family.sourcesName})\x7d").toList =
      ("_ORDER_" ++ family.name).toList ++ ' ' :: rest := by
    simp [toString, orderName, sourcesName, rest, opening]
  have single : ';' ∉ rest := by
    have outside : ';' ∉ opening ∧ ';' ∉ ")\x7d".toList := by decide
    simp only [rest, List.mem_append, not_or]
    exact ⟨⟨outside.1, sources.noSemicolon⟩, outside.2⟩
  have once : (' ' :: rest).count '=' = 1 := by
    have counts : opening.count '=' = 1 ∧ ")\x7d".toList.count '=' = 0 := by decide
    rw [List.count_cons_of_ne (by decide), List.count_append, List.count_append, counts.1, counts.2,
      List.count_eq_zero.mpr sources.noEquals]
  have unbroken : '\n' ∉ ' ' :: rest := by
    have outside : '\n' ∉ opening ∧ '\n' ∉ ")\x7d".toList := by decide
    simp only [rest, List.mem_cons, List.mem_append, not_or]
    exact ⟨by decide, ⟨outside.1, sources.noBreak⟩, outside.2⟩
  have assigns : " = ".toList <+: ' ' :: rest := List.prefix_append " = ".toList _
  have understood := ofLine?_table usable.isIdentifier (by decide : "_ORDER_" ∈ tablePrefixes)
    (by decide : ' ' ∈ nameEnds) rest single once (.inl assigns)
  apply LinesGive.line
  · rw [characters]
    exact reads
  · rw [characters, List.mem_append, not_or]
    exact ⟨order.noBreak, unbroken⟩
  · rw [characters]
    exact understood

/-- The classes and tables of a declaration. -/
theorem IsReadable.linesGive_lines (readable : family.IsReadable) :
    LinesGive family.lines family.statements := by
  have blank := LinesGive.blank
  have classes : LinesGive (family.caseClasses.flatMap fun caseClass =>
      "" :: "" :: caseClass.lines family.name)
      (family.caseClasses.flatMap fun caseClass =>
        [.decorator, .binds (.defines caseClass.name)]) :=
    LinesGive.flatMap fun caseClass member => (blank.append blank).append
      (CaseClass.linesGive_lines (readable.caseClasses caseClass member)
        readable.name.isIdentifier)
  have between : LinesGive (if family.caseClasses.isEmpty then [] else [""]) [] := by
    split
    · exact .nil
    · exact blank
  have front := ((linesGive_baseLines readable.name readable.docstring).append classes).append
    (blank.append blank)
  have members := linesGive_memberLines readable.name readable.caseClasses
  have raw := (linesGive_raw readable.name.isIdentifier).append blank
  have tables := (raw.append (linesGive_table readable.name readable.keys)).append
    (linesGive_order readable.name)
  have whole := (front.append (members.append between)).append tables
  simpa [lines, statements, tableNames, tablePrefixes] using whole

end Family

/-! ## Modules -/

/-- What can be read of a generated module, if all docstrings keep their ends. -/
structure Module.IsReadable (module : Module) : Prop where
  docstring : split? docstringMarks (headerDocstring module.sourceName).toList = none
  enumClasses : ∀ enumClass ∈ module.enumClasses, Text.isIdentifier enumClass.name = true ∧
    (∀ member ∈ enumClass.members, Text.isIdentifier member.1 = true) ∧
    split? docstringMarks enumClass.summary.toList = none
  families : ∀ family ∈ module.families, family.IsReadable

namespace Module

/-- The statements of the module. -/
def statements (module : Module) : List Statement :=
  .literal
    :: ["annotations", "dataclasses", "enum", "functools"].map (fun name => .binds (.imports name))
    ++ [.binds (.assigns "__all__")]
    ++ module.enumClasses.flatMap (fun enumClass =>
      [.decorator, .binds (.defines enumClass.name)])
    ++ module.families.flatMap Family.statements

/-- The docstring of a module ends with a line. -/
theorem exists_headerDocstring_eq (sourceName : String) :
    ∃ init, (headerDocstring sourceName).toList = init ++ ['\n'] := by
  refine ⟨headerOpening.toList ++ sourceName.toList ++
    ('.' :: '\n' :: "Generated by wgsl-variants - DO NOT EDIT.".toList), ?_⟩
  simp only [headerDocstring, String.toList_append, toList_headerClosing, List.append_assoc,
    List.cons_append]

theorem linesGive_headerLines {module : Module}
    (notClosed : split? docstringMarks (headerDocstring module.sourceName).toList = none) :
    LinesGive module.headerLines
      (.literal :: ["annotations", "dataclasses", "enum", "functools"].map fun name =>
        .binds (.imports name)) := by
  let docstringLines := ["\"\"\"", s!"Shader variants generated from {module.sourceName}.",
    "Generated by wgsl-variants - DO NOT EDIT.", "\"\"\""]
  have docstring : LinesGive docstringLines [.literal] := by
    obtain ⟨init, ends⟩ := exists_headerDocstring_eq module.sourceName
    have reads := Text.Code.reads_docstring ends (by decide) (by decide) notClosed []
    have lineEnd : Reads .start ['\n'] ['\n'] .start := rfl
    have characters : (docstringLines.flatMap fun line => line.toList ++ ['\n']) =
        docstringMarks ++ ((headerDocstring module.sourceName).toList ++ docstringMarks)
          ++ ['\n'] := by
      simp [docstringLines, headerDocstring, toList_headerOpening, toList_headerClosing,
        docstringMarks, toString]
    have outlined := reads.append lineEnd
    rw [← characters] at outlined
    exact LinesGive.statement outlined (by decide) rfl
  have imports : LinesGive ["", "from __future__ import annotations", "", "import dataclasses",
      "import enum", "import functools"]
      (["annotations", "dataclasses", "enum", "functools"].map fun name =>
        .binds (.imports name)) := by
    have blank := LinesGive.blank
    have future : LinesGive ["from __future__ import annotations"]
        [.binds (.imports "annotations")] := .line rfl (by decide) (by decide +kernel)
    have first : LinesGive ["import dataclasses"] [.binds (.imports "dataclasses")] :=
      .line rfl (by decide) (by decide +kernel)
    have second : LinesGive ["import enum"] [.binds (.imports "enum")] :=
      .line rfl (by decide) (by decide +kernel)
    have third : LinesGive ["import functools"] [.binds (.imports "functools")] :=
      .line rfl (by decide) (by decide +kernel)
    exact ((blank.append future).append blank).append ((first.append second).append third)
  exact docstring.append imports

/-- The outline of a line with an exported name. -/
def exportOutline (name : String) : List Char := entryOutline "    ".toList name

theorem reads_export (name : String) :
    Reads (.within [']']) ((s!"    {Text.Quoted.encode name},").toList ++ ['\n'])
      (exportOutline name) (.within [']']) := by
  have indent : Reads (.within [']']) "    ".toList "    ".toList (.within [']']) := rfl
  have characters : (s!"    {Text.Quoted.encode name},").toList =
      "    ".toList ++ (Text.Quoted.encodeChars name.toList ++ [',']) := by
    simp [toString, Text.Quoted.encode]
  rw [characters]
  exact reads_entry indent name

theorem linesGive_exportLines (module : Module) :
    LinesGive module.exportLines [.binds (.assigns "__all__")] := by
  let entries := module.exports.flatMap exportOutline
  have goesOn : GoesOn entries := by
    have indent : GoesOn "    ".toList := by constructor <;> decide
    exact .flatMap fun name _ => goesOn_entryOutline indent name
  have opening : Reads .start "__all__ = [\n".toList "__all__ = [".toList (.within [']']) := rfl
  have closing : Reads (.within [']']) "]\n".toList "]\n".toList .start := rfl
  have reads := (opening.append (Reads.flatMap fun name (_ : name ∈ module.exports) =>
    reads_export name)).append closing
  have understood := Statement.ofLine?_assigns
    (by decide : "__all__".toList.all Text.isIdentifierPart = true) (by decide) (by decide)
    (by decide : ' ' ∈ nameEnds) ("= [".toList ++ entries ++ [']'])
    (by simp [goesOn.noSemicolon]) (by simp [List.count_eq_zero.mpr goesOn.noEquals])
    (.inl (by simp))
  refine LinesGive.statement ?_ ?_ understood
  · simpa [exportLines, entries, List.flatMap_map, Function.comp_def] using reads
  · simp [goesOn.noBreak]

theorem linesGive_lines {module : Module} (readable : module.IsReadable) :
    LinesGive module.lines module.statements := by
  have blanks := LinesGive.blank.append LinesGive.blank
  have enumClasses : LinesGive (module.enumClasses.flatMap fun enumClass =>
      "" :: "" :: enumClass.lines)
      (module.enumClasses.flatMap fun enumClass =>
        [.decorator, .binds (.defines enumClass.name)]) := by
    refine LinesGive.flatMap fun enumClass member => ?_
    obtain ⟨identifier, members, notClosed⟩ := readable.enumClasses enumClass member
    exact blanks.append (EnumClass.linesGive_lines identifier members notClosed)
  have families : LinesGive (module.families.flatMap fun family => "" :: "" :: family.lines)
      (module.families.flatMap Family.statements) :=
    LinesGive.flatMap fun family member =>
      blanks.append (readable.families family member).linesGive_lines
  have header := linesGive_headerLines readable.docstring
  have whole := (((header.append blanks).append module.linesGive_exportLines).append
    enumClasses).append families
  rw [lines_eq]
  simpa [statements] using whole

theorem statements?_text {module : Module} (readable : module.IsReadable) :
    statements? module.text.toList = some module.statements :=
  (linesGive_lines readable).statements?_eq module.toList_text

end Module

end Generated

end ShaderVariants
