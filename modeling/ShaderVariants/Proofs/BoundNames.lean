import ShaderVariants.Proofs.ClassNames
import ShaderVariants.Proofs.GeneratedLines
import ShaderVariants.Proofs.QuotedText

/-!
# Names that generated modules bind

A line at the left margin of a generated module binds a name if it imports one, begins a class or
assigns something; every other line begins with a blank or a mark, or assigns to an attribute.  The
names that the lines of an accepted module bind are all different: class names differ by the rules
and hide no import, and everything else begins with an underscore.
-/

namespace ShaderVariants

namespace Generated

/-! ## Reading a line -/

/-- What a line binds at the top level of a module. -/
inductive Binding where
  | imports (name : String)
  | defines (name : String)
  | assigns (name : String)
  deriving DecidableEq

namespace Binding

def name : Binding → String
  | imports name | defines name | assigns name => name

end Binding

/-- The name that a text begins with. -/
def leadingName (cs : List Char) : List Char := cs.takeWhile Text.isIdentifierPart

/-- What stands behind the first blank. -/
def behindBlank (cs : List Char) : List Char := (cs.dropWhile (· ≠ ' ')).drop 1

/-- What a line binds when it is a line of code on its own and does not belong to the statement
before it. -/
def binding? (line : String) : Option Binding :=
  let cs := line.toList
  let word := leadingName cs
  let rest := cs.drop word.length
  if word = "class".toList then
    some (.defines (String.ofList (leadingName (behindBlank cs))))
  else if word = "import".toList then
    some (.imports (String.ofList (leadingName (behindBlank cs))))
  else if word = "from".toList then
    some (.imports (String.ofList (leadingName (behindBlank (behindBlank (behindBlank cs))))))
  else if word ≠ [] ∧ (" = ".toList <+: rest ∨ ": ".toList <+: rest) then
    some (.assigns (String.ofList word))
  else none

/-- Characters of the generated module at which a name ends. -/
def nameEnds : List Char := [' ', '"', '@', '(', ':', '.', ']', '\x7d']

theorem isIdentifierPart_of_mem_nameEnds {c : Char} (ends : c ∈ nameEnds) :
    Text.isIdentifierPart c = false := by
  simp only [nameEnds, List.mem_cons, List.not_mem_nil, or_false] at ends
  rcases ends with rfl | rfl | rfl | rfl | rfl | rfl | rfl | rfl <;> decide

theorem leadingName_append {word : List Char} (inside : word.all Text.isIdentifierPart = true)
    {c : Char} (ends : c ∈ nameEnds) (rest : List Char) :
    leadingName (word ++ c :: rest) = word := by
  have outside := isIdentifierPart_of_mem_nameEnds ends
  rw [List.all_eq_true] at inside
  rw [leadingName, List.takeWhile_append_of_pos inside,
    List.takeWhile_cons_of_neg (by simp [outside]), List.append_nil]

theorem leadingName_nil : leadingName [] = [] := rfl

theorem leadingName_cons {c : Char} (ends : c ∈ nameEnds) (rest : List Char) :
    leadingName (c :: rest) = [] :=
  List.takeWhile_cons_of_neg (by simp [isIdentifierPart_of_mem_nameEnds ends])

/-- A line that goes on with the statement before it, or binds nothing. -/
def Inner (line : String) : Prop := leadingName line.toList = []

theorem inner_empty : Inner "" := leadingName_nil

theorem inner_of_head? {line : String} {c : Char} (ends : c ∈ nameEnds)
    (head : line.toList.head? = some c) : Inner line := by
  obtain ⟨rest, same⟩ := List.head?_eq_some_iff.mp head
  rw [Inner, same, leadingName_cons ends]

theorem Inner.binding?_eq_none {line : String} (inner : Inner line) : binding? line = none := by
  unfold binding?
  rw [Inner] at inner
  simp [inner]

theorem filterMap_binding?_of_inner {lines : List String} (inner : ∀ line ∈ lines, Inner line) :
    lines.filterMap binding? = [] :=
  List.filterMap_eq_nil_iff.mpr fun line member => (inner line member).binding?_eq_none

theorem binding?_class {line name : String} (identifier : Text.isIdentifier name = true) {c : Char}
    (ends : c ∈ nameEnds) {rest : List Char}
    (same : line.toList = "class".toList ++ ' ' :: (name.toList ++ c :: rest)) :
    binding? line = some (.defines name) := by
  have inside := Text.all_isIdentifierPart identifier
  have word := leadingName_append (by decide : "class".toList.all Text.isIdentifierPart = true)
    (by decide : ' ' ∈ nameEnds) (name.toList ++ c :: rest)
  have behind : behindBlank ("class".toList ++ ' ' :: (name.toList ++ c :: rest)) =
      name.toList ++ c :: rest := by
    simp [behindBlank]
  unfold binding?
  dsimp only
  rw [same, word, if_pos rfl, behind, leadingName_append inside ends, String.ofList_toList]

/-- The words that begin a class or an import. -/
def statementWords : List (List Char) := ["class".toList, "import".toList, "from".toList]

/-- What a line binds that begins with a name and no statement's word. -/
theorem binding?_append {line : String} {word : List Char}
    (inside : word.all Text.isIdentifierPart = true) (nonempty : word ≠ [])
    (noStatement : word ∉ statementWords) {c : Char}
    (ends : c ∈ nameEnds) {rest : List Char}
    (same : line.toList = word ++ c :: rest) :
    binding? line =
      if " = ".toList <+: c :: rest ∨ ": ".toList <+: c :: rest then
        some (.assigns (String.ofList word))
      else none := by
  have front := leadingName_append inside ends rest
  simp only [statementWords, List.mem_cons, List.not_mem_nil, or_false, not_or] at noStatement
  obtain ⟨noClass, noImport, noFrom⟩ := noStatement
  unfold binding?
  simp only [same, front, if_neg noClass, if_neg noImport, if_neg noFrom, List.drop_left,
    nonempty, ne_eq, not_false_iff, true_and]

/-! ## What each section binds -/

theorem Module.filterMap_binding?_headerLines (module : Module) :
    module.headerLines.filterMap binding? =
      [.imports "annotations", .imports "dataclasses", .imports "enum", .imports "functools"] := by
  have source : binding? s!"Shader variants generated from {module.sourceName}." = none := by
    have same : (s!"Shader variants generated from {module.sourceName}.").toList =
        "Shader".toList ++ ' ' ::
          ("variants generated from ".toList ++ module.sourceName.toList ++ ".".toList) := by
      simp [toString]
    rw [binding?_append (by decide) (by decide) (by decide) (by decide) same, if_neg (by simp)]
  have before : binding? "\"\"\"" = none :=
    (inner_of_head? (by decide : '"' ∈ nameEnds) (by decide)).binding?_eq_none
  have after : ["Generated by wgsl-variants - DO NOT EDIT.", "\"\"\"", "",
      "from __future__ import annotations", "", "import dataclasses", "import enum",
      "import functools"].filterMap binding? =
      [.imports "annotations", .imports "dataclasses", .imports "enum",
        .imports "functools"] := by
    decide +kernel
  rw [headerLines, List.filterMap_cons_none before, List.filterMap_cons_none source, after]

theorem Module.filterMap_binding?_exportLines (module : Module) :
    module.exportLines.filterMap binding? = [.assigns "__all__"] := by
  have opening : binding? "__all__ = [" = some (.assigns "__all__") := by
    have same : "__all__ = [".toList = "__all__".toList ++ ' ' :: "= [".toList := by decide
    rw [binding?_append (by decide) (by decide) (by decide) (by decide) same, if_pos (by decide)]
    rfl
  have closing : binding? "]" = none :=
    (inner_of_head? (by decide : ']' ∈ nameEnds) (by decide)).binding?_eq_none
  have entries : (module.exports.map fun name =>
      s!"    {Text.Quoted.encode name},").filterMap binding? = [] := by
    apply filterMap_binding?_of_inner
    intro line member
    obtain ⟨name, -, rfl⟩ := List.mem_map.mp member
    have blank : ' ' ∈ nameEnds := by decide
    simp [Inner, toString, leadingName_cons blank]
  rw [exportLines, List.singleton_append, List.cons_append, List.filterMap_cons_some opening,
    List.filterMap_append, entries, List.filterMap_cons_none closing]
  rfl

theorem EnumClass.filterMap_binding?_lines {enumClass : EnumClass}
    (usable : Name.Usable enumClass.name) :
    enumClass.lines.filterMap binding? = [.defines enumClass.name] := by
  have blank : ' ' ∈ nameEnds := by decide
  have decorator : binding? "@functools.total_ordering" = none :=
    (inner_of_head? (by decide : '@' ∈ nameEnds) (by decide)).binding?_eq_none
  have statement : binding? s!"class {enumClass.name}(enum.Enum):" =
      some (.defines enumClass.name) := by
    have same : (s!"class {enumClass.name}(enum.Enum):").toList =
        "class".toList ++ ' ' :: (enumClass.name.toList ++ '(' :: "enum.Enum):".toList) := by
      simp [toString]
    exact binding?_class usable.isIdentifier (by decide) same
  have body : (enumClass.lines.drop 2).filterMap binding? = [] := by
    apply filterMap_binding?_of_inner
    simp only [lines, memberLines, List.cons_append, List.nil_append, List.drop_succ_cons,
      List.drop_zero, List.forall_mem_append, List.forall_mem_cons, List.forall_mem_map]
    simp [Inner, toString, leadingName_cons blank, leadingName_nil]
  have split : enumClass.lines = "@functools.total_ordering" ::
      s!"class {enumClass.name}(enum.Enum):" :: enumClass.lines.drop 2 := rfl
  rw [split, List.filterMap_cons_none decorator, List.filterMap_cons_some statement, body]

theorem CaseClass.filterMap_binding?_lines {caseClass : CaseClass} (family : String)
    (identifier : Text.isIdentifier caseClass.name = true) :
    (caseClass.lines family).filterMap binding? = [.defines caseClass.name] := by
  have blank : ' ' ∈ nameEnds := by decide
  have decorator : binding? "@dataclasses.dataclass(frozen=True)" = none :=
    (inner_of_head? (by decide : '@' ∈ nameEnds) (by decide)).binding?_eq_none
  have statement : binding? s!"class {caseClass.name}({family}):" =
      some (.defines caseClass.name) := by
    have same : (s!"class {caseClass.name}({family}):").toList =
        "class".toList ++ ' ' ::
          (caseClass.name.toList ++ '(' :: (family.toList ++ "):".toList)) := by
      simp [toString]
    exact binding?_class identifier (by decide) same
  have body : ((caseClass.lines family).drop 2).filterMap binding? = [] := by
    apply filterMap_binding?_of_inner
    simp only [lines, List.cons_append, List.nil_append, List.drop_succ_cons, List.drop_zero]
    split
    · simp [Inner, toString, leadingName_cons blank]
    · simp only [List.forall_mem_map]
      simp [Inner, toString, leadingName_cons blank]
  have split : caseClass.lines family = "@dataclasses.dataclass(frozen=True)" ::
      s!"class {caseClass.name}({family}):" :: (caseClass.lines family).drop 2 := rfl
  rw [split, List.filterMap_cons_none decorator, List.filterMap_cons_some statement, body]

/-- What stands in front of a declaration's name in the names of its tables. -/
def tablePrefixes : List String := ["_RAW_", "_SOURCES_", "_ORDER_"]

namespace Family

variable {family : Family}

/-- The names of the tables. -/
def tableNames (family : Family) : List String := tablePrefixes.map (· ++ family.name)

theorem filterMap_binding?_baseLines (usable : Name.Usable family.name) :
    family.baseLines.filterMap binding? = [.defines family.name] := by
  have blank : ' ' ∈ nameEnds := by decide
  have decorator : binding? "@functools.total_ordering" = none :=
    (inner_of_head? (by decide : '@' ∈ nameEnds) (by decide)).binding?_eq_none
  have statement : binding? s!"class {family.name}:" = some (.defines family.name) := by
    have same : (s!"class {family.name}:").toList =
        "class".toList ++ ' ' :: (family.name.toList ++ ':' :: []) := by
      simp [toString]
    exact binding?_class usable.isIdentifier (by decide) same
  have body : (family.baseLines.drop 2).filterMap binding? = [] := by
    apply filterMap_binding?_of_inner
    simp only [baseLines, List.drop_succ_cons, List.drop_zero, List.forall_mem_cons]
    simp [Inner, toString, leadingName_cons blank, leadingName_nil]
  have split : family.baseLines = "@functools.total_ordering" ::
      s!"class {family.name}:" :: family.baseLines.drop 2 := rfl
  rw [split, List.filterMap_cons_none decorator, List.filterMap_cons_some statement, body]

/-- The lines behind the classes assign to attributes of a class that is there already. -/
theorem filterMap_binding?_memberLines (usable : Name.Usable family.name) :
    family.memberLines.filterMap binding? = [] := by
  rw [List.filterMap_eq_nil_iff]
  intro line member
  obtain ⟨caseClass, -, rfl⟩ := List.mem_map.mp member
  have inside := Text.all_isIdentifierPart usable.isIdentifier
  have noStatement : family.name.toList ∉ statementWords := by
    intro word
    have keyword : ∀ word ∈ statementWords, String.ofList word ∈ Name.keywords := by decide
    have here := keyword _ word
    rw [String.ofList_toList] at here
    exact usable.notMem_keywords here
  have same : (s!"{family.name}.{caseClass.variant} = {caseClass.name}").toList =
      family.name.toList ++ '.' ::
        (caseClass.variant.toList ++ " = ".toList ++ caseClass.name.toList) := by
    simp [toString]
  rw [binding?_append inside usable.toList_ne_nil noStatement (by decide) same, if_neg (by simp)]

/-- A line that assigns to the name of a table. -/
theorem binding?_table (usable : Name.Usable family.name) {front : String}
    (isFront : front ∈ tablePrefixes) {c : Char} (ends : c ∈ nameEnds)
    {rest : List Char} (assigns : " = ".toList <+: c :: rest ∨ ": ".toList <+: c :: rest)
    {line : String} (same : line.toList = (front ++ family.name).toList ++ c :: rest) :
    binding? line = some (.assigns (front ++ family.name)) := by
  have fronts : ∀ front ∈ tablePrefixes, front.toList.all Text.isIdentifierPart = true ∧
      front.toList.head? = some '_' := by decide
  obtain ⟨frontInside, underscore⟩ := fronts front isFront
  have nameInside := Text.all_isIdentifierPart usable.isIdentifier
  have inside : (front ++ family.name).toList.all Text.isIdentifierPart = true := by
    rw [String.toList_append, List.all_append, frontInside, nameInside, Bool.and_self]
  have head : (front ++ family.name).toList.head? = some '_' := by
    rw [String.toList_append, List.head?_append, underscore, Option.some_or]
  have nonempty : (front ++ family.name).toList ≠ [] := by
    intro empty
    rw [empty] at head
    cases head
  have noStatement : (front ++ family.name).toList ∉ statementWords := by
    intro word
    have letters : ∀ word ∈ statementWords, word.head? ≠ some '_' := by decide
    exact letters _ word head
  rw [binding?_append inside nonempty noStatement ends same, if_pos assigns,
    String.ofList_toList]

theorem filterMap_binding?_tables (usable : Name.Usable family.name) :
    ([s!"{family.rawName} = {Text.Quoted.encode family.template}", "",
      s!"{family.sourcesName}: dict[{family.name}, str] = \x7b"]
      ++ family.tableLines
      ++ ["\x7d", s!"{family.orderName} = \x7bcase: index for index, case in "
        ++ s!"enumerate({family.sourcesName})\x7d"]).filterMap binding? =
      family.tableNames.map Binding.assigns := by
  have raw : binding? s!"{family.rawName} = {Text.Quoted.encode family.template}" =
      some (.assigns ("_RAW_" ++ family.name)) := by
    have same : (s!"{family.rawName} = {Text.Quoted.encode family.template}").toList =
        ("_RAW_" ++ family.name).toList ++ ' ' ::
          ("= ".toList ++ (Text.Quoted.encode family.template).toList) := by
      simp [toString, rawName]
    exact binding?_table usable (by decide) (by decide) (.inl (by simp)) same
  have sources : binding? s!"{family.sourcesName}: dict[{family.name}, str] = \x7b" =
      some (.assigns ("_SOURCES_" ++ family.name)) := by
    have same : (s!"{family.sourcesName}: dict[{family.name}, str] = \x7b").toList =
        ("_SOURCES_" ++ family.name).toList ++ ':' ::
          (" dict[".toList ++ family.name.toList ++ ", str] = \x7b".toList) := by
      simp [toString, sourcesName]
    exact binding?_table usable (by decide) (by decide) (.inr (by simp)) same
  have order : binding? (s!"{family.orderName} = \x7bcase: index for index, case in "
      ++ s!"enumerate({family.sourcesName})\x7d") = some (.assigns ("_ORDER_" ++ family.name)) := by
    have same : (s!"{family.orderName} = \x7bcase: index for index, case in "
        ++ s!"enumerate({family.sourcesName})\x7d").toList =
        ("_ORDER_" ++ family.name).toList ++ ' ' ::
          ("= \x7bcase: index for index, case in enumerate(".toList
            ++ family.sourcesName.toList ++ ")\x7d".toList) := by
      simp [toString, orderName]
    exact binding?_table usable (by decide) (by decide) (.inl (by simp)) same
  have rows : family.tableLines.filterMap binding? = [] := by
    apply filterMap_binding?_of_inner
    intro line member
    obtain ⟨entry, -, rfl⟩ := List.mem_map.mp member
    have blank : ' ' ∈ nameEnds := by decide
    simp [Inner, toString, leadingName_cons blank]
  have empty : binding? "" = none := inner_empty.binding?_eq_none
  have closing : binding? "\x7d" = none :=
    (inner_of_head? (by decide : '\x7d' ∈ nameEnds) (by decide)).binding?_eq_none
  simp only [List.filterMap_append, rows, List.filterMap_cons, raw, sources, order, empty, closing]
  rfl

theorem filterMap_binding?_lines (usable : Name.Usable family.name)
    (identifiers : ∀ caseClass ∈ family.caseClasses, Text.isIdentifier caseClass.name = true) :
    family.lines.filterMap binding? =
      .defines family.name :: family.caseClasses.map (fun caseClass => .defines caseClass.name)
        ++ family.tableNames.map Binding.assigns := by
  have empty : binding? "" = none := inner_empty.binding?_eq_none
  have classes : (family.caseClasses.flatMap fun caseClass =>
      "" :: "" :: caseClass.lines family.name).filterMap binding? =
      family.caseClasses.map fun caseClass => .defines caseClass.name := by
    rw [List.filterMap_flatMap, List.map_eq_flatMap]
    apply List.flatMap_congr
    intro caseClass member
    rw [List.filterMap_cons_none empty, List.filterMap_cons_none empty,
      CaseClass.filterMap_binding?_lines family.name (identifiers caseClass member)]
  have blanks : ["", ""].filterMap binding? = [] :=
    filterMap_binding?_of_inner (by simp [inner_empty])
  have blank : (if family.caseClasses.isEmpty then [] else [""] : List String).filterMap binding? =
      [] := by
    split
    · rfl
    · exact List.filterMap_cons_none empty
  have tables := filterMap_binding?_tables usable
  rw [List.filterMap_append, List.filterMap_append] at tables
  simp only [lines, List.filterMap_append, filterMap_binding?_baseLines usable, classes, blanks,
    filterMap_binding?_memberLines usable, blank, List.append_assoc,
    List.nil_append] at tables ⊢
  rw [tables]
  rfl

end Family

namespace Module

/-- What the lines of the module bind.  It is what the statements of the text bind as long as all
docstrings keep their ends (`Module.WellFormed.exists_statements_emitted`). -/
def bindings (module : Module) : List Binding := module.lines.filterMap binding?

theorem bindings_eq {module : Module}
    (enumNames : ∀ enumClass ∈ module.enumClasses, Name.Usable enumClass.name)
    (familyNames : ∀ family ∈ module.families, Name.Usable family.name)
    (caseNames : ∀ family ∈ module.families, ∀ caseClass ∈ family.caseClasses,
      Text.isIdentifier caseClass.name = true) :
    module.bindings =
      ["annotations", "dataclasses", "enum", "functools"].map Binding.imports
        ++ [.assigns "__all__"]
        ++ module.enumClasses.map (fun enumClass => .defines enumClass.name)
        ++ module.families.flatMap fun family =>
          .defines family.name :: family.caseClasses.map (fun caseClass => .defines caseClass.name)
            ++ family.tableNames.map Binding.assigns := by
  have empty : binding? "" = none := inner_empty.binding?_eq_none
  have blanks : ["", ""].filterMap binding? = [] :=
    filterMap_binding?_of_inner (by simp [inner_empty])
  have enumClasses : (module.enumClasses.flatMap fun enumClass =>
      "" :: "" :: enumClass.lines).filterMap binding? =
      module.enumClasses.map fun enumClass => .defines enumClass.name := by
    rw [List.filterMap_flatMap, List.map_eq_flatMap]
    apply List.flatMap_congr
    intro enumClass member
    rw [List.filterMap_cons_none empty, List.filterMap_cons_none empty,
      EnumClass.filterMap_binding?_lines (enumNames enumClass member)]
  have families : (module.families.flatMap fun family =>
      "" :: "" :: family.lines).filterMap binding? = module.families.flatMap fun family =>
        .defines family.name :: family.caseClasses.map (fun caseClass => .defines caseClass.name)
          ++ family.tableNames.map Binding.assigns := by
    rw [List.filterMap_flatMap]
    apply List.flatMap_congr
    intro family member
    rw [List.filterMap_cons_none empty, List.filterMap_cons_none empty,
      Family.filterMap_binding?_lines (familyNames family member) (caseNames family member)]
  rw [bindings, lines_eq]
  simp only [List.filterMap_append, filterMap_binding?_headerLines, blanks,
    filterMap_binding?_exportLines, enumClasses, families, List.append_nil]
  rfl

end Module

end Generated

/-! ## The names of an accepted module -/

namespace Module

variable {module : Module}

/-- The names that the generated module imports. -/
def importedNames : List String := ["annotations", "dataclasses", "enum", "functools"]

/-- The names of the tables of a declaration. -/
def tableNames (declaration : VariantsDeclaration) : List String :=
  Generated.tablePrefixes.map (· ++ declaration.name)

/-- All names that begin with an underscore. -/
def privateNames (module : Module) : List String :=
  "__all__" :: module.declarations.flatMap tableNames

theorem take_two_append {front : String} (isFront : front ∈ Generated.tablePrefixes)
    (name : String) : (front ++ name).toList.take 2 = front.toList.take 2 := by
  have long : ∀ front ∈ Generated.tablePrefixes, 2 ≤ front.toList.length := by decide
  rw [String.toList_append, List.take_append_of_le_length (long front isFront)]

/-- The names of two tables are equal only for the same kind of table and the same declaration. -/
theorem eq_of_table_eq {front front' name name' : String}
    (isFront : front ∈ Generated.tablePrefixes) (isFront' : front' ∈ Generated.tablePrefixes)
    (same : front ++ name = front' ++ name') : front = front' ∧ name = name' := by
  have apart : ∀ front ∈ Generated.tablePrefixes, ∀ front' ∈ Generated.tablePrefixes,
      front.toList.take 2 = front'.toList.take 2 → front = front' := by decide
  have letters : front.toList.take 2 = front'.toList.take 2 := by
    rw [← take_two_append isFront name, same, take_two_append isFront']
  obtain rfl : front = front' := apart front isFront front' isFront' letters
  refine ⟨rfl, ?_⟩
  have characters := congrArg String.toList same
  rw [String.toList_append, String.toList_append] at characters
  exact String.toList_injective (List.append_cancel_left characters)

theorem mem_tableNames {declaration : VariantsDeclaration} {name : String} :
    name ∈ tableNames declaration ↔
      ∃ front ∈ Generated.tablePrefixes, front ++ declaration.name = name :=
  List.mem_map

theorem nodup_tableNames (declaration : VariantsDeclaration) :
    (tableNames declaration).Nodup := by
  apply List.Nodup.map_on
  · intro front isFront front' isFront' same
    exact (eq_of_table_eq isFront isFront' same).1
  · decide

theorem head?_of_mem_privateNames {name : String} (member : name ∈ module.privateNames) :
    name.toList.head? = some '_' := by
  rcases List.mem_cons.mp member with rfl | table
  · decide
  · obtain ⟨declaration, -, named⟩ := List.mem_flatMap.mp table
    obtain ⟨front, isFront, rfl⟩ := mem_tableNames.mp named
    have underscore : ∀ front ∈ Generated.tablePrefixes, front.toList.head? = some '_' := by decide
    rw [String.toList_append, List.head?_append, underscore front isFront, Option.some_or]

namespace WellFormed

theorem nodup_privateNames (rules : module.WellFormed) : module.privateNames.Nodup := by
  rw [privateNames, List.nodup_cons, List.nodup_flatMap]
  refine ⟨?_, ?_, ?_⟩
  · intro table
    obtain ⟨declaration, -, named⟩ := List.mem_flatMap.mp table
    obtain ⟨front, isFront, same⟩ := mem_tableNames.mp named
    have other : ∀ front ∈ Generated.tablePrefixes,
        front.toList.take 2 ≠ "__all__".toList.take 2 := by decide
    apply other front isFront
    rw [← take_two_append isFront declaration.name, same]
  · exact fun declaration _ => nodup_tableNames declaration
  · have distinct := rules.declarationNamesDiffer
    rw [List.nodup_iff_pairwise_ne, List.pairwise_map] at distinct
    refine distinct.imp fun apart => ?_
    intro name ofFirst ofSecond
    obtain ⟨front, isFront, same⟩ := mem_tableNames.mp ofFirst
    obtain ⟨front', isFront', rfl⟩ := mem_tableNames.mp ofSecond
    exact apart (eq_of_table_eq isFront isFront' same).2

/-- No class is marked as private. -/
theorem head?_of_mem_classNames (rules : module.WellFormed) {name : String}
    (member : name ∈ module.classNames) : name.toList.head? ≠ some '_' := by
  rcases List.mem_append.mp member with ofEnum | ofDeclaration
  · obtain ⟨valueEnum, inside, rfl⟩ := List.mem_map.mp ofEnum
    exact (rules.valueEnums valueEnum inside).typeNameUsable.head?_ne
  · obtain ⟨declaration, inside, named⟩ := List.mem_flatMap.mp ofDeclaration
    rcases List.mem_cons.mp named with rfl | ofVariant
    · exact (rules.declarations declaration inside).nameUsable.head?_ne
    · obtain ⟨variant, -, rfl⟩ := List.mem_map.mp ofVariant
      exact rules.caseClassName_head?_ne inside variant.name

/-- No class hides an import: as a usable name it would be refused. -/
theorem nodup_imported_append_classNames (rules : module.WellFormed) :
    (importedNames ++ module.classNames).Nodup := by
  have usable : ∀ name ∈ importedNames, Name.Usable name := by decide +kernel
  have reserved : importedNames ⊆ Name.reserved := by decide +kernel
  refine List.nodup_append.mpr ⟨by decide, rules.classNamesDiffer, ?_⟩
  intro name member other isClass same
  subst same
  exact rules.classNamesFree name isClass (usable name member) (reserved member)

theorem nodup_boundNames (rules : module.WellFormed) :
    (importedNames ++ ["__all__"] ++ module.valueEnums.map ValueEnum.typeName
      ++ module.declarations.flatMap fun declaration =>
        declarationClassNames declaration ++ tableNames declaration).Nodup := by
  have apart : (importedNames ++ module.classNames ++ module.privateNames).Nodup := by
    refine List.nodup_append.mpr
      ⟨rules.nodup_imported_append_classNames, rules.nodup_privateNames, ?_⟩
    intro name isPublic other isPrivate same
    subst same
    have underscore := head?_of_mem_privateNames isPrivate
    rcases List.mem_append.mp isPublic with imported | isClass
    · have letters : ∀ name ∈ importedNames, name.toList.head? ≠ some '_' := by decide
      exact letters name imported underscore
    · exact rules.head?_of_mem_classNames isClass underscore
  have tables := List.flatMap_append_perm module.declarations declarationClassNames tableNames
  have order : (module.classNames ++ module.privateNames).Perm
      ("__all__" :: (module.valueEnums.map ValueEnum.typeName
        ++ module.declarations.flatMap fun declaration =>
          declarationClassNames declaration ++ tableNames declaration)) := by
    refine List.perm_middle.trans (List.Perm.cons _ ?_)
    rw [classNames, List.append_assoc]
    exact tables.append_left _
  rw [List.append_assoc, (order.append_left importedNames).nodup_iff] at apart
  simpa only [List.append_assoc, List.cons_append, List.nil_append] using apart

end WellFormed

open Generated (Binding)

theorem WellFormed.bindings_emitted (rules : module.WellFormed)
    {resolved : List ResolvedDeclaration}
    (inOrder : resolved.map ResolvedDeclaration.declaration = module.declarations) :
    (module.emitted resolved).bindings =
      importedNames.map Binding.imports ++ [Binding.assigns "__all__"]
        ++ module.valueEnums.map (fun valueEnum => Binding.defines valueEnum.typeName)
        ++ module.declarations.flatMap fun declaration =>
          (declarationClassNames declaration).map Binding.defines
            ++ (tableNames declaration).map Binding.assigns := by
  have declared : ∀ one ∈ resolved, one.declaration ∈ module.declarations := fun one member =>
    inOrder ▸ List.mem_map_of_mem member
  have enumNames : ∀ enumClass ∈ (module.emitted resolved).enumClasses,
      Name.Usable enumClass.name := by
    intro enumClass member
    obtain ⟨valueEnum, inside, rfl⟩ := List.mem_map.mp member
    exact (rules.valueEnums valueEnum inside).typeNameUsable
  have familyNames : ∀ family ∈ (module.emitted resolved).families, Name.Usable family.name := by
    intro family member
    obtain ⟨one, inside, rfl⟩ := List.mem_map.mp member
    exact (rules.declarations one.declaration (declared one inside)).nameUsable
  have caseNames : ∀ family ∈ (module.emitted resolved).families,
      ∀ caseClass ∈ family.caseClasses, Text.isIdentifier caseClass.name = true := by
    intro family member caseClass isCase
    obtain ⟨one, inside, rfl⟩ := List.mem_map.mp member
    obtain ⟨variant, isVariant, rfl⟩ := List.mem_map.mp isCase
    exact rules.caseClassName_isIdentifier (declared one inside) isVariant
  rw [Generated.Module.bindings_eq enumNames familyNames caseNames, ← inOrder]
  simp only [emitted, coveredFamily, declarationClassNames, tableNames, Generated.Family.tableNames,
    List.map_map, List.flatMap_map, List.map_cons, Function.comp_def]
  rfl

/-- The names that the generated module binds are all different. -/
theorem WellFormed.nodup_bindings_emitted (rules : module.WellFormed)
    {resolved : List ResolvedDeclaration}
    (inOrder : resolved.map ResolvedDeclaration.declaration = module.declarations) :
    ((module.emitted resolved).bindings.map Binding.name).Nodup := by
  have distinct := rules.nodup_boundNames
  rw [rules.bindings_emitted inOrder]
  simpa [Function.comp_def, Binding.name, List.map_flatMap, importedNames] using distinct

/-- Each class is defined by one class statement. -/
theorem WellFormed.count_defines_emitted (rules : module.WellFormed)
    {resolved : List ResolvedDeclaration}
    (inOrder : resolved.map ResolvedDeclaration.declaration = module.declarations) {name : String}
    (isClass : name ∈ module.classNames) :
    (module.emitted resolved).bindings.count (.defines name) = 1 := by
  apply List.count_eq_one_of_mem (List.Nodup.of_map _ (rules.nodup_bindings_emitted inOrder))
  rw [rules.bindings_emitted inOrder]
  simp only [List.mem_append, List.mem_flatMap]
  rcases List.mem_append.mp isClass with ofEnum | ofDeclaration
  · obtain ⟨valueEnum, inside, rfl⟩ := List.mem_map.mp ofEnum
    exact .inl (.inr (List.mem_map.mpr ⟨valueEnum, inside, rfl⟩))
  · obtain ⟨declaration, inside, named⟩ := List.mem_flatMap.mp ofDeclaration
    exact .inr ⟨declaration, inside, .inl (List.mem_map_of_mem named)⟩

end Module

end ShaderVariants
