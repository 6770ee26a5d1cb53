import ShaderVariants.Proofs.KeyExpressions
import ShaderVariants.Proofs.QuotedText

/-!
# Literals of paths, templates and sources

The paths, templates and sources that a generated module holds are written as literals of one line
each.  Wherever such a literal stands, it ends at its own second mark, and what it stands for is the
text that was written.  A table of sources therefore has one line for each case.
-/

namespace ShaderVariants

namespace Text

/-- No line ends in some characters. -/
def OnOneLine (cs : List Char) : Prop := ∀ c ∈ cs, endsLine c = false

theorem onOneLine_append {first second : List Char} :
    OnOneLine (first ++ second) ↔ OnOneLine first ∧ OnOneLine second :=
  List.forall_mem_append

theorem onOneLine_intercalate {separator : String} (between : OnOneLine separator.toList)
    {texts : List String} (each : ∀ text ∈ texts, OnOneLine text.toList) :
    OnOneLine (String.intercalate separator texts).toList := by
  induction texts with
  | nil => simp [OnOneLine]
  | cons text texts ih =>
      obtain ⟨here, later⟩ := List.forall_mem_cons.mp each
      cases texts with
      | nil => simpa using here
      | cons next texts =>
          rw [String.intercalate_cons_cons, String.toList_append, String.toList_append,
            onOneLine_append, onOneLine_append]
          exact ⟨⟨here, between⟩, ih later⟩

namespace StringLiteral

/-- The text that the literal at the beginning stands for, and what is behind the literal.  Three
marks in a row open a literal that only three close; a literal between single marks has to end on
its line. -/
def read? : List Char → Option (List Char × List Char)
  | [] => none
  | mark :: rest =>
    if mark = '\'' ∨ mark = '"' then
      if [mark, mark] <+: rest then do
        let (held, behind) ← split? [mark, mark, mark] (rest.drop 2)
        return (← (Escape.decodeChars held).toOption, behind)
      else do
        let (held, behind) ← split? [mark] rest
        if '\n' ∈ held then none
        else return (← (Escape.decodeChars held).toOption, behind)
    else none

/-- Some characters are a literal for a text: no line ends in them, and in front of anything but a
mark they are read as that text. -/
structure Writes (literal : List Char) (text : String) : Prop where
  oneLine : OnOneLine literal
  reads : ∀ rest, (∀ c ∈ rest.head?, c ≠ '\'' ∧ c ≠ '"') →
    read? (literal ++ rest) = some (text.toList, rest)

end StringLiteral

namespace Quoted

open StringLiteral (read? Writes)

/-- The first mark of quoted text does not begin three in a row, unless one stands behind the last
mark. -/
theorem not_prefix_body_append {mark : Char} (isQuote : IsQuote mark) (cs : List Char)
    {rest : List Char} (other : ∀ c ∈ rest.head?, c ≠ mark) :
    ¬[mark, mark] <+: body mark cs ++ mark :: rest := by
  cases cs with
  | nil =>
      intro twice
      obtain ⟨-, twice⟩ := List.cons_prefix_cons.mp twice
      cases rest with
      | nil => cases List.prefix_nil.mp twice
      | cons c rest => exact other c rfl (List.cons_prefix_cons.mp twice).1.symm
  | cons c cs =>
      obtain ⟨first, more, written, differs⟩ := exists_cons_of_ne
        (encodes_encodeChar isQuote c) isQuote fun _ => rfl
      rw [body_cons, written, List.cons_append, List.cons_append, List.cons_prefix_cons]
      exact fun twice => differs twice.1.symm

/-- Quoted text is read back as the text that was quoted, wherever it stands. -/
theorem read?_encodeChars_append (cs : List Char) {rest : List Char}
    (other : ∀ c ∈ rest.head?, c ≠ '\'' ∧ c ≠ '"') :
    read? (encodeChars cs ++ rest) = some (cs, rest) := by
  have isQuote := isQuote_mark cs
  have single : ¬[mark cs, mark cs] <+: body (mark cs) cs ++ mark cs :: rest := by
    refine not_prefix_body_append isQuote cs fun c first => ?_
    rcases isQuote with same | same
    · rw [same]
      exact (other c first).1
    · rw [same]
      exact (other c first).2
  have closed := (passedOver_body isQuote.isMarks isQuote cs).split?_append_marks
    isQuote.isMarks rest
  have unbroken : '\n' ∉ body (mark cs) cs := by
    intro inside
    cases endsLine_eq_false_of_mem_body isQuote inside
  have decoded := decodeChars_body_append isQuote cs []
  have nothing : Escape.decodeChars [] = .ok [] := by simp [Escape.decodeChars]
  rw [List.append_nil, nothing] at decoded
  rw [List.singleton_append] at closed
  rw [encodeChars, List.cons_append, List.append_assoc, List.singleton_append, read?,
    if_pos (show mark cs = '\'' ∨ mark cs = '"' from isQuote), if_neg single, closed]
  simp [unbroken, decoded, Except.toOption]

theorem writes_encode (text : String) : Writes (encode text).toList text := by
  rw [encode, String.toList_ofList]
  exact ⟨fun _ => endsLine_eq_false_of_mem_encodeChars, fun _ => read?_encodeChars_append _⟩

end Quoted

end Text

open Text.StringLiteral (Writes)

/-! ## Keys -/

theorem Name.Usable.onOneLine {name : String} (usable : Name.Usable name) :
    Text.OnOneLine name.toList := fun _ member =>
  Text.endsLine_eq_false_of_isIdentifierPart
    (Text.isIdentifierPart_of_mem usable.isIdentifier member)

namespace Module

variable {module : Module}

theorem WellFormed.onOneLine_key (rules : module.WellFormed) {declaration : VariantsDeclaration}
    (declared : declaration ∈ module.declarations) {concrete : VariantCase}
    (isCase : concrete ∈ module.casesOfDeclaration declaration) :
    Text.OnOneLine (concrete.key declaration).text.toList := by
  obtain ⟨inside, chosen⟩ := mem_casesOfDeclaration.mp isCase
  rw [casesOfVariant_eq_choices, List.mem_map] at chosen
  obtain ⟨selections, choice, same⟩ := chosen
  generalize concrete.variant = variant at *
  subst same
  have declarationRules := rules.declarations declaration declared
  have arguments : ∀ text ∈ selections.map Selection.shown, Text.OnOneLine text.toList := by
    rw [List.forall_mem_map]
    intro selection selected
    have enumRules := rules.valueEnums_selectedFrom choice selected
    have caseName := enumRules.caseNamesUsable _ (Selection.case_mem_of_mem_choices choice selected)
    rw [Selection.toList_shown, ← List.singleton_append, Text.onOneLine_append,
      Text.onOneLine_append]
    exact ⟨enumRules.typeNameUsable.onOneLine, by simp [Text.OnOneLine, Text.endsLine],
      caseName.onOneLine⟩
  have variantName := declarationRules.variantNamesUsable _ inside
  have marks : Text.OnOneLine "(".toList ∧ Text.OnOneLine ")".toList ∧
      Text.OnOneLine ", ".toList := by
    simp [Text.OnOneLine, Text.endsLine]
  simp only [VariantCase.key, Generated.CaseKey.text, VariantsDeclaration.caseClassName,
    String.toList_append, Text.onOneLine_append]
  exact ⟨⟨⟨⟨declarationRules.nameUsable.onOneLine, variantName.onOneLine⟩, marks.1⟩,
    Text.onOneLine_intercalate marks.2.2 arguments⟩, marks.2.1⟩

end Module

/-! ## Modules -/

open Generated (HasLines)
open Text.Quoted (encode)

/-- How a text holds a template and the sources of its cases: the path and the template have a
literal each, and between the first and the last line of the table there is one line for each case,
with its key and a literal of its source. -/
structure ResolvedDeclaration.WrittenIn (resolved : ResolvedDeclaration) (text : List Char) :
    Prop where
  path : ∃ docstring literal, Writes literal.toList resolved.declaration.templatePath ∧
    HasLines text [s!"class {resolved.declaration.name}:", docstring, "",
      "    TEMPLATE_PATH = " ++ literal]
  template : ∃ literal, Writes literal.toList resolved.template ∧
    HasLines text [s!"_RAW_{resolved.declaration.name} = " ++ literal]
  sources : ∃ rows,
    HasLines text
      ([s!"_SOURCES_{resolved.declaration.name}: dict[{resolved.declaration.name}, str] = \x7b"]
        ++ rows ++ ["\x7d"]) ∧
    List.Forall₂ (fun case row => Text.OnOneLine row.toList ∧
      ∃ literal, Writes literal.toList case.source ∧
        row = "    " ++ (Generated.caseKey resolved.declaration case).text ++ ": " ++ literal
          ++ ",")
      resolved.cases rows

namespace Module

variable {module : Module}

/-- A declaration whose cases have sources is written with its template and these sources. -/
theorem WellFormed.writtenIn_emitted (rules : module.WellFormed) {declaration : VariantsDeclaration}
    (declared : declaration ∈ module.declarations) {resolved : List ResolvedDeclaration}
    {one : ResolvedDeclaration} (isOne : one ∈ resolved)
    (covered : module.Covered declaration one) :
    one.WrittenIn (module.emitted resolved).text.toList := by
  let family := module.coveredFamily one
  have isFamily : family ∈ (module.emitted resolved).families := List.mem_map_of_mem isOne
  have hasLines {lines : List String} (inside : lines <:+: family.lines) :
      HasLines (module.emitted resolved).text.toList lines :=
    Generated.Module.hasLines_of_infix
      (inside.trans (Generated.Module.family_lines_infix isFamily))
  constructor
  · have opening : [s!"class {family.name}:", s!"    \"\"\"{family.summary}\"\"\"", "",
        "    TEMPLATE_PATH = " ++ encode family.templatePath] <:+: family.baseLines :=
      ⟨["@functools.total_ordering"], family.baseLines.drop 5, rfl⟩
    exact ⟨_, _, Text.Quoted.writes_encode _, hasLines (opening.trans family.baseLines_infix_lines)⟩
  · have inside : s!"{family.rawName} = {encode family.template}" ∈ family.lines := by
      simp [Generated.Family.lines]
    exact ⟨_, Text.Quoted.writes_encode _, hasLines ((List.singleton_infix_iff _ _).mpr inside)⟩
  · refine ⟨family.tableLines, hasLines family.table_infix_lines, ?_⟩
    have rows : family.tableLines = one.cases.map fun case =>
        "    " ++ (Generated.caseKey one.declaration case).text ++ ": " ++ encode case.source
          ++ "," := by
      simp [Generated.Family.tableLines, family, coveredFamily, toString]
    rw [rows, List.forall₂_map_right_iff, List.forall₂_same]
    intro case member
    have writes := Text.Quoted.writes_encode case.source
    refine ⟨?_, _, writes, rfl⟩
    have listed : Generated.caseKey one.declaration case ∈
        one.cases.map (Generated.caseKey one.declaration) := List.mem_map_of_mem member
    rw [module.map_caseKey_eq covered, List.mem_map] at listed
    obtain ⟨concrete, isCase, sameKey⟩ := listed
    have marks : Text.OnOneLine "    ".toList ∧ Text.OnOneLine ": ".toList ∧
        Text.OnOneLine ",".toList := by
      simp [Text.OnOneLine, Text.endsLine]
    simp only [← sameKey, String.toList_append, Text.onOneLine_append]
    exact ⟨⟨⟨⟨marks.1, rules.onOneLine_key declared isCase⟩, marks.2.1⟩, writes.oneLine⟩,
      marks.2.2⟩

/-- What an accepted module is generated as, whatever its templates and the sources of its cases
are.  Every path, template and source is a literal of one line, which reads as that text, and every
table of sources has one line for each concrete case. -/
theorem Accepted.literals_of_covered (accepted : module.Accepted)
    {resolved : List ResolvedDeclaration}
    (covered : List.Forall₂ module.Covered module.declarations resolved) :
    ∃ generated, Generated.ofResolved module resolved = .ok generated ∧
      ∀ one ∈ resolved, one.WrittenIn generated.text.toList ∧
        one.cases.length = (module.casesOfDeclaration one.declaration).length := by
  have rules := accepted.wellFormed
  refine ⟨_, rules.ofResolved_of_covered covered, ?_⟩
  intro one isOne
  obtain ⟨declaration, declared, here⟩ := exists_related_of_mem covered isOne
  have tallies := rules.tallies_of_covered declared here
  exact ⟨rules.writtenIn_emitted declared isOne here, tallies.count⟩

/-- A declaration with quotation marks, backslashes and line ends in its texts. -/
def awkwardTexts : ResolvedDeclaration where
  declaration := ⟨"S", "it's \"x\"\n", none, [⟨"A", .hardcoded [], none⟩], false, none⟩
  template := "\\n\x07"
  cases := [⟨"A", [], "\u2028\\x41'''\\"⟩]

theorem awkwardTexts_literals :
    let module : Module := ⟨"a.wgslv", [], [awkwardTexts.declaration]⟩
    module.Accepted ∧ ∃ generated, Generated.ofResolved module [awkwardTexts] = .ok generated ∧
      ∃ row literal, Text.OnOneLine row.toList ∧
        Writes literal.toList "\u2028\\x41'''\\" ∧
        row = "    SA(): " ++ literal ++ "," ∧
        HasLines generated.text.toList ["_SOURCES_S: dict[S, str] = \x7b", row, "\x7d"] := by
  intro module
  have accepted : module.Accepted := by decide +kernel
  have covered : List.Forall₂ module.Covered module.declarations [awkwardTexts] :=
    .cons ⟨rfl, rfl⟩ .nil
  obtain ⟨generated, emitted, written⟩ := accepted.literals_of_covered covered
  obtain ⟨rows, lines, each⟩ := (written awkwardTexts (by simp)).1.sources
  obtain ⟨row, others, ⟨oneLine, literal, writes, same⟩, last, rfl⟩ :=
    List.forall₂_cons_left_iff.mp each
  obtain rfl := List.forall₂_nil_left_iff.mp last
  exact ⟨accepted, generated, emitted, row, literal, oneLine, writes, same, lines⟩

end Module

end ShaderVariants
