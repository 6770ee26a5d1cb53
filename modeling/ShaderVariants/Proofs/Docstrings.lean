import ShaderVariants.Proofs.GeneratedLines
import ShaderVariants.Proofs.QuotedText

/-!
# Docstrings of generated modules

File names and declared names stand in docstrings as they are, and the path of a template as it is
quoted elsewhere.  Neither is meant for a text between three double quotes: such a text ends at the
emitter's own marks exactly when none of the inserted texts holds closing marks, and it stands for
what was inserted exactly when no backslash of a name begins an escape.
-/

namespace ShaderVariants

namespace Text

open StringLiteral (split? docstringMarks isMarks_docstringMarks PassedOver)
open Escape (decodeChars hasEscape isEscaped)

/-! ## Texts with other texts in between -/

/-- What the emitter writes behind an inserted text: it begins with a character that neither ends
nor continues an escape or closing marks, and holds no mark or backslash. -/
structure IsOwn (own : List Char) : Prop where
  noMark : '"' ∉ own
  noBackslash : '\\' ∉ own
  apart : ∃ first rest, own = first :: rest ∧ isEscaped first = false

/-- Inserted texts, each with what the emitter writes behind it. -/
def woven (parts : List (List Char × List Char)) : List Char :=
  parts.flatMap fun (inserted, own) => inserted ++ own

/-- Inserted texts close a docstring exactly when one of them does on its own. -/
theorem split?_woven_eq_none_iff {parts : List (List Char × List Char)}
    (isOwn : ∀ part ∈ parts, IsOwn part.2) :
    split? docstringMarks (woven parts) = none ↔
      ∀ part ∈ parts, split? docstringMarks part.1 = none := by
  induction parts with
  | nil => simp [woven, split?]
  | cons part parts ih =>
      rw [List.forall_mem_cons] at isOwn
      obtain ⟨here, others⟩ := isOwn
      obtain ⟨first, rest, same, -⟩ := here.apart
      have noMark := here.noMark
      have noBackslash := here.noBackslash
      rw [same, List.mem_cons, not_or] at noMark noBackslash
      have passed := PassedOver.of_notMem isMarks_docstringMarks noMark.2 noBackslash.2
      have split : woven (part :: parts) = part.1 ++ first :: (rest ++ woven parts) := by
        simp [woven, same]
      rw [split, StringLiteral.split?_append_cons_eq_none_iff isMarks_docstringMarks
        (Ne.symm noMark.1) (Ne.symm noBackslash.1), passed.split?_eq_none_iff, ih others,
        List.forall_mem_cons]

theorem hasEscape_woven {parts : List (List Char × List Char)}
    (isOwn : ∀ part ∈ parts, IsOwn part.2) :
    hasEscape (woven parts) = parts.any fun part => hasEscape part.1 := by
  induction parts with
  | nil => rfl
  | cons part parts ih =>
      rw [List.forall_mem_cons] at isOwn
      obtain ⟨here, others⟩ := isOwn
      obtain ⟨first, rest, same, unchanged⟩ := here.apart
      have noBackslash := here.noBackslash
      rw [same, List.mem_cons, not_or] at noBackslash
      have split : woven (part :: parts) = part.1 ++ first :: (rest ++ woven parts) := by
        simp [woven, same]
      rw [split, Escape.hasEscape_append_cons (Ne.symm noBackslash.1) unchanged,
        Escape.hasEscape_append_of_notMem noBackslash.2, ih others, List.any_cons]

/-- Inserted texts stand for themselves exactly when none of them has an escape. -/
theorem decodeChars_woven_iff {parts : List (List Char × List Char)}
    (isOwn : ∀ part ∈ parts, IsOwn part.2) :
    decodeChars (woven parts) = .ok (woven parts) ↔
      ∀ part ∈ parts, hasEscape part.1 = false := by
  rw [Escape.decodeChars_eq_self_iff, hasEscape_woven isOwn, List.any_eq_false]
  simp

/-- A docstring that ends with a full stop or a line break is closed by the marks behind it exactly
when it holds no closing marks itself. -/
theorem split?_docstring_iff {content init : List Char} {last : Char}
    (ends : content = init ++ [last]) (noMark : last ≠ '"') (noBackslash : last ≠ '\\')
    (rest : List Char) :
    split? docstringMarks (content ++ (docstringMarks ++ rest)) = some (content, rest) ↔
      split? docstringMarks content = none := by
  rw [ends, StringLiteral.split?_eq_content_iff isMarks_docstringMarks noMark noBackslash,
    StringLiteral.split?_append_cons_eq_none_iff isMarks_docstringMarks noMark noBackslash]
  simp [split?]

/-- A docstring stands in a text: it is closed where the emitter closes it exactly when `closed`
holds, and its escapes are those of the emitter exactly when `unescaped` holds. -/
structure DocstringIn (text before content after meaning : List Char) (closed unescaped : Prop) :
    Prop where
  stands : text = before ++ (docstringMarks ++ (content ++ (docstringMarks ++ after)))
  closed_iff :
    split? docstringMarks (content ++ (docstringMarks ++ after)) = some (content, after) ↔ closed
  meaning_iff : decodeChars content = .ok meaning ↔ unescaped

theorem map_append_eq_ok_iff {front out : List Char}
    {answer : Except Escape.Problem (List Char)} :
    (front ++ ·) <$> answer = .ok (front ++ out) ↔ answer = .ok out := by
  constructor
  · intro decoded
    obtain ⟨rest, same, split⟩ := Escape.exists_of_map_eq_ok decoded
    rw [same, List.append_cancel_left split]
  · intro same
    rw [same]
    rfl

end Text

/-! ## What is inserted -/

open Text (woven IsOwn)
open Text.StringLiteral (split? docstringMarks)

namespace Location

/-- The last name of the file. -/
def fileName (location : Location) : String := (Path.ofString location.file).fileName

theorem toList_anchor (location : Location) :
    location.anchor.toList =
      location.fileName.toList ++ ':' :: (toString location.line).toList := by
  have text : location.anchor = location.fileName ++ ":" ++ toString location.line := rfl
  simp [text]

/-- Digits and a sign are no marks. -/
theorem mem_toString_int {value : Int} {c : Char} (member : c ∈ (toString value).toList) :
    c = '-' ∨ c.isDigit = true := by
  have digits {number : Nat} (inside : c ∈ (Nat.repr number).toList) : c.isDigit = true := by
    rw [Nat.toList_repr] at inside
    exact Nat.isDigit_of_mem_toDigits (by decide) (by decide) inside
  cases value with
  | ofNat number => exact .inr (digits member)
  | negSucc number =>
      have text : toString (Int.negSucc number) = "-" ++ Nat.repr (number + 1) := rfl
      rw [text, String.toList_append, List.mem_append] at member
      rcases member with sign | inside
      · exact .inl (by simpa using sign)
      · exact .inr (digits inside)

end Location

/-- What stands in front of the place of a declaration, or closes the sentence without one. -/
def placeLead : Option Location → String
  | none => "."
  | some _ => ", declared at "

/-- The file name in the place of a declaration. -/
def placeParts : Option Location → List (List Char × List Char)
  | none => []
  | some location =>
    [(location.fileName.toList, ':' :: ((toString location.line).toList ++ ['.']))]

theorem toList_declaredAtText (location : Option Location) :
    (Generated.declaredAtText (location.map Location.anchor) ++ ".").toList =
      (placeLead location).toList ++ woven (placeParts location) := by
  cases location with
  | none => decide
  | some location =>
      have text : Generated.declaredAtText ((some location).map Location.anchor) =
          ", declared at " ++ location.anchor := rfl
      rw [text, String.toList_append, String.toList_append, Location.toList_anchor]
      simp [placeLead, placeParts, woven]

theorem isOwn_line (line : Int) : IsOwn (':' :: ((toString line).toList ++ ['.'])) := by
  have noDigit {c : Char} (other : c ≠ '-' ∧ c.isDigit = false ∧ c ≠ ':' ∧ c ≠ '.') :
      c ∉ ':' :: ((toString line).toList ++ ['.']) := by
    obtain ⟨noSign, noDigit, noColon, noStop⟩ := other
    intro member
    simp only [List.mem_cons, List.mem_append, List.not_mem_nil, or_false] at member
    rcases member with colon | digits | stop
    · exact noColon colon
    · rcases Location.mem_toString_int digits with sign | digit
      · exact noSign sign
      · rw [noDigit] at digit
        cases digit
    · exact noStop stop
  exact ⟨noDigit (by decide), noDigit (by decide), ':', _, rfl, by decide⟩

theorem isOwn_placeParts (location : Option Location) :
    ∀ part ∈ placeParts location, IsOwn part.2 := by
  cases location with
  | none => simp [placeParts]
  | some location =>
      simp only [placeParts, List.forall_mem_singleton]
      exact isOwn_line location.line

theorem isOwn_placeLead (location : Option Location) : IsOwn (placeLead location).toList := by
  cases location with
  | none => exact ⟨by decide, by decide, '.', [], rfl, by decide⟩
  | some location =>
      change IsOwn ", declared at ".toList
      exact ⟨by decide, by decide, ',', " declared at ".toList, by decide, by decide⟩

/-! ## The docstrings of a module -/

namespace Text

variable {text before content after : List Char}

/-- A docstring into which names are inserted as they are. -/
theorem docstringIn_woven {opening init : List Char} {last : Char}
    {parts : List (List Char × List Char)}
    (stands : text = before ++ (docstringMarks ++ (content ++ (docstringMarks ++ after))))
    (same : content = opening ++ woven parts) (noMark : '"' ∉ opening)
    (noBackslash : '\\' ∉ opening) (isOwn : ∀ part ∈ parts, IsOwn part.2)
    (ends : content = init ++ [last])
    (lastNoMark : last ≠ '"') (lastNoBackslash : last ≠ '\\') :
    DocstringIn text before content after content
      (∀ part ∈ parts, split? docstringMarks part.1 = none)
      (∀ part ∈ parts, Escape.hasEscape part.1 = false) := by
  refine ⟨stands, ?_, ?_⟩
  · have passed := StringLiteral.PassedOver.of_notMem StringLiteral.isMarks_docstringMarks noMark
      noBackslash
    rw [split?_docstring_iff ends lastNoMark lastNoBackslash, same, passed.split?_eq_none_iff,
      split?_woven_eq_none_iff isOwn]
  · rw [same, Escape.decodeChars_append_of_notMem noBackslash, map_append_eq_ok_iff,
      decodeChars_woven_iff isOwn]

/-- A docstring into which a quoted text is inserted first, and names behind it as they are. -/
theorem docstringIn_encodeChars {opening quoted lead init : List Char} {last : Char}
    {parts : List (List Char × List Char)}
    (stands : text = before ++ (docstringMarks ++ (content ++ (docstringMarks ++ after))))
    (same : content = opening ++ (Quoted.encodeChars quoted ++ (lead ++ woven parts)))
    (noMark : '"' ∉ opening) (noBackslash : '\\' ∉ opening) (leadIsOwn : IsOwn lead)
    (isOwn : ∀ part ∈ parts, IsOwn part.2) (ends : content = init ++ [last])
    (lastNoMark : last ≠ '"') (lastNoBackslash : last ≠ '\\') :
    DocstringIn text before content after
      (opening ++ (Quoted.mark quoted :: (quoted ++ [Quoted.mark quoted])
        ++ (lead ++ woven parts)))
      (¬docstringMarks <:+: quoted ∧ ∀ part ∈ parts, split? docstringMarks part.1 = none)
      (∀ part ∈ parts, Escape.hasEscape part.1 = false) := by
  have isMarks := StringLiteral.isMarks_docstringMarks
  obtain ⟨first, rest, split, -⟩ := leadIsOwn.apart
  have leadNoMark := leadIsOwn.noMark
  have leadNoBackslash := leadIsOwn.noBackslash
  refine ⟨stands, ?_, ?_⟩
  · rw [split, List.mem_cons, not_or] at leadNoMark leadNoBackslash
    have passed := StringLiteral.PassedOver.of_notMem isMarks noMark noBackslash
    have leadPassed := StringLiteral.PassedOver.of_notMem isMarks leadNoMark.2 leadNoBackslash.2
    rw [split?_docstring_iff ends lastNoMark lastNoBackslash, same, passed.split?_eq_none_iff,
      split, List.cons_append, StringLiteral.split?_append_cons_eq_none_iff isMarks
        (Ne.symm leadNoMark.1) (Ne.symm leadNoBackslash.1), leadPassed.split?_eq_none_iff,
      Quoted.split?_encodeChars_eq_none_iff, split?_woven_eq_none_iff isOwn]
  · rw [same, Escape.decodeChars_append_of_notMem noBackslash, map_append_eq_ok_iff,
      Quoted.decodeChars_encodeChars_append, map_append_eq_ok_iff,
      Escape.decodeChars_append_of_notMem leadNoBackslash, map_append_eq_ok_iff,
      decodeChars_woven_iff isOwn]

/-- Inserted as it is, the text does not close a docstring. -/
def KeepsOpen (text : String) : Prop := split? docstringMarks text.toList = none

/-- No backslash of the text begins an escape. -/
def Unescaped (text : String) : Prop := Escape.hasEscape text.toList = false

instance (text : String) : Decidable (KeepsOpen text) := inferInstanceAs (Decidable (_ = _))

instance (text : String) : Decidable (Unescaped text) := inferInstanceAs (Decidable (_ = _))

end Text

open Text (DocstringIn KeepsOpen Unescaped)

theorem keepsOpen_placeParts_iff (location : Option Location) :
    (∀ part ∈ placeParts location, split? docstringMarks part.1 = none) ↔
      ∀ place, location = some place → KeepsOpen place.fileName := by
  cases location <;> simp [placeParts, KeepsOpen]

theorem unescaped_placeParts_iff (location : Option Location) :
    (∀ part ∈ placeParts location, Text.Escape.hasEscape part.1 = false) ↔
      ∀ place, location = some place → Unescaped place.fileName := by
  cases location <;> simp [placeParts, Unescaped]

namespace Generated

def headerOpening : String := "\nShader variants generated from "

def headerClosing : String := ".\nGenerated by wgsl-variants - DO NOT EDIT.\n"

/-- What stands between the marks at the beginning of a module. -/
def headerDocstring (sourceName : String) : String :=
  headerOpening ++ sourceName ++ headerClosing

/-- A class begins with its statement and its docstring. -/
theorem Module.exists_docstring_of_infix {module : Module} {statement summary : String}
    (inside : [statement, s!"    \"\"\"{summary}\"\"\""] <:+: module.lines) :
    ∃ before after, module.text.toList =
      before ++ (statement ++ "\n    ").toList ++
        (docstringMarks ++ (summary.toList ++ (docstringMarks ++ after))) := by
  obtain ⟨before, after, same, -⟩ := hasLines_of_infix inside
  refine ⟨before, '\n' :: after, ?_⟩
  rw [same]
  simp [toString, docstringMarks]

theorem toList_headerOpening :
    headerOpening.toList = '\n' :: "Shader variants generated from ".toList := by
  decide +kernel

theorem toList_headerClosing :
    headerClosing.toList =
      '.' :: '\n' :: ("Generated by wgsl-variants - DO NOT EDIT.".toList ++ ['\n']) := by
  decide +kernel

theorem Module.exists_text_of_header (module : Module) :
    ∃ after, module.text.toList = docstringMarks ++
      ((headerDocstring module.sourceName).toList ++ (docstringMarks ++ after)) := by
  have marks : "\"\"\"".toList = docstringMarks := by decide +kernel
  have plain (text : String) : toString text = text := rfl
  rw [toList_text, lines_eq]
  simp only [headerLines, List.append_assoc, List.cons_append, List.flatMap_cons, marks, plain,
    headerDocstring, toList_headerOpening, toList_headerClosing, String.toList_append]
  exact ⟨_, rfl⟩

/-- The docstring of the module. -/
theorem Module.docstring_header (module : Module) :
    ∃ after, DocstringIn module.text.toList [] (headerDocstring module.sourceName).toList after
      (headerDocstring module.sourceName).toList (KeepsOpen module.sourceName)
      (Unescaped module.sourceName) := by
  obtain ⟨after, stands⟩ : ∃ after, module.text.toList = [] ++ (docstringMarks ++
      ((headerDocstring module.sourceName).toList ++ (docstringMarks ++ after))) :=
    module.exists_text_of_header
  have same : (headerDocstring module.sourceName).toList =
      headerOpening.toList ++ woven [(module.sourceName.toList, headerClosing.toList)] := by
    simp only [headerDocstring, woven, String.toList_append, List.flatMap_singleton,
      List.append_assoc]
  have isOwn : ∀ part ∈ [(module.sourceName.toList, headerClosing.toList)], IsOwn part.2 := by
    rw [List.forall_mem_singleton]
    change IsOwn headerClosing.toList
    exact ⟨by decide +kernel, by decide +kernel, '.', _, toList_headerClosing, by decide⟩
  have ends : (headerDocstring module.sourceName).toList =
      (headerOpening.toList ++ module.sourceName.toList
        ++ '.' :: '\n' :: "Generated by wgsl-variants - DO NOT EDIT.".toList) ++ ['\n'] := by
    simp only [headerDocstring, String.toList_append, toList_headerClosing, List.append_assoc,
      List.cons_append]
  have docstring := Text.docstringIn_woven stands same (by decide +kernel) (by decide +kernel)
    isOwn ends (by decide) (by decide)
  rw [List.forall_mem_singleton, List.forall_mem_singleton] at docstring
  exact ⟨after, docstring⟩

end Generated

theorem isOwn_kind (kind : Scalar.Kind) (location : Option Location) :
    IsOwn (" (" ++ kind.name ++ ")" ++ placeLead location).toList := by
  have lead := isOwn_placeLead location
  have mark : '"' ∉ (" (" ++ kind.name ++ ")").toList := by cases kind <;> decide
  have backslash : '\\' ∉ (" (" ++ kind.name ++ ")").toList := by cases kind <;> decide
  refine ⟨?_, ?_, ' ', '(' :: (kind.name ++ ")" ++ placeLead location).toList, ?_, by decide⟩
  · rw [String.toList_append, List.mem_append, not_or]
    exact ⟨mark, lead.noMark⟩
  · rw [String.toList_append, List.mem_append, not_or]
    exact ⟨backslash, lead.noBackslash⟩
  · simp

namespace ValueEnum

/-- The docstring of an enum class, into which the declared name and a file name are inserted. -/
theorem docstring_enumClass {valueEnum : ValueEnum} {generated : Generated.Module}
    (isClass : Generated.enumClass valueEnum ∈ generated.enumClasses) :
    ∃ before after, DocstringIn generated.text.toList
      (before ++ (s!"class {valueEnum.typeName}(enum.Enum):" ++ "\n    ").toList)
      (Generated.enumClass valueEnum).summary.toList after
      (Generated.enumClass valueEnum).summary.toList
      (KeepsOpen valueEnum.name ∧
        ∀ place, valueEnum.location = some place → KeepsOpen place.fileName)
      (Unescaped valueEnum.name ∧
        ∀ place, valueEnum.location = some place → Unescaped place.fileName) := by
  let enumClass := Generated.enumClass valueEnum
  have inside : [s!"class {enumClass.name}(enum.Enum):",
      s!"    \"\"\"{enumClass.summary}\"\"\""] <:+: enumClass.lines :=
    ⟨["@functools.total_ordering"], enumClass.lines.drop 3, rfl⟩
  obtain ⟨before, after, stands⟩ := Generated.Module.exists_docstring_of_infix
    (inside.trans (Generated.Module.enumClass_lines_infix isClass))
  let kind := (" (" ++ valueEnum.kind.name ++ ")" ++ placeLead valueEnum.location).toList
  have same : enumClass.summary.toList =
      "Value enum ".toList ++ woven ((valueEnum.name.toList, kind) ::
        placeParts valueEnum.location) := by
    have place := toList_declaredAtText valueEnum.location
    rw [String.toList_append] at place
    have text : enumClass.summary = "Value enum " ++ valueEnum.name ++ " ("
        ++ valueEnum.kind.name ++ ")"
        ++ Generated.declaredAtText (valueEnum.location.map Location.anchor) ++ "." := rfl
    rw [text]
    simp only [kind, String.toList_append, List.append_assoc, place, woven, List.flatMap_cons]
  have isOwn : ∀ part ∈ (valueEnum.name.toList, kind) :: placeParts valueEnum.location,
      IsOwn part.2 := by
    rw [List.forall_mem_cons]
    exact ⟨isOwn_kind _ _, isOwn_placeParts _⟩
  obtain ⟨init, ends⟩ : ∃ init, enumClass.summary.toList = init ++ ['.'] :=
    ⟨_, String.toList_append⟩
  have docstring := Text.docstringIn_woven stands same (by decide) (by decide) isOwn ends
    (by decide) (by decide)
  rw [List.forall_mem_cons, List.forall_mem_cons, keepsOpen_placeParts_iff,
    unescaped_placeParts_iff] at docstring
  exact ⟨before, after, docstring⟩

end ValueEnum

namespace VariantsDeclaration

/-- The docstring of a base class. -/
def docstring (declaration : VariantsDeclaration) : String :=
  "Shader variants of " ++ Text.Quoted.encode declaration.templatePath
    ++ Generated.declaredAtText (declaration.location.map Location.anchor) ++ "."

/-- What the docstring is to say: the path between the marks that it is quoted with. -/
def docstringMeaning (declaration : VariantsDeclaration) : String :=
  let mark := String.singleton (Text.Quoted.mark declaration.templatePath.toList)
  "Shader variants of " ++ mark ++ declaration.templatePath ++ mark
    ++ Generated.declaredAtText (declaration.location.map Location.anchor) ++ "."

/-- Into the docstring of a base class, the quoted path of the template and a file name are
inserted. -/
theorem docstring_family {declaration : VariantsDeclaration} {family : Generated.Family}
    (named : family.name = declaration.name)
    (path : family.templatePath = declaration.templatePath)
    (place : family.declaredAt = declaration.location.map Location.anchor)
    {generated : Generated.Module} (isFamily : family ∈ generated.families) :
    ∃ before after, DocstringIn generated.text.toList
      (before ++ (s!"class {declaration.name}:" ++ "\n    ").toList)
      declaration.docstring.toList after declaration.docstringMeaning.toList
      (¬docstringMarks <:+: declaration.templatePath.toList ∧
        ∀ place, declaration.location = some place → KeepsOpen place.fileName)
      (∀ place, declaration.location = some place → Unescaped place.fileName) := by
  have inside : [s!"class {family.name}:", s!"    \"\"\"{family.summary}\"\"\""] <:+:
      family.lines := by
    have base : [s!"class {family.name}:", s!"    \"\"\"{family.summary}\"\"\""] <:+:
        family.baseLines := ⟨["@functools.total_ordering"], family.baseLines.drop 3, rfl⟩
    exact base.trans family.baseLines_infix_lines
  obtain ⟨before, after, stands⟩ := Generated.Module.exists_docstring_of_infix
    (inside.trans (Generated.Module.family_lines_infix isFamily))
  let quoted := declaration.templatePath.toList
  have placed := toList_declaredAtText declaration.location
  rw [String.toList_append] at placed
  have summary : family.summary = declaration.docstring := by
    have text : family.summary = "Shader variants of " ++ Text.Quoted.encode family.templatePath
        ++ Generated.declaredAtText family.declaredAt ++ "." := rfl
    rw [text, path, place]
    rfl
  rw [summary] at stands
  have same : declaration.docstring.toList = "Shader variants of ".toList ++
      (Text.Quoted.encodeChars quoted ++
        ((placeLead declaration.location).toList ++ woven (placeParts declaration.location))) := by
    have text : declaration.docstring = "Shader variants of "
        ++ Text.Quoted.encode declaration.templatePath
        ++ Generated.declaredAtText (declaration.location.map Location.anchor) ++ "." := rfl
    have written : (Text.Quoted.encode declaration.templatePath).toList =
        Text.Quoted.encodeChars quoted := String.toList_ofList
    rw [text, String.toList_append, String.toList_append, String.toList_append, written,
      List.append_assoc, List.append_assoc, placed]
  have meaning : declaration.docstringMeaning.toList = "Shader variants of ".toList ++
      (Text.Quoted.mark quoted :: (quoted ++ [Text.Quoted.mark quoted]) ++
        ((placeLead declaration.location).toList ++ woven (placeParts declaration.location))) := by
    have text : declaration.docstringMeaning = "Shader variants of "
        ++ String.singleton (Text.Quoted.mark quoted) ++ declaration.templatePath
        ++ String.singleton (Text.Quoted.mark quoted)
        ++ Generated.declaredAtText (declaration.location.map Location.anchor) ++ "." := rfl
    rw [text]
    simp only [quoted, String.toList_append, String.toList_singleton, List.append_assoc, placed,
      List.cons_append, List.nil_append]
  obtain ⟨init, ends⟩ : ∃ init, declaration.docstring.toList = init ++ ['.'] :=
    ⟨_, String.toList_append⟩
  have docstring := Text.docstringIn_encodeChars stands same (by decide) (by decide)
    (isOwn_placeLead _) (isOwn_placeParts _) ends (by decide) (by decide)
  rw [keepsOpen_placeParts_iff, unescaped_placeParts_iff, ← meaning, named] at docstring
  exact ⟨before, after, docstring⟩

end VariantsDeclaration

namespace Module

variable {module : Module}

/-- The docstrings of the module that is generated from an accepted one.  Each ends at the marks
that the emitter closes it with exactly when no name in it closes it before and the path of its
template has no three double quotes in a row.  Its escapes are those of the quoted path exactly when
no backslash of a name begins one. -/
theorem Accepted.docstrings_of_ofResolved (accepted : module.Accepted)
    {resolved : List ResolvedDeclaration}
    (inOrder : resolved.map ResolvedDeclaration.declaration = module.declarations)
    {generated : Generated.Module}
    (emitted : Generated.ofResolved module resolved = .ok generated) :
    (∃ after, let source := (Path.ofString module.file).fileName
      DocstringIn generated.text.toList [] (Generated.headerDocstring source).toList after
        (Generated.headerDocstring source).toList (KeepsOpen source) (Unescaped source)) ∧
    (∀ valueEnum ∈ module.valueEnums, ∃ before after, DocstringIn generated.text.toList
      (before ++ (s!"class {valueEnum.typeName}(enum.Enum):" ++ "\n    ").toList)
      (Generated.enumClass valueEnum).summary.toList after
      (Generated.enumClass valueEnum).summary.toList
      (KeepsOpen valueEnum.name ∧
        ∀ place, valueEnum.location = some place → KeepsOpen place.fileName)
      (Unescaped valueEnum.name ∧
        ∀ place, valueEnum.location = some place → Unescaped place.fileName)) ∧
    ∀ declaration ∈ module.declarations, ∃ before after, DocstringIn generated.text.toList
      (before ++ (s!"class {declaration.name}:" ++ "\n    ").toList)
      declaration.docstring.toList after declaration.docstringMeaning.toList
      (¬docstringMarks <:+: declaration.templatePath.toList ∧
        ∀ place, declaration.location = some place → KeepsOpen place.fileName)
      (∀ place, declaration.location = some place → Unescaped place.fileName) := by
  obtain rfl := accepted.wellFormed.eq_emitted inOrder emitted
  refine ⟨Generated.Module.docstring_header _, ?_, ?_⟩
  · intro valueEnum member
    exact valueEnum.docstring_enumClass (List.mem_map_of_mem member)
  · intro declaration member
    rw [← inOrder] at member
    obtain ⟨one, isOne, rfl⟩ := List.mem_map.mp member
    have isFamily : module.coveredFamily one ∈ (module.emitted resolved).families :=
      List.mem_map_of_mem isOne
    exact one.declaration.docstring_family rfl rfl rfl isFamily

/-- A template whose path is three double quotes, declared in a file with a backslash in its
name. -/
def quotesTemplate : Module where
  file := "a\\x.wgslv"
  valueEnums := []
  declarations := [⟨"A", "\"\"\"", none, [], false, none⟩]

theorem quotesTemplate_docstrings :
    ∃ generated, Generated.ofResolved quotesTemplate
        [⟨⟨"A", "\"\"\"", none, [], false, none⟩, "x", []⟩] = .ok generated ∧
      (∃ before after, let content := "Shader variants of '\"\"\"'.".toList
        generated.text.toList =
            before ++ (docstringMarks ++ (content ++ (docstringMarks ++ after))) ∧
          split? docstringMarks (content ++ (docstringMarks ++ after)) ≠ some (content, after)) ∧
      let header := (Generated.headerDocstring "a\\x.wgslv").toList
      (∃ after, generated.text.toList = docstringMarks ++ (header ++ (docstringMarks ++ after))) ∧
        Text.Escape.decodeChars header ≠ .ok header := by
  have accepted : quotesTemplate.Accepted := by decide +kernel
  have emits : (Generated.ofResolved quotesTemplate
      [⟨⟨"A", "\"\"\"", none, [], false, none⟩, "x", []⟩]).toOption.isSome := by
    decide +kernel
  obtain ⟨generated, found⟩ := Option.isSome_iff_exists.mp emits
  have emitted := eq_ok_of_toOption found
  obtain ⟨⟨headerAfter, header⟩, -, declarations⟩ :=
    accepted.docstrings_of_ofResolved rfl emitted
  obtain ⟨before, after, docstring⟩ := declarations ⟨"A", "\"\"\"", none, [], false, none⟩
    (List.mem_singleton.mpr rfl)
  have source : (Path.ofString quotesTemplate.file).fileName = "a\\x.wgslv" := by decide +kernel
  have content : (⟨"A", "\"\"\"", none, [], false, none⟩ : VariantsDeclaration).docstring =
      "Shader variants of '\"\"\"'." := by
    decide +kernel
  rw [source] at header
  rw [content] at docstring
  refine ⟨generated, emitted, ⟨_, after, docstring.stands, ?_⟩, ⟨headerAfter, header.stands⟩, ?_⟩
  · intro closed
    have noQuotes := (docstring.closed_iff.mp closed).1
    exact noQuotes (by decide +kernel)
  · intro decoded
    have plain := header.meaning_iff.mp decoded
    exact absurd plain (by decide +kernel)

end Module

end ShaderVariants
