import ShaderVariants.Proofs.CodeReading
import ShaderVariants.Proofs.Docstrings

/-!
# Lines of classes

The lines of a generated class are lines of code on their own: no literal and no bracket goes on
from one to the next, so that a line can be read without those in front of it.  The docstring is one
of them as long as no text that is inserted into it closes it.
-/

namespace ShaderVariants

open Text (KeepsOpen)
open Text.StringLiteral (split? docstringMarks)
open Text.Code (Leads Reads StandsAlone Indented leads_identifier leads_identifier_in_literal)

/-! ## Kinds of lines -/

theorem Literal.notMem_marks (literal : Literal) :
    ∀ c ∈ literal.written.toList, c ∉ Text.Code.marks := by
  cases literal with
  | bool value => cases value <;> simp [Literal.written, Text.Code.marks]
  | integer value =>
      have noDigit : ∀ c ∈ Text.Code.marks, c.isDigit = false := by
        simp [Text.Code.marks, Char.isDigit]
      intro c member
      rcases Location.mem_toString_int member with rfl | digit
      · decide
      · intro mark
        rw [noDigit c mark] at digit
        cases digit

namespace Generated

/-- A line with a name between two texts. -/
theorem standsAlone_of_name {front name behind : String} {state : Text.Code.State}
    (opens : Leads .start front.toList state) (passes : Leads state name.toList state)
    (closes : Leads state behind.toList .start) : StandsAlone (front ++ name ++ behind) := by
  apply StandsAlone.of_leads
  rw [String.toList_append, String.toList_append]
  exact (opens.append passes).append closes

theorem standsAlone_docstring {summary : String} {init : List Char}
    (ends : summary.toList = init ++ ['.'])
    (notClosed : split? docstringMarks summary.toList = none) :
    StandsAlone s!"    \"\"\"{summary}\"\"\"" := by
  have indent : Reads .start "    ".toList "    ".toList .start := rfl
  have docstring := Text.Code.reads_docstring ends (by decide) (by decide) notClosed []
  apply StandsAlone.of_leads
  refine ⟨_, ?_, (by decide : '\n' ∉ "    ".toList ++ ['"'])⟩
  simpa [toString, docstringMarks] using indent.append docstring

/-! ## Classes of value enums -/

namespace EnumClass

theorem indented_lines (enumClass : EnumClass) :
    ∀ line ∈ enumClass.lines.drop 2, Indented line := by
  simp only [lines, memberLines, List.cons_append, List.nil_append, List.drop_succ_cons,
    List.drop_zero, List.forall_mem_append, List.forall_mem_cons, List.forall_mem_map]
  simp [Indented, toString]

variable {enumClass : EnumClass}

theorem standsAlone_memberLines
    (members : ∀ member ∈ enumClass.members, Text.isIdentifier member.1 = true) :
    ∀ line ∈ enumClass.memberLines, StandsAlone line := by
  intro line listed
  obtain ⟨member, isMember, rfl⟩ := List.mem_map.mp listed
  apply StandsAlone.of_leads
  have written := Text.Code.leads_of_notMem_marks (Literal.notMem_marks member.2) []
  have indent : Leads .start "    ".toList .start := by decide
  have equals : Leads .start " = ".toList .start := by decide
  have whole := (indent.append (leads_identifier (members member isMember) [])).append
    (equals.append written)
  simpa [toString] using whole

theorem leads_kind (kind : Scalar.Kind) (closers : List Char) :
    Leads (.within closers) kind.annotation.toList (.within closers) :=
  leads_identifier (by cases kind <;> decide) closers

theorem standsAlone_kindCheck (kind : Scalar.Kind) :
    StandsAlone ("        if " ++ kindCheck kind ++ ":") := by
  apply StandsAlone.of_leads
  rw [String.toList_append, String.toList_append]
  cases kind <;>
  · simp only [kindCheck, String.reduceToList]
    decide +kernel

variable (identifier : Text.isIdentifier enumClass.name = true)
include identifier

theorem standsAlone_finder : StandsAlone ("    def from_value(cls, value: "
    ++ enumClass.kind.annotation ++ ") -> " ++ enumClass.name ++ ":") := by
  refine standsAlone_of_name ?_ (leads_identifier identifier []) (by decide)
  rw [String.toList_append, String.toList_append]
  have opening : Leads .start "    def from_value(cls, value: ".toList (.within [')']) := by
    simp only [String.reduceToList]
    decide
  have closing : Leads (.within [')']) ") -> ".toList .start := by decide
  exact (opening.append (leads_kind enumClass.kind [')'])).append closing

variable (members : ∀ member ∈ enumClass.members, Text.isIdentifier member.1 = true)
include members

/-- The lines behind the docstring. -/
theorem standsAlone_body : ∀ line ∈ enumClass.lines.drop 3, StandsAlone line := by
  have outside := leads_identifier identifier
  have inside (closers : List Char) :=
    leads_identifier_in_literal identifier (.inr rfl : Text.Quoted.IsQuote '"') false closers
  have getter : StandsAlone ("    def get_value(self) -> " ++ enumClass.kind.annotation ++ ":") :=
    standsAlone_of_name (by decide) (leads_kind enumClass.kind []) (by decide)
  have refuses : StandsAlone ("            raise " ++ ("ValueError(f\"no matching case of "
      ++ enumClass.name ++ " for \x7bvalue!r\x7d\")")) := by
    rw [String.append_assoc, ← String.append_assoc, ← String.append_assoc]
    exact standsAlone_of_name (by decide) (inside [')']) (by decide)
  have fails : StandsAlone ("            raise " ++ ("ValueError(f\"no matching case of "
      ++ enumClass.name ++ " for \x7bvalue!r\x7d\")") ++ " from None") := by
    rw [String.append_assoc, String.append_assoc, String.append_assoc, ← String.append_assoc,
      ← String.append_assoc]
    exact standsAlone_of_name (by decide) (inside [')']) (by decide)
  have lister : StandsAlone ("    def cases(cls) -> tuple[" ++ enumClass.name ++ ", ...]:") :=
    standsAlone_of_name (by decide) (outside [']']) (by decide)
  have empty : StandsAlone "" := .of_leads (by decide)
  simp only [lines, List.cons_append, List.nil_append, List.drop_succ_cons, List.drop_zero]
  rw [List.forall_mem_cons, List.forall_mem_append]
  refine ⟨empty, standsAlone_memberLines members, ?_⟩
  simp only [List.forall_mem_cons, List.not_mem_nil, false_implies, implies_true, and_true]
  refine ⟨empty, getter, .of_leads ?_, empty, .of_leads ?_, standsAlone_finder identifier,
    standsAlone_kindCheck enumClass.kind, refuses, .of_leads ?_, .of_leads ?_, .of_leads ?_, fails,
    empty, .of_leads ?_, lister, .of_leads ?_, empty, .of_leads ?_, .of_leads ?_, .of_leads ?_,
    .of_leads ?_, .of_leads ?_⟩
  -- The lines that no name is inserted into.
  all_goals
    simp only [String.reduceToList]
    decide

theorem standsAlone_lines (notClosed : split? docstringMarks enumClass.summary.toList = none) :
    ∀ line ∈ enumClass.lines, StandsAlone line := by
  have decorator : StandsAlone "@functools.total_ordering" := by
    apply StandsAlone.of_leads
    simp only [String.reduceToList]
    decide
  have statement : StandsAlone s!"class {enumClass.name}(enum.Enum):" :=
    standsAlone_of_name (by decide) (leads_identifier identifier []) (by decide)
  have docstring : StandsAlone s!"    \"\"\"{enumClass.summary}\"\"\"" := by
    obtain ⟨init, ends⟩ : ∃ init, enumClass.summary.toList = init ++ ['.'] :=
      ⟨_, String.toList_append⟩
    exact standsAlone_docstring ends notClosed
  have body := standsAlone_body identifier members
  have whole : enumClass.lines = "@functools.total_ordering" ::
      s!"class {enumClass.name}(enum.Enum):" :: s!"    \"\"\"{enumClass.summary}\"\"\"" ::
        enumClass.lines.drop 3 := rfl
  rw [whole, List.forall_mem_cons, List.forall_mem_cons, List.forall_mem_cons]
  exact ⟨decorator, statement, docstring, body⟩

end EnumClass

end Generated

/-- No text that is inserted into the docstring of the class closes it. -/
def ValueEnum.KeepsDocstring (valueEnum : ValueEnum) : Prop :=
  KeepsOpen valueEnum.name ∧ ∀ place ∈ valueEnum.location, KeepsOpen place.fileName

instance (valueEnum : ValueEnum) : Decidable valueEnum.KeepsDocstring :=
  inferInstanceAs (Decidable (_ ∧ ∀ place ∈ valueEnum.location, _))

/-- A text that ends with a full stop is closed behind it only if it does not close itself. -/
theorem split?_eq_none_of_closed {content after : List Char} {text : String}
    (ends : content = (text ++ ".").toList)
    (closed : split? docstringMarks (content ++ (docstringMarks ++ after)) =
      some (content, after)) : split? docstringMarks content = none := by
  rw [String.toList_append] at ends
  exact (Text.split?_docstring_iff ends (by decide) (by decide) after).mp closed

namespace ValueEnum

theorem KeepsDocstring.split?_summary {valueEnum : ValueEnum} (keeps : valueEnum.KeepsDocstring) :
    split? docstringMarks (Generated.enumClass valueEnum).summary.toList = none := by
  let alone : Generated.Module := ⟨"", [], [Generated.enumClass valueEnum], []⟩
  have isClass : Generated.enumClass valueEnum ∈ alone.enumClasses := List.mem_singleton.mpr rfl
  obtain ⟨before, after, docstring⟩ := valueEnum.docstring_enumClass isClass
  exact split?_eq_none_of_closed rfl (docstring.closed_iff.mpr keeps)

theorem WellFormed.isIdentifier_members {valueEnum : ValueEnum} (rules : valueEnum.WellFormed) :
    ∀ member ∈ (Generated.enumClass valueEnum).members, Text.isIdentifier member.1 = true :=
  List.forall_mem_map.mpr fun case listed => (rules.caseNamesUsable case listed).isIdentifier

theorem WellFormed.standsAlone_lines {valueEnum : ValueEnum} (rules : valueEnum.WellFormed)
    (keeps : valueEnum.KeepsDocstring) :
    ∀ line ∈ (Generated.enumClass valueEnum).lines, StandsAlone line :=
  Generated.EnumClass.standsAlone_lines rules.typeNameUsable.isIdentifier
    rules.isIdentifier_members keeps.split?_summary

end ValueEnum

/-! ## Case classes -/

namespace Generated

/-- The names in a case class are identifiers. -/
structure CaseClass.IsReadable (caseClass : CaseClass) : Prop where
  name : Text.isIdentifier caseClass.name = true
  variant : Text.isIdentifier caseClass.variant = true
  fields : ∀ field ∈ caseClass.fields,
    Text.isIdentifier field.1 = true ∧ Text.isIdentifier field.2 = true

namespace CaseClass

variable {caseClass : CaseClass} {family : String}

theorem indented_lines (caseClass : CaseClass) (family : String) :
    ∀ line ∈ (caseClass.lines family).drop 2, Indented line := by
  simp only [lines, List.cons_append, List.nil_append, List.drop_succ_cons, List.drop_zero]
  split
  · simp [Indented, toString]
  · rw [List.forall_mem_map]
    simp [Indented, toString]

theorem standsAlone_body (readable : caseClass.IsReadable)
    (identifier : Text.isIdentifier family = true) :
    ∀ line ∈ (caseClass.lines family).drop 2, StandsAlone line := by
  simp only [lines, List.cons_append, List.nil_append, List.drop_succ_cons, List.drop_zero]
  split
  · rw [List.forall_mem_singleton]
    have inside {name : String} (identifier : Text.isIdentifier name = true) :=
      leads_identifier_in_literal identifier (.inr rfl : Text.Quoted.IsQuote '"') true []
    have opening : Leads .start "    \"\"\"".toList ⟨.literal '"' true 0, []⟩ := by decide
    have between : Leads ⟨.literal '"' true 0, []⟩ "::".toList ⟨.literal '"' true 0, []⟩ := by
      decide
    have closing : Leads ⟨.literal '"' true 0, []⟩ "\"\"\"".toList .start := by decide
    have content := ((inside identifier).append between).append (inside readable.variant)
    apply StandsAlone.of_leads
    simpa [toString] using (opening.append content).append closing
  · rw [List.forall_mem_map]
    intro field listed
    obtain ⟨named, annotated⟩ := readable.fields field listed
    have indent : Leads .start "    ".toList .start := by decide
    have colon : Leads .start ": ".toList .start := by decide
    have whole := (indent.append (leads_identifier named [])).append
      (colon.append (leads_identifier annotated []))
    apply StandsAlone.of_leads
    simpa [toString] using whole

end CaseClass

end Generated

end ShaderVariants
