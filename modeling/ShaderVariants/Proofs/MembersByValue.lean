import ShaderVariants.Proofs.BoundNames
import ShaderVariants.Proofs.ClassLines
import ShaderVariants.Proofs.Literals
import ShaderVariants.Proofs.ValidationResult

/-!
# Members by their values

The class of a value enum turns members into values and values into members.  That these are inverse
to each other takes three parties: the parser lets a case have a literal of the declared kind only,
the rules let no two cases have equal literals, where truth values equal numbers, and the emitter
writes a check that refuses values of the other types, so that a value which equals the literal of a
member is that literal.
-/

namespace ShaderVariants

/-! ## Kinds of cases -/

namespace Grammar

theorem IsValueEnum.kind_eq {file : String} {isPublic : Bool} {tokens : List Token}
    {valueEnum : ValueEnum} (written : IsValueEnum file isPublic tokens valueEnum)
    {case : ValueEnum.Case} (member : case ∈ valueEnum.cases) :
    case.value.kind = valueEnum.kind := by
  cases written with
  | intro isKeyword isName isAlias isColon isKind isLeft areCases isRight =>
      obtain ⟨own, isCase⟩ := areCases.exists_of_mem member
      cases isCase with
      | intro isCaseName isEquals isValue => exact isValue.kind_eq

theorem IsModule.exists_isValueEnum {file : String} {tokens : List Token} {module : Module}
    (written : IsModule file tokens module) {valueEnum : ValueEnum}
    (declared : valueEnum ∈ module.valueEnums) :
    ∃ isPublic own, IsValueEnum file isPublic own valueEnum := by
  cases written with
  | intro areDeclarations =>
      obtain ⟨declaration, member, isLeft⟩ := List.mem_filterMap.mp declared
      obtain rfl := Sum.getLeft?_eq_some_iff.mp isLeft
      obtain ⟨own, isDeclaration⟩ := areDeclarations.exists_of_mem member
      cases isDeclaration with
      | valueEnum isMark isEnum => exact ⟨_, _, isEnum⟩

end Grammar

/-- The cases of a value enum that has been read have its kind. -/
theorem Module.kind_eq_of_ofText {file : Path} {text : String} {module : Module}
    (read : ofText file text = .ok module) {valueEnum : ValueEnum}
    (declared : valueEnum ∈ module.valueEnums) {case : ValueEnum.Case}
    (member : case ∈ valueEnum.cases) : case.value.kind = valueEnum.kind := by
  unfold ofText at read
  cases lexed : Token.ofText text with
  | error fault =>
      rw [lexed] at read
      cases read
  | ok tokens =>
      rw [lexed] at read
      obtain ⟨consumed, written, -, -⟩ := Parser.answers_module_iff.mp ⟨read, rfl⟩
      obtain ⟨isPublic, own, isEnum⟩ := written.exists_isValueEnum declared
      exact isEnum.kind_eq member

/-! ## Reading the class of a value enum -/

/-- The literal of a spelling. -/
def Literal.ofSpelling? (spelling : String) : Option Literal :=
  if spelling = "True" then some (.bool true)
  else if spelling = "False" then some (.bool false)
  else spelling.toInt?.map .integer

/-- A text that begins with neither a digit nor a mark is no number. -/
theorem toInt?_eq_none_of_head? {text : String} {c : Char} (first : text.toList.head? = some c)
    (noDigit : c.isDigit = false) (noMark : c ∉ ['-', '_']) : text.toInt? = none := by
  obtain ⟨rest, same⟩ := List.head?_eq_some_iff.mp first
  apply String.toInt?_eq_none
  rw [Bool.eq_false_iff, ne_eq, String.isInt_iff]
  intro number
  rcases number with unsigned | ⟨digits, signed, -⟩
  · obtain ⟨-, parts, -⟩ := String.isNat_iff.mp unsigned
    rcases parts c (by simp [same]) with digit | rfl
    · rw [noDigit] at digit
      cases digit
    · exact noMark (by decide)
  · rw [signed, String.toList_append] at same
    obtain rfl := (List.cons.inj same).1
    exact noMark (by decide)

theorem Literal.ofSpelling?_written (literal : Literal) :
    ofSpelling? literal.written = some literal := by
  have number (value : Int) : (toString value).toInt? = some value := Int.toInt?_repr value
  have apart {word : String} (noNumber : word.toInt? = none) (value : Int) :
      toString value ≠ word := by
    intro same
    rw [← same, number] at noNumber
    cases noNumber
  cases literal with
  | bool value => cases value <;> decide
  | integer value =>
      have noTruth : toString value ≠ "True" :=
        apart (toInt?_eq_none_of_head? (c := 'T') (by decide) (by decide) (by decide)) value
      have noFalsehood : toString value ≠ "False" :=
        apart (toInt?_eq_none_of_head? (c := 'F') (by decide) (by decide) (by decide)) value
      rw [ofSpelling?, written, if_neg noTruth, if_neg noFalsehood, number, Option.map_some]

namespace Generated

/-- The member that a line in the body of a class defines, when it is a line of code on its own.
The lines of a class are, as long as its docstring keeps its end
(`ValueEnum.WellFormed.standsAlone_lines`). -/
def member? (line : String) : Option (String × Literal) :=
  let cs := line.toList.drop 4
  let name := leadingName cs
  let rest := cs.drop name.length
  if "    ".toList <+: line.toList ∧ name ≠ [] ∧ " = ".toList <+: rest then
    (Literal.ofSpelling? (String.ofList (rest.drop 3))).map fun literal =>
      (String.ofList name, literal)
  else none

/-- The types that a value is tested for. -/
inductive ValueType where
  | bool
  | int
  deriving DecidableEq

namespace ValueType

/-- Whether a value is an instance of the type.  A truth value is an integer, too. -/
def includes : ValueType → Literal → Bool
  | .bool, .integer _ => false
  | _, _ => true

/-- The type at the end of a test. -/
def ofName? : String → Option ValueType
  | "bool)" => some .bool
  | "int)" => some .int
  | _ => none

end ValueType

/-- A test whether a value is an instance of a type, or that it is none. -/
structure TypeTest where
  negated : Bool
  type : ValueType
  deriving DecidableEq

def TypeTest.holds (test : TypeTest) (value : Literal) : Bool :=
  test.negated != test.type.includes value

/-- The tests that stand in a condition, given by its words, with `or` between them. -/
def tests? : List String → Option (List TypeTest)
  | ["isinstance(value,", type] => (ValueType.ofName? type).map ([⟨false, ·⟩])
  | ["not", "isinstance(value,", type] => (ValueType.ofName? type).map ([⟨true, ·⟩])
  | "isinstance(value," :: type :: "or" :: rest => do
    return ⟨false, ← ValueType.ofName? type⟩ :: (← tests? rest)
  | "not" :: "isinstance(value," :: type :: "or" :: rest => do
    return ⟨true, ← ValueType.ofName? type⟩ :: (← tests? rest)
  | _ => none

/-- The tests of a line that begins a branch inside a method. -/
def condition? (line : String) : Option (List TypeTest) :=
  let rest := line.toList.drop 11
  if "        if ".toList <+: line.toList ∧ rest.getLast? = some ':' then
    tests? ((rest.dropLast.splitOn ' ').map String.ofList)
  else none

/-- Whether a line begins the method `from_value`. -/
def BeginsFinder (line : String) : Prop := "    def from_value(".toList <+: line.toList

instance (line : String) : Decidable (BeginsFinder line) :=
  inferInstanceAs (Decidable ("    def from_value(".toList <+: line.toList))

/-- The condition at the beginning of `from_value`, in a class of some lines. -/
def check? (lines : List String) : Option (List TypeTest) :=
  (lines.dropWhile (¬ BeginsFinder ·)).tail.head?.bind condition?

/-- What `from_value` refuses in a class of some kind before it looks for a member. -/
def refusal : Scalar.Kind → List TypeTest
  | .bool => [⟨true, .bool⟩]
  | _ => [⟨false, .bool⟩, ⟨true, .int⟩]

theorem condition?_kindCheck (kind : Scalar.Kind) :
    condition? s!"        if {EnumClass.kindCheck kind}:" = some (refusal kind) := by
  cases kind <;> decide +kernel

/-! ### Which lines define members, and where the check stands -/

theorem member?_memberLine {name : String} (identifier : Text.isIdentifier name = true)
    (literal : Literal) : member? s!"    {name} = {literal.written}" = some (name, literal) := by
  have inside := Text.all_isIdentifierPart identifier
  have nonempty := Text.toList_ne_nil_of_isIdentifier identifier
  let behind := ' ' :: ("= ".toList ++ literal.written.toList)
  have same : (s!"    {name} = {literal.written}").toList =
      "    ".toList ++ (name.toList ++ behind) := by
    simp [toString, behind]
  have front : leadingName (name.toList ++ behind) = name.toList :=
    leadingName_append inside (by decide) _
  have indented : "    ".toList <+: "    ".toList ++ (name.toList ++ behind) :=
    List.prefix_append _ _
  have assigns : " = ".toList <+: behind := List.prefix_append " = ".toList _
  have dropped : ("    ".toList ++ (name.toList ++ behind)).drop 4 = name.toList ++ behind := rfl
  have spelling : behind.drop 3 = literal.written.toList := rfl
  unfold member?
  dsimp only
  rw [same, dropped, front, List.drop_left, if_pos ⟨indented, nonempty, assigns⟩, spelling,
    String.ofList_toList, String.ofList_toList, literal.ofSpelling?_written, Option.map_some]

/-- A line with no name behind the blanks defines no member. -/
theorem member?_eq_none_of_leadingName {line : String}
    (nameless : leadingName (line.toList.drop 4) = []) : member? line = none := by
  simp [member?, nameless]

/-- A line that begins a method defines no member. -/
theorem member?_eq_none_of_def {line : String} (begins : "    def ".toList <+: line.toList)
    (noAssignment : line.toList[8]? ≠ some '=') : member? line = none := by
  obtain ⟨rest, same⟩ := begins
  have word : line.toList.drop 4 = "def".toList ++ ' ' :: rest := by rw [← same]; rfl
  have front : leadingName ("def".toList ++ ' ' :: rest) = "def".toList :=
    leadingName_append (by decide) (by decide) rest
  have assigns : ¬ " = ".toList <+: ' ' :: rest := by
    intro assigned
    obtain ⟨others, equality⟩ := assigned
    obtain rfl := (List.cons.inj equality).2
    exact noAssignment (by rw [← same]; rfl)
  unfold member?
  simp only [word, front, List.drop_left, assigns, and_false, if_false]

/-- A line that defines a member begins no method. -/
theorem not_beginsFinder_of_member? {line : String} {member : String × Literal}
    (defines : member? line = some member) : ¬ BeginsFinder line := by
  intro begins
  obtain ⟨rest, same⟩ := begins
  have front : "    def ".toList <+: line.toList := by
    rw [← same]
    exact ⟨"from_value(".toList ++ rest, rfl⟩
  have noMember := member?_eq_none_of_def front (by rw [← same]; simp)
  rw [noMember] at defines
  cases defines

/-- The lines of a class around its members: none of them defines another one, and `from_value`
begins behind the members, with the check on the kind. -/
theorem EnumClass.exists_lines_eq (enumClass : EnumClass) :
    ∃ opening methods, enumClass.lines = opening ++ enumClass.memberLines ++ methods ∧
      (∀ line ∈ opening, member? line = none ∧ ¬ BeginsFinder line) ∧
      (∀ line ∈ methods, member? line = none) ∧
      check? methods = some (refusal enumClass.kind) := by
  let getter := "    def get_value(self) -> " ++ enumClass.kind.annotation ++ ":"
  let finder := "    def from_value(cls, value: " ++ enumClass.kind.annotation ++ ") -> "
    ++ enumClass.name ++ ":"
  let lister := "    def cases(cls) -> tuple[" ++ enumClass.name ++ ", ...]:"
  refine ⟨_, _, rfl, ?_, ?_, ?_⟩
  · have quote : '"' ∈ nameEnds := by decide
    simp only [List.forall_mem_cons, List.not_mem_nil, false_implies, implies_true, and_true]
    refine ⟨⟨?_, ?_⟩, ⟨?_, ?_⟩, ⟨?_, ?_⟩, ?_, ?_⟩
    · decide +kernel
    · decide +kernel
    · simp [member?, toString]
    · simp [BeginsFinder, toString]
    · exact member?_eq_none_of_leadingName (by simp [toString, leadingName_cons quote])
    · simp [BeginsFinder, toString]
    · decide +kernel
    · decide +kernel
  · have blank : ' ' ∈ nameEnds := by decide
    have decorator : member? "    @classmethod" = none := by decide +kernel
    have gets : member? getter = none :=
      member?_eq_none_of_def (by simp [getter]) (by simp [getter])
    have finds : member? finder = none :=
      member?_eq_none_of_def (by simp [finder]) (by simp [finder])
    have lists : member? lister = none :=
      member?_eq_none_of_def (by simp [lister]) (by simp [lister])
    have orders : member? "    def __lt__(self, other: object) -> bool:" = none :=
      member?_eq_none_of_def (by simp) (by simp)
    simp only [getter, finder, lister] at gets finds lists
    simp [member?_eq_none_of_leadingName, toString, leadingName_cons blank, leadingName_nil,
      decorator, gets, finds, lists, orders]
  · have check := condition?_kindCheck enumClass.kind
    simp only [toString] at check ⊢
    simp [check?, BeginsFinder, check]

theorem EnumClass.filterMap_member?_lines {enumClass : EnumClass}
    (identifiers : ∀ member ∈ enumClass.members, Text.isIdentifier member.1 = true) :
    enumClass.lines.filterMap member? = enumClass.members := by
  obtain ⟨opening, methods, split, before, behind, -⟩ := enumClass.exists_lines_eq
  have members : enumClass.memberLines.filterMap member? = enumClass.members := by
    rw [memberLines, List.filterMap_map, List.filterMap_congr (g := some), List.filterMap_some]
    intro member listed
    exact member?_memberLine (identifiers member listed) member.2
  rw [split, List.filterMap_append, List.filterMap_append, members,
    List.filterMap_eq_nil_iff.mpr fun line member => (before line member).1,
    List.filterMap_eq_nil_iff.mpr behind, List.nil_append, List.append_nil]

theorem EnumClass.check?_lines {enumClass : EnumClass}
    (identifiers : ∀ member ∈ enumClass.members, Text.isIdentifier member.1 = true) :
    check? enumClass.lines = some (refusal enumClass.kind) := by
  obtain ⟨opening, methods, split, before, -, behind⟩ := enumClass.exists_lines_eq
  have passed : ∀ line ∈ opening ++ enumClass.memberLines, ¬ BeginsFinder line := by
    rw [List.forall_mem_append]
    refine ⟨fun line member => (before line member).2, ?_⟩
    intro line listed
    obtain ⟨member, inside, rfl⟩ := List.mem_map.mp listed
    exact not_beginsFinder_of_member? (member?_memberLine (identifiers member inside) member.2)
  rw [check?, split, List.dropWhile_append_of_pos (by simpa using passed)]
  exact behind

/-! ## What the class answers -/

/-- The value of the member of a name, in a class of some lines. -/
def getValue? (lines : List String) (name : String) : Option Literal :=
  ((lines.filterMap member?).find? fun member => member.1 = name).map Prod.snd

/-- Whether one of the tests of a condition holds of a value. -/
def Refused (tests : List TypeTest) (value : Literal) : Prop := ∃ test ∈ tests, test.holds value

instance (tests : List TypeTest) (value : Literal) : Decidable (Refused tests value) :=
  inferInstanceAs (Decidable (∃ test ∈ tests, test.holds value))

/-- The name of the member of a value, in a class of some lines: the check refuses values, and
otherwise the first member counts whose literal equals the value. -/
def fromValue? (lines : List String) (value : Literal) : Option String := do
  let tests ← check? lines
  if Refused tests value then none
  else
    ((lines.filterMap member?).find? fun member => member.2.number = value.number).map Prod.fst

theorem not_refused_iff {kind : Scalar.Kind} {value : Literal} :
    ¬ Refused (refusal kind) value ↔ (kind = .bool ↔ ∃ truth, value = .bool truth) := by
  cases kind <;> cases value <;> simp [Refused, refusal, TypeTest.holds, ValueType.includes]

theorem not_refused_of_includes {kind : Scalar.Kind} {value : Literal}
    (included : kind.Includes value) : ¬ Refused (refusal kind) value := by
  rw [not_refused_iff]
  cases kind with
  | bool => exact ⟨fun _ => included, fun _ => rfl⟩
  | i32 | u32 =>
      obtain ⟨number, rfl, -⟩ := included
      simp

/-- Behind the check on the kind, equal literals are the same. -/
theorem eq_of_number_eq {kind : Scalar.Kind} {first second : Literal}
    (firstPasses : ¬ Refused (refusal kind) first) (secondPasses : ¬ Refused (refusal kind) second)
    (equal : first.number = second.number) : first = second := by
  rw [not_refused_iff] at firstPasses secondPasses
  cases first with
  | bool value =>
      cases second with
      | bool other => cases value <;> cases other <;> simp_all [Literal.number]
      | integer other => simp_all
  | integer value =>
      cases second with
      | bool other => simp_all
      | integer other => exact congrArg Literal.integer equal

namespace EnumClass

variable {enumClass : EnumClass}
  (identifiers : ∀ member ∈ enumClass.members, Text.isIdentifier member.1 = true)

include identifiers

/-- What the class answers is up to its kind and its members. -/
theorem fromValue?_lines (value : Literal) :
    fromValue? enumClass.lines value =
      if Refused (refusal enumClass.kind) value then none
      else
        (enumClass.members.find? fun member => member.2.number = value.number).map Prod.fst := by
  rw [fromValue?, check?_lines identifiers, filterMap_member?_lines identifiers]
  rfl

theorem getValue?_of_mem (namesDiffer : (enumClass.members.map Prod.fst).Nodup)
    {member : String × Literal} (inside : member ∈ enumClass.members) :
    getValue? enumClass.lines member.1 = some member.2 := by
  rw [getValue?, filterMap_member?_lines identifiers,
    Repetition.find?_of_nodup_map namesDiffer inside, Option.map_some]

theorem fromValue?_of_mem
    (unequal : (enumClass.members.map fun member => member.2.number).Nodup)
    {member : String × Literal} (inside : member ∈ enumClass.members)
    (passes : ¬ Refused (refusal enumClass.kind) member.2) :
    fromValue? enumClass.lines member.2 = some member.1 := by
  rw [fromValue?_lines identifiers, if_neg passes,
    Repetition.find?_of_nodup_map unequal inside, Option.map_some]

/-- A value that equals the literal of a member without being it does not pass the check. -/
theorem fromValue?_eq_none
    (passing : ∀ member ∈ enumClass.members, ¬ Refused (refusal enumClass.kind) member.2)
    {value : Literal} (undeclared : ∀ member ∈ enumClass.members, member.2 ≠ value) :
    fromValue? enumClass.lines value = none := by
  rw [fromValue?_lines identifiers]
  by_cases refused : Refused (refusal enumClass.kind) value
  · rw [if_pos refused]
  · have absent : ∀ member ∈ enumClass.members, ¬ member.2.number = value.number := by
      intro member inside equal
      exact undeclared member inside (eq_of_number_eq (passing member inside) refused equal)
    rw [if_neg refused, List.find?_eq_none.mpr (by simpa using absent), Option.map_none]

end EnumClass

/-- Every module that is generated from the declarations has the classes of all value enums. -/
theorem enumClass_lines_infix_of_ofResolved {module : ShaderVariants.Module}
    {resolved : List ResolvedDeclaration} {generated : Module}
    (emitted : ofResolved module resolved = .ok generated) {valueEnum : ValueEnum}
    (declared : valueEnum ∈ module.valueEnums) :
    (enumClass valueEnum).lines <:+: generated.lines := by
  unfold ofResolved at emitted
  cases answered : resolved.mapM (family module) with
  | error error =>
      rw [answered] at emitted
      cases emitted
  | ok families =>
      rw [answered] at emitted
      cases emitted
      exact Module.enumClass_lines_infix (List.mem_map_of_mem declared)

end Generated

/-! ## Cases and their values -/

/-- A class of some lines turns the cases of a value enum into their literals and back, and knows no
other values: all literals are of the declared kind, pass the check, and are pairwise unequal. -/
structure ValueEnum.InvertedBy (valueEnum : ValueEnum) (lines : List String) : Prop where
  kinds : ∀ case ∈ valueEnum.cases, case.value.kind = valueEnum.kind
  inRange : ∀ case ∈ valueEnum.cases, valueEnum.kind.Includes case.value.literal
  passing : ∃ tests, Generated.check? lines = some tests ∧
    ∀ case ∈ valueEnum.cases, ¬ Generated.Refused tests case.value.literal
  unequal : valueEnum.cases.Pairwise fun first second =>
    first.value.literal.number ≠ second.value.literal.number
  members : lines.filterMap Generated.member? =
    valueEnum.cases.map fun case => (case.name, case.value.literal)
  values : ∀ case ∈ valueEnum.cases,
    Generated.getValue? lines case.name = some case.value.literal
  found : ∀ case ∈ valueEnum.cases,
    Generated.fromValue? lines case.value.literal = some case.name
  others : ∀ value, (∀ case ∈ valueEnum.cases, case.value.literal ≠ value) →
    Generated.fromValue? lines value = none

theorem ValueEnum.WellFormed.invertedBy {valueEnum : ValueEnum} (rules : valueEnum.WellFormed)
    (kinds : ∀ case ∈ valueEnum.cases, case.value.kind = valueEnum.kind) :
    valueEnum.InvertedBy (Generated.enumClass valueEnum).lines := by
  let enumClass := Generated.enumClass valueEnum
  have members : enumClass.members =
      valueEnum.cases.map fun case => (case.name, case.value.literal) := rfl
  have listed {case : Case} (inside : case ∈ valueEnum.cases) :
      (case.name, case.value.literal) ∈ enumClass.members := List.mem_map_of_mem inside
  have identifiers := rules.isIdentifier_members
  have inRange : ∀ case ∈ valueEnum.cases, valueEnum.kind.Includes case.value.literal := by
    intro case inside
    rw [← kinds case inside]
    exact case.value.includes
  have passing : ∀ case ∈ valueEnum.cases,
      ¬ Generated.Refused (Generated.refusal valueEnum.kind) case.value.literal :=
    fun case inside => Generated.not_refused_of_includes (inRange case inside)
  have namesDiffer : (enumClass.members.map Prod.fst).Nodup := by
    rw [members, List.map_map]
    exact rules.caseNamesDiffer
  have numbersDiffer : (enumClass.members.map fun member => member.2.number).Nodup := by
    rw [members, List.map_map]
    exact rules.literalsDiffer
  refine ⟨kinds, inRange, ⟨_, ?check, passing⟩, ?unequal, ?members, ?values, ?found, ?others⟩
  case check => exact Generated.EnumClass.check?_lines identifiers
  case unequal =>
    have distinct := rules.literalsDiffer
    rwa [List.nodup_iff_pairwise_ne, List.pairwise_map] at distinct
  case members => exact Generated.EnumClass.filterMap_member?_lines identifiers
  case values =>
    intro case inside
    exact Generated.EnumClass.getValue?_of_mem identifiers namesDiffer (listed inside)
  case found =>
    intro case inside
    exact Generated.EnumClass.fromValue?_of_mem identifiers numbersDiffer (listed inside)
      (passing case inside)
  case others =>
    intro value undeclared
    exact Generated.EnumClass.fromValue?_eq_none identifiers (List.forall_mem_map.mpr passing)
      (List.forall_mem_map.mpr undeclared)

namespace Compiler

/-- A text with literals of several spellings. -/
def biasText : String := "value_enum Bias: i32 \x7bDown = -0x1_0, Even = 0, Up = 7i32\x7d"

/-- The value enum of this text in a file of its own. -/
def bias : ValueEnum where
  name := "Bias"
  alias? := none
  kind := .i32
  cases := [⟨"Down", ⟨.i32, .integer (-16), rfl⟩, some ⟨"s", 1, 23⟩⟩,
    ⟨"Even", ⟨.i32, .integer 0, rfl⟩, some ⟨"s", 1, 38⟩⟩,
    ⟨"Up", ⟨.i32, .integer 7, rfl⟩, some ⟨"s", 1, 48⟩⟩]
  isPublic := false
  location := some ⟨"s", 1, 1⟩

end Compiler

end ShaderVariants
