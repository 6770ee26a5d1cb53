import ShaderVariants.Scalar.Basic
import ShaderVariants.Text.Quoted

/-!
# Generated modules

The Python module that is generated from a declaration module, as a structure of classes and
tables, and its text. Each value enum becomes an enum class. Each variants declaration becomes a
base class, one frozen dataclass per variant, and a table that holds the preprocessed source of
every case.
-/

namespace ShaderVariants.Generated

open Text.Quoted (encode)

/-- The class of a value enum. -/
structure EnumClass where
  name : String
  declaredName : String
  kind : Scalar.Kind
  declaredAt : Option String
  members : List (String × Literal)
  deriving DecidableEq

/-- The class of one variant: the fields are the names and classes of its selections. -/
structure CaseClass where
  variant : String
  name : String
  fields : List (String × String)
  deriving DecidableEq

/-- An expression for a case: its class, and a member of an enum class for each field. -/
structure CaseKey where
  className : String
  arguments : List String
  deriving DecidableEq

/-- The classes and tables of one variants declaration. -/
structure Family where
  name : String
  templatePath : String
  declaredAt : Option String
  caseClasses : List CaseClass
  template : String
  sources : List (CaseKey × String)
  deriving DecidableEq

/-- A generated module. -/
structure Module where
  sourceName : String
  exports : List String
  enumClasses : List EnumClass
  families : List Family
  deriving DecidableEq

/-- How a docstring says where something was declared. -/
def declaredAtText : Option String → String
  | some anchor => s!", declared at {anchor}"
  | none => ""

namespace EnumClass

/-- What `from_value` refuses before it looks for a member. -/
def kindCheck : Scalar.Kind → String
  | .bool => "not isinstance(value, bool)"
  | _ => "isinstance(value, bool) or not isinstance(value, int)"

/-- The docstring. -/
def summary (enumClass : EnumClass) : String :=
  s!"Value enum {enumClass.declaredName} ({enumClass.kind.name})"
    ++ declaredAtText enumClass.declaredAt ++ "."

/-- One member per line. -/
def memberLines (enumClass : EnumClass) : List String :=
  enumClass.members.map fun (name, literal) => s!"    {name} = {literal.written}"

def lines (enumClass : EnumClass) : List String :=
  let name := enumClass.name
  let annotation := enumClass.kind.annotation
  let mismatch := s!"ValueError(f\"no matching case of {name} for \x7bvalue!r\x7d\")"
  ["@functools.total_ordering",
    s!"class {name}(enum.Enum):",
    s!"    \"\"\"{enumClass.summary}\"\"\"",
    ""]
  ++ enumClass.memberLines ++
  ["",
    s!"    def get_value(self) -> {annotation}:",
    "        return self.value",
    "",
    "    @classmethod",
    s!"    def from_value(cls, value: {annotation}) -> {name}:",
    s!"        if {kindCheck enumClass.kind}:",
    s!"            raise {mismatch}",
    "        try:",
    "            return cls(value)",
    "        except ValueError:",
    s!"            raise {mismatch} from None",
    "",
    "    @classmethod",
    s!"    def cases(cls) -> tuple[{name}, ...]:",
    "        return tuple(cls)",
    "",
    "    def __lt__(self, other: object) -> bool:",
    "        if self.__class__ is not other.__class__:",
    "            return NotImplemented",
    "        cases = self.cases()",
    "        return cases.index(self) < cases.index(other)"]

end EnumClass

namespace CaseKey

/-- The expression. -/
def text (key : CaseKey) : String :=
  key.className ++ "(" ++ String.intercalate ", " key.arguments ++ ")"

end CaseKey

namespace CaseClass

/-- The lines of the class: its fields, or a docstring when there are none. -/
def lines (caseClass : CaseClass) (family : String) : List String :=
  ["@dataclasses.dataclass(frozen=True)", s!"class {caseClass.name}({family}):"] ++
    if caseClass.fields.isEmpty then [s!"    \"\"\"{family}::{caseClass.variant}\"\"\""]
    else caseClass.fields.map fun (field, className) => s!"    {field}: {className}"

end CaseClass

namespace Family

def sourcesName (family : Family) : String := s!"_SOURCES_{family.name}"

/-- Name of the template's text. -/
def rawName (family : Family) : String := s!"_RAW_{family.name}"

/-- Name of the table of positions. -/
def orderName (family : Family) : String := s!"_ORDER_{family.name}"

/-- The docstring of the base class. -/
def summary (family : Family) : String :=
  s!"Shader variants of {encode family.templatePath}" ++ declaredAtText family.declaredAt ++ "."

def baseLines (family : Family) : List String :=
  let name := family.name
  ["@functools.total_ordering",
    s!"class {name}:",
    s!"    \"\"\"{family.summary}\"\"\"",
    "",
    s!"    TEMPLATE_PATH = {encode family.templatePath}",
    "",
    "    def get_shader(self) -> str:",
    s!"        return {family.sourcesName}[self]",
    "",
    "    @staticmethod",
    "    def get_raw_shader() -> str:",
    s!"        return {family.rawName}",
    "",
    "    @staticmethod",
    s!"    def cases() -> tuple[{name}, ...]:",
    s!"        return tuple({family.sourcesName})",
    "",
    "    def __lt__(self, other: object) -> bool:",
    s!"        if not isinstance(other, {name}):",
    "            return NotImplemented",
    s!"        return {family.orderName}[self] < {family.orderName}[other]"]

/-- The lines that make each variant's class a member of the base class. -/
def memberLines (family : Family) : List String :=
  family.caseClasses.map fun caseClass =>
    s!"{family.name}.{caseClass.variant} = {caseClass.name}"

/-- The lines of the table of sources, one per case. -/
def tableLines (family : Family) : List String :=
  family.sources.map fun (key, source) => s!"    {key.text}: {encode source},"

def lines (family : Family) : List String :=
  family.baseLines
    ++ family.caseClasses.flatMap (fun caseClass => "" :: "" :: caseClass.lines family.name)
    ++ ["", ""]
    ++ family.memberLines
    ++ (if family.caseClasses.isEmpty then [] else [""])
    ++ [s!"{family.rawName} = {encode family.template}",
      "",
      s!"{family.sourcesName}: dict[{family.name}, str] = \x7b"]
    ++ family.tableLines
    ++ ["\x7d",
      s!"{family.orderName} = \x7bcase: index for index, case in "
        ++ s!"enumerate({family.sourcesName})\x7d"]

end Family

namespace Module

/-- The lines in front of all classes. -/
def headerLines (module : Module) : List String :=
  ["\"\"\"",
    s!"Shader variants generated from {module.sourceName}.",
    "Generated by wgsl-variants - DO NOT EDIT.",
    "\"\"\"",
    "",
    "from __future__ import annotations",
    "",
    "import dataclasses",
    "import enum",
    "import functools"]

def exportLines (module : Module) : List String :=
  ["__all__ = ["] ++ module.exports.map (fun name => s!"    {encode name},") ++ ["]"]

/-- The sections of the module, each a list of lines. -/
def sections (module : Module) : List (List String) :=
  [module.headerLines, module.exportLines]
    ++ module.enumClasses.map EnumClass.lines ++ module.families.map Family.lines

/-- The text of the module. Two empty lines stand between sections. -/
def text (module : Module) : String :=
  String.intercalate "\n\n\n" (module.sections.map (String.intercalate "\n")) ++ "\n"

end Module

end ShaderVariants.Generated
