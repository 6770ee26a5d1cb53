import ShaderVariants.Text.Identifier
import ShaderVariants.Text.NormalForm

/-!
# Usable names

Declared names become names of the generated Python module. A name is usable there if it is an
identifier that reading the module leaves as it is, no keyword, and not marked as private by an
underscore in front. The generated module also needs some names for itself.
-/

namespace ShaderVariants.Name

/-- Words that Python reserves. -/
def keywords : List String := [
    "False", "None", "True", "and", "as", "assert", "async", "await", "break", "class", "continue",
    "def", "del", "elif", "else", "except", "finally", "for", "from", "global", "if", "import",
    "in", "is", "lambda", "nonlocal", "not", "or", "pass", "raise", "return", "try", "while",
    "with", "yield"]

/-- Names that the generated module imports, and the public built-in names, on which its own
statements rely. -/
def reserved : List String := [
    "ArithmeticError", "AssertionError", "AttributeError", "BaseException", "BaseExceptionGroup",
    "BlockingIOError", "BrokenPipeError", "BufferError", "BytesWarning", "ChildProcessError",
    "ConnectionAbortedError", "ConnectionError", "ConnectionRefusedError", "ConnectionResetError",
    "DeprecationWarning", "EOFError", "Ellipsis", "EncodingWarning", "EnvironmentError",
    "Exception", "ExceptionGroup", "False", "FileExistsError", "FileNotFoundError",
    "FloatingPointError", "FutureWarning", "GeneratorExit", "IOError", "ImportError",
    "ImportWarning", "IndentationError", "IndexError", "InterruptedError", "IsADirectoryError",
    "KeyError", "KeyboardInterrupt", "LookupError", "MemoryError", "ModuleNotFoundError",
    "NameError", "None", "NotADirectoryError", "NotImplemented", "NotImplementedError", "OSError",
    "OverflowError", "PendingDeprecationWarning", "PermissionError", "ProcessLookupError",
    "RecursionError", "ReferenceError", "ResourceWarning", "RuntimeError", "RuntimeWarning",
    "StopAsyncIteration", "StopIteration", "SyntaxError", "SyntaxWarning", "SystemError",
    "SystemExit", "TabError", "TimeoutError", "True", "TypeError", "UnboundLocalError",
    "UnicodeDecodeError", "UnicodeEncodeError", "UnicodeError", "UnicodeTranslateError",
    "UnicodeWarning", "UserWarning", "ValueError", "Warning", "ZeroDivisionError", "abs", "aiter",
    "all", "anext", "annotations", "any", "ascii", "bin", "bool", "breakpoint", "bytearray",
    "bytes", "callable", "chr", "classmethod", "compile", "complex", "copyright", "credits",
    "dataclasses", "delattr", "dict", "dir", "divmod", "enum", "enumerate", "eval", "exec", "exit",
    "filter", "float", "format", "frozenset", "functools", "getattr", "globals", "hasattr", "hash",
    "help", "hex", "id", "input", "int", "isinstance", "issubclass", "iter", "len", "license",
    "list", "locals", "map", "max", "memoryview", "min", "next", "object", "oct", "open", "ord",
    "pow", "print", "property", "quit", "range", "repr", "reversed", "round", "set", "setattr",
    "slice", "sorted", "staticmethod", "str", "sum", "super", "tuple", "type", "vars", "zip"]

/-- Why a name cannot be used in the generated module. -/
inductive Problem where
  | notIdentifier
  | notNormal
  | keyword
  | underscore
  deriving DecidableEq, Repr

def Problem.message (name : String) : Problem → String
  | .notIdentifier => s!"'{name}' is not a valid Python identifier"
  | .notNormal => s!"'{name}' is not NFKC-normalized and would be renamed by Python"
  | .keyword => s!"'{name}' is a Python keyword"
  | .underscore => s!"'{name}' starts with an underscore"

/-- The first problem of a name, if it has one. -/
def problem? (name : String) : Option Problem :=
  if !Text.isIdentifier name then some .notIdentifier
  else if !Text.isNormal name then some .notNormal
  else if name ∈ keywords then some .keyword
  else if name.toList.head? = some '_' then some .underscore
  else none

/-- The generated module can use the name. -/
def Usable (name : String) : Prop := problem? name = none

instance (name : String) : Decidable (Usable name) := inferInstanceAs (Decidable (_ = _))

end ShaderVariants.Name
