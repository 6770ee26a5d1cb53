import ShaderVariants.Generated.Emission
import ShaderVariants.Module.Parser
import ShaderVariants.Preprocessor.Bridge
import ShaderVariants.Resource

/-!
# Compilation

From a declaration text to the generated module: the text is parsed and validated; then, one
declaration after the other, the template is read and every case is preprocessed; at last the
module is emitted. The first error ends it, and no part of a module comes out. What has been
logged and what the preprocessor was given stays known in any case.
-/

namespace ShaderVariants

/-- How much a log entry matters. -/
inductive LogLevel where
  | debug
  | info
  | warning
  deriving DecidableEq, Repr

/-- Something worth telling about a compilation. -/
structure LogEntry where
  level : LogLevel
  message : String
  deriving DecidableEq, Repr

/-- What has happened so far: the log, and the definitions of each call of the preprocessor. -/
structure Trace where
  log : List LogEntry
  calls : List Definitions

namespace Trace

/-- Nothing has happened. -/
def empty : Trace := ⟨[], []⟩

/-- One more log entry. -/
def tell (trace : Trace) (level : LogLevel) (message : String) : Trace :=
  { trace with log := trace.log ++ [⟨level, message⟩] }

/-- One more call of the preprocessor. -/
def call (trace : Trace) (definitions : Definitions) : Trace :=
  { trace with calls := trace.calls ++ [definitions] }

end Trace

/-- Why a compilation ends without a module. -/
inductive CompileError where
  | parse (error : ParseError)
  | oversizedNumeral (digits : Nat)
  | invalid (issues : List Issue)
  | resource (error : ResourceError)
  | nulInPath
  | preprocessing (error : PreprocessingError)
  | notBegun
  | unresolved (error : UnresolvedReference)
  | mismatched (mismatch : Combination.Mismatch)
  | emission (error : EmissionError)
  deriving DecidableEq

namespace CompileError

def ofEnumeration : EnumerationError → CompileError
  | .unresolved error => unresolved error
  | .mismatched mismatch => mismatched mismatch

def ofRefusal (file : Path) (text : String) : Refusal → CompileError
  | .fault fault => parse (fault.report file (some text))
  | .oversizedNumeral digits => oversizedNumeral digits

/-- The kind of error that messages name in front of its words, if it is one that a declaration
text or a template can be the cause of. The others have no name for users. -/
def kindName? : CompileError → Option String
  | parse _ => some "ParseError"
  | invalid _ => some "ValidationError"
  | resource _ => some "ResourceError"
  | preprocessing _ => some "PreprocessingError"
  | emission (.unresolved _) => none
  | emission _ => some "CodegenError"
  | oversizedNumeral _ => none
  | nulInPath => none
  | notBegun => none
  | unresolved _ => none
  | mismatched _ => none

def message : CompileError → String
  | parse error => error.message
  | oversizedNumeral digits => Decimal.oversizedNumeralMessage digits
  | invalid issues => Issue.summary issues
  | resource error => error.message
  | nulInPath => "embedded null byte"
  | preprocessing error => error.message
  | notBegun => Bridge.notBegunMessage
  | unresolved error => error.message
  | mismatched mismatch => mismatch.message
  | emission error => error.message

end CompileError

/-- A computation that may end in an error and keeps its trace either way. -/
abbrev Compiler (m : Type → Type) := ExceptT CompileError (StateT Trace m)

namespace Compiler

variable {m : Type → Type} [Monad m]

def tell (level : LogLevel) (message : String) : Compiler m Unit :=
  modify fun trace => trace.tell level message

/-- Preprocesses one case on a bridge and returns its source with the bridge after it. -/
def processCase (bridge : BridgeIn m) (variant : String) (selections : List Selection)
    (overrides : Definitions) (index : Option Nat) :
    Compiler m (ResolvedCase × BridgeIn m) := do
  let (answer, bridge) ← (bridge.process overrides (index.map Int.ofNat) : m _)
  match answer with
  | .ok source =>
    modify fun trace => trace.call bridge.definitions
    let suffix := (index.map fun index => s!" #{index}").getD ""
    tell .debug s!"Preprocessed {bridge.declaration}::{variant}{suffix}"
    return (⟨variant, selections, source⟩, bridge)
  | .error (.failed error) =>
    modify fun trace => trace.call bridge.definitions
    throw (.preprocessing error)
  | .error .notBegun => throw .notBegun

/-- The combination of a numbered row of digits. -/
def combinationOf (valueEnums : List ValueEnum) (row : List Nat × Nat) :
    Compiler m Combination :=
  match Combination.ofRow valueEnums row with
  | .ok combination => return combination
  | .error mismatch => throw (.mismatched mismatch)

/-- Preprocesses the combinations of a cross product one after the other. -/
def processCombinations (variant : String) (valueEnums : List ValueEnum) :
    BridgeIn m → List (List Nat × Nat) → Compiler m (List ResolvedCase)
  | _, [] => return []
  | bridge, row :: rows => do
    let combination ← combinationOf valueEnums row
    let (case, bridge) ← processCase bridge variant combination.selections combination.overrides
      (some combination.index)
    return case :: (← processCombinations variant valueEnums bridge rows)

/-- Preprocesses all cases of a variant, on a bridge where it has not begun yet. -/
def processVariant (module : Module) (bridge : BridgeIn m) (variant : Variant) :
    Compiler m (List ResolvedCase) := do
  let bridge := bridge.beginVariant variant.name
  match variant.body with
  | .hardcoded definitions =>
    let (case, _) ← processCase bridge variant.name [] (Definition.toMap definitions) none
    return [case]
  | .crossProduct references =>
    match module.resolve variant.name references with
    | .error error => throw (.unresolved error)
    | .ok valueEnums =>
      processCombinations variant.name valueEnums bridge (Combination.rows valueEnums)

/-- Preprocesses all cases of a declaration. -/
def resolveDeclaration (module : Module) (declaration : VariantsDeclaration) (template : String)
    (preprocessor : PreprocessorIn m) : Compiler m ResolvedDeclaration := do
  let bridge :=
    BridgeIn.make preprocessor template declaration.name declaration.sharedDefinitions
  let cases ← declaration.variants.mapM (processVariant module bridge)
  return ⟨declaration, template, cases.flatten⟩

def readFile (read : TextReader m) (role : String) (path : Path) : Compiler m String := do
  let answer ← (read path : m (Except ReadError String))
  match Loaded.ofRead role path answer with
  | .text content => return content
  | .failed error => throw (.resource error)
  | .nulInPath => throw .nulInPath

/-- Reads the template of a declaration and preprocesses all its cases. -/
def compileDeclaration (read : TextReader m) (baseDirectory : Path)
    (preprocessor : PreprocessorIn m) (module : Module) (declaration : VariantsDeclaration) :
    Compiler m ResolvedDeclaration := do
  let path := baseDirectory ++ Path.ofString declaration.templatePath
  let template ← readFile read "template" path
  let resolved ← resolveDeclaration module declaration template preprocessor
  let count := resolved.cases.length
  tell .info s!"Generated {declaration.name} from {declaration.templatePath} ({count} cases)"
  return resolved

/-- The text generated from a module that has been validated. -/
def compileModule (read : TextReader m) (baseDirectory : Path)
    (preprocessor : PreprocessorIn m) (module : Module) : Compiler m String := do
  let resolved ← module.declarations.mapM
    (compileDeclaration read baseDirectory preprocessor module)
  match Generated.ofResolved module resolved with
  | .ok generated => return generated.text
  | .error error => throw (.emission error)

/-- Validates a module: warnings are logged, issues are an error. -/
def validate (module : Module) : Compiler m Unit := do
  for warning in module.warnings do
    tell .warning warning
  if module.issues ≠ [] then throw (.invalid module.issues)

def loadModule (file : Path) (text : String) : Compiler m Module := do
  match Module.ofText file text with
  | .error refusal => throw (.ofRefusal file text refusal)
  | .ok module =>
    validate module
    return module

def compileText (read : TextReader m) (baseDirectory : Path) (preprocessor : PreprocessorIn m)
    (file : Path) (text : String) : Compiler m String := do
  compileModule read baseDirectory preprocessor (← loadModule file text)

def readDeclarations (read : TextReader m) (path : Path) : Compiler m String :=
  readFile read "declaration file" path

def compileFile (read : TextReader m) (baseDirectory : Path) (preprocessor : PreprocessorIn m)
    (path : Path) : Compiler m String := do
  compileText read baseDirectory preprocessor path (← readDeclarations read path)

end Compiler

end ShaderVariants
