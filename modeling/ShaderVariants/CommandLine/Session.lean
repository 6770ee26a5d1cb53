import ShaderVariants.CommandLine.Command
import ShaderVariants.CommandLine.Console
import ShaderVariants.Compilation
import ShaderVariants.Manifest
import ShaderVariants.Module.Listing

/-!
# Running commands

A command reads and writes files, prints, and may end in an error. A build writes nothing before
all of its targets are compiled, so that an error among them leaves all files as they were.

Files are reached through a `FileAccess` in any monad: that of a `FileTree`, or that of the
system. Templates are expanded and texts for people printed by whatever `Tools` are at hand.
-/

namespace ShaderVariants.CommandLine

/-- Ways to read and write files, and the directory that relative paths start from. -/
structure FileAccess (m : Type → Type) where
  workingDirectory : Path
  read : TextReader m
  makeDirectories : Path → m (Except FileError Unit)
  write : Path → String → m (Except FileError Unit)

/-- Why a command ends early. -/
inductive CommandError where
  | compile (error : CompileError)
  | manifest (error : ManifestError)
  | file (error : FileError) (path : Path)
  | nulInPath
  | console (failure : Failure)
  deriving DecidableEq

namespace CommandError

/-- The kind of error that messages name, if it is one to report. Others are failures. -/
def kindName? : CommandError → Option String
  | compile error => error.kindName?
  | manifest (.resource _) => some "ResourceError"
  | manifest _ => none
  | file _ _ => none
  | nulInPath => none
  | console _ => none

def message : CommandError → String
  | compile error => error.message
  | manifest error => error.message
  | file error path => error.message path
  | nulInPath => "embedded null byte"
  | console failure => failure.message

end CommandError

/-- What a command leaves behind beside files: its exit code, what it printed, what it reported,
and the failure that ended it, if one did. -/
structure Outcome where
  exitCode : Nat
  output : String
  report : String
  failure : Option CommandError
  deriving DecidableEq

/-- A computation that prints, and may end in an error. -/
abbrev Session (m : Type → Type) := ExceptT CommandError (StateT String m)

def versionLine : String := "wgsl-variants 0.1.0"

/-- How to call the program. -/
def usage : String := "Usage: wgsl-variants [--version] [--verbose] build|generate|check|cases ..."

namespace Session

variable {m : Type → Type} [Monad m]

def print (text : String) : Session m Unit := modify (· ++ text)

def printLine (line : String) : Session m Unit := print (line ++ "\n")

/-- Prints what a console has made of something, or stops if it refuses. -/
def printShown : Except Failure String → Session m Unit
  | .ok text => print text
  | .error failure => throw (.console failure)

/-- A step of a compilation, of which only the result counts here. -/
def ofCompiler {α : Type} (work : Compiler m α) : Session m α := do
  let (result, _) ← (work.run Trace.empty : m (Except CompileError α × Trace))
  match result with
  | .ok value => return value
  | .error error => throw (.compile error)

/-- Stops if a file operation is refused. -/
def ofFile (path : Path) (work : m (Except FileError Unit)) : Session m Unit := do
  if path.hasNul then throw .nulInPath
  match ← (work : m (Except FileError Unit)) with
  | .ok () => return ()
  | .error error => throw (.file error path)

def loadManifest (files : FileAccess m) (path : Path) : Session m Manifest := do
  match ← (Manifest.load files.read path : m (Except ManifestError Manifest)) with
  | .ok manifest => return manifest
  | .error error => throw (.manifest error)

def compileTarget (files : FileAccess m) (tools : Tools m) (manifest : Manifest)
    (target : Manifest.Target) : Session m (Path × String) := do
  let preprocessor := tools.engine.preprocessor manifest.templateSettings
  let source ← ofCompiler
    (Compiler.compileFile files.read manifest.baseDirectory preprocessor target.source)
  return (target.output, source)

/-- Writes a generated module, and says so. Tags in its path count like all others. -/
def writeOutput (files : FileAccess m) (tools : Tools m) (path : Path) (source : String) :
    Session m Unit := do
  let directory := path.parent
  ofFile directory (files.makeDirectories directory)
  ofFile path (files.write path source)
  printShown (tools.console.text s!"[green]✓[/green] Generated {path}")

/-- Compiles all targets of a manifest, and then writes what has been generated. -/
def build (files : FileAccess m) (tools : Tools m) (path : Path) : Session m Unit := do
  let manifest ← loadManifest files path
  let outputs ← manifest.targets.mapM (compileTarget files tools manifest)
  outputs.forM fun (path, source) => writeOutput files tools path source
  if outputs.isEmpty then printLine "No [[generate]] targets in manifest"

/-- Compiles one declaration file, and prints or writes what has been generated. -/
def generate (files : FileAccess m) (tools : Tools m) (source : Path)
    (output baseDirectory : Option Path) : Session m Unit := do
  let base := baseDirectory.getD files.workingDirectory
  let preprocessor := tools.engine.preprocessor .default
  let generated ← ofCompiler (Compiler.compileFile files.read base preprocessor source)
  match output with
  | none => print generated
  | some path => writeOutput files tools path generated

def load (files : FileAccess m) (source : Path) : Session m Module :=
  ofCompiler do
    let text ← Compiler.readDeclarations files.read source
    Compiler.loadModule source text

def enumerated {α : Type} : Except EnumerationError α → Session m α
  | .ok value => return value
  | .error error => throw (.compile (.ofEnumeration error))

/-- Prints the table of declarations of a declaration file, in which tags count too. -/
def check (files : FileAccess m) (tools : Tools m) (source : Path) : Session m Unit := do
  let module ← load files source
  let table ← enumerated ((module.summary source.toString).mapError .unresolved)
  printShown (tools.console.table table)
  printShown (tools.console.text "[green]✓[/green] Declarations are valid")

def cases (files : FileAccess m) (source : Path) : Session m Unit := do
  let module ← load files source
  module.declarations.forM fun declaration => do
    (← enumerated (module.caseLines declaration)).forM printLine

def ofCommand (files : FileAccess m) (tools : Tools m) : Command → Session m Unit
  | .version => printLine versionLine
  | .build manifest => build files tools manifest
  | .generate source output baseDirectory => generate files tools source output baseDirectory
  | .check source => check files tools source
  | .cases source => cases files source

end Session

namespace Outcome

def ofResult : Except CommandError Unit × String → Outcome
  | (.ok (), output) => ⟨0, output, "", none⟩
  | (.error error, output) =>
    match error.kindName? with
    | some kind => ⟨1, output, s!"{kind}: {error.message}\n", none⟩
    | none => ⟨1, output, "", some error⟩

/-- The outcome for arguments that ask for nothing the program can do. -/
def ofUsageError : Outcome := ⟨2, "", usage ++ "\n", none⟩

end Outcome

def run {m : Type → Type} [Monad m] (files : FileAccess m) (tools : Tools m) (command : Command) :
    m Outcome := do
  return Outcome.ofResult (← (Session.ofCommand files tools command).run.run "")

def runArguments {m : Type → Type} [Monad m] (files : FileAccess m) (tools : Tools m)
    (arguments : List String) : m Outcome :=
  match Command.ofArguments? arguments with
  | some command => run files tools command
  | none => return Outcome.ofUsageError

end ShaderVariants.CommandLine
