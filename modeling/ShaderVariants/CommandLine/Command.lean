import ShaderVariants.CommandLine.Arguments
import ShaderVariants.Path

/-!
# Commands

What a user may ask for on the command line: the version, a build of all targets of a manifest,
one generated module, a check of one declaration file, or a list of its cases.
-/

namespace ShaderVariants.CommandLine

/-- What a user asks for. -/
inductive Command where
  | version
  | build (manifest : Path)
  | generate (source : Path) (output baseDirectory : Option Path)
  | check (source : Path)
  | cases (source : Path)
  deriving DecidableEq, Repr

/-- The manifest that is built unless another one is given. -/
def defaultManifest : String := "wgsl_variants.toml"

/-- Options in front of the name of a command. -/
def generalOptions : List OptionForm :=
  [⟨"verbose", none, false⟩, ⟨"version", some 'V', false⟩]

def buildOptions : List OptionForm := [⟨"manifest", some 'm', true⟩]

/-- Options of the generation of one module. -/
def generateOptions : List OptionForm :=
  [⟨"output", some 'o', true⟩, ⟨"base-dir", some 'b', true⟩]

namespace Command

def path? (arguments : Arguments) (name : String) : Option Path :=
  (arguments.value? name).map Path.ofString

def withPath? (forms : List OptionForm) (arguments : List String) : Option (Path × Arguments) := do
  let arguments ← readArguments forms true arguments
  match arguments.others with
  | [source] => return (Path.ofString source, arguments)
  | _ => failure

def ofName? (name : String) (arguments : List String) : Option Command :=
  match name with
  | "build" => do
    let arguments ← readArguments buildOptions true arguments
    if !arguments.others.isEmpty then failure
    return build ((path? arguments "manifest").getD (Path.ofString defaultManifest))
  | "generate" => do
    let (source, arguments) ← withPath? generateOptions arguments
    return generate source (path? arguments "output") (path? arguments "base-dir")
  | "check" => do
    let (source, _) ← withPath? [] arguments
    return check source
  | "cases" => do
    let (source, _) ← withPath? [] arguments
    return cases source
  | _ => none

/-- The command that arguments ask for, if they ask for one. The version goes before everything
else. -/
def ofArguments? (arguments : List String) : Option Command := do
  let general ← readArguments generalOptions false arguments
  if general.has "version" then return version
  match general.others with
  | [] => failure
  | name :: rest => ofName? name rest

end Command

end ShaderVariants.CommandLine
