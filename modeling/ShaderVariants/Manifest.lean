import ShaderVariants.Resource
import ShaderVariants.Template.Engine
import ShaderVariants.Toml.Document

/-!
# Manifests

A manifest names a project, the directory that template paths start from, how templates are read,
and the files to compile with the files to generate. Its paths start from the directory it lies
in. Nobody checks the types of its values beyond what is needed to get at the paths, so the name
and the template settings may be any data.
-/

namespace ShaderVariants

/-- A declaration file to compile, and the file to write the generated module into. -/
structure Manifest.Target where
  source : Path
  output : Path
  deriving DecidableEq, Repr

/-- A manifest. -/
structure Manifest where
  name : Datum
  baseDirectory : Path
  targets : List Manifest.Target
  templateSettings : Template.Engine.Settings

/-- Why there is no manifest: its file cannot be used, no system takes its path, a numeral of it
is too long, a part of it that has to be a table is none, its targets are no list, a target is no
table, or a path is no text. -/
inductive ManifestError where
  | resource (error : ResourceError)
  | nulInPath
  | tooManyDigits (count : Nat)
  | notTable (part : String)
  | notList
  | targetNotTable (index : Nat)
  | pathNotText
  deriving DecidableEq, Repr

def ManifestError.message : ManifestError → String
  | resource error => error.message
  | nulInPath => "embedded null byte"
  | tooManyDigits count => (Toml.Problem.tooManyDigits count).message
  | notTable part => s!"'{part}' must be a table"
  | notList => "'generate' must be a list of tables"
  | targetNotTable index => s!"generate entry #{index} must be a table"
  | pathNotText => "a path must be a text"

namespace Manifest

/-- What messages call a manifest. -/
def role : String := "manifest"

def valueOf (table : Toml.Table) (key : String) (default : Datum) : Datum :=
  (table.lookup key).getD default

/-- A part of the manifest that has to be a table if it is there. -/
def partOf (table : Toml.Table) (key : String) : Except ManifestError Toml.Table :=
  match (valueOf table key (.table [])).entries? with
  | some entries => .ok entries
  | none => .error (.notTable key)

/-- A path that the manifest gives, seen from the directory it lies in. -/
def pathOf (root : Path) (datum : Datum) : Except ManifestError Path :=
  match datum.text? with
  | some text => .ok (root ++ Path.ofString text)
  | none => .error .pathNotText

/-- How templates are to be read. A mark that counts as false is none. -/
def templateSettingsOf (part : Toml.Table) : Template.Engine.Settings :=
  let lineMark := valueOf part "line_statement_prefix" (.text "#")
  { lineMark := if lineMark.isTrue then some lineMark else none
    trimBlocks := valueOf part "trim_blocks" (.bool false)
    stripIndentation := valueOf part "lstrip_blocks" (.bool false) }

/-- What stands for targets: the items of a list, but also the keys of a table or the characters
of a text. -/
def targetData : Datum → Except ManifestError (List Datum)
  | .list items => .ok items
  | .table entries => .ok (entries.map fun entry => .text entry.1)
  | .text value => .ok (value.toList.map fun c => .text (String.singleton c))
  | _ => .error .notList

/-- Whether data contain a key: as a key of a table, as an item of a list, or as a part of a
text. Other data cannot be asked. -/
def mentions? (key : String) : Datum → Option Bool
  | .table entries => some (entries.lookup key).isSome
  | .list items => some (items.any fun item => item.text? == some key)
  | .text value => some (Toml.splitAtText? key.toList value.toList).isSome
  | _ => none

def targetKeys : List String := ["source", "output"]

/-- Those of the keys that data do not contain. -/
def missingOf (index : Nat) (datum : Datum) : Except ManifestError (List String) :=
  targetKeys.filterM fun key =>
    match mentions? key datum with
    | some found => .ok (!found)
    | none => .error (.targetNotTable index)

/-- The target that data describe. -/
def targetOf (path : Path) (index : Nat) (datum : Datum) : Except ManifestError Target := do
  let missing ← missingOf index datum
  if missing ≠ [] then throw (.resource ⟨.incompleteTarget role index missing, path⟩)
  match datum.entries? with
  | none => throw (.targetNotTable index)
  | some entries =>
    let source ← pathOf path.parent (valueOf entries "source" .none)
    let output ← pathOf path.parent (valueOf entries "output" .none)
    return ⟨source, output⟩

/-- The targets that data describe one after the other. -/
def targetsOf (path : Path) (datum : Datum) : Except ManifestError (List Target) := do
  (← targetData datum).zipIdx.mapM fun (datum, index) => targetOf path index datum

/-- The manifest that a table describes, for a file at the given path. -/
def ofTable (path : Path) (table : Toml.Table) : Except ManifestError Manifest := do
  let templateSettings := templateSettingsOf (← partOf table "preprocessor")
  let targets ← targetsOf path (valueOf table "generate" (.list []))
  let project ← partOf table "project"
  let baseDirectory ← pathOf path.parent (valueOf project "base_dir" (.text "."))
  return ⟨valueOf project "name" (.text "unnamed"), baseDirectory, targets, templateSettings⟩

def ofText (path : Path) (text : String) : Except ManifestError Manifest :=
  let document := text.toList
  match Toml.ofText document with
  | .ok table => ofTable path table
  | .error ⟨.tooManyDigits count, _⟩ => .error (.tooManyDigits count)
  | .error fault => .error (.resource ⟨.malformed role (fault.message document), path⟩)

/-- The manifest of what came of reading its file. -/
def ofLoaded (path : Path) : Loaded → Except ManifestError Manifest
  | .text content => ofText path content
  | .failed error => .error (.resource error)
  | .nulInPath => .error .nulInPath

/-- Reads a manifest file. -/
def load {m : Type → Type} [Monad m] (read : TextReader m) (path : Path) :
    m (Except ManifestError Manifest) := do
  return ofLoaded path (Loaded.ofRead role path (← read path))

end Manifest

end ShaderVariants
