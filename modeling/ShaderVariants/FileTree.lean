import ShaderVariants.Path
import ShaderVariants.Text.Lines
import ShaderVariants.Text.Utf8

/-!
# A tree of files

An in-memory tree of files and directories, from the root on, with a working directory in it. A path
is followed name by name: every name but the last one must lead to a directory that may be passed,
two dots lead back, and links lead elsewhere. A file may have further names.
-/

namespace ShaderVariants

/-- Why a file operation is refused. -/
inductive FileError where
  | notFound
  | denied
  | exists
  | notDirectory
  | isDirectory
  | linkLoop
  deriving DecidableEq, Repr

namespace FileError

/-- The number and the words for a refusal. -/
def description : FileError → String
  | .notFound => "[Errno 2] No such file or directory"
  | .denied => "[Errno 13] Permission denied"
  | .exists => "[Errno 17] File exists"
  | .notDirectory => "[Errno 20] Not a directory"
  | .isDirectory => "[Errno 21] Is a directory"
  | .linkLoop => "[Errno 40] Too many levels of symbolic links"

/-- The refusal together with the path it concerns. -/
def message (error : FileError) (path : Path) : String :=
  s!"{error.description}: {Text.Quoted.encode path.toString}"

end FileError

/-- Why no text comes out of a file. -/
inductive ReadError where
  | refused (error : FileError)
  | undecodable (error : Text.Utf8.DecodeError)
  | nulInPath
  deriving DecidableEq, Repr

def Path.hasNul (path : Path) : Bool := path.names.any fun name => name.toList.any (· == '\x00')

/-- The text that the bytes of a file hold: UTF-8, with line ends unified. -/
def textOfBytes (bytes : ByteArray) : Except ReadError String :=
  match Text.Utf8.decode bytes.data.toList with
  | .ok cs => .ok (String.ofList (Text.unifyNewlines cs))
  | .error error => .error (.undecodable error)

/-- What may be done with a file or a directory: reading it, writing into it, and passing through
it. -/
structure FileTree.Permissions where
  read : Bool := true
  write : Bool := true
  pass : Bool := true
  deriving DecidableEq, Repr

/-- What stands at a place of the tree: a file, a directory, a link to a path, or a further name of
the file at another place. -/
inductive FileTree.Entry where
  | file (content : ByteArray) (permissions : FileTree.Permissions)
  | directory (permissions : FileTree.Permissions)
  | link (target : Path)
  | twin (place : List String)

namespace FileTree.Entry

/-- A file that is made anew. -/
def ofContent (content : ByteArray) : Entry := file content {}

/-- A directory that is made anew. -/
def openDirectory : Entry := directory {}

end FileTree.Entry

/-- What stands at the places of a tree. A place is the list of names that leads to it from the
root. Relative paths start from the place of the working directory, `home`. -/
structure FileTree where
  home : List String
  entries : List (List String × FileTree.Entry)

namespace FileTree

/-- A working directory with nothing in it. -/
def empty (home : List String) : FileTree :=
  ⟨home, (List.range (home.length + 1)).map fun depth => (home.take depth, .openDirectory)⟩

def entryAt? (tree : FileTree) (place : List String) : Option Entry :=
  (tree.entries.find? fun entry => entry.1 == place).map Prod.snd

/-- Puts an entry at a place, instead of what stood there. -/
def put (tree : FileTree) (place : List String) (entry : Entry) : FileTree :=
  { tree with entries := (place, entry) :: tree.entries.filter fun other => other.1 ≠ place }

/-! ## Following paths -/

/-- The place that a name leads to from a directory. -/
def step (tree : FileTree) (place : List String) (name : String) :
    Except FileError (List String) :=
  match tree.entryAt? place with
  | none => .error .notFound
  | some (.directory permissions) =>
    if !permissions.pass then .error .denied
    else if name = ".." then .ok place.dropLast
    else .ok (place ++ [name])
  | some _ => .error .notDirectory

/-- Where a path starts from that is met at a place. -/
def origin (place : List String) (path : Path) : List String :=
  match path.anchor with
  | .relative => place
  | .root | .doubleRoot => []

/-- Follows names up to the first link, which is left to `onLink` together with its place and the
names behind it. -/
def walk (tree : FileTree)
    (onLink : List String → Path → List String → Except FileError (List String)) :
    List String → List String → Except FileError (List String)
  | place, [] => .ok place
  | place, name :: names => do
    let next ← tree.step place name
    match tree.entryAt? next with
    | some (.link target) => onLink place target names
    | _ => tree.walk onLink next names

/-- Follows names, and at most so many links on the way. -/
def follow (tree : FileTree) : Nat → List String → List String → Except FileError (List String)
  | 0 => tree.walk fun _ _ _ => .error .linkLoop
  | links + 1 => tree.walk fun place target names =>
    tree.follow links (origin place target) (target.names ++ names)

/-- The number of links that may be on the way of a path. -/
def mostLinks : Nat := 40

/-- The place that names lead to from a place, through all links. -/
def reach (tree : FileTree) (place names : List String) : Except FileError (List String) :=
  tree.follow mostLinks place names

/-- The place that a path leads to, whether or not something stands there. -/
def locate (tree : FileTree) (path : Path) : Except FileError (List String) := do
  let place ← tree.reach (origin tree.home path) path.names
  match tree.entryAt? place with
  | some (.twin first) => .ok first
  | _ => .ok place

/-- The place that the last name of a path stands for, which may itself be a link. -/
def locateName (tree : FileTree) (path : Path) : Except FileError (List String) := do
  let start := origin tree.home path
  match path.names.getLast? with
  | none => .ok start
  | some name => tree.step (← tree.reach start path.names.dropLast) name

/-! ## Files and directories -/

def readBytes (tree : FileTree) (path : Path) : Except FileError ByteArray := do
  match tree.entryAt? (← tree.locate path) with
  | some (.file content permissions) =>
    if permissions.read then .ok content else .error .denied
  | some (.directory permissions) =>
    if permissions.read then .error .isDirectory else .error .denied
  | _ => .error .notFound

def readText (tree : FileTree) (path : Path) : Except ReadError String :=
  if path.hasNul then .error .nulInPath
  else
    match tree.readBytes path with
    | .ok content => textOfBytes content
    | .error error => .error (.refused error)

/-- Adds an entry where there is none, if the directory around it may be written into. -/
def add (tree : FileTree) (place : List String) (entry : Entry) : Except FileError FileTree :=
  match tree.entryAt? place.dropLast with
  | some (.directory permissions) =>
    if permissions.write && permissions.pass then .ok (tree.put place entry) else .error .denied
  | _ => .error .notFound

/-- Writes a text into a file, which need not exist while its directory does. -/
def writeText (tree : FileTree) (path : Path) (text : String) : Except FileError FileTree := do
  let place ← tree.locate path
  match tree.entryAt? place with
  | some (.file _ permissions) =>
    if permissions.write then .ok (tree.put place (.file text.toUTF8 permissions))
    else .error .denied
  | some (.directory _) => .error .isDirectory
  | none => tree.add place (.ofContent text.toUTF8)
  | _ => .error .notFound

/-- A path leads to a directory. -/
def isDirectory (tree : FileTree) (path : Path) : Except FileError Bool := do
  match tree.entryAt? (← tree.locate path) with
  | some (.directory _) => .ok true
  | _ => .ok false

/-- Makes one directory, unless it is there already. -/
def makeDirectory (tree : FileTree) (path : Path) : Except FileError FileTree := do
  let place ← tree.locateName path
  match tree.entryAt? place with
  | none => tree.add place .openDirectory
  | some _ =>
    match tree.isDirectory path with
    | .ok true => .ok tree
    | .error .denied => .error .denied
    | _ => .error .exists

/-- Makes a directory and, where they are missing, those above it up to the given number. What
has been made stays even if the next one is refused. -/
def makeDirectoriesUpTo (tree : FileTree) : Nat → Path → Except FileError Unit × FileTree
  | depth, path =>
    match tree.makeDirectory path, depth with
    | .ok made, _ => (.ok (), made)
    | .error .notFound, depth + 1 =>
      match tree.makeDirectoriesUpTo depth path.parent with
      | (.ok (), made) =>
        match made.makeDirectory path with
        | .ok made => (.ok (), made)
        | .error error => (.error error, made)
      | failure => failure
    | .error error, _ => (.error error, tree)

/-- Makes a directory and all those missing above it. -/
def makeDirectories (tree : FileTree) (path : Path) : Except FileError Unit × FileTree :=
  tree.makeDirectoriesUpTo path.names.length path

end FileTree

end ShaderVariants
