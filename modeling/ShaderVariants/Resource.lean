import ShaderVariants.FileTree

/-!
# Resources

The files that a compilation reads. A file that cannot be used is reported with its path and with
the role in which it was wanted.
-/

namespace ShaderVariants

/-- Why a file cannot be used: it cannot be read, it is not well-formed, or an entry of it lacks
something. -/
inductive ResourceError.Cause where
  | unreadable (role : String) (reason : String)
  | malformed (role : String) (detail : String)
  | incompleteTarget (role : String) (index : Nat) (missing : List String)
  deriving DecidableEq, Repr

/-- A file that cannot be used. -/
structure ResourceError where
  cause : ResourceError.Cause
  path : Path
  deriving DecidableEq, Repr

def ResourceError.message (error : ResourceError) : String :=
  match error.cause with
  | .unreadable role reason => s!"Cannot read {role} '{error.path}': {reason}"
  | .malformed role detail => s!"Invalid {role} '{error.path}': {detail}"
  | .incompleteTarget role index missing =>
    s!"Invalid {role} '{error.path}': generate entry #{index} is missing "
      ++ String.intercalate ", " missing

/-- How a path is read. -/
abbrev TextReader (m : Type → Type) := Path → m (Except ReadError String)

/-- What comes of reading a file: its text, a reported error, or a path that no system takes. -/
inductive Loaded where
  | text (content : String)
  | failed (error : ResourceError)
  | nulInPath
  deriving DecidableEq, Repr

/-- What comes of reading a file in some role. -/
def Loaded.ofRead (role : String) (path : Path) : Except ReadError String → Loaded
  | .ok content => .text content
  | .error (.refused error) => .failed ⟨.unreadable role (error.message path), path⟩
  | .error (.undecodable error) => .failed ⟨.unreadable role error.message, path⟩
  | .error .nulInPath => .nulInPath

end ShaderVariants
