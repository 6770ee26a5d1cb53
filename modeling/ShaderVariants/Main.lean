import ShaderVariants.CommandLine.Session
import ShaderVariants.CommandLine.Terminal

/-!
# The program

Runs a command on the files of the system.
-/

namespace ShaderVariants

def FileError.ofSystem : IO.Error → FileError
  | .alreadyExists _ _ _ => .exists
  | .permissionDenied _ _ _ => .denied
  | .inappropriateType _ code _ => if code = 20 then .notDirectory else .isDirectory
  | _ => .notFound

def answerOf {α : Type} (work : IO α) : IO (Except FileError α) := do
  try
    return .ok (← work)
  catch error => return .error (FileError.ofSystem error)

def systemAccess (home : Path) : CommandLine.FileAccess IO where
  workingDirectory := home
  read path := do
    if path.hasNul then return .error .nulInPath
    match ← answerOf (IO.FS.readBinFile path.toString) with
    | .ok content => return textOfBytes content
    | .error error => return .error (.refused error)
  makeDirectories path := answerOf (IO.FS.createDirAll path.toString)
  write path text := answerOf (IO.FS.writeFile path.toString text)

end ShaderVariants

open ShaderVariants in
/-- Runs the command that the arguments ask for. -/
def main (arguments : List String) : IO UInt32 := do
  let home := Path.ofString (← IO.currentDir).toString
  let outcome ← CommandLine.runArguments (systemAccess home) CommandLine.standardTools arguments
  IO.print outcome.output
  IO.eprint outcome.report
  if let some error := outcome.failure then IO.eprintln s!"failure: {error.message}"
  return UInt32.ofNat outcome.exitCode
