import ShaderVariants.Path

/-!
# Locations

Where a construct was written. Generated text refers to a location by its anchor, which leaves
out the directory, so that the text does not depend on where the declarations lie.
-/

namespace ShaderVariants

/-- A file as it was named, with a line and a column counted from one. -/
structure Location where
  file : String
  line : Int
  column : Int
  deriving DecidableEq, Repr

namespace Location

/-- File, line and column. -/
def shown (location : Location) : String :=
  s!"{location.file}:{location.line}:{location.column}"

/-- Last name of the file, and line. -/
def anchor (location : Location) : String :=
  s!"{(Path.ofString location.file).fileName}:{location.line}"

end Location

end ShaderVariants
