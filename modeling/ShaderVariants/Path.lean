import ShaderVariants.Text.Quoted

/-!
# Paths

A path is a sequence of names, relative or below a root. Writing it removes what does not matter:
empty names and single dots vanish, two dots stay. A root of exactly two slashes is kept apart
from one of any other number, which all count as one.
-/

namespace ShaderVariants

/-- Where a path begins. -/
inductive Path.Anchor where
  | relative
  | root
  | doubleRoot
  deriving DecidableEq, Repr

/-- A path without empty names and single dots. -/
structure Path where
  anchor : Path.Anchor
  names : List String
  deriving DecidableEq, Repr

namespace Path

/-- How an anchor is written. -/
def Anchor.text : Anchor → String
  | .relative => ""
  | .root => "/"
  | .doubleRoot => "//"

/-- The pieces between the slashes of a text, empty ones included; `piece` is the beginning of
the first one, reversed. -/
def pieces (piece : List Char) : List Char → List (List Char)
  | [] => [piece.reverse]
  | c :: rest => if c = '/' then piece.reverse :: pieces [] rest else pieces (c :: piece) rest

/-- The anchor that a text begins with. -/
def anchorOf : List Char → Anchor
  | '/' :: '/' :: '/' :: _ => .root
  | '/' :: '/' :: _ => .doubleRoot
  | '/' :: _ => .root
  | _ => .relative

def ofString (text : String) : Path where
  anchor := anchorOf text.toList
  names := ((pieces [] text.toList).map String.ofList).filter fun name => name ≠ "" ∧ name ≠ "."

/-- Writes a path; the empty relative one is a dot. -/
def toString (path : Path) : String :=
  if path.anchor = .relative ∧ path.names = [] then "."
  else path.anchor.text ++ String.intercalate "/" path.names

instance : ToString Path := ⟨Path.toString⟩

/-- The last name, empty when there is none. -/
def fileName (path : Path) : String := path.names.getLast?.getD ""

/-- The path without its last name. -/
def parent (path : Path) : Path := { path with names := path.names.dropLast }

/-- `second` seen from `first`: an anchored path stays as it is. -/
def join (first second : Path) : Path :=
  if second.anchor = .relative then { first with names := first.names ++ second.names }
  else second

instance : Append Path := ⟨Path.join⟩

end Path

end ShaderVariants
