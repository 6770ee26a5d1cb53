import ShaderVariants.OrderedMap
import ShaderVariants.Template.Expression

/-!
# Layouts of frames

The whole template, the body of a loop, its alternative and a captured text each have a frame with
places for the names that they use. The layout of a frame says which names have a place and how
the place begins. It depends on the text of the template only: a name that is assigned anywhere
in a frame has its place from the beginning on, and one that is only read is looked for in the
frames around first.
-/

namespace ShaderVariants.Template

namespace Expression

mutual

/-- The names that an expression reads, from the left to the right. -/
def names : Expression → List String
  | constant _ => []
  | .variable name => [name]
  | tuple items => namesOfAll items
  | list items => namesOfAll items
  | dictionary entries => namesOfEntries entries
  | unary _ operand => names operand
  | binary _ left right => names left ++ names right
  | joined items => namesOfAll items
  | comparison first others => names first ++ namesOfOthers others
  | both left right => names left ++ names right
  | either left right => names left ++ names right
  | choice condition value alternative _ =>
    names condition ++ names value ++ namesOfAlternative alternative
  | member owner _ => names owner
  | element owner index => names owner ++ names index
  | slice owner start stop step =>
    names owner ++ names start ++ names stop ++ names step
  | call function arguments named =>
    names function ++ namesOfAll arguments ++ namesOfNamed named
  | filter _ operand arguments named =>
    names operand ++ namesOfAll arguments ++ namesOfNamed named
  | test _ operand arguments named =>
    names operand ++ namesOfAll arguments ++ namesOfNamed named

def namesOfAll : List Expression → List String
  | [] => []
  | item :: items => names item ++ namesOfAll items

def namesOfEntries : List (Expression × Expression) → List String
  | [] => []
  | (key, value) :: entries => names key ++ names value ++ namesOfEntries entries

def namesOfNamed : List (String × Expression) → List String
  | [] => []
  | (_, item) :: items => names item ++ namesOfNamed items

/-- Counterpart of `names` for the further operands of a comparison. -/
def namesOfOthers : List (Relation × Expression) → List String
  | [] => []
  | (_, item) :: items => names item ++ namesOfOthers items

def namesOfAlternative : Option Expression → List String
  | some alternative => names alternative
  | none => []

end

end Expression

def Piece.names : Piece → List String
  | data _ => []
  | print value => value.names

/-- How a place begins: with a value that the statement gives it, with the value of a definition,
with the value of the same name in the frames around, or without a value. -/
inductive Beginning where
  | given
  | defined
  | inherited
  | empty
  deriving DecidableEq, Repr

/-- The places of a frame, and the names among them that are assigned. -/
structure Layout where
  beginnings : OrderedMap Beginning
  assigned : List String

namespace Layout

/-- A frame without places. -/
def empty : Layout := ⟨.empty, []⟩

/-- Adds a place with a given value. -/
def give (layout : Layout) (name : String) : Layout :=
  ⟨layout.beginnings.set name .given, name :: layout.assigned⟩

/-- Adds a place for a name that is read, unless there is one here or around. -/
def read (isAround : String → Bool) (layout : Layout) (name : String) : Layout :=
  if layout.beginnings.contains name || isAround name then layout
  else { layout with beginnings := layout.beginnings.set name .defined }

/-- Adds a place for a name that is assigned, unless there is one here. -/
def assign (isAround : String → Bool) (layout : Layout) (name : String) : Layout :=
  let assigned := name :: layout.assigned
  if layout.beginnings.contains name then { layout with assigned }
  else
    let beginning := if isAround name then Beginning.inherited else .empty
    ⟨layout.beginnings.set name beginning, assigned⟩

/-- Adds the places of two branches. A name that only branches assign begins with the value that
it has outside of them. -/
def merge (isAround : String → Bool) (layout first second : Layout) : Layout :=
  let branched := (first.assigned ++ second.assigned).filter fun name => name ∉ layout.assigned
  let united :=
    (layout.beginnings.setAll first.beginnings.entries).setAll second.beginnings.entries
  let beginnings := branched.foldl
    (fun united name => united.set name (if isAround name then .inherited else .defined)) united
  ⟨beginnings, branched ++ layout.assigned⟩

/-- Adds places for what is read. -/
def readAll (isAround : String → Bool) (layout : Layout) (names : List String) : Layout :=
  names.foldl (read isAround) layout

/-- Adds places for what is assigned. -/
def assignAll (isAround : String → Bool) (layout : Layout) (names : List String) : Layout :=
  names.foldl (assign isAround) layout

mutual

/-- Adds the places that a node needs. Bodies with frames of their own do not count. -/
def withNode (isAround : String → Bool) (layout : Layout) : Node → Layout
  | .output pieces => layout.readAll isAround (pieces.flatMap Piece.names)
  | .branch test body alternative =>
    let tested := layout.readAll isAround test.names
    tested.merge isAround (withNodes isAround tested body)
      (withNodes isAround tested alternative)
  | .loop _ items _ _ _ => layout.readAll isAround items.names
  | .assign target value =>
    (layout.readAll isAround (value.names ++ target.owners)).assignAll isAround target.names
  | .capture target _ _ =>
    (layout.readAll isAround target.owners).assignAll isAround target.names

def withNodes (isAround : String → Bool) (layout : Layout) : List Node → Layout
  | [] => layout
  | node :: nodes => withNodes isAround (withNode isAround layout node) nodes

end

def giving (names : List String) : Layout := names.foldl give empty

end Layout

end ShaderVariants.Template
