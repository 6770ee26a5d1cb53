import ShaderVariants.Template.Layout
import ShaderVariants.Text.NormalForm

/-!
# Scopes

A scope is a stack of frames, the innermost one first, above the definitions of the template. Each
frame has a place for every name of its layout. Names with the same normal form share a place, in
which the value that came last counts.
-/

namespace ShaderVariants.Template

/-- The names of a layout, and the values in the places, by the normal forms of names. -/
structure Frame where
  names : List String
  values : List (String × Value)

namespace Frame

def value? (frame : Frame) (name : String) : Option Value :=
  let place := Text.normalForm name
  (frame.values.find? (·.1 == place)).map Prod.snd

/-- Empties the place of a name. -/
def clear (frame : Frame) (name : String) : Frame :=
  let place := Text.normalForm name
  { frame with values := frame.values.filter (·.1 != place) }

def set (frame : Frame) (name : String) (value : Value) : Frame :=
  let cleared := frame.clear name
  { cleared with values := (Text.normalForm name, value) :: cleared.values }

def fill (frame : Frame) (name : String) (value : Option Value) : Frame :=
  match value with
  | some value => frame.set name value
  | none => frame.clear name

end Frame

/-- The values of the names at some place of a template. -/
structure Scope where
  definitions : List (String × Value)
  frames : List Frame

namespace Scope

/-- The scope of definitions, outside of all frames. -/
def ofDefinitions (definitions : List (String × Value)) : Scope := ⟨definitions, []⟩

/-- The value that a name is defined to have, in front of what every template knows. -/
def definition? (scope : Scope) (name : String) : Option Value :=
  ((scope.definitions.find? (·.1 == name)).map Prod.snd)
    <|> (Builtin.globals.find? (·.1 == name)).map fun entry => .builtin entry.2

def knows (scope : Scope) (name : String) : Bool :=
  scope.frames.any fun frame => name ∈ frame.names

/-- The value in the place of a name, in the innermost frame that has one. -/
def value? (scope : Scope) (name : String) : Option Value :=
  (scope.frames.find? fun frame => name ∈ frame.names).bind (·.value? name)

/-- The value of a name. An empty place stands for a missing value. -/
def value (scope : Scope) (name : String) : Value :=
  (scope.value? name).getD (.missing (Text.Quoted.encode name ++ " is undefined"))

/-- Gives a name of the innermost frame a value. -/
def set (scope : Scope) (name : String) (value : Value) : Scope :=
  match scope.frames with
  | [] => scope
  | frame :: frames => { scope with frames := frame.set name value :: frames }

mutual

/-- Gives a target a value. There are no values whose parts can be assigned to. -/
def assign (scope : Scope) (value : Value) : Target → Evaluation Scope
  | .single name => .ok (scope.set name value)
  | .part _ _ => .error .noItemAssignment
  | .several items => do assignAll scope (← value.unpacked items.length) items

def assignAll (scope : Scope) (values : List Value) : List Target → Evaluation Scope
  | [] => .ok scope
  | target :: targets =>
    match values with
    | [] => .ok scope
    | value :: values => do assignAll (← assign scope value target) values targets

end

/-- A frame as its layout says, some places of which have values already. -/
def begin (scope : Scope) (layout : Layout) (given : Frame) : Frame :=
  let filled := layout.beginnings.entries.foldl (fun frame (name, beginning) =>
    match beginning with
    | .defined => frame.fill name (scope.definition? name)
    | .inherited => frame.fill name (scope.value? name)
    | _ => frame) given
  layout.beginnings.entries.foldl (fun frame (name, beginning) =>
    if beginning = .empty then frame.clear name else frame) filled

/-- Adds a frame with empty places. -/
def push (scope : Scope) (layout : Layout) : Scope :=
  { scope with frames := ⟨layout.beginnings.keys, []⟩ :: scope.frames }

/-- Begins the innermost frame, some places of which have values already. -/
def start (scope : Scope) (layout : Layout) : Scope :=
  match scope.frames with
  | [] => scope
  | frame :: frames =>
    let around : Scope := { scope with frames }
    { scope with frames := around.begin layout frame :: frames }

def enter (scope : Scope) (layout : Layout) (given : List (String × Value)) : Scope :=
  let pushed := scope.push layout
  (given.foldl (fun scope (name, value) => scope.set name value) pushed).start layout

/-- The places that nodes need inside of the scope, besides those for given names. -/
def layoutOf (scope : Scope) (given : List String) (nodes : List Node) : Layout :=
  (Layout.giving given).withNodes scope.knows nodes

end Scope

end ShaderVariants.Template
