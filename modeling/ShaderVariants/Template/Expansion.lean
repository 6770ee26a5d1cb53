import ShaderVariants.OrderedMap
import ShaderVariants.Template.Evaluation
import ShaderVariants.Template.Parser.Statement
import ShaderVariants.Template.Preparation

/-!
# Expanding templates

Expanding a template in a context copies its text, prints its values and follows its statements.
An assignment lasts to the end of the frame it stands in: the body of a loop, a captured text, or
the template. Each round of a loop has a frame of its own. What is printed passes through a function
that is given with the context.
-/

namespace ShaderVariants.Template

/-- What a piece puts out. -/
def Piece.expand (finalize : Value → Value) (scope : Scope) : Piece → Evaluation String
  | data text => .ok text
  | print value => do (← value.evaluate scope).printed finalize

/-- The items of a loop for which its condition holds, in front of the first one for which that
cannot be said, and the fault of that one. The items are bound in a frame of the condition. -/
def selected (scope : Scope) (target : Target) (condition : Expression) :
    List Value → List Value × Option EvaluationFault
  | [] => ([], none)
  | item :: items =>
    let holds : Evaluation Bool := do
      (← condition.evaluate (← scope.assign item target)).isTrue
    match holds with
    | .error fault => ([], some fault)
    | .ok isSelected =>
      let (others, fault) := selected scope target condition items
      (if isSelected then item :: others else others, fault)

/-- The items that a loop goes through, and the fault that ends the loop behind them. -/
def selectedItems (scope : Scope) (target : Target) (condition : Option Expression)
    (items : List Value) : List Value × Option EvaluationFault :=
  match condition with
  | none => (items, none)
  | some condition =>
    let layout := (Layout.giving target.names).readAll scope.knows condition.names
    selected (scope.enter layout []) target condition items

namespace Node

variable (finalize : Value → Value)

mutual

def expand (scope : Scope) : Node → Evaluation (String × Scope)
  | output pieces => do
    return (String.join (← pieces.mapM (Piece.expand finalize scope)), scope)
  | branch test body alternative => do
    let value ← test.evaluate scope
    if ← value.isTrue then expandAll scope body else expandAll scope alternative
  | loop target items condition body alternative => do
    let value ← items.evaluate scope
    let (members, fault) := selectedItems scope target condition (← value.members)
    let layout := scope.layoutOf (loopName :: target.names) body
    let rounds ← members.zipIdx.mapM fun (member, index) => do
      let pushed := (scope.push layout).set loopName (.loop members index)
      let assigned ← pushed.assign member target
      let (text, _) ← expandAll (assigned.start layout) body
      return text
    if let some fault := fault then throw fault
    if members.isEmpty then
      let (text, _) ← expandAll (scope.enter (scope.layoutOf [] alternative) []) alternative
      return (text, scope)
    return (String.join rounds, scope)
  | assign target value => do
    if !target.owners.isEmpty then throw .notNamespace
    return ("", ← scope.assign (← value.evaluate scope) target)
  | capture target filters body => do
    let inner := scope.enter (scope.layoutOf [] body) []
    let (text, _) ← expandAll inner body
    let filtered := filters.foldl (fun value call => call.on value) (.constant (.text text))
    return ("", ← scope.assign (← filtered.evaluate inner) target)

def expandAll (scope : Scope) : List Node → Evaluation (String × Scope)
  | [] => .ok ("", scope)
  | node :: nodes => do
    let (first, scope) ← expand scope node
    let (rest, scope) ← expandAll scope nodes
    return (first ++ rest, scope)

end

end Node

/-- The one name that a context may not give a value. -/
def reservedName : String := "self"

/-- Why a template cannot be expanded. -/
inductive ExpansionError where
  | malformed (fault : SyntaxFault)
  | rejected (rejection : Rejection)
  | failed (fault : EvaluationFault)
  deriving DecidableEq, Repr

/-- The scope of the whole template. The name that a context may not give a value stands for the
template itself. -/
def rootScope (nodes : List Node) (context : OrderedMap Value) : Scope :=
  let scope := Scope.ofDefinitions context.entries
  scope.enter (scope.layoutOf [reservedName] nodes) [(reservedName, .builtin .template)]

def expandNodes (finalize : Value → Value) (nodes : List Node) (context : OrderedMap Value) :
    Evaluation String := do
  if context.contains reservedName then throw (.reservedDefinition reservedName)
  let (text, _) ← Node.expandAll finalize (rootScope nodes context) nodes
  return text

def expand (finalize : Value → Value) (settings : Settings) (template : String)
    (context : OrderedMap Value) : Except ExpansionError String := do
  let nodes ← (Node.ofSource settings template).mapError .malformed
  let prepared ← (Node.preparedAll finalize false nodes).mapError .rejected
  (expandNodes finalize prepared context).mapError .failed

end ShaderVariants.Template
