import ShaderVariants.Template.Folding

/-!
# Preparing templates

Before a template is expanded, its constant expressions are evaluated, and constants that are
printed become text. A template is rejected as a whole if a constant of it cannot be written, if
it applies a filter or a test that does not exist, or if it assigns the state of a loop. Inside of
a branch or a choice an unknown filter or test is accepted; it fails if it is reached.
-/

namespace ShaderVariants.Template

/-- Why a template is rejected before it is expanded. -/
inductive Rejection where
  | unknownFilter (name : String)
  | unknownTest (name : String)
  | assignedLoopState
  | constant (fault : EvaluationFault)
  deriving DecidableEq, Repr

namespace Rejection

def kindName : Rejection → String
  | constant fault => fault.kindName
  | _ => "TemplateAssertionError"

def message : Rejection → String
  | unknownFilter name => s!"No filter named '{name}'."
  | unknownTest name => s!"No test named '{name}'."
  | assignedLoopState => "Can't assign to special loop variable in for-loop target"
  | constant fault => fault.message

end Rejection

/-- A step of the preparation. -/
abbrev Preparation := Except Rejection

namespace Preparation

/-- A step that evaluates constants. -/
def ofEvaluation {α : Type} (evaluation : Evaluation α) : Preparation α :=
  evaluation.mapError .constant

/-- Rejects something unless it is known or guarded. -/
def require (isKnown isGuarded : Bool) (rejection : Rejection) : Preparation Unit :=
  if isKnown || isGuarded then .ok () else .error rejection

end Preparation

namespace Expression

mutual

/-- Every constant can be written, and filters and tests outside of guarded places are known. -/
def checked (isGuarded : Bool) : Expression → Preparation Unit
  | constant value =>
    if value.isWritable then .ok () else .error (.constant .oversizedInteger)
  | .variable _ => .ok ()
  | tuple items => checkedAll isGuarded items
  | list items => checkedAll isGuarded items
  | dictionary entries => checkedEntries isGuarded entries
  | unary _ operand => checked isGuarded operand
  | binary _ left right => do
    checked isGuarded left
    checked isGuarded right
  | joined items => checkedAll isGuarded items
  | comparison first others => do
    checked isGuarded first
    checkedOthers isGuarded others
  | both left right => do
    checked isGuarded left
    checked isGuarded right
  | either left right => do
    checked isGuarded left
    checked isGuarded right
  | choice condition value alternative _ => do
    checked true value
    checked true condition
    checkedAlternative alternative
  | member owner _ => checked isGuarded owner
  | element owner index => do
    checked isGuarded owner
    checked isGuarded index
  | slice owner start stop step => do
    checked isGuarded owner
    checked isGuarded start
    checked isGuarded stop
    checked isGuarded step
  | call function arguments named => do
    checked isGuarded function
    checkedAll isGuarded arguments
    checkedNamed isGuarded named
  | filter name operand arguments named => do
    Preparation.require (Value.filterSignature? name).isSome isGuarded (.unknownFilter name)
    checked isGuarded operand
    checkedAll isGuarded arguments
    checkedNamed isGuarded named
  | test name operand arguments named => do
    Preparation.require (Value.testSignature? name).isSome isGuarded (.unknownTest name)
    checked isGuarded operand
    checkedAll isGuarded arguments
    checkedNamed isGuarded named

def checkedAll (isGuarded : Bool) : List Expression → Preparation Unit
  | [] => .ok ()
  | item :: items => do
    checked isGuarded item
    checkedAll isGuarded items

def checkedEntries (isGuarded : Bool) : List (Expression × Expression) → Preparation Unit
  | [] => .ok ()
  | (key, item) :: entries => do
    checked isGuarded key
    checked isGuarded item
    checkedEntries isGuarded entries

def checkedNamed (isGuarded : Bool) : List (String × Expression) → Preparation Unit
  | [] => .ok ()
  | (_, item) :: items => do
    checked isGuarded item
    checkedNamed isGuarded items

/-- Counterpart of `checked` for the further operands of a comparison. -/
def checkedOthers (isGuarded : Bool) : List (Relation × Expression) → Preparation Unit
  | [] => .ok ()
  | (_, item) :: items => do
    checked isGuarded item
    checkedOthers isGuarded items

def checkedAlternative : Option Expression → Preparation Unit
  | some alternative => checked true alternative
  | none => .ok ()

end

/-- An expression that is ready to be evaluated. -/
def prepared (isGuarded : Bool) (expression : Expression) : Preparation Expression := do
  let folded ← Preparation.ofEvaluation expression.folded
  folded.checked isGuarded
  return folded

end Expression

namespace Piece

/-- A constant that is printed, as text. -/
def settled (finalize : Value → Value) : Piece → Preparation Piece
  | data text => .ok (data text)
  | print value => Preparation.ofEvaluation do
    match ← value.constantValue.run with
    | some constant => return data (← constant.printed finalize)
    | none => return print value

/-- A piece that is ready to be put out. -/
def prepared (isGuarded : Bool) : Piece → Preparation Piece
  | data text => .ok (data text)
  | print value => print <$> value.prepared isGuarded

end Piece

/-- A filter whose arguments are ready to be evaluated. -/
def FilterCall.prepared (isGuarded : Bool) (call : FilterCall) : Preparation FilterCall := do
  Preparation.require (Value.filterSignature? call.name).isSome isGuarded
    (.unknownFilter call.name)
  let arguments ← call.arguments.mapM (·.prepared isGuarded)
  let named ← call.named.mapM fun (name, value) => return (name, ← value.prepared isGuarded)
  return ⟨call.name, arguments, named⟩

def loopName : String := "loop"

namespace Node

mutual

def assignsLoop : Node → Bool
  | output _ => false
  | branch _ body alternative => anyAssignsLoop body || anyAssignsLoop alternative
  | loop target _ _ body alternative =>
    loopName ∈ target.names || anyAssignsLoop body || anyAssignsLoop alternative
  | assign target _ => loopName ∈ target.names
  | capture target _ body => loopName ∈ target.names || anyAssignsLoop body

def anyAssignsLoop : List Node → Bool
  | [] => false
  | node :: nodes => assignsLoop node || anyAssignsLoop nodes

end

mutual

/-- A node that is ready to be expanded. -/
def prepared (finalize : Value → Value) (isGuarded : Bool) : Node → Preparation Node
  | output pieces => do
    let settled ← pieces.mapM (Piece.settled finalize)
    return output (← settled.mapM (·.prepared isGuarded))
  | branch test body alternative => do
    let test ← test.prepared true
    let body ← preparedAll finalize true body
    return branch test body (← preparedAll finalize true alternative)
  | loop target items condition body alternative => do
    let condition ← condition.mapM (·.prepared false)
    if assignsLoop (loop target items condition body alternative) then
      throw .assignedLoopState
    let items ← items.prepared isGuarded
    let body ← preparedAll finalize false body
    return loop target items condition body (← preparedAll finalize false alternative)
  | assign target value => assign target <$> value.prepared isGuarded
  | capture target filters body => do
    let body ← preparedAll finalize false body
    return capture target (← filters.mapM (·.prepared false)) body

def preparedAll (finalize : Value → Value) (isGuarded : Bool) :
    List Node → Preparation (List Node)
  | [] => .ok []
  | node :: nodes => do
    let node ← prepared finalize isGuarded node
    return node :: (← preparedAll finalize isGuarded nodes)

end

end Node

end ShaderVariants.Template
