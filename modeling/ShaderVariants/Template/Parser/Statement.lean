import ShaderVariants.Template.Parser.Expression

/-!
# Parsing statements

A template is text, prints and statements in a row. The statements that have a body run up to a
statement that begins with one of the names their body is waiting for. Faults about such names
tell which names the innermost open block waits for.
-/

namespace ShaderVariants.Template

/-- A block that is open: the name it began with, and the names that its body waits for. -/
structure OpenBlock where
  tag : String
  wanted : List String

namespace Parser

/-- Reads nodes inside of some blocks, the innermost one first. -/
abbrev NodesParser := List OpenBlock → Parser (List Node)

/-- Stops at a name that no statement begins with here. -/
def failUnknownTag (name : String) (blocks : List OpenBlock) : Parser Node :=
  let wanted := (blocks.head?.map OpenBlock.wanted).getD []
  let nested := blocks.any fun block => name ∈ block.wanted
  fail (.unknownTag name wanted nested (blocks.head?.map OpenBlock.tag))

/-- Reads the body of a statement, whose header has been read, up to one of the wanted names. A
colon may end the header. -/
def body (nodes : NodesParser) (block : OpenBlock) (blocks : List OpenBlock) :
    Parser (List Node) := do
  let _ ← skipSign .colon
  expectStatementEnd
  let read ← nodes (block :: blocks)
  if (← current?).isNone then fail (.endInBlock block.wanted (some block.tag))
  return read

/-- Reads the body of a statement up to the name that ends the statement, with that name. -/
def lastBody (nodes : NodesParser) (tag ending : String) (blocks : List OpenBlock) :
    Parser (List Node) := do
  let read ← body nodes ⟨tag, [ending]⟩ blocks
  advance
  return read

/-- Tests with the bodies they guard, and what is done if all tests fail. -/
def branchOf (guarded : List (Expression × List Node)) (otherwise : List Node) : List Node :=
  guarded.foldr (fun (test, body) otherwise => [.branch test body otherwise]) otherwise

/-- Reads a branch. Behind each body stands the name that tells how it goes on. -/
def branch (nodes : NodesParser) (blocks : List OpenBlock) : Parser (List Node) := do
  expectWord "if"
  let (guarded, word) ← iterate (fun (guarded, word) => do
    if word ≠ "elif" then return none
    let test ← tuple condition false []
    let read ← body nodes ⟨"if", ["elif", "else", "endif"]⟩ blocks
    return some ((test, read) :: guarded, ← expectName)) ([], "elif")
  let otherwise ← if word = "else" then lastBody nodes "if" "endif" blocks else pure []
  return branchOf guarded.reverse otherwise

mutual

def target? : Expression → Option Target
  | .variable name => some (.single name)
  | .tuple items => .several <$> targets? items
  | _ => none

def targets? : List Expression → Option (List Target)
  | [] => some []
  | item :: items => do
    let target ← target? item
    return target :: (← targets? items)

end

/-- A target, or the kind of an expression that is none. -/
abbrev TargetOrKind := Except String Target

/-- The target that several ones are together. -/
def targetOfItems (items : List TargetOrKind) : TargetOrKind :=
  match items.mapM id with
  | .ok targets => .ok (.several targets)
  | .error _ => .error (Expression.tuple []).kindName

/-- Reads one target. If parts can be assigned to, a name may be followed by that of a part. -/
def targetItem (hasParts : Bool) : Parser TargetOrKind := do
  let read ← primary expression
  match read, hasParts && (← isSign .dot) with
  | .variable owner, true =>
    advance
    return .ok (.part owner (← expectName))
  | read, _ => return (target? read).elim (.error read.kindName) .ok

/-- Reads what is assigned to. -/
def target (hasParts : Bool) (endWords : List String) : Parser Target := do
  match ← several targetOfItems (targetItem hasParts) false endWords with
  | .ok target => return target
  | .error kind => fail (.notAssignable kind)

def loop (nodes : NodesParser) (blocks : List OpenBlock) : Parser Node := do
  expectWord "for"
  let target ← target false ["in"]
  expectWord "in"
  let items ← tuple condition false ["recursive"]
  let test ← if ← skipName "if" then some <$> expression else pure none
  let _ ← skipName "recursive"
  let repeated ← body nodes ⟨"for", ["endfor", "else"]⟩ blocks
  let atEnd ← isName ["endfor"]
  advance
  let otherwise ← if atEnd then pure [] else lastBody nodes "for" "endfor" blocks
  return .loop target items test repeated otherwise

/-- Reads an assignment: of a value, or of what a body expands to. -/
def assignment (nodes : NodesParser) (blocks : List OpenBlock) : Parser Node := do
  expectWord "set"
  let target ← target true []
  if ← skipSign .assign then
    return .assign target (← tuple expression false [])
  else
    let filters ← iterate (fun filters => do
      if ← isSign .pipe then return some ((← filterCall expression) :: filters) else return none) []
    return .capture target filters.reverse (← lastBody nodes "set" "endset" blocks)

/-- Reads a statement without its marks. -/
def statement (nodes : NodesParser) (blocks : List OpenBlock) : Parser (List Node) := do
  match ← current? with
  | some (.name word) =>
    if word = "if" then branch nodes blocks
    else if word = "for" then return [← loop nodes blocks]
    else if word = "set" then return [← assignment nodes blocks]
    else return [← failUnknownTag word blocks]
  | _ => fail .noTagName

def unitedOutputs : List Node → List Node
  | [] => []
  | .output pieces :: nodes =>
    match unitedOutputs nodes with
    | .output others :: nodes => .output (pieces ++ others) :: nodes
    | nodes => .output pieces :: nodes
  | node :: nodes => node :: unitedOutputs nodes

/-- Reads nodes up to a name that the innermost block waits for, or up to the end of the
template. The mark in front of that name is consumed, the name is not. -/
def nodesWithin : (depth : Nat) → NodesParser
  | 0, _ => fail .tooDeep
  | depth + 1, blocks => do
    let wanted := (blocks.head?.map OpenBlock.wanted).getD []
    let read ← iterate (fun read => do
      match ← current? with
      | some (.data text) => advance; return some (.output [.data text] :: read)
      | some .printBegin =>
        advance
        let value ← tuple expression false []
        expectPrintEnd
        return some (.output [.print value] :: read)
      | some .statementBegin =>
        advance
        if ← isName wanted then return none
        let nodes ← statement (nodesWithin depth) blocks
        expectStatementEnd
        return some (nodes.reverse ++ read)
      | _ => return none) []
    return unitedOutputs read.reverse

/-- Reads a whole template. -/
def template : Parser (List Node) := do
  checkFault
  nodesWithin ((← read) + 1) []

end Parser

/-- The nodes of a template. -/
def Node.ofSource (settings : Settings) (source : String) : Except SyntaxFault (List Node) :=
  let lexed := Lexed.ofSource settings source
  ((Parser.template.run lexed.tokens.length).run lexed).map Prod.fst

end ShaderVariants.Template
