import ShaderVariants.CommandLine.Terminal
import ShaderVariants.CommandLine.Session

/-!
# Commands on a tree of files

Commands may work on an in-memory tree of files. What such a command does is a function of its
arguments and the tree, and of what the tools remember: an outcome, and the tree as the command
leaves it.
-/

namespace ShaderVariants

/-- A tree of files, and what else changes while a command is at work. -/
structure World (σ : Type) where
  tree : FileTree
  memory : σ

namespace World

variable {σ α : Type}

/-- Something that does not know about files is done in a world. -/
def outside (action : StateM σ α) : StateM (World σ) α := fun world =>
  let (answer, memory) := action.run world.memory
  (answer, ⟨world.tree, memory⟩)

end World

namespace FileTree

variable {σ : Type}

def access (home : Path) : CommandLine.FileAccess (StateM (World σ)) where
  workingDirectory := home
  read path := do return (← get).tree.readText path
  makeDirectories path := do
    let world ← get
    let (result, tree) := world.tree.makeDirectories path
    set { world with tree }
    return result
  write path text := do
    let world ← get
    match world.tree.writeText path text with
    | .ok tree =>
      set { world with tree }
      return .ok ()
    | .error error => return .error error

/-- The working directory of a tree as an absolute path. -/
def homePath (tree : FileTree) : Path := ⟨.root, tree.home⟩

end FileTree

/-- An engine beside a tree of files. -/
def Template.Engine.outside {σ : Type} (engine : Engine (StateM σ)) :
    Engine (StateM (World σ)) where
  Value := engine.Value
  nothing := engine.nothing
  ofLiteral := engine.ofLiteral
  ofText := engine.ofText
  truth? := engine.truth?
  text := engine.text
  render finalize settings template context :=
    World.outside (engine.render finalize settings template context)

namespace CommandLine

/-- Tools beside a tree of files. -/
def Tools.outside {σ : Type} (tools : Tools (StateM σ)) : Tools (StateM (World σ)) :=
  ⟨tools.engine.outside, tools.console⟩

/-- Runs a command on a tree, with tools that have a memory. -/
def runOn {σ : Type} (tools : Tools (StateM σ)) (arguments : List String) (world : World σ) :
    Outcome × World σ :=
  (runArguments (FileTree.access world.tree.homePath) tools.outside arguments).run world

/-- Runs a command on a tree with the tools of the program. -/
def runOnTree (arguments : List String) (tree : FileTree) : Outcome × FileTree :=
  let (outcome, world) := runOn standardTools arguments ⟨tree, ()⟩
  (outcome, world.tree)

end CommandLine

end ShaderVariants
