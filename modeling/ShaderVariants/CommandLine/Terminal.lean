import ShaderVariants.CommandLine.Console
import ShaderVariants.Template.Interpreter
import ShaderVariants.Text.Drawing
import ShaderVariants.Text.Markup

/-!
# The terminal

The console that the program runs with: a terminal without colours, where nothing is left of tags.
-/

namespace ShaderVariants.CommandLine

def terminalWidth : Nat := 80

/-- The fault as a console reports it. -/
def markupFailure (fault : Text.Markup.Fault) : Failure := ⟨"MarkupError", fault.message⟩

def terminal : Console where
  text marked := do
    let plain ← (Text.Markup.plain marked).mapError markupFailure
    return String.join ((Text.wrap terminalWidth plain).map (· ++ "\n"))
  table marked := do
    let plain ← (marked.mapTexts Text.Markup.plain).mapError markupFailure
    return String.join ((plain.lines terminalWidth).map (· ++ "\n"))

/-- What the program runs with. -/
def standardTools {m : Type → Type} [Pure m] : Tools m := ⟨Template.interpreter, terminal⟩

end ShaderVariants.CommandLine
