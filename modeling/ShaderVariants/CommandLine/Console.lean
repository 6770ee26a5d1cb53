import ShaderVariants.Template.Engine
import ShaderVariants.Text.Table

/-!
# Consoles

A console prints marked texts and tables of them for people. What it makes of them is its own
business; it may also refuse them.
-/

namespace ShaderVariants.CommandLine

/-- What is printed for a marked text and for a table of marked texts, or why it cannot be
printed. -/
structure Console where
  text : String → Except Failure String
  table : Text.Table → Except Failure String

/-- What commands leave to others: expanding templates, and printing for people. -/
structure Tools (m : Type → Type) where
  engine : Template.Engine m
  console : Console

end ShaderVariants.CommandLine
