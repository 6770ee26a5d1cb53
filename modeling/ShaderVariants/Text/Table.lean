/-!
# Tables

A table has a title and columns, and a column has a heading and cells.
-/

namespace ShaderVariants.Text

/-- Where a line stands within a width. -/
inductive Alignment where
  | left
  | right
  | center
  deriving DecidableEq, Repr

/-- A column: its heading, where its cells stand within it, and the cells. -/
structure Column where
  heading : String
  alignment : Alignment
  cells : List String
  deriving DecidableEq, Repr

/-- A table. All columns have the same number of cells. -/
structure Table where
  title : String
  columns : List Column
  deriving DecidableEq, Repr

end ShaderVariants.Text
