import ShaderVariants.Rounding
import ShaderVariants.Text.Lines
import ShaderVariants.Text.Table
import ShaderVariants.Text.Wrapped

/-!
# Drawing tables

On a terminal a table stands in a frame, whose lines are heavy around the headings; the title stands
above it in the middle. Where the terminal is too narrow, the widest columns give way first, and
their cells are wrapped.
-/

namespace ShaderVariants.Text

/-- A line that fills a width. In the middle, a blank that cannot be halved stands on the right. -/
def Alignment.place (alignment : Alignment) (overflow : Overflow) (width : Nat)
    (line : List Char) : String :=
  let line := cut overflow width (if alignment = .left then line else dropBlanksRight line)
  let free := width - widthOf line
  String.ofList <| match alignment with
    | .left => line ++ spaces free
    | .right => spaces free ++ line
    | .center => spaces (free / 2) ++ line ++ spaces (free - free / 2)

namespace Column

def texts (column : Column) : List String := column.heading :: column.cells

def mapTexts {ε : Type} (change : String → Except ε String) (column : Column) :
    Except ε Column := do
  let heading ← change column.heading
  return { column with heading, cells := ← column.cells.mapM change }

/-- How wide a text is whose lines are not wrapped. -/
def textWidth (text : String) : Nat := ((lines text).map cellWidth).foldl max 0

/-- How wide the column is if nothing is wrapped, with a blank on both sides. -/
def naturalWidth (column : Column) : Nat := (column.texts.map textWidth).foldl max 0 + 2

/-- The lines of a cell within a width, with a blank on both sides. -/
def cellLines (column : Column) (width : Nat) (text : String) : List String :=
  (brokenLines .ellipsis (width - 2) text).map fun line =>
    " " ++ column.alignment.place .ellipsis (width - 2) line ++ " "

end Column

/-! ## Widths of columns -/

/-- Takes `excess` columns from the widest ones, from each of them the same number as nearly as
possible and at most `most`; `count` of them are left. -/
def narrow (widest most : Nat) (excess count : Nat) : List Nat → List Nat
  | [] => []
  | width :: rest =>
    if width = widest then
      let share := min most (roundQuotient excess count)
      (width - share) :: narrow widest most (excess - share) (count - 1) rest
    else width :: narrow widest most excess count rest

/-- Narrows the widest columns, but not below the next ones, if all are too wide together. -/
def narrowWidest (available : Nat) (widths : List Nat) : List Nat :=
  let excess := widths.foldr (· + ·) 0 - available
  let widest := widths.foldl max 0
  let next := (widths.filter (· < widest)).foldl max 0
  if excess = 0 then widths
  else narrow widest (min excess (widest - next)) excess (widths.count widest) widths

/-- Widths that fit together. Every step makes columns equal, so that a step for each of them is
enough. -/
def fittedWidths (available : Nat) (widths : List Nat) : List Nat :=
  widths.length.repeat (narrowWidest available) (widths.map (min available ·))

/-! ## Drawing -/

namespace Table

/-- The table with other texts in it. Those of the columns are changed before the title. -/
def mapTexts {ε : Type} (change : String → Except ε String) (table : Table) :
    Except ε Table := do
  let columns ← table.columns.mapM (Column.mapTexts change)
  return ⟨← change table.title, columns⟩

/-- How wide the columns are on a terminal. The frame takes a column of it at both ends and
between two columns. -/
def widths (table : Table) (terminal : Nat) : List Nat :=
  fittedWidths (terminal - (table.columns.length + 1)) (table.columns.map Column.naturalWidth)

/-- A line of the frame: its left end, what it consists of, where it crosses the line between two
columns, and its right end. -/
def rule (widths : List Nat) (left : String) (stroke : Char) (crossing right : String) : String :=
  let strokes := widths.map fun width => String.ofList (List.replicate width stroke)
  left ++ String.intercalate crossing strokes ++ right

/-- Lines of cells side by side, with a line between columns and at both ends. Cells are as high
as the highest one. -/
def row (separator : String) (widths : List Nat) (cells : List (List String)) : List String :=
  let height := (cells.map List.length).foldl max 1
  (List.range height).map fun index =>
    let texts := (widths.zip cells).map fun (width, lines) =>
      lines[index]?.getD (String.ofList (spaces width))
    separator ++ String.intercalate separator texts ++ separator

def headingLines (table : Table) (widths : List Nat) : List String :=
  row "┃" widths <| (table.columns.zip widths).map fun (column, width) =>
    column.cellLines width column.heading

def rowLines (table : Table) (widths : List Nat) (index : Nat) : List String :=
  row "│" widths <| (table.columns.zip widths).map fun (column, width) =>
    column.cellLines width (column.cells[index]?.getD "")

/-- The number of rows. -/
def height (table : Table) : Nat := (table.columns.map (·.cells.length)).foldl max 0

def titleLines (table : Table) (width : Nat) : List String :=
  (brokenLines .fold width table.title).map (Alignment.center.place .fold width)

def lines (table : Table) (terminal : Nat) : List String :=
  let widths := table.widths terminal
  table.titleLines (widths.foldr (· + ·) 0 + widths.length + 1)
    ++ [rule widths "┏" '━' "┳" "┓"]
    ++ table.headingLines widths
    ++ [rule widths "┡" '━' "╇" "┩"]
    ++ (List.range table.height).flatMap (table.rowLines widths)
    ++ [rule widths "└" '─' "┴" "┘"]

end Table

end ShaderVariants.Text
