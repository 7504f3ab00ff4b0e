import FieldNorm.Table.Mark
import FieldNorm.Text.Cut
import FieldNorm.Text.Width

/-!
Tables of two columns with a header, drawn with lines. The second column is aligned to the
right. A cell may hold several lines of text; colours are drawn over a cell with its padding.
-/

namespace FieldNorm.Table

/-- How a cell is set off. -/
inductive Emphasis
  | plain | bold | boldCyan
deriving DecidableEq

/-- A cell: its lines and how it is set off. -/
structure Cell where
  lines : List (List Char)
  emphasis : Emphasis

/-- The cell of a text; a line break at its end leaves an empty line behind it. -/
def Cell.ofText (emphasis : Emphasis) (text : String) : Cell :=
  ⟨carryMarks [] (Text.cut '\n' text.toList), emphasis⟩

/-- A table: header and rows, each a left and a right cell. -/
structure Grid where
  header : Cell × Cell
  rows : List (Cell × Cell)

namespace Grid

def maximum (ns : List Nat) : Nat := ns.foldl max 0

def Cell.width (cell : Cell) : Nat := maximum (cell.lines.map Text.width)

/-- The width of a column, without padding. -/
def columnWidth (cells : List Cell) : Nat := maximum (cells.map Cell.width)

/-- A line of a cell between the frames of its column. -/
def padded (toRight : Bool) (width : Nat) (line : List Char) : List Char :=
  let gap := List.replicate (width - Text.width line) ' '
  ' ' :: (if toRight then gap ++ line else line ++ gap) ++ [' ']

/-- A text set off as its cell demands. -/
def emphasized (isStyled : Bool) (emphasis : Emphasis) (text : List Char) : List Char :=
  let bold := ['\x1b', '[', '1', 'm']
  let cyan := "\x1b[38;5;14m".toList
  if !isStyled then text
  else match emphasis with
    | .plain => text
    | .bold => bold ++ text ++ reset
    | .boldCyan => cyan ++ bold ++ text ++ reset

/-- The lines of a row. A cell with fewer lines than the other one is blank below. -/
def rowLines (isStyled : Bool) (left right : Nat) (row : Cell × Cell) : List (List Char) :=
  let count := max row.1.lines.length row.2.lines.length
  let draw (toRight : Bool) (width : Nat) (cell : Cell) (i : Nat) : List Char :=
    emphasized isStyled cell.emphasis (padded toRight width (cell.lines[i]?.getD []))
  (List.range count).map fun i =>
    '│' :: draw false left row.1 i ++ '┆' :: draw true right row.2 i ++ ['│']

/-- A horizontal line. -/
def rule (left right : Nat) (start stroke cross stop : Char) : List Char :=
  start :: List.replicate (left + 2) stroke ++ cross :: List.replicate (right + 2) stroke ++
    [stop]

/-- The lines of the table. -/
def draw (isStyled : Bool) (g : Grid) : List (List Char) :=
  let left := columnWidth (g.header.1 :: g.rows.map (·.1))
  let right := columnWidth (g.header.2 :: g.rows.map (·.2))
  [rule left right '╭' '─' '┬' '╮'] ++ rowLines isStyled left right g.header ++
    [rule left right '╞' '═' '╪' '╡'] ++ g.rows.flatMap (rowLines isStyled left right) ++
    [rule left right '╰' '─' '┴' '╯']

end Grid

end FieldNorm.Table
