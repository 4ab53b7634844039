import Underwriting.Text.Control
import Underwriting.Text.Glyph
import Underwriting.Text.Split

/-!
Tables drawn with lines. Every column is as wide as its widest cell, with a blank on either side; a
cell may have several lines, and styles inside it end with each line. What does not divide evenly
around centred text goes to its left.

The width of a table is not limited. An arrangement that narrows columns and wraps their text until a
table fits a width of 120 is left out, so a table that is wider than this keeps its long lines.
-/

namespace Underwriting.Command

inductive Alignment
  | left
  | centre
  | right
deriving DecidableEq

structure Column where
  header : String
  alignment : Alignment

structure Ruling where
  between : Char
  betweenRows : Bool

structure Grid where
  columns : List Column
  rows : List (List String)
  ruling : Ruling

namespace Grid

def blanks (count : Nat) : List Char := List.replicate count ' '

def lineWidth (line : List Char) : Nat := Text.displayWidth (Text.shownText line)

def padded (alignment : Alignment) (width : Nat) (line : List Char) : List Char :=
  let free := width - lineWidth line
  match alignment with
  | .left => line ++ blanks free
  | .right => blanks free ++ line
  | .centre => blanks ((free + 1) / 2) ++ line ++ blanks (free / 2)

def linesOf (cell : String) : List (List Char) :=
  Text.closeStyles [] (Text.splitAt '\n' cell.toList)

def cellWidth (cell : String) : Nat := ((linesOf cell).map lineWidth).foldl max 0

def headers (grid : Grid) : List String := grid.columns.map (·.header)

def widths (grid : Grid) : List Nat :=
  (grid.headers :: grid.rows).foldl
    (fun widths cells => (widths.zip cells).map fun (width, cell) => max width (cellWidth cell))
    (grid.columns.map fun _ => 0)

def joinCells (separator : Char) (cells : List (List Char)) : List Char :=
  ([separator] : List Char).intercalate cells

def rule (grid : Grid) (left line cross right : Char) : List Char :=
  left :: joinCells cross (grid.widths.map fun width => List.replicate (width + 2) line) ++ [right]

def rowLine (grid : Grid) (cells : List String) (index : Nat) : List Char :=
  let parts := ((grid.columns.zip grid.widths).zip cells).map fun ((column, width), cell) =>
    ' ' :: padded column.alignment width ((linesOf cell).getD index []) ++ [' ']
  '│' :: joinCells grid.ruling.between parts ++ ['│']

def rowLines (grid : Grid) (cells : List String) : List (List Char) :=
  let height := (cells.map fun cell => (linesOf cell).length).foldl max 1
  (List.range height).map (grid.rowLine cells)

def ruledRows (grid : Grid) : List (List String) → List (List Char)
  | [] => []
  | [row] => grid.rowLines row
  | row :: next :: rest =>
      grid.rowLines row ++ (if grid.ruling.betweenRows then [grid.rule '├' '─' '┼' '┤'] else []) ++
        grid.ruledRows (next :: rest)

def lines (grid : Grid) : List (List Char) :=
  grid.rule '╭' '─' '┬' '╮' :: grid.rowLines grid.headers ++
    grid.rule '╞' '═' '╪' '╡' :: grid.ruledRows grid.rows ++ [grid.rule '╰' '─' '┴' '╯']

def toText (grid : Grid) : String :=
  String.join (grid.lines.map fun line => String.ofList line ++ "\n")

end Grid

end Underwriting.Command
