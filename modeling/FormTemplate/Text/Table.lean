import FormTemplate.Text.Split
import FormTemplate.Unicode.Width

/-!
# Table — rows of cells inside a frame

`Text.table` draws a frame with rounded corners around a header and the rows below it, a rule
between the two.  Every column is as wide as its widest line, with a blank on both sides; cells of
several lines make their row higher.
-/

namespace FormTemplate
namespace Text

/-! ## Cells -/

abbrev Cell := List Char

def cellLines (c : Cell) : List (List Char) :=
  splitOnChar '\n' c

def cellWidth (c : Cell) : Nat :=
  ((cellLines c).map Unicode.width).foldl max 0

/-- A line of a cell with blanks up to a width. -/
def padLine (width : Nat) (line : List Char) : List Char :=
  line ++ List.replicate (width - Unicode.width line) ' '

/-! ## Rows -/

def columnWidths (header : List Cell) (rows : List (List Cell)) : List Nat :=
  rows.foldl (fun ws row => List.zipWith max ws (row.map cellWidth)) (header.map cellWidth)

/-- The lines of a row, each with one line of every cell. -/
def rowLines (row : List Cell) : List (List (List Char)) :=
  let height := (row.map fun c => (cellLines c).length).foldl max 0
  (List.range height).map fun i => row.map fun c => (cellLines c)[i]?.getD []

/-- A line of cells between bars. -/
def drawLine (widths : List Nat) (lines : List (List Char)) : List Char :=
  let cells := List.zipWith (fun w line => ' ' :: padLine w line ++ [' ']) widths lines
  '│' :: join ['│'] cells ++ ['│']

def drawRow (widths : List Nat) (row : List Cell) : List (List Char) :=
  (rowLines row).map (drawLine widths)

/-- A rule with the given ends and crossings. -/
def drawRule (left crossing right : Char) (widths : List Nat) : List Char :=
  left :: join [crossing] (widths.map fun w => List.replicate (w + 2) '─') ++ [right]

/-! ## Tables -/

def table (header : List Cell) (rows : List (List Cell)) : List Char :=
  let ws := columnWidths header rows
  join ['\n'] <|
    drawRule '╭' '┬' '╮' ws :: drawRow ws header ++
      drawRule '├' '┼' '┤' ws :: rows.flatMap (drawRow ws) ++ [drawRule '╰' '┴' '╯' ws]

end Text
end FormTemplate
