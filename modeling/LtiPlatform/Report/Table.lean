import LtiPlatform.Text
import LtiPlatform.Text.Width

namespace LtiPlatform

/-- A table in box-drawing characters. A column is as wide as its widest line, and a row as high as its highest cell. -/
structure Table where
  header : List String
  rows : List (List String)
deriving DecidableEq, Repr, Inhabited

namespace Table

/-- The strokes of a horizontal rule: its ends, its line, and where it meets a column border. -/
structure Strokes where
  left : Char
  line : Char
  crossing : Char
  right : Char

def top : Strokes := ⟨'╭', '─', '┬', '╮'⟩

def belowHeader : Strokes := ⟨'╞', '═', '╪', '╡'⟩

def betweenRows : Strokes := ⟨'├', '╌', '┼', '┤'⟩

def bottom : Strokes := ⟨'╰', '─', '┴', '╯'⟩

def cellLines (cell : String) : List String := Text.split '\n' cell

def cellWidth (cell : String) : Nat := ((cellLines cell).map Text.width).foldl max 0

/-- The widths of the columns. -/
def widths (table : Table) : List Nat :=
  table.rows.foldl (fun widths row => List.zipWith max widths (row.map cellWidth))
    (table.header.map cellWidth)

def ruleLine (strokes : Strokes) (widths : List Nat) : String :=
  let segments := widths.map fun width => String.ofList (List.replicate (width + 2) strokes.line)
  strokes.left.toString ++ strokes.crossing.toString.intercalate segments ++ strokes.right.toString

/-- A line of a cell between blanks, filled up to the width of its column. -/
def padded (width : Nat) (text : String) : String :=
  " " ++ text ++ .ofList (List.replicate (width - Text.width text + 1) ' ')

/-- The lines of a row. -/
def rowLines (widths : List Nat) (row : List String) : List String :=
  let cells := row.map cellLines
  let height := (cells.map List.length).foldl max 0
  (List.range height).map fun place =>
    let texts := List.zipWith (fun width cell => padded width (cell[place]?.getD "")) widths cells
    "│" ++ "┆".intercalate texts ++ "│"

def lines (table : Table) : List String :=
  let widths := table.widths
  let body := (table.rows.map (rowLines widths)).intersperse [ruleLine betweenRows widths]
  ruleLine top widths :: rowLines widths table.header ++ ruleLine belowHeader widths ::
    body.flatten ++ [ruleLine bottom widths]

def render (table : Table) : String := "\n".intercalate table.lines

end Table

end LtiPlatform
