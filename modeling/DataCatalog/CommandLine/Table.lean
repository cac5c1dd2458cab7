import DataCatalog.Text.Blank
import DataCatalog.Text.Width

/-!
# Tables of texts

A table has a header and rows of cells, drawn with lines between them.  A cell may have several
lines; a column is as wide as the longest line in it, with a blank on either side.
-/

set_option autoImplicit false

namespace DataCatalog

/-- A header, and rows with as many cells. -/
structure Table where
  header : List String
  rows : List (List String)

namespace Table

/-- The lines of a cell. -/
def cellLines (cell : String) : List String := Text.split '\n' cell

/-- The width of the longest line of a cell. -/
def cellWidth (cell : String) : Nat :=
  (cellLines cell).foldl (fun widest line => max widest (Text.width line)) 0

/-- The wider of each two columns; a missing column is as wide as nothing. -/
def widest : List Nat → List Nat → List Nat
  | [], bs => bs
  | as, [] => as
  | a :: as, b :: bs => max a b :: widest as bs

/-- The widths of the columns. -/
def widths (t : Table) : List Nat :=
  (t.header :: t.rows).foldl (fun acc row => widest acc (row.map cellWidth)) []

/-- A text with a character repeated behind it. -/
def repeated (c : Char) (n : Nat) : String := String.ofList (List.replicate n c)

/-- A line between rows: its left end, the line itself, what crosses it, and its right end. -/
def rule (columns : List Nat) (left : String) (line : Char) (cross right : String) : String :=
  left ++ cross.intercalate (columns.map fun w => repeated line (w + 2)) ++ right

/-- One line of a row. -/
def rowLine (columns : List Nat) (cells : List String) : String :=
  "│" ++ "┆".intercalate ((columns.zip cells).map fun (w, line) =>
    " " ++ line ++ repeated ' ' (w - Text.width line) ++ " ") ++ "│"

/-- The lines of a row. -/
def rowLines (columns : List Nat) (cells : List String) : List String :=
  let parts := cells.map cellLines
  let height := parts.foldl (fun tallest lines => max tallest lines.length) 0
  (List.range height).map fun i => rowLine columns (parts.map fun lines => lines.getD i "")

/-- The table with its lines. -/
def draw (t : Table) : String :=
  let columns := t.widths
  let between := rule columns "├" '╌' "┼" "┤"
  "\n".intercalate
    (rule columns "┌" '─' "┬" "┐" :: rowLines columns t.header ++
      rule columns "╞" '═' "╪" "╡" ::
        ((t.rows.map (rowLines columns)).intersperse [between]).flatten ++
      [rule columns "└" '─' "┴" "┘"])

end Table

end DataCatalog
