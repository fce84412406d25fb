import ShortVolume.Console.Line
import ShortVolume.Number.Natural
set_option autoImplicit false

/-!
Tables: rows of cells in columns as wide as their widest cell.

When the columns together have no room, the widest are narrowed first, down to the next one, and
cells are broken into lines.
-/

namespace ShortVolume.Console

/-- A table, with the texts of its cells. -/
structure Table where
  title : String
  header : List String
  rows : List (List (List Char))
  deriving Repr

namespace Table

/-- The blanks beside a cell. -/
def padding : Nat := 2

/-- The room of a text that is not broken. -/
def naturalWidth (s : List Char) : Nat :=
  ((Text.lines s).map cells).foldl max 0

/-- Takes `excess` from the widths that are `widest`, of which there are `n`: the same from each, as
far as integers go, and from none more than `most`. -/
def narrow (widest most : Nat) : Nat → Nat → List Nat → List Nat
  | _, _, [] => []
  | excess, n, w :: r =>
    if w = widest then
      let taken := min most (roundHalfEven excess n)
      (w - taken) :: narrow widest most (excess - taken) (n - 1) r
    else w :: narrow widest most excess n r

/-- The room of columns together. -/
def total : List Nat → Nat
  | [] => 0
  | w :: r => w + total r

/-- Narrows columns until they fit into the room, in at most `n` steps. -/
def collapse (room : Nat) : Nat → List Nat → List Nat
  | 0, ws => ws
  | n + 1, ws =>
    let excess := total ws - room
    if excess = 0 then ws
    else
      let widest := ws.foldl max 0
      let second := (ws.filter (· != widest)).foldl max 0
      collapse room n
        (narrow widest (min excess (widest - second)) excess (ws.count widest) ws)

/-- The cells of a column, the header's first. -/
def column (t : Table) (k : Nat) : List (List Char) :=
  (t.header.map String.toList :: t.rows).map (fun row => row.getD k [])

/-- The widths of the columns, with the blanks beside the cells. There is a rule before each column
and after the last one. -/
def widths (t : Table) : List Nat :=
  let room := width - (t.header.length + 1)
  let natural := (List.range t.header.length).map (fun k =>
    min room (((t.column k).map naturalWidth).foldl max 0 + padding))
  collapse room (total natural) natural

/-- The lines of a row: the first lines of all cells side by side, then the second ones, and so
on. -/
def rowLines (ws : List Nat) (row : List (List Char)) : List String :=
  let cells := List.zipWith (fun w s => wrapText .ellipsis (w - padding) s) ws row
  let height := (cells.map List.length).foldl max 0
  (List.range height).flatMap (fun k =>
    seen ([' '].intercalate (cells.map (fun c => c.getD k []))))

/-- The lines that are seen of a table. -/
def lines (t : Table) : List String :=
  let ws := t.widths
  seen t.title.toList ++ (t.header.map String.toList :: t.rows).flatMap (rowLines ws)

example : collapse 10 20 [4, 12, 2] = [4, 4, 2] := by decide +kernel
example : collapse 10 20 [9, 7, 2] = [4, 4, 2] := by decide +kernel

example : lines ⟨"T", ["A", "B"], [["x".toList, "y\nz".toList]]⟩ = ["T", "A B", "x y", "z"] := by
  decide +kernel

end Table

end ShortVolume.Console
