import ShortVolume.Console.Grapheme
import ShortVolume.Text.Blank
set_option autoImplicit false

/-!
Breaking lines that are wider than the room they have.

A line is broken before a word that does not fit. A word that fits on no line is broken inside, or
is cut off with an ellipsis.
-/

namespace ShortVolume.Console

/-- What becomes of a word that is wider than a line. -/
inductive Overflow where
  | fold
  | ellipsis
  deriving DecidableEq, Repr

/-- The parts of a line between its tabs, each but the last with blanks up to the next column that
`size` divides. -/
def tabbed (size : Nat) (room : List Char → Nat) : Nat → List (List Char) → List Char
  | _, [] => []
  | _, [part] => part
  | column, part :: r =>
    let column := column + room (part ++ [' '])
    let spaces := (size - column % size) % size
    part ++ ' ' :: (List.replicate spaces ' ' ++ tabbed size room (column + spaces) r)

/-- Tabs become spaces up to the next column that `size` divides; `room` measures a part. -/
def expandTabs (size : Nat) (room : List Char → Nat) (s : List Char) : List Char :=
  tabbed size room 0 (Text.splitOn '\t' s)

/-- The words of a line: each with the blanks after it, the first with those before it too. -/
def wordsFrom : Nat → List Char → List (List Char)
  | 0, _ => []
  | n + 1, s =>
    let lead := s.takeWhile Text.isBlank
    let s' := s.dropWhile Text.isBlank
    let core := s'.takeWhile (fun c => !Text.isBlank c)
    let r := s'.dropWhile (fun c => !Text.isBlank c)
    if core.isEmpty then []
    else (lead ++ core ++ r.takeWhile Text.isBlank) :: wordsFrom n (r.dropWhile Text.isBlank)

/-- The pieces of a word, each as wide as the room allows; `piece` holds the graphemes of the
present one, the last one first. -/
def chopped (width : Nat) : List Grapheme → List Grapheme → Nat → List (List Char)
  | [], piece, _ => [textOf piece.reverse]
  | g :: r, piece, used =>
    if width < used + g.cells then textOf piece.reverse :: chopped width r [g] g.cells
    else chopped width r (g :: piece) (used + g.cells)

/-- The lines so far, the last one first, and how much room the last one takes. -/
structure Lines where
  done : List (List Char)
  last : List Char
  used : Nat

namespace Lines

/-- Starts a new line with a text. -/
def next (l : Lines) (s : List Char) : Lines := ⟨l.last :: l.done, s, cells s⟩

/-- Starts a new line, unless the last one is still the first and empty. -/
def start (l : Lines) (s : List Char) : Lines :=
  if l.last.isEmpty ∧ l.done.isEmpty then ⟨[], s, cells s⟩ else l.next s

/-- Goes on with a word. -/
def add (o : Overflow) (width : Nat) (l : Lines) (word : List Char) : Lines :=
  let n := cells (word.takeWhile Text.isBlank ++ Text.trim word)
  if l.used + n ≤ width then ⟨l.done, l.last ++ word, l.used + cells word⟩
  else if n ≤ width then l.next word
  else
    match o with
    | .ellipsis => l.start word
    | .fold =>
      match chopped width (graphemes word) [] 0 with
      | [] => l
      | piece :: rest => rest.foldl next (l.start piece)

end Lines

/-- The graphemes that fit into a width. A blank stands for a wide one that has only half of its
room. -/
def cut : Nat → List Grapheme → List Char
  | _, [] => []
  | width, g :: r =>
    if g.cells ≤ width then g.chars ++ cut (width - g.cells) r
    else if width = 0 then []
    else [' ']

/-- A line cut off where it has no room. -/
def crop (width : Nat) (s : List Char) : List Char :=
  if cells s ≤ width then s else cut width (graphemes s)

/-- A line without the blanks at its end that make it too long, and with an ellipsis in place of
what still has no room. -/
def fit (width : Nat) (s : List Char) : List Char :=
  let blanks := (s.reverse.takeWhile Text.isBlank).length
  let s := s.take (s.length - min blanks (s.length - width))
  if cells s ≤ width then s else crop (width - 1) s ++ ['…']

/-- A line broken before words. One of blanks alone is not broken. -/
def brokenAtWords (o : Overflow) (width : Nat) (s : List Char) : List (List Char) :=
  match wordsFrom (s.length + 1) s with
  | [] => [s]
  | words =>
    let l := words.foldl (Lines.add o width) ⟨[], [], 0⟩
    (l.last :: l.done).reverse

/-- A line broken to a width. -/
def wrap (o : Overflow) (width : Nat) (s : List Char) : List (List Char) :=
  let lines := brokenAtWords o width (expandTabs 8 cells s)
  match o with
  | .fold => lines
  | .ellipsis => lines.map (fit width)

/-- The lines of a text, broken to a width. -/
def wrapText (o : Overflow) (width : Nat) (s : List Char) : List (List Char) :=
  (Text.splitOn '\n' s).flatMap (wrap o width)

example : wrap .fold 5 "ab cd efghijk".toList = ["ab cd ".toList, "efghi".toList, "jk".toList] := by
  decide +kernel

example : wrap .ellipsis 5 "ab cd efghijk".toList = ["ab cd".toList, "efgh…".toList] := by
  decide +kernel

end ShortVolume.Console
