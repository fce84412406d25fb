import ShortVolume.Console.Cells
set_option autoImplicit false

/-!
Graphemes: the units in which a terminal shows a text.

A character without cells belongs to the one before it. A joiner holds the next character in the
same grapheme, and a mark that asks for a coloured picture makes a narrow sign a wide one. Main
statement: the graphemes of a text, one after the other, are the text.
-/

namespace ShortVolume.Console

/-- A character that is shown, with what belongs to it, and the cells that both take. -/
structure Grapheme where
  chars : List Char
  cells : Nat
  deriving DecidableEq, Repr

/-- The joiner of two characters into one picture. -/
def joiner : Char := '\u200d'

/-- The mark which asks for a coloured picture. -/
def pictureMark : Char := '\ufe0f'

namespace Grapheme

/-- A grapheme that is being read: its characters, the last one first, its cells, and whether a
mark can still make it wider. -/
structure Open where
  back : List Char
  cells : Nat
  widens : Bool

namespace Open

def close (o : Open) : Grapheme := ⟨o.back.reverse, o.cells⟩

def start (c : Char) : Open := ⟨[c], charCells c, widensAsPicture c⟩

/-- Goes on with a character that does not take cells of its own. -/
def take (o : Open) (c : Char) : Open := ⟨c :: o.back, o.cells, o.widens⟩

/-- Goes on with the mark for a coloured picture. -/
def mark (o : Open) : Open :=
  ⟨pictureMark :: o.back, if o.widens then o.cells + 1 else o.cells, false⟩

end Open

/-- The graphemes of the rest of a text. -/
def following (o : Open) : List Char → List Grapheme
  | [] => [o.close]
  | [c] =>
    if c = joiner then [(o.take c).close]
    else if c = pictureMark then [o.mark.close]
    else if charCells c = 0 then [(o.take c).close]
    else [o.close, (Open.start c).close]
  | c :: d :: r =>
    if c = joiner then following ((o.take c).take d) r
    else if c = pictureMark then following o.mark (d :: r)
    else if charCells c = 0 then following (o.take c) (d :: r)
    else o.close :: following (Open.start c) (d :: r)

end Grapheme

def graphemes : List Char → List Grapheme
  | [] => []
  | c :: r => Grapheme.following (.start c) r

def textOf (gs : List Grapheme) : List Char := gs.flatMap Grapheme.chars

def cellsOf : List Grapheme → Nat
  | [] => 0
  | g :: r => g.cells + cellsOf r

/-- The cells of a text. A joiner at the start hides the character after it. -/
def cells : List Char → Nat
  | c :: d :: r => if c = joiner then cells r else cellsOf (graphemes (c :: d :: r))
  | s => cellsOf (graphemes s)

theorem Grapheme.textOf_following (o : Open) (s : List Char) : textOf (following o s) = o.back.reverse ++ s := by
  fun_induction following o s <;>
    simp_all [textOf, Open.close, Open.take, Open.mark, Open.start]

@[simp] theorem textOf_graphemes (s : List Char) : textOf (graphemes s) = s := by
  cases s with
  | nil => rfl
  | cons c r => simp [graphemes, Grapheme.textOf_following, Grapheme.Open.start]

example : cells "a日\u0301".toList = 3 := by decide +kernel
example : cells "❤\ufe0f".toList = 2 := by decide +kernel
example : cells "👨\u200d👩\u200d👧".toList = 2 := by decide +kernel

end ShortVolume.Console
