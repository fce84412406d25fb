import ShortVolume.Console.Wrap
set_option autoImplicit false

/-!
What a reader sees of printed text: the words of its lines. Rules, and how many blanks there are,
do not count, and a line without words is not seen. Only a line feed starts a line.
-/

namespace ShortVolume.Console

/-- The room of a line, in cells. -/
def width : Nat := 400

/-- Characters that rules and boxes are drawn with. -/
def isRule (c : Char) : Bool := 0x2500 ≤ c.toNat && c.toNat ≤ 0x257F

def isSpacing (c : Char) : Bool := isRule c || Text.isBlank c

/-- The words of a line with one blank between two of them. -/
def tidied (s : List Char) : String :=
  " ".intercalate ((Text.wordsBy isSpacing s).map String.ofList)

/-- The lines that are seen of a text. -/
def seen (s : List Char) : List String :=
  ((Text.splitOn '\n' s).map tidied).filter (fun l => l != "")

/-- The lines that are seen of a text with breaks where it has no room. -/
def printed (room : Nat) (s : List Char) : List String :=
  (wrapText .fold room s).flatMap seen

example : seen "│ a \t b │\n──\n".toList = ["a b"] := by decide +kernel

end ShortVolume.Console
