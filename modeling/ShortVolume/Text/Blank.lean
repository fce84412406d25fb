set_option autoImplicit false

/-!
Blank characters, line boundaries, and the three ways a file may end its lines.
-/

namespace ShortVolume.Text

/-- Spaces, tabs, line and page boundaries, and the four information separators. -/
def isBlank (c : Char) : Bool :=
  let n := c.toNat
  (0x09 ≤ n && n ≤ 0x0D) || (0x1C ≤ n && n ≤ 0x20) || n == 0x85 || n == 0xA0 || n == 0x1680 ||
    (0x2000 ≤ n && n ≤ 0x200A) || n == 0x2028 || n == 0x2029 || n == 0x202F || n == 0x205F ||
    n == 0x3000

def isLineEnd (c : Char) : Bool :=
  let n := c.toNat
  (0x0A ≤ n && n ≤ 0x0D) || (0x1C ≤ n && n ≤ 0x1E) || n == 0x85 || n == 0x2028 || n == 0x2029

/-- What is left without blanks at either end. -/
def trimBy {α : Type} (isBlank : α → Bool) (s : List α) : List α :=
  ((s.dropWhile isBlank).reverse.dropWhile isBlank).reverse

def trim (s : List Char) : List Char := trimBy isBlank s

/-- The longest parts of a text without any of the characters that are gaps. -/
def wordsBy (isGap : Char → Bool) : List Char → List (List Char)
  | [] => []
  | c :: r =>
    if isGap c then wordsBy isGap r
    else match r, wordsBy isGap r with
      | [], _ => [[c]]
      | d :: _, ws =>
        if isGap d then [c] :: ws
        else match ws with
          | [] => [[c]]
          | w :: rest => (c :: w) :: rest

/-- The words of a text, which have blanks between them. -/
def words (s : List Char) : List (List Char) := wordsBy isBlank s

/-- The lines of a text, without their ends. A carriage return and a line feed end one line
together; a text that ends with a line end has no further, empty line. -/
def lines : List Char → List (List Char)
  | [] => []
  | '\r' :: '\n' :: r => [] :: lines r
  | c :: r =>
    if isLineEnd c then [] :: lines r
    else match r, lines r with
      | [], _ => [[c]]
      | d :: _, ls =>
        if isLineEnd d then [c] :: ls.drop 1
        else match ls with
          | [] => [[c]]
          | l :: rest => (c :: l) :: rest

/-- Every carriage return, with or without a line feed after it, becomes a line feed. -/
def unifyLineEnds : List Char → List Char
  | [] => []
  | '\r' :: '\n' :: r => '\n' :: unifyLineEnds r
  | c :: r => (if c = '\r' then '\n' else c) :: unifyLineEnds r

section Segments
variable {α : Type} [DecidableEq α]

/-- The segments between the occurrences of a separator; there is always one more than there are
separators. -/
def splitOn (sep : α) : List α → List (List α)
  | [] => [[]]
  | c :: r =>
    if c = sep then [] :: splitOn sep r
    else match splitOn sep r with
      | [] => [[c]]
      | l :: rest => (c :: l) :: rest

/-- The segments with the separator between them. -/
def joinWith {α : Type} (sep : α) : List (List α) → List α
  | [] => []
  | [l] => l
  | l :: rest => l ++ sep :: joinWith sep rest

theorem splitOn_ne_nil (sep : α) (s : List α) : splitOn sep s ≠ [] := by
  cases s with
  | nil => simp [splitOn]
  | cons c r => simp only [splitOn]; split <;> (try split) <;> simp

@[simp] theorem joinWith_splitOn (sep : α) (s : List α) : joinWith sep (splitOn sep s) = s := by
  induction s with
  | nil => rfl
  | cons c r ih =>
    simp only [splitOn]
    split
    · next h =>
      subst h
      cases hs : splitOn c r with
      | nil => exact absurd hs (splitOn_ne_nil c r)
      | cons l rest => rw [hs] at ih; simp [joinWith, ih]
    · cases hs : splitOn sep r with
      | nil => exact absurd hs (splitOn_ne_nil sep r)
      | cons l rest =>
        rw [hs] at ih
        cases rest with
        | nil => simp [joinWith] at ih ⊢; exact ih
        | cons l' rest' => simp [joinWith] at ih ⊢; exact ih

end Segments

example : words "  ab c\n".toList = ["ab".toList, "c".toList] := by decide
example : lines "a\r\nb\x0cc\n".toList = ["a".toList, "b".toList, "c".toList] := by decide
example : lines "\n\na".toList = [[], [], ['a']] := by decide

end ShortVolume.Text
