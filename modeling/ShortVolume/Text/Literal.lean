import ShortVolume.Text
import ShortVolume.Text.Printable
set_option autoImplicit false

/-!
Quoted literals, as messages show texts and bytes.

A text stands between single quotes, or between double quotes when it has single ones and no double
one. The quote, the backslash, unprintable characters and halves of pairs are escaped.
-/

namespace ShortVolume.Text

/-- The lower-case hexadecimal digits of `n`, at least `width` of them. -/
def hex (width n : Nat) : List Char :=
  let ds := Nat.toDigits 16 n
  List.replicate (width - ds.length) '0' ++ ds

/-- The escape of a character by its code point, in two, four or eight digits. -/
def escapeCode (c : Char) : List Char :=
  let n := c.toNat
  if n < 0x100 then '\\' :: 'x' :: hex 2 n
  else if n < 0x10000 then '\\' :: 'u' :: hex 4 n
  else '\\' :: 'U' :: hex 8 n

/-- The letter that names a blank in its escape. -/
def blankLetter? : Char → Option Char
  | '\t' => some 't'
  | '\n' => some 'n'
  | '\r' => some 'r'
  | _ => none

/-- A character as it stands between quotes of a kind. -/
def escapeChar (quote c : Char) : List Char :=
  match blankLetter? c with
  | some letter => ['\\', letter]
  | none =>
    if c = quote ∨ c = '\\' then ['\\', c]
    else if isPrintable c then [c]
    else escapeCode c

/-- A letter as it stands between quotes of a kind; a half is always escaped. -/
def escapeLetter (quote : Char) : Letter → List Char
  | .char c => escapeChar quote c
  | .half h => '\\' :: 'u' :: hex 4 (Letter.half h).toNat

/-- The quote that a literal of these letters uses. -/
def quoteFor (s : List Letter) : Char :=
  if s.contains (.char '\'') && !s.contains (.char '"') then '"' else '\''

def literal (t : Text) : String :=
  let q := quoteFor t.toList
  String.ofList (q :: (t.toList.flatMap (escapeLetter q) ++ [q]))

/-- The literal of a byte string; bytes that are no printable ASCII are escaped. -/
def bytesLiteral (bs : List UInt8) : String :=
  let cs := bs.map (fun b => Char.ofNat b.toNat)
  let q := quoteFor (letters cs)
  let one (c : Char) : List Char := if 0x7F ≤ c.toNat then escapeCode c else escapeChar q c
  String.ofList ('b' :: q :: (cs.flatMap one ++ [q]))

example : literal "it's" = "\"it's\"" := by decide +kernel
example : literal "a'b\"c" = "'a\\'b\"c'" := by decide +kernel
example : literal ⟨[.char 'a',.half 0x3D]⟩ = "'a\\ud83d'" := by decide +kernel

end ShortVolume.Text
