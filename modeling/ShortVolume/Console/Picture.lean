import ShortVolume.Console.Picture.Names
import ShortVolume.Text.Blank
import ShortVolume.Text.Case
set_option autoImplicit false

/-!
Pictures by their names: a name between colons stands for a picture, unless no picture has it.
-/

namespace ShortVolume.Console.Picture

/-- What follows a name in a list of names and pictures. -/
def after (name : String) : List String → Option String
  | n :: p :: r => if n = name then some p else after name r
  | _ => none

/-- The picture with a name, in any case. -/
def ofName? (name : List Char) : Option (List Char) :=
  (after (Text.lower (String.ofList name)) (names.flatMap (fun l => l.splitOn " "))).map String.toList

/-- A name without an ending that asks for a plain or for a coloured picture, and the mark which
makes the picture so. -/
def variant (name : List Char) : List Char × List Char :=
  if "-emoji".toList.isSuffixOf name then (name.take (name.length - 6), ['\ufe0f'])
  else if "-text".toList.isSuffixOf name then (name.take (name.length - 5), ['\ufe0e'])
  else (name, [])

/-- The picture that the text between two colons stands for, or that text as it is. -/
def shown (inner : List Char) : List Char :=
  let (name, mark) := variant inner
  match ofName? name with
  | some p => p ++ mark
  | none => ':' :: inner ++ [':']

/-- The text up to the next colon and what follows it, if no blank comes before. -/
def upToColon? (s : List Char) : Option (List Char × List Char) :=
  let inText (c : Char) : Bool := c != ':' && !Text.isBlank c
  match s.dropWhile inText with
  | ':' :: rest => some (s.takeWhile inText, rest)
  | _ => none

/-- A text of at most `n` characters with pictures for their names. -/
def replaceNames : Nat → List Char → List Char
  | 0, s => s
  | _, [] => []
  | n + 1, c :: r =>
    if c = ':' then
      match upToColon? r with
      | some (inner, rest) => shown inner ++ replaceNames n rest
      | none => c :: replaceNames n r
    else c :: replaceNames n r

/-- A text with pictures for their names. -/
def inText (s : List Char) : List Char :=
  if s.contains ':' then replaceNames s.length s else s

end ShortVolume.Console.Picture
