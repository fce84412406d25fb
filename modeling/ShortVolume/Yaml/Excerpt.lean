import ShortVolume.Yaml.Charset
import ShortVolume.Yaml.Error
set_option autoImplicit false

/-!
What an error says, with the lines of the text that it is about.

Of a long line only the part around the place is shown.
-/

namespace ShortVolume.Yaml

namespace Excerpt

/-- The most characters that are shown on either side of a place without being cut. -/
def reach : Nat := 36

/-- How many are shown if there are more. -/
def shortReach : Nat := 32

/-- The characters next to a place, and what stands for the others. -/
def clipped (s : List Char) : List Char × List Char :=
  if s.length ≤ reach then (s, []) else (s.take shortReach, " ... ".toList)

theorem length_clipped (s : List Char) : (clipped s).1.length ≤ reach := by
  unfold clipped
  split
  · assumption
  · exact Nat.le_trans (List.length_take_le _ _) (by decide)

/-- The number of a line, that of the first being one. -/
def lineNumber (before : List Char) : Nat := (Place.start before |>.advance before.length).line + 1

/-- The line around the place after `n` characters, and a mark under that place. -/
def around (text : List Char) (n : Nat) : String :=
  let before := text.take n
  let (left, head) := clipped (before.reverse.takeWhile (fun c => !isStop c))
  let (right, tail) := clipped ((text.drop n).takeWhile (fun c => !isStop c))
  let indent := List.replicate 4 ' '
  String.ofList (indent ++ head ++ left.reverse ++ right ++ tail ++ '\n' ::
      (indent ++ List.replicate (head.length + left.length) ' ')) ++
    "^ (line: " ++ toString (lineNumber before) ++ ")"

example : around "a: 1\nb: 2".toList 8 = "    b: 2\n       ^ (line: 2)" := by decide +kernel

end Excerpt

namespace Error

/-- The lines of the text around an optional place. -/
def excerpts (text : List Char) : Option Nat → List Text
  | some n => [Excerpt.around text n]
  | none => []

/-- What the error says about a text: what was being read, unless the error shows right there, what is
wrong, and where. -/
def report (e : Error) (text : List Char) : Text :=
  if e.cause.isOfText then
    let character : String := match e.cause, e.place with
      | .malformed what, some n =>
        if what.showsCharacter then
          ": " ++ Text.literal (String.singleton ((text.drop n).headD theEnd))
        else ""
      | _, _ => ""
    Text.intercalate "\n" ((if e.around = e.place then [] else excerpts text e.around) ++
      [e.cause.message ++ character] ++ excerpts text e.place)
  else e.cause.message

end Error

/-- How errors are worded, given the text that each is about. -/
abbrev Wording := Error → List Char → Text

end ShortVolume.Yaml
