import ShortVolume.Text
set_option autoImplicit false

/-!
Why a text is no JSON document, and where.
-/

namespace ShortVolume.Json

/-- What was found wrong. -/
inductive Cause where
  | byteOrderMark
  | expectedValue
  | expectedName
  | expectedColon
  | expectedComma
  | extraData
  | unterminatedString
  | controlCharacter
  | badEscape
  | badCodeEscape
  deriving DecidableEq, Repr

def Cause.text : Cause → String
  | byteOrderMark => "Unexpected UTF-8 BOM (decode using utf-8-sig)"
  | expectedValue => "Expecting value"
  | expectedName => "Expecting property name enclosed in double quotes"
  | expectedColon => "Expecting ':' delimiter"
  | expectedComma => "Expecting ',' delimiter"
  | extraData => "Extra data"
  | unterminatedString => "Unterminated string starting at"
  | controlCharacter => "Invalid control character at"
  | badEscape => "Invalid \\escape"
  | badCodeEscape => "Invalid \\uXXXX escape"

/-- Why a document cannot be read: it breaks the grammar at a place, or it holds an integer too
long to be taken. -/
inductive Error where
  | grammar (cause : Cause) (place : Nat)
  | longInteger
  deriving DecidableEq, Repr

/-- The line of a place, from one, and its column on that line, from one. -/
def lineColumn (s : List Letter) (place : Nat) : Nat × Nat :=
  (s.take place).foldl (fun p c => if c = Letter.char '\n' then (p.1 + 1, 1) else (p.1, p.2 + 1)) (1, 1)

/-- The sentence for a cause at a place of a text. -/
def Cause.message (c : Cause) (s : List Letter) (place : Nat) : String :=
  let p := lineColumn s place
  c.text ++ ": line " ++ toString p.1 ++ " column " ++ toString p.2 ++
    " (char " ++ toString place ++ ")"

end ShortVolume.Json
