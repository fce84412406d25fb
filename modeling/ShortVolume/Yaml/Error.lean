import ShortVolume.Text.Literal
set_option autoImplicit false

/-!
Why a text gives no documents, and where in the text that shows.
-/

namespace ShortVolume.Yaml

/-- What is wrong with the tokens of a text. -/
inductive Malformed where
  | character
  | directive
  | anchor
  | tag
  | blockHeader
  | indentation
  | quote
  | escape
  | marker
  | entry
  | key
  | value
  | token
  deriving DecidableEq, Repr

/-- Why a text gives no documents. -/
inductive Cause where
  /-- The text has no tokens from some place on. -/
  | malformed (what : Malformed)
  /-- A token of one name stands where something else is expected. -/
  | misplaced (wanted found : String)
  | repeatedDirective
  | foreignVersion
  | unknownHandle (handle : String)
  | unknownAnchor (name : String)
  | unknownTag (address : String)
  /-- The content of a node does not suit its tag. -/
  | content
  /-- The content of a node is no moment. -/
  | moment (content : Text)
  /-- A map has a key twice: with one value, and first with another. -/
  | repeatedKey (key value first : Text)
  | repeatedMerge
  | keyKind
  | merge
  /-- The version has no rules for plain scalars. -/
  | unruledVersion
  /-- The version that a directive declares is not among those that are read. -/
  | undefinedVersion
  /-- An escape names a number beyond the last character. -/
  | codePoint
  /-- An escape names a number beyond all that are tried as characters. -/
  | hugeCodePoint
  /-- No truth value has this name. -/
  | truthName (name : Text)
  /-- The text of a number has no digits at all. -/
  | emptyNumber
  | number (digits : Text)
  /-- A number has too many digits to be shown. -/
  | longNumber
  | date
  /-- A time that is rounded up lies after the last year. -/
  | beyondCalendar
  /-- A list stands inside a list that is a key. -/
  | listInKey
  | repeatedPair
  deriving DecidableEq, Repr

namespace Malformed

def message : Malformed → String
  | character => "special characters are not allowed"
  | directive => "a directive cannot be read"
  | anchor => "a name cannot be read"
  | tag => "a tag cannot be read"
  | blockHeader => "the header of a block cannot be read"
  | indentation => "an empty line is indented more than the first line"
  | quote => "the text ends inside quotes"
  | escape => "an escape cannot be read"
  | marker => "a document ends inside quotes"
  | entry => "an item is not allowed here"
  | key => "a key is not allowed here, or has no colon"
  | value => "a value is not allowed here"
  | token => "no token can start here"

/-- Whether the message goes on with the character at the place. -/
def showsCharacter : Malformed → Bool
  | directive | anchor | tag | blockHeader | escape | token => true
  | _ => false

end Malformed

namespace Cause

/-- Whether the text is at fault as a text of nodes, and not some scalar in it. -/
def isOfText : Cause → Bool
  | unruledVersion | undefinedVersion | codePoint | hugeCodePoint | truthName _ | emptyNumber
  | number _ | longNumber | date | beyondCalendar | listInKey | repeatedPair => false
  | _ => true

def message : Cause → Text
  | malformed what => what.message
  | misplaced wanted found => "expected " ++ wanted ++ ", but found " ++ Text.literal found
  | repeatedDirective => "a directive is given twice"
  | foreignVersion => "a version other than 1.x is asked for"
  | unknownHandle handle => "no directive declares the handle " ++ Text.literal handle
  | unknownAnchor name => "no node has the anchor " ++ Text.literal name
  | unknownTag address => "no type has the tag " ++ Text.literal address
  | content => "the content of a node does not suit its tag"
  | moment s => "no moment is written \"" ++ s ++ "\""
  | repeatedKey key value first =>
    "found duplicate key \"" ++ key ++ "\" with value \"" ++ value ++ "\" (first value: \"" ++
      first ++ "\")"
  | repeatedMerge => "found duplicate key \"<<\""
  | keyKind => "a map or a set is a key"
  | merge => "a merged value is neither a map nor a list of maps"
  | unruledVersion => "the version has no rules for plain scalars"
  | undefinedVersion => "a version other than 1.1 and 1.2 is declared"
  | repeatedPair => ""
  | codePoint => "an escape names no character"
  | hugeCodePoint => "an escape names a number too large for a character"
  | truthName name => Text.literal name
  | emptyNumber => "a number has no digits"
  | number digits => "no number is written " ++ Text.literal digits
  | longNumber => "a number has too many digits to be shown"
  | date => "a date is not in the calendar"
  | beyondCalendar => "a time lies after the end of the calendar"
  | listInKey => "a list stands inside a key"

end Cause

/-- Why a text gives no documents, with the number of characters before the place where that shows,
and before what was being read there. -/
structure Error where
  cause : Cause
  around : Option Nat
  place : Option Nat
  deriving DecidableEq, Repr

namespace Error

/-- An error of a cause that has no place yet. -/
def of (cause : Cause) : Error := ⟨cause, none, none⟩

def at_ (place : Nat) (e : Error) : Error := { e with place := some place }

/-- The error inside of what starts at a place. -/
def within (around : Nat) (e : Error) : Error := { e with around := some around }

end Error

end ShortVolume.Yaml
