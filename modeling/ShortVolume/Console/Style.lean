import ShortVolume.Console.Color
set_option autoImplicit false

/-!
Styles of text, written as words: attributes, colors, and links.

Two texts that ask for the same style have one canonical text. It names the attributes in a fixed
order, then the color, the color behind the text, and the link.
-/

namespace ShortVolume.Console

/-- What a style may do to letters. -/
inductive Attribute where
  | bold
  | dim
  | italic
  | underline
  | blink
  | blinkFast
  | reverse
  | conceal
  | strike
  | underlineDouble
  | frame
  | encircle
  | overline
  deriving DecidableEq, Repr

namespace Attribute

/-- All attributes, in the order of the canonical text. -/
def all : List Attribute :=
  [bold, dim, italic, underline, blink, blinkFast, reverse, conceal, strike, underlineDouble, frame,
    encircle, overline]

def name : Attribute → String
  | bold => "bold"
  | dim => "dim"
  | italic => "italic"
  | underline => "underline"
  | blink => "blink"
  | blinkFast => "blink2"
  | reverse => "reverse"
  | conceal => "conceal"
  | strike => "strike"
  | underlineDouble => "underline2"
  | frame => "frame"
  | encircle => "encircle"
  | overline => "overline"

def short? : Attribute → Option String
  | bold => some "b"
  | dim => some "d"
  | italic => some "i"
  | underline => some "u"
  | reverse => some "r"
  | conceal => some "c"
  | strike => some "s"
  | underlineDouble => some "uu"
  | overline => some "o"
  | blink | blinkFast | frame | encircle => none

/-- The attribute with a name or a short name. -/
def ofWord? (s : String) : Option Attribute :=
  all.find? (fun a => a.name == s || a.short? == some s)

@[simp] theorem ofWord?_name (a : Attribute) : ofWord? a.name = some a := by
  cases a <;> decide

end Attribute

/-- A style. Of the attributes only those are listed that it sets or takes away, the last one
first. -/
structure Style where
  attributes : List (Attribute × Bool) := []
  color : Option String := none
  background : Option String := none
  link : Option String := none
  deriving DecidableEq, Repr

namespace Style

/-- Why words are no style. -/
inductive Fault where
  | unknownWord (word : String)
  | missingWord (after : String)
  /-- A color lacks one of its amounts. -/
  | missingAmount (word : String)
  deriving DecidableEq, Repr

def colorOf (word : String) : Except Fault String :=
  let color := Text.lower word
  match Color.isColor color.toList with
  | .ok true => .ok color
  | .ok false => .error (.unknownWord word)
  | .error () => .error (.missingAmount word)

/-- The style of words, which change a style given before. -/
def ofWords : Style → List String → Except Fault Style
  | s, [] => .ok s
  | s, w :: r =>
    match Text.lower w, r with
    | "on", [] => .error (.missingWord "on")
    | "on", c :: r =>
      match colorOf c with
      | .ok c => ofWords { s with background := some c } r
      | .error f => .error f
    | "not", [] => .error (.missingWord "not")
    | "not", a :: r =>
      match Attribute.ofWord? a with
      | some a => ofWords { s with attributes := (a, false) :: s.attributes } r
      | none => .error (.unknownWord a)
    | "link", [] => .error (.missingWord "link")
    | "link", l :: r => ofWords { s with link := some l } r
    | word, r =>
      match Attribute.ofWord? word with
      | some a => ofWords { s with attributes := (a, true) :: s.attributes } r
      | none =>
        match colorOf word with
        | .ok c => ofWords { s with color := some c } r
        | .error f => .error f

/-- The words for an attribute, if the style says anything about it. -/
def attributeWords (s : Style) (a : Attribute) : List String :=
  match s.attributes.find? (fun e => e.1 == a) with
  | some (_, true) => [a.name]
  | some (_, false) => ["not", a.name]
  | none => []

/-- The words of the canonical text. -/
def words (s : Style) : List String :=
  Attribute.all.flatMap s.attributeWords ++ s.color.toList ++
    s.background.toList.flatMap (fun c => ["on", c]) ++ s.link.toList.flatMap (fun l => ["link", l])

def text (s : Style) : String := if s.words.isEmpty then "none" else " ".intercalate s.words

/-- The style that a text asks for. -/
def ofText (s : List Char) : Except Fault Style :=
  if Text.trim s == "none".toList then .ok {}
  else ofWords {} ((Text.words s).map String.ofList)

/-- A color that lacks one of its amounts. -/
structure MissingAmount where
  word : String
  deriving DecidableEq, Repr

/-- The canonical text of a style, or a text that is none in small letters. -/
def canonical (s : List Char) : Except MissingAmount String :=
  match ofText s with
  | .ok style => .ok style.text
  | .error (.missingAmount word) => .error ⟨word⟩
  | .error _ => .ok (Text.lower (String.ofList (Text.trim s)))

example : (canonical "red not b".toList).toOption = some "not bold red" ∧
    (canonical "i on #FF0000 b".toList).toOption = some "bold italic on #ff0000" := by decide +kernel

end Style

end ShortVolume.Console
