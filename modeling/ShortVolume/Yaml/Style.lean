import ShortVolume.Yaml.Tag
set_option autoImplicit false

/-!
How a scalar is written: plain, or between single or double quotes.

A scalar is plain if its form gives its own tag and nothing in it could be taken for a mark. Single
quotes hold everything that needs no escape; a text with a quote or a line break gets double ones.
-/

namespace ShortVolume.Yaml

inductive Style where
  | plain
  | single
  | double
  deriving DecidableEq, Repr

namespace Style

/-- Characters that are written as line breaks. -/
def isLineEnd (c : Char) : Bool := c == '\n' || c == '\x85' || c == '\u2028' || c == '\u2029'

/-- Blanks and line breaks, which may stand before or after a mark. -/
def isSpacing (c : Char) : Bool := c == theEnd || c == '\t' || isBlankOrBreak c

/-- Characters that only an escape can write. -/
def isSpecial (c : Char) : Bool :=
  let n := c.toNat
  !(c == '\n' || (0x20 ≤ n && n ≤ 0x7E) ||
    ((n == 0x85 || (0xA0 ≤ n && n ≤ 0xD7FF) || (0xE000 ≤ n && n ≤ 0xFFFD) || 0x10000 ≤ n) &&
      c != byteOrderMark))

/-- Marks that no plain scalar may start with. -/
def isLeadMark (c : Char) : Bool := "#,[]\x7b\x7d&*!|>'\"%@`".toList.contains c

/-- Whether two neighbours of a text satisfy a relation. -/
def anyNeighbours (s : List Char) (p : Char → Char → Bool) : Bool :=
  (s.zip (s.drop 1)).any (fun e => p e.1 e.2)

def isMultiline (s : List Char) : Bool := s.any isLineEnd

/-- Whether a blank or a line break is the first or the last character. -/
def hasLooseEnd (s : List Char) : Bool :=
  let isLoose (c : Char) := c == ' ' || isLineEnd c
  isLoose (s.headD 'x') || isLoose (s.getLastD 'x')

/-- Whether a part of the text could be taken for a mark. -/
def hasMark (s : List Char) : Bool :=
  s.take 3 == ['-', '-', '-'] || s.take 3 == ['.', '.', '.'] ||
    (match s with
     | [] => false
     | c :: r =>
       isLeadMark c ||
         ((c == '?' || c == ':' || c == '-') && isSpacing (r.headD theEnd)) ||
         r.getLast? == some ':' ||
         anyNeighbours r (fun a b => a == ':' && isSpacing b)) ||
    anyNeighbours s (fun a b => isSpacing a && b == '#')

/-- Whether spaces and line breaks meet, which folding would change. -/
def meetsBreak (s : List Char) : Bool :=
  anyNeighbours s (fun a b => (a == ' ' && isLineEnd b) || (isLineEnd a && b == ' '))

def allowsPlain (s : List Char) : Bool :=
  !(hasLooseEnd s || hasMark s || isMultiline s || s.any isSpecial)

def allowsSingle (s : List Char) : Bool := !(s.any isSpecial || meetsBreak s)

/-- The style of a scalar with a tag. A key on one line may be neither empty nor of several lines
when it is plain, and has no line breaks between single quotes. -/
def choose (tag : Tag) (key : Bool) (s : List Char) : Style :=
  let own := match Tag.ofPlain .v1_2 (String.ofList s) with
    | .ok t => t == tag
    | .error _ => false
  if own && !(key && (s.isEmpty || isMultiline s)) && allowsPlain s then plain
  else if s.contains '\'' || s.contains '\n' then double
  else if allowsSingle s && !(key && isMultiline s) then single
  else double

end Style

end ShortVolume.Yaml
