set_option autoImplicit false

/-!
The character classes of YAML, and a place in a text.

Reading past the last character gives the character NUL, which no text may hold, so that NUL stands
for the end in every class.
-/

namespace ShortVolume.Yaml

structure Version where
  major : Nat
  minor : Nat
  deriving DecidableEq, Repr

namespace Version

def v1_1 : Version := ⟨1, 1⟩

def v1_2 : Version := ⟨1, 2⟩

/-- Whether there are rules for the plain scalars of a version. -/
def isRuled (v : Version) : Bool := v == v1_1 || v == v1_2

/-- Whether a version comes after 1.1. -/
def isLate (v : Version) : Bool := 1 < v.major || (v.major == 1 && 1 < v.minor)

end Version

/-- The end of the text, as a character. -/
def theEnd : Char := '\x00'

/-- The characters that a text may hold. -/
def isAllowed (c : Char) : Bool :=
  let n := c.toNat
  n == 0x09 || n == 0x0A || n == 0x0D || (0x20 ≤ n && n ≤ 0x7E) || n == 0x85 ||
    (0xA0 ≤ n && n ≤ 0xD7FF) || (0xE000 ≤ n && n ≤ 0xFFFD) || 0x10000 ≤ n

/-- Characters that break a line. -/
def isBreak (c : Char) : Bool :=
  c == '\n' || c == '\r' || c == '\x85' || c == '\u2028' || c == '\u2029'

/-- The end of the text or of a line. -/
def isStop (c : Char) : Bool := c == theEnd || isBreak c

/-- A stop, a space or a tab. -/
def isGap (c : Char) : Bool := isStop c || c == ' ' || c == '\t'

/-- The end of the text, a space or any line break. -/
def isBlankOrBreak (c : Char) : Bool := c == theEnd || c == ' ' || isBreak c

/-- The marks of a byte order. -/
def byteOrderMark : Char := '\uFEFF'

def isIndicator (c : Char) : Bool := "-?:,[]\x7b\x7d#&*!|>'\"%@`".toList.contains c

def isFlowIndicator (c : Char) : Bool := ",[]\x7b\x7d".toList.contains c

def isAsciiLetter (c : Char) : Bool := ('a' ≤ c && c ≤ 'z') || ('A' ≤ c && c ≤ 'Z')

def isDigit (c : Char) : Bool := '0' ≤ c && c ≤ '9'

def isHexDigit (c : Char) : Bool :=
  isDigit c || ('a' ≤ c && c ≤ 'f') || ('A' ≤ c && c ≤ 'F')

/-- Characters of a name: all visible ones but the marks of a flow collection. -/
def isAnchorChar (c : Char) : Bool :=
  let n := c.toNat
  !isFlowIndicator c &&
    ((0x21 ≤ n && n ≤ 0x7E) || (0xA0 ≤ n && n ≤ 0xD7FF) ||
      (0xE000 ≤ n && n ≤ 0xFFFD && c != byteOrderMark) || 0x10000 ≤ n)

/-- Characters of a tag's address. -/
def isAddressChar (v : Version) (c : Char) : Bool :=
  isAsciiLetter c || isDigit c || "-;/?:@&=+$,_.!~*'()[]%".toList.contains c ||
    (v.isLate && c == '#')

/-- A place in a text: the text from there on, the number of characters before it, its line and its
column. -/
structure Place where
  rest : List Char
  index : Nat
  line : Nat
  column : Nat
  deriving Repr

namespace Place

def start (text : List Char) : Place := ⟨text, 0, 0, 0⟩

def char (p : Place) : Char := p.rest.headD theEnd

def charAt (p : Place) (n : Nat) : Char := (p.rest.drop n).headD theEnd

/-- The place after one character. A carriage return before a line feed does not end the line, and
a byte order mark has no width. -/
def next (p : Place) : Place :=
  match p.rest with
  | [] => p
  | c :: r =>
    if c = '\n' ∨ (c = '\r' ∧ r.head? ≠ some '\n') then ⟨r, p.index + 1, p.line + 1, 0⟩
    else ⟨r, p.index + 1, p.line, if c = byteOrderMark then p.column else p.column + 1⟩

def advance : Nat → Place → Place
  | 0, p => p
  | n + 1, p => advance n p.next

/-- The characters that belong to a class, from the place on. -/
def span (p : Place) (inClass : Char → Bool) : List Char := p.rest.takeWhile inClass

/-- The place after the characters that belong to a class. -/
def skip (p : Place) (inClass : Char → Bool) : Place := p.advance (p.span inClass).length

def skipSpaces (p : Place) : Place := p.skip (· == ' ')

/-- The line break at the place, as it is kept, and the place after it. Only the separators of
lines and paragraphs are kept as they are. -/
def lineBreak? (p : Place) : Option (Char × Place) :=
  match p.rest with
  | '\r' :: '\n' :: _ => some ('\n', p.advance 2)
  | c :: _ =>
    if c = '\u2028' ∨ c = '\u2029' then some (c, p.next)
    else if isBreak c then some ('\n', p.next)
    else none
  | [] => none

/-- The place after the line break, if there is one. -/
def skipBreak (p : Place) : Place :=
  match p.lineBreak? with
  | some (_, q) => q
  | none => p

/-- Whether three equal characters followed by a gap stand here. -/
def isMarker (p : Place) (c : Char) : Bool :=
  p.rest.take 3 == [c, c, c] && isGap (p.charAt 3)

/-- Whether a marker of a document's start or end stands here. -/
def atMarker (p : Place) : Bool := p.isMarker '-' || p.isMarker '.'

end Place

end ShortVolume.Yaml
