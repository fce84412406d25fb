import ShortVolume.Yaml.Token
set_option autoImplicit false

/-!
Plain scalars: words without quotes.

A word ends at a gap, before a colon that a gap follows and, inside a flow collection, at the marks
of the collection. The scalar goes on over lines that are indented enough.
-/

namespace ShortVolume.Yaml.Plain

/-- Where a scalar stands: whether inside a flow collection, below which indentation, and under
which version. -/
structure Setting where
  flow : Bool
  indent : Int
  version : Version

/-- Whether a plain scalar can start with the character `c` before `d`. -/
def canStart (s : Setting) (c d : Char) : Bool :=
  if !(c == '\t' || isBlankOrBreak c || isIndicator c) then true
  else if s.version != .v1_1 && s.flow && c == ':' && d != ' ' && d != '\t' then true
  else !isGap d && (c == '-' || (!s.flow && (c == '?' || c == ':')))

/-- The number of characters of the word at the start of a text. -/
def wordLength (s : Setting) : List Char → Nat
  | [] => 0
  | c :: r =>
    let d := r.headD theEnd
    if c == ':' && !isGap d then wordLength s r + 1
    else if c == '?' && s.version != .v1_1 then wordLength s r + 1
    else if isGap c || (c == ':' && !s.flow) || (s.flow && (isFlowIndicator c || c == ':' || c == '?'))
    then 0
    else wordLength s r + 1

/-- The line breaks of empty lines and the place before the next word, unless a marker of a document
comes first. -/
def emptyLines : Nat → Place → Option (List Char) × Place
  | 0, p => (some [], p)
  | n + 1, p =>
    let q := p.skipSpaces
    match q.lineBreak? with
    | none => (some [], q)
    | some (c, r) =>
      if r.atMarker then (none, r)
      else
        let (cs, e) := emptyLines n r
        (cs.map (c :: ·), e)

/-- What stands between two words: nothing if the scalar ends here, and whether a line ended. -/
structure Gap where
  text : List Char
  newLine : Bool

def gap (p : Place) : Gap × Place :=
  let spaces := p.span (· == ' ')
  let q := p.advance spaces.length
  match q.lineBreak? with
  | none => (⟨spaces, false⟩, q)
  | some (c, r) =>
    if r.atMarker then (⟨[], true⟩, r)
    else
      match emptyLines (r.rest.length + 1) r with
      | (none, e) => (⟨[], true⟩, e)
      | (some cs, e) =>
        (⟨if c ≠ '\n' then c :: cs else if cs.isEmpty then [' '] else cs, true⟩, e)

/-- A scalar as it was read: whether a line ended after its last word. -/
structure Scanned where
  text : List Char
  newLine : Bool

/-- The words from the place on, each after the gap before it. -/
def words (s : Setting) : Nat → Place → Gap → Scanned × Place
  | 0, p, before => (⟨[], before.newLine⟩, p)
  | n + 1, p, before =>
    let length := if p.char = '#' then 0 else wordLength s p.rest
    if length = 0 then (⟨[], before.newLine⟩, p)
    else
      let word := before.text ++ p.rest.take length
      let (g, q) := gap (p.advance length)
      if g.text.isEmpty || q.char = '#' || (!s.flow && (q.column : Int) < s.indent + 1) then
        (⟨word, g.newLine⟩, q)
      else
        let (rest, e) := words s n q g
        ({ rest with text := word ++ rest.text }, e)

def scan (s : Setting) (p : Place) : Scanned × Place :=
  words s (p.rest.length + 1) p ⟨[], false⟩

end ShortVolume.Yaml.Plain
