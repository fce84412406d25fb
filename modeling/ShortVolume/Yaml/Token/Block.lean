import ShortVolume.Yaml.Token
set_option autoImplicit false

/-!
Block scalars: the lines below a header, less their common indentation.

A literal keeps its line breaks. In a folded scalar a single break between two lines that start with
no blank becomes a space, and one before empty lines vanishes.
-/

namespace ShortVolume.Yaml.Block

/-- What happens to the line breaks at the end: all but the first are dropped, all are, or none. -/
inductive Chomp where
  | clip
  | strip
  | keep
  deriving DecidableEq, Repr

/-- The header: how the end is treated, and the indentation if it is given. -/
structure Header where
  chomp : Chomp
  increment : Option Nat
  deriving Repr

def chomp? (c : Char) : Option Chomp :=
  if c = '+' then some .keep else if c = '-' then some .strip else none

def increment? (c : Char) : Option Nat :=
  if isDigit c then some (c.toNat - '0'.toNat) else none

/-- The indicators of the header, in either order. -/
def indicators (p : Place) : Header × Place :=
  match chomp? p.char, increment? p.char with
  | some c, _ =>
    match increment? p.next.char with
    | some n => (⟨c, some n⟩, p.advance 2)
    | none => (⟨c, none⟩, p.next)
  | none, some n =>
    match chomp? p.next.char with
    | some c => (⟨c, some n⟩, p.advance 2)
    | none => (⟨.clip, some n⟩, p.next)
  | none, none => (⟨.clip, none⟩, p)

/-- The header, and the place after its line. -/
def header (p : Place) : Except Error (Header × Place) :=
  let (h, q) := indicators p
  if h.increment = some 0 || !isBlankOrBreak q.char then fail .blockHeader q
  else
    let r := q.skipSpaces
    let r := if r.char = '#' then r.skip (fun c => !isStop c) else r
    if isStop r.char then .ok (h, r.skipBreak) else fail .blockHeader r

/-- The place after the spaces of an indentation, of which at most `indent` columns are taken. -/
def skipIndent (indent : Nat) (p : Place) : Place :=
  p.advance (min (indent - p.column) (p.span (· == ' ')).length)

/-- The breaks of empty lines before a line at the given indentation. -/
def emptyLines (indent : Nat) : Nat → Place → List Char × Place
  | 0, p => ([], p)
  | n + 1, p =>
    let q := skipIndent indent p
    match q.lineBreak? with
    | some (c, r) =>
      let (cs, e) := emptyLines indent n r
      (c :: cs, e)
    | none => ([], q)

/-- The empty lines before the first line when no indentation is given: their breaks, the column of
the first of them, and the greatest column reached. -/
structure Lead where
  breaks : List Char
  first : Option Nat
  widest : Nat

def lead : Nat → Place → Lead → Lead × Place
  | 0, p, l => (l, p)
  | n + 1, p, l =>
    match p.lineBreak? with
    | some (c, q) =>
      lead n q { l with breaks := l.breaks ++ [c], first := some (l.first.getD p.column) }
    | none =>
      if p.char = ' ' then lead n p.next { l with widest := max l.widest p.next.column }
      else (l, p)

/-- Whether an empty line is indented less than the first line after it. -/
def Lead.isRagged (l : Lead) : Bool :=
  match l.first with
  | some n => 0 < n && n < l.widest
  | none => false

/-- The lines read so far: their text, the break after the last of them, and the breaks of the
empty lines that follow it. -/
structure Body where
  text : List Char
  lastBreak : Option Char
  breaks : List Char

def joint (folded blankFirst : Bool) (b : Body) (next : Char) : List Char :=
  if folded && b.lastBreak == some '\n' && !blankFirst && next != ' ' && next != '\t' then
    (if b.breaks.isEmpty then [' '] else [])
  else b.lastBreak.toList

/-- The lines at an indentation. Where the indentation may be none, a marker of a document ends
them. -/
def body (folded flush : Bool) (indent : Nat) : Nat → Place → List Char → Body × Place
  | 0, p, breaks => (⟨[], none, breaks⟩, p)
  | n + 1, p, breaks =>
    if p.column ≠ indent || p.char = theEnd then (⟨[], none, breaks⟩, p)
    else
      let line := breaks ++ p.span (fun c => !isStop c)
      let q := p.skip (fun c => !isStop c)
      let (more, r) := emptyLines indent (q.rest.length + 1) q.skipBreak
      let b : Body := ⟨line, q.lineBreak?.map Prod.fst, more⟩
      if (flush && r.column = 0 && r.atMarker) || r.column ≠ indent || r.char = theEnd then (b, r)
      else
        let (b', e) := body folded flush indent n r more
        let blankFirst := p.char == ' ' || p.char == '\t'
        ({ b' with text := line ++ joint folded blankFirst b r.char ++ b'.text }, e)

/-- The text with what its end keeps. -/
def Body.close (b : Body) : Chomp → List Char
  | .clip => b.text ++ b.lastBreak.toList
  | .strip => b.text
  | .keep => b.text ++ b.lastBreak.toList ++ b.breaks

/-- The block scalar at the place, inside a collection indented by `indent`. -/
def scan (indent : Int) (p : Place) : Except Error (String × Place) := do
  let folded := p.char == '>'
  let (h, q) ← inside p (header p.next)
  let least := (indent + 1).toNat
  let fuel := q.rest.length + 1
  match h.increment with
  | some n =>
    let width := max least 1 + n - 1
    let (breaks, r) := emptyLines width fuel q
    let (b, e) := body folded false width fuel r breaks
    return (String.ofList (b.close h.chomp), e)
  | none =>
    let (l, r) := lead fuel q ⟨[], none, 0⟩
    if l.isRagged then fail .indentation r
    else
      let (b, e) := body folded (least == 0) (max least l.widest) fuel r l.breaks
      return (String.ofList (b.close h.chomp), e)

end ShortVolume.Yaml.Block
