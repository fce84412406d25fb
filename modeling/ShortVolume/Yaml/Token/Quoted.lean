import ShortVolume.Yaml.Token
import ShortVolume.Text.Literal
set_option autoImplicit false

/-!
Quoted scalars.

Between single quotes only the quote is written twice; between double quotes a backslash starts an
escape. A line break folds into a space, and into nothing when empty lines follow, which are kept.
-/

namespace ShortVolume.Yaml.Quoted

/-- The character that an escape of one letter names. -/
def escape? (c : Char) : Option Char :=
  match c with
  | '0' => some '\x00'
  | 'a' => some '\x07'
  | 'b' => some '\x08'
  | 't' | '\t' => some '\t'
  | 'n' => some '\n'
  | 'v' => some '\x0b'
  | 'f' => some '\x0c'
  | 'r' => some '\r'
  | 'e' => some '\x1b'
  | ' ' => some ' '
  | '"' => some '"'
  | '/' => some '/'
  | '\\' => some '\\'
  | 'N' => some '\x85'
  | '_' => some '\xa0'
  | 'L' => some '\u2028'
  | 'P' => some '\u2029'
  | _ => none

/-- How many hexadecimal digits follow the letter of an escape. -/
def escapeWidth? (c : Char) : Option Nat :=
  match c with
  | 'x' => some 2
  | 'u' => some 4
  | 'U' => some 8
  | _ => none

def hexDigit (c : Char) : Nat :=
  if isDigit c then c.toNat - '0'.toNat
  else if 'a' ≤ c then c.toNat - 'a'.toNat + 10
  else c.toNat - 'A'.toNat + 10

def hexNumber (ds : List Char) : Nat := ds.foldl (fun n d => n * 16 + hexDigit d) 0

/-- The letter with a number. That of half of a pair gives the half, even right after the other. -/
def letterOf (n : Nat) : Except Error Letter :=
  if 0x7FFFFFFF < n then .error (.of .hugeCodePoint)
  else if 0x10FFFF < n then .error (.of .codePoint)
  else .ok (.ofNat n)

/-- The line breaks of empty lines, and the place after them and the blanks before the next word. A
marker of a document may not stand inside quotes. -/
def emptyLines : Nat → Place → Except Error (List Char × Place)
  | 0, p => fail .quote p
  | n + 1, p =>
    if p.atMarker then fail .marker p
    else
      let q := p.skip (fun c => c == ' ' || c == '\t')
      match q.lineBreak? with
      | none => .ok ([], q)
      | some (c, r) => do
        let (cs, e) ← emptyLines n r
        return (c :: cs, e)

/-- What an escape stands for, from the place after its backslash. -/
def escape (p : Place) : Except Error (List Letter × Place) :=
  match escape? p.char, escapeWidth? p.char with
  | some c, _ => .ok ([c], p.next)
  | none, some width => do
    let ds := p.next.rest.take width
    if ds.length = width && ds.all isHexDigit then
      let c ← letterOf (hexNumber ds)
      return ([c], p.next.advance width)
    else fail .escape p.next
  | none, none =>
    match p.lineBreak? with
    | some (_, q) => do
      let (cs, e) ← emptyLines (q.rest.length + 1) q
      return (Text.letters cs, e)
    | none => fail .escape p

/-- Characters of a word: neither blanks nor breaks nor quotes nor backslashes. -/
def isWordChar (c : Char) : Bool := !(isBlankOrBreak c || "\t'\"\\".toList.contains c)

/-- The next piece of a word, unless the word ends here. -/
def piece? (double : Bool) (p : Place) : Except Error (Option (List Letter × Place)) :=
  match p.span isWordChar with
  | c :: cs => .ok (some (Text.letters (c :: cs), p.skip isWordChar))
  | [] =>
    match p.char, double with
    | '\'', false =>
      if p.charAt 1 = '\'' then .ok (some (['\''], p.advance 2)) else .ok none
    | '\'', true => .ok (some (['\''], p.next))
    | '"', false => .ok (some (['"'], p.next))
    | '\\', false => .ok (some (['\\'], p.next))
    | '\\', true => do
      let (cs, q) ← escape p.next
      return some (cs, q)
    | _, _ => .ok none

/-- What the blanks or line breaks between two words stand for. -/
def gap (p : Place) : Except Error (List Char × Place) :=
  let blanks := p.span (fun c => c == ' ' || c == '\t')
  let q := p.advance blanks.length
  match q.lineBreak? with
  | some (c, r) => do
    let (cs, e) ← emptyLines (r.rest.length + 1) r
    return (if c ≠ '\n' then c :: cs else if cs.isEmpty then [' '] else cs, e)
  | none => if q.char = theEnd then fail .quote q else .ok (blanks, q)

/-- The content up to the closing quote, and the place after it. -/
def content (double : Bool) : Nat → Place → Except Error (List Letter × Place)
  | 0, p => fail .quote p
  | n + 1, p => do
    match ← piece? double p with
    | some (cs, q) =>
      let (rest, e) ← content double n q
      return (cs ++ rest, e)
    | none =>
      if p.char = (if double then '"' else '\'') then return ([], p.next)
      else
        let (cs, q) ← gap p
        let (rest, e) ← content double n q
        return (Text.letters cs ++ rest, e)

def scan (p : Place) : Except Error (Text × Place) := do
  let (cs, q) ← content (p.char == '"') (p.rest.length + 1) p.next
  return (⟨cs⟩, q)

end ShortVolume.Yaml.Quoted
