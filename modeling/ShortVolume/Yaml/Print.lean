import ShortVolume.Yaml.Style
import ShortVolume.Value.Literal
import ShortVolume.Text.Base64
set_option autoImplicit false

/-!
The text of a document in block style.

The entries of a map are indented by two columns. The items of a list get four, of which two stand
before the dash and one after it; a list under a key starts at the column of the key. A line that
grows beyond its width is broken inside a quoted scalar, and a word longer than the width gets a
line of its own.
-/

namespace ShortVolume.Yaml

/-- The column beyond which a scalar is broken. -/
def lineWidth : Nat := 4096

/-- Keys whose text and tag come to this many characters are announced by a question mark. -/
def simpleKeyBound : Nat := 128

/-- What a value has no text for: its kind, or its many digits. -/
inductive Unprintable where
  | kind (v : Value)
  | longInteger
  deriving Repr

/-- What has been written, the last character first, and where it ends: the column, whether a blank
was last, and whether only indentation stands on the line. -/
structure Pen where
  out : List Char
  column : Nat
  spaced : Bool
  fresh : Bool

namespace Pen

def start : Pen := ⟨[], 0, true, true⟩

def text (p : Pen) : List Char := p.out.reverse

def put (p : Pen) (s : List Char) : Pen :=
  { p with out := s.reverse ++ p.out, column := p.column + s.length }

def breakWith (p : Pen) (c : Char) : Pen := ⟨c :: p.out, 0, true, true⟩

def newLine (p : Pen) : Pen := p.breakWith '\n'

/-- Goes to a column, on a new line unless only indentation stands on this one. -/
def indentTo (p : Pen) (column : Nat) : Pen :=
  let p :=
    if !p.fresh || column < p.column || (p.column == column && !p.spaced) then p.newLine else p
  if p.column < column then
    { p.put (List.replicate (column - p.column) ' ') with spaced := true }
  else p

/-- Writes a mark, after a blank if one is needed; `fresh` keeps a line of mere indentation so. -/
def mark (p : Pen) (s : List Char) (blankBefore fresh : Bool) : Pen :=
  let q := p.put (if p.spaced || !blankBefore then s else ' ' :: s)
  { q with spaced := false, fresh := p.fresh && fresh }

/-- Marks that a word has been written. -/
def settle (p : Pen) : Pen := { p with spaced := false, fresh := false }

end Pen

/-! ### Scalars -/

/-- The kinds of characters that scalars are broken at. -/
inductive Grain where
  | space
  | lineEnd
  | word
  deriving DecidableEq

def Grain.of (c : Char) : Grain :=
  if c = ' ' then space else if Style.isLineEnd c then lineEnd else word

/-- The longest pieces of one grain each. -/
def pieces : List Char → List (List Char)
  | [] => []
  | c :: r =>
    match pieces r with
    | (d :: p) :: rest =>
      if Grain.of c = Grain.of d then (c :: d :: p) :: rest else [c] :: (d :: p) :: rest
    | rest => [c] :: rest

/-- Writes line ends: one more line feed than there are, so that folding keeps them. -/
def putLineEnds (p : Pen) (indent : Nat) (s : List Char) : Pen :=
  let p := if s.head? = some '\n' then p.newLine else p
  (s.foldl Pen.breakWith p).indentTo indent

def putPlain (p : Pen) (indent : Nat) (mayBreak : Bool) (s : List Char) : Pen :=
  if s.isEmpty then p
  else
    let p := if p.spaced then p else p.put [' ']
    (pieces s).foldl (fun p s =>
      match Grain.of (s.headD 'x') with
      | .space =>
        if s.length = 1 && lineWidth ≤ p.column && mayBreak then (p.indentTo indent).settle
        else p.put s
      | .lineEnd => (putLineEnds p indent s).settle
      | .word =>
        let p := if lineWidth < p.column + s.length && indent < p.column then p.indentTo indent else p
        p.put s) p.settle

/-- A word between single quotes: each of its quotes is written twice. -/
def doubled (s : List Char) : List Char :=
  s.flatMap (fun c => if c = '\'' then ['\'', '\''] else [c])

/-- Writes the pieces between single quotes. A single space may become a line break unless it is at
an end. -/
def putSinglePieces (indent : Nat) (mayBreak : Bool) : Bool → List (List Char) → Pen → Pen
  | _, [], p => p
  | first, s :: rest, p =>
    let p := match Grain.of (s.headD 'x') with
      | .space =>
        if s.length = 1 && lineWidth < p.column && mayBreak && !first && !rest.isEmpty then
          p.indentTo indent
        else p.put s
      | .lineEnd => putLineEnds p indent s
      | .word => p.put (doubled s)
    putSinglePieces indent mayBreak false rest p

def putSingle (p : Pen) (indent : Nat) (mayBreak : Bool) (s : List Char) : Pen :=
  (putSinglePieces indent mayBreak true (pieces s) (p.mark ['\''] true false)).mark ['\''] false
    false

/-- The letter of a character's escape. -/
def escapeLetter? (c : Char) : Option Char :=
  match c with
  | '\x00' => some '0'
  | '\x07' => some 'a'
  | '\x08' => some 'b'
  | '\t' => some 't'
  | '\n' => some 'n'
  | '\x0b' => some 'v'
  | '\x0c' => some 'f'
  | '\r' => some 'r'
  | '\x1b' => some 'e'
  | '"' => some '"'
  | '\\' => some '\\'
  | '\x85' => some 'N'
  | '\u2028' => some 'L'
  | '\u2029' => some 'P'
  | _ => none

def isEscaped (c : Char) : Bool :=
  let n := c.toNat
  (escapeLetter? c).isSome || c == byteOrderMark ||
    !((0x20 ≤ n && n ≤ 0x7E) || (0xA0 ≤ n && n ≤ 0xD7FF) || (0xE000 ≤ n && n ≤ 0xFFFD) ||
      0x10000 ≤ n)

/-- The character that is written for a letter as it is. None is for half of a pair. -/
def ownChar? : Letter → Option Char
  | .char c => if isEscaped c then none else some c
  | .half _ => none

def upperHex (width n : Nat) : List Char :=
  let ds := (Nat.toDigits 16 n).map Char.toUpper
  List.replicate (width - ds.length) '0' ++ ds

/-- The escape of a letter: a short one, or its code point. -/
def escapeOf (l : Letter) : List Char :=
  match l.char?.bind escapeLetter? with
  | some e => ['\\', e]
  | none =>
    let n := l.toNat
    if n ≤ 0xFF then '\\' :: 'x' :: upperHex 2 n
    else if n ≤ 0xFFFF then '\\' :: 'u' :: upperHex 4 n
    else '\\' :: 'U' :: upperHex 8 n

def isSpace (l : Option Letter) : Bool := l == some (.char ' ')

/-- Whether a line broken before `s` reads back as a single space without a backslash: the letter
before the break and the next one are no spaces beside the break, and the word up to the next space
holds no quotes. -/
def foldsToSpace (before : Option Letter) (s : List Letter) : Bool :=
  let word := s.takeWhile (· != .char ' ')
  word.length < s.length && !word.contains (.char '"') && !word.contains (.char '\'') &&
    !isSpace s[1]? && !(isSpace before && isSpace s.head?)

/-- Writes the rest of a text between double quotes. `waiting` is what is not yet written, the last
character first. A line that is too wide is broken at a space or beside an escape, with a backslash
unless the break stands for the space. -/
def putDoubleRest (indent : Nat) (mayBreak : Bool) :
    List Letter → Option Letter → List Char → Pen → Pen
  | [], _, waiting, p => p.put waiting.reverse
  | l :: r, before, waiting, p =>
    let own := (ownChar? l).toList
    let escaped := own.isEmpty
    let p := if escaped then (p.put waiting.reverse).put (escapeOf l) else p
    let waiting := if escaped then [] else waiting
    let offset : Int := if escaped then -1 else waiting.length
    if before.isSome && !r.isEmpty && (isSpace (some l) || waiting.isEmpty) &&
        (lineWidth : Int) < p.column + offset && mayBreak then
      let folds := !waiting.isEmpty && foldsToSpace before (l :: r)
      let p := p.put (waiting.reverse ++ if folds then [] else ['\\'])
      let p := (p.indentTo indent).settle
      if folds then putDoubleRest indent mayBreak r (some l) [] p
      else
        let spaceNext := isSpace (if escaped then r.head? else some l)
        let p := if spaceNext then p.put ['\\'] else p
        putDoubleRest indent mayBreak r (some l) own p
    else putDoubleRest indent mayBreak r (some l) (own ++ waiting) p

def putDouble (p : Pen) (indent : Nat) (mayBreak : Bool) (s : List Letter) : Pen :=
  (putDoubleRest indent mayBreak s none [] (p.mark ['"'] true false)).mark ['"'] false false

/-- The tag and the content of a scalar. -/
def contentOf : Value → Except Unprintable (Tag × Text)
  | .null => .ok (.null, "")
  | .bool b => .ok (.bool, if b then "true" else "false")
  | .int i => if hasDigits i then .ok (.int, toString i) else .error .longInteger
  | .float x => .ok (.float, x.text ⟨".nan", ".inf", "-.inf"⟩)
  | .text s => .ok (.str, s)
  | .date d => .ok (.timestamp, d.text)
  | .time t => .ok (.timestamp, t.text " ")
  | v => .error (.kind v)

/-- Writes a scalar. Nothing stands for the empty value, except in a key. Only between double quotes
can half of a pair be written. -/
def putScalar (p : Pen) (indent : Nat) (key : Bool) (tag : Tag) (content : Text) : Pen :=
  let s : Text := if tag = .null && key then "null" else content
  match s.string?.map String.toList with
  | none => putDouble p indent (!key) s.toList
  | some cs =>
    match Style.choose tag key cs with
    | .plain => putPlain p indent (!key) cs
    | .single => putSingle p indent (!key) cs
    | .double => putDouble p indent (!key) s.toList

/-- Writes bytes under their tag: rows of characters of six bits, each on a line of its own. -/
def putBytes (p : Pen) (indent : Nat) (bs : List UInt8) : Pen :=
  let p := p.mark "!!binary".toList true false
  if bs.isEmpty then putSingle p indent true []
  else
    (Text.Base64.encodedRows bs).foldl (fun p row => ((p.indentTo indent).put row).newLine)
      (p.mark ['|'] true false).newLine

/-! ### Collections -/

/-- Where a value stands: as an item of a list or as a key or a value of a map. -/
inductive Role where
  | item
  | simpleKey
  | key
  | value
  deriving DecidableEq

/-- How many characters the short form of a tag has. -/
def Tag.width (t : Tag) : Nat :=
  match Tag.names.find? (fun e => e.2 == t) with
  | some (name, _) => name.length + 2
  | none => 0

/-- Whether a key can stand on one line before its colon. -/
def isSimpleKey : Value → Bool
  | .list xs | .tuple xs => xs.isEmpty
  | .map es => es.isEmpty
  | v =>
    match contentOf v with
    | .ok (tag, content) =>
      content.length + tag.width < simpleKeyBound && !content.toList.any (Letter.is Style.isLineEnd)
    | .error _ => false

/-- The indentation inside a part of a list or a map. -/
def deeper (indent : Nat) (role : Role) : Nat := indent + if role = .item then 4 else 2

/-- Writes an empty collection. -/
def putEmpty (p : Pen) (opening closing : Char) : Pen :=
  ((p.mark [opening] true false).mark [closing] false false).newLine

mutual

/-- Writes a value that stands in a role inside a collection indented by `indent`. -/
def putValue (role : Role) (indent : Nat) : Value → Pen → Except Unprintable Pen
  | .list [], p | .tuple [], p => .ok (putEmpty p '[' ']')
  | .list xs, p | .tuple xs, p =>
    putItems (if role ≠ .item && !p.fresh then indent else deeper indent role) xs p
  | .map [], p => .ok (putEmpty p '\x7b' '\x7d')
  | .map es, p => putEntries (deeper indent role) es p
  | .bytes bs, p =>
    let inner := deeper indent role
    .ok (putBytes (if role = .item then p.indentTo inner else p) inner bs)
  | v, p => do
    let (tag, content) ← contentOf v
    let inner := deeper indent role
    let p := if role = .item then p.indentTo inner else p
    return putScalar p inner (role = .simpleKey) tag content

def putItems (indent : Nat) : List Value → Pen → Except Unprintable Pen
  | [], p => .ok p
  | x :: r, p => do
    let p := (p.indentTo indent).mark [' ', ' ', '-'] true true
    let p ← putValue .item indent x p
    putItems indent r p

/-- Writes the entries of a map indented by `indent`. -/
def putEntries (indent : Nat) : List (Value × Value) → Pen → Except Unprintable Pen
  | [], p => .ok p
  | (k, v) :: r, p => do
    let p := p.indentTo indent
    let p ←
      if isSimpleKey k then do
        let p ← putValue .simpleKey indent k p
        pure (p.mark [':'] false false)
      else do
        let p ← putValue .key indent k (p.mark ['?'] true true)
        pure ((p.indentTo indent).mark [':'] true true)
    let p ← putValue .value indent v p
    putEntries indent r p

end

/-- The text of a document that is a map. -/
def print (es : Entries) : Except Unprintable String := do
  let p ← if es.isEmpty then .ok (putEmpty .start '\x7b' '\x7d') else putEntries 0 es .start
  return String.ofList (p.indentTo 0).text

end ShortVolume.Yaml
