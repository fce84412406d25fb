import ShortVolume.Yaml.Token.Quoted
import ShortVolume.Yaml.Token.Block
import ShortVolume.Yaml.Token.Plain
import ShortVolume.Yaml.Token.Mark
set_option autoImplicit false

/-!
The tokens of a text.

Whether something is a key is known only when its colon comes. A token that may start a key is
remembered, and the announcement of the key is put before it afterwards. A key has to end on its
line and within 1024 characters.

A token is certain once no key can start at it or before it any more. Every token has the version
that was in force when it became certain.
-/

namespace ShortVolume.Yaml

/-- The two kinds of flow collections. -/
inductive Flow where
  | sequence
  | mapping
  deriving DecidableEq, Repr

/-- A token that may turn out to start a key. In a block map something at the map's own column has
to be one. -/
structure KeyStart where
  token : Nat
  required : Bool
  index : Nat
  line : Nat
  column : Nat
  deriving Repr

/-- The greatest length of a key that is not announced. -/
def keyLimit : Nat := 1024

/-- The state of reading: the tokens so far and the versions of those that are certain, the columns
of the open block collections, the open flow collections, and what may still turn out to be a key at
each depth of those. -/
structure Scanner where
  place : Place
  tokens : Array Lexeme
  versions : Array Version
  indent : Int
  outer : List Int
  flows : List Flow
  keyAllowed : Bool
  keys : List (Nat × KeyStart)
  version : Version

namespace Scanner

def start (text : List Char) : Scanner :=
  let p := Place.start text
  ⟨if p.char = byteOrderMark then p.next else p, #[], #[], -1, [], [], true, [], .v1_2⟩

def depth (s : Scanner) : Nat := s.flows.length

def inFlow (s : Scanner) : Bool := !s.flows.isEmpty

/-- A token at the place that no character belongs to. -/
def empty (s : Scanner) (t : Token) : Lexeme := ⟨t, s.place.index, s.place.index⟩

def push (s : Scanner) (t : Token) : Scanner := { s with tokens := s.tokens.push (s.empty t) }

/-- Puts a token before the one that starts a key. -/
def insert (s : Scanner) (k : KeyStart) (t : Token) : Scanner :=
  { s with tokens := s.tokens.insertIdxIfInBounds k.token ⟨t, k.index, k.index⟩ }

/-- Takes the token that ends before `p`. -/
def take (s : Scanner) (t : Token) (p : Place) : Scanner :=
  { s with tokens := s.tokens.push ⟨t, s.place.index, p.index⟩, place := p }

/-- Takes a token of `n` characters. -/
def takeMark (s : Scanner) (n : Nat) (t : Token) : Scanner := s.take t (s.place.advance n)

/-! ### Keys -/

/-- Drops the key starts that belong to a class. None of them may be required. -/
def drop (s : Scanner) (inClass : Nat × KeyStart → Bool) : Except Error Scanner :=
  match s.keys.find? (fun e => inClass e && e.2.required) with
  | some (_, k) => (fail .key s.place).mapError (Error.within k.index)
  | none => .ok { s with keys := s.keys.filter (fun e => !inClass e) }

/-- Drops the key starts that the place has left behind. -/
def dropStale (s : Scanner) : Except Error Scanner :=
  s.drop (fun e => e.2.line != s.place.line || keyLimit < s.place.index - e.2.index)

/-- Drops the key start of the current depth. -/
def dropKey (s : Scanner) : Except Error Scanner := s.drop (fun e => e.1 == s.depth)

/-- Remembers that the next token may start a key, if one may start here. -/
def saveKey (s : Scanner) : Except Error Scanner :=
  if !s.keyAllowed then .ok s
  else do
    let required := !s.inFlow && s.indent == (s.place.column : Int)
    let k : KeyStart :=
      ⟨s.tokens.size, required, s.place.index, s.place.line, s.place.column⟩
    let s ← s.dropKey
    return { s with keys := (s.depth, k) :: s.keys }

/-! ### Indentation -/

/-- Opens a block collection at a column if that is indented deeper, and says whether it did. -/
def addIndent (s : Scanner) (column : Nat) : Scanner × Bool :=
  if s.indent < column then
    ({ s with indent := column, outer := s.indent :: s.outer }, true)
  else (s, false)

/-- The indentation after all deeper ones are left, those outside of it, and how many were left. -/
def leave (column : Int) : Int → List Int → Int × List Int × Nat
  | indent, [] => (indent, [], 0)
  | indent, i :: outer =>
    if column < indent then
      let (j, rest, n) := leave column i outer
      (j, rest, n + 1)
    else (indent, i :: outer, 0)

/-- Closes the block collections that are indented deeper than a column. -/
def unwind (s : Scanner) (column : Int) : Scanner :=
  if s.inFlow then s
  else
    let (indent, outer, n) := leave column s.indent s.outer
    { s with indent, outer, tokens := s.tokens ++ Array.replicate n (s.empty .blockEnd) }

/-! ### Between tokens -/

/-- The place of the next token, after blanks, comments and line breaks, and whether a line
ended. -/
def nextPlace (inFlow : Bool) : Nat → Place → Bool → Place × Bool
  | 0, p, newLine => (p, newLine)
  | n + 1, p, newLine =>
    let q := p.skip (fun c => c == ' ' || (inFlow && c == '\t'))
    let q := if q.char = '#' then q.skip (fun c => !isStop c) else q
    match q.lineBreak? with
    | some (_, r) => nextPlace inFlow n r true
    | none => (q, newLine)

/-- Goes to the next token. In a block a new line may start with a key. -/
def toNext (s : Scanner) : Scanner :=
  let (p, newLine) := nextPlace s.inFlow (s.place.rest.length + 1) s.place false
  { s with place := p, keyAllowed := s.keyAllowed || (newLine && !s.inFlow) }

/-! ### Tokens -/

def fetchDirective (s : Scanner) : Except Error Scanner := do
  let s ← (s.unwind (-1)).dropKey
  let (t, p) ← inside s.place (Mark.directive s.version s.place)
  let version := match t with
    | .version v => v
    | _ => s.version
  return { s.take t p with keyAllowed := false, version }

def fetchMarker (s : Scanner) (t : Token) : Except Error Scanner := do
  let s ← (s.unwind (-1)).dropKey
  return { s.takeMark 3 t with keyAllowed := false }

/-- The end of a document. What follows it on its line is no comment and no line break. -/
def fetchDocumentEnd (s : Scanner) : Except Error Scanner :=
  let p := s.place.advance 3
  let q := (nextPlace s.inFlow (p.rest.length + 1) p false).1
  s.fetchMarker (.documentEnd (q.char != theEnd && q.line == p.line))

def fetchFlowStart (s : Scanner) (f : Flow) (t : Token) : Except Error Scanner := do
  let s ← s.saveKey
  return { s.takeMark 1 t with flows := f :: s.flows, keyAllowed := true }

def fetchFlowEnd (s : Scanner) (t : Token) : Except Error Scanner := do
  let s ← s.dropKey
  return { s.takeMark 1 t with flows := s.flows.drop 1, keyAllowed := false }

def fetchComma (s : Scanner) : Except Error Scanner := do
  let s ← s.dropKey
  return { s.takeMark 1 .comma with keyAllowed := true }

/-- Opens a block collection at the place, where a key has to be allowed. -/
def openBlock (s : Scanner) (t : Token) (what : Malformed) : Except Error Scanner :=
  if s.inFlow then .ok s
  else if !s.keyAllowed then fail what s.place
  else
    let (s, opened) := s.addIndent s.place.column
    .ok (if opened then s.push t else s)

def fetchItem (s : Scanner) : Except Error Scanner := do
  let s ← s.openBlock .blockSequence .entry
  let s ← s.dropKey
  return { s.takeMark 1 .item with keyAllowed := true }

def fetchKey (s : Scanner) : Except Error Scanner := do
  let s ← s.openBlock .blockMapping .key
  let s ← s.dropKey
  return { s.takeMark 1 .key with keyAllowed := !s.inFlow }

def fetchValue (s : Scanner) : Except Error Scanner :=
  match s.keys.find? (fun e => e.1 == s.depth) with
  | some (_, k) =>
    let s := { s with keys := s.keys.filter (fun e => e.1 != s.depth) }
    let s := s.insert k .key
    let (s, opened) := if s.inFlow then (s, false) else s.addIndent k.column
    let s := if opened then s.insert k .blockMapping else s
    .ok { s.takeMark 1 .value with keyAllowed := false }
  | none => do
    let s ← s.openBlock .blockMapping .value
    return { s.takeMark 1 .value with keyAllowed := !s.inFlow }

/-- A token that may be, or belong to, a key. -/
def fetchNode (s : Scanner) (read : Place → Except Error (Token × Place)) :
    Except Error Scanner := do
  let s ← s.saveKey
  let (t, p) ← inside s.place (read s.place)
  return { s.take t p with keyAllowed := false }

def fetchBlockScalar (s : Scanner) : Except Error Scanner := do
  let s ← s.dropKey
  let (text, p) ← Block.scan s.indent s.place
  return { s.take (.scalar text false) p with keyAllowed := true }

def setting (s : Scanner) : Plain.Setting := ⟨s.inFlow, s.indent, s.version⟩

def fetchPlain (s : Scanner) : Except Error Scanner := do
  let s ← s.saveKey
  let (r, p) := Plain.scan s.setting s.place
  return { s.take (.scalar (String.ofList r.text) true) p with keyAllowed := r.newLine }

def readAlias (p : Place) : Except Error (Token × Place) := do
  let (n, q) ← Mark.name p.next
  return (.alias n, q)

def readAnchor (p : Place) : Except Error (Token × Place) := do
  let (n, q) ← Mark.name p.next
  return (.anchor n, q)

def readQuoted (p : Place) : Except Error (Token × Place) := do
  let (t, q) ← Quoted.scan p
  return (.scalar t false, q)

/-- Whether the colon at the place ends a key. Inside flow collections it may stand before anything,
except where it would have to start a word. -/
def isValueMark (s : Scanner) (waiting : Bool) : Bool :=
  match s.flows with
  | [] => isGap (s.place.charAt 1)
  | f :: _ =>
    s.version == .v1_1 ||
      (match f with
       | .sequence => isGap (s.place.charAt 1)
       | .mapping => !(waiting && s.tokens.back?.map Lexeme.token == some .value) || isGap (s.place.charAt 1))

/-- Reads the token at the place, which is not the end; `waiting` tells whether a key start is still
undecided. -/
def fetchHere (s : Scanner) (waiting : Bool) : Except Error Scanner :=
  let c := s.place.char
  let gapNext := isGap (s.place.charAt 1)
  let lineStart := s.place.column == 0
  if c == '%' && lineStart then s.fetchDirective
  else if lineStart && s.place.isMarker '-' then s.fetchMarker .documentStart
  else if lineStart && s.place.isMarker '.' then s.fetchDocumentEnd
  else if c == '[' then s.fetchFlowStart .sequence .flowSequence
  else if c == '\x7b' then s.fetchFlowStart .mapping .flowMapping
  else if c == ']' then s.fetchFlowEnd .flowSequenceEnd
  else if c == '\x7d' then s.fetchFlowEnd .flowMappingEnd
  else if c == ',' then s.fetchComma
  else if c == '-' && gapNext then s.fetchItem
  else if c == '?' && (s.inFlow || gapNext) then s.fetchKey
  else if c == ':' && s.isValueMark waiting then s.fetchValue
  else if c == '*' then s.fetchNode readAlias
  else if c == '&' then s.fetchNode readAnchor
  else if c == '!' then s.fetchNode (Mark.tag s.version)
  else if (c == '|' || c == '>') && !s.inFlow then s.fetchBlockScalar
  else if c == '\'' || c == '"' then s.fetchNode readQuoted
  else if Plain.canStart s.setting c (s.place.charAt 1) then s.fetchPlain
  else fail .token s.place

/-- Closes everything at the end of the text. -/
def finish (s : Scanner) : Except Error Scanner := (s.unwind (-1)).dropKey

/-- Reads up to the end of the next token, and says whether the text has ended. -/
def step (s : Scanner) : Except Error (Scanner × Bool) := do
  let waiting := !s.keys.isEmpty
  let s ← s.toNext.dropStale
  let s := s.unwind s.place.column
  if s.place.char = theEnd then return (← s.finish, true)
  else return (← s.fetchHere waiting, false)

end Scanner

/-- The tokens of a text with their versions, up to the first error if there is one, the version in
force at the end, and the number of characters. -/
structure Tokens where
  list : List (Lexeme × Version)
  version : Version
  size : Nat
  error : Option Error

namespace Scanner

/-- The number of tokens that are certain: an undecided key start and all that follows it are
not. -/
def certain (s : Scanner) : Nat := s.keys.foldl (fun n k => min n k.2.token) s.tokens.size

/-- Gives the tokens that have become certain their version. -/
def settle (s : Scanner) (count : Nat) : Scanner :=
  { s with versions := s.versions ++ Array.replicate (count - s.versions.size) s.version }

/-- The certain tokens. -/
def settled (s : Scanner) (error : Option Error) : Tokens :=
  ⟨s.tokens.toList.zip s.versions.toList, s.version, s.place.index, error⟩

end Scanner

namespace Tokens

/-- Reads on to the end of the text. -/
def run : Nat → Scanner → Tokens
  | 0, s => (s.settle s.tokens.size).settled none
  | n + 1, s =>
    match s.dropStale with
    | .error e => (s.settle s.certain).settled (some e)
    | .ok s =>
      let s := s.settle s.certain
      match s.step with
      | .error e => s.settled (some e)
      | .ok (s, true) => (s.settle s.tokens.size).settled none
      | .ok (s, false) => run n s

/-- The tokens of a text. No text may hold a character outside the allowed ones. -/
def ofText (text : List Char) : Tokens :=
  if text.all isAllowed then run (text.length + 2) (Scanner.start text)
  else ⟨[], .v1_2, 0, some (.of (.malformed .character))⟩

end Tokens

end ShortVolume.Yaml
