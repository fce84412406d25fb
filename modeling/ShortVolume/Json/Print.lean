import ShortVolume.Value.Literal
set_option autoImplicit false

/-!
Writing JSON.

Between the quotes of a string only the quote, the backslash and control characters are escaped; a
layout may ask for every character beyond ASCII to be escaped as well, and for line breaks.
-/

namespace ShortVolume.Json

/-- Why a value has no JSON text: it, or a name, is of a kind that JSON lacks, or an integer in it
is too long. -/
inductive Unwritable where
  | kind (v : Value)
  | longInteger
  deriving Repr

/-- How a document is laid out: whether it keeps to ASCII, and how deep each level is indented, if
items get lines of their own. -/
structure Layout where
  ascii : Bool
  indent : Option Nat

/-- One line, with all characters as they are. -/
def Layout.line : Layout := ⟨false, none⟩

/-- `\u` and four lower-case hexadecimal digits. -/
def codeEscape (n : Nat) : List Char := '\\' :: 'u' :: Text.hex 4 n

/-- The escapes of a character beyond ASCII: one, or those of a pair. -/
def asciiEscape (c : Char) : List Char :=
  let n := c.toNat
  if n < 0x10000 then codeEscape n
  else codeEscape (0xD800 + (n - 0x10000) / 0x400) ++ codeEscape (0xDC00 + (n - 0x10000) % 0x400)

/-- A character between the quotes of a string. -/
def escapeChar (ascii : Bool) (c : Char) : List Char :=
  match c with
  | '"' => ['\\', '"']
  | '\\' => ['\\', '\\']
  | '\n' => ['\\', 'n']
  | '\r' => ['\\', 'r']
  | '\t' => ['\\', 't']
  | '\x08' => ['\\', 'b']
  | '\x0c' => ['\\', 'f']
  | c =>
    if c.toNat < 0x20 then codeEscape c.toNat
    else if ascii && 0x7F ≤ c.toNat then asciiEscape c
    else [c]

/-- A letter between the quotes of a string. -/
def escapeLetter (ascii : Bool) : Letter → List Letter
  | .char c => Text.letters (escapeChar ascii c)
  | .half h =>
    if ascii then Text.letters (codeEscape (Letter.half h).toNat) else [.half h]

def quoted (ascii : Bool) (t : Text) : List Letter :=
  .char '"' :: (t.toList.flatMap (escapeLetter ascii) ++ [.char '"'])

/-- The spelling of numbers that JSON proper lacks. -/
def spelling : Binary64.Spelling := ⟨"NaN", "Infinity", "-Infinity"⟩

def integer (i : Int) : Except Unwritable (List Letter) :=
  if hasDigits i then .ok (Text.letters (toString i).toList) else .error .longInteger

/-- The name that a key becomes. -/
def name (ascii : Bool) : Value → Except Unwritable (List Letter)
  | .text s => .ok (quoted ascii s)
  | .term t => .ok (quoted ascii t.text)
  | .null => .ok (quoted ascii "null")
  | .bool b => .ok (quoted ascii (if b then "true" else "false"))
  | .int i => do
    let ds ← integer i
    return .char '"' :: (ds ++ [.char '"'])
  | .float x => .ok (quoted ascii (x.text spelling))
  | v => .error (.kind v)

/-- The line break before an item at a depth, if items get lines of their own. -/
def Layout.breakAt (l : Layout) (depth : Nat) : List Letter :=
  match l.indent with
  | none => []
  | some n => '\n' :: List.replicate (n * depth) ' '

/-- What stands between two items at a depth. -/
def Layout.separator (l : Layout) (depth : Nat) : List Letter :=
  match l.indent with
  | none => [',', ' ']
  | some _ => ',' :: l.breakAt depth

mutual

/-- The text of a value that stands at a depth. -/
def print (l : Layout) (depth : Nat) : Value → Except Unwritable (List Letter)
  | .null => .ok (Text.letters "null".toList)
  | .bool b => .ok (Text.letters (if b then "true" else "false").toList)
  | .int i => integer i
  | .float x => .ok (Text.letters (x.text spelling).toList)
  | .text s => .ok (quoted l.ascii s)
  | .term t => .ok (quoted l.ascii t.text)
  | .list [] => .ok ['[', ']']
  | .tuple [] => .ok ['[', ']']
  | .list xs | .tuple xs => do
    let body ← printItems l (depth + 1) xs
    return .char '[' :: (l.breakAt (depth + 1) ++ body ++ l.breakAt depth ++ [.char ']'])
  | .map [] => .ok ['\x7b', '\x7d']
  | .map es => do
    let body ← printMembers l (depth + 1) es
    return .char '\x7b' :: (l.breakAt (depth + 1) ++ body ++ l.breakAt depth ++ [.char '\x7d'])
  | v => .error (.kind v)

def printItems (l : Layout) (depth : Nat) : List Value → Except Unwritable (List Letter)
  | [] => .ok []
  | [x] => print l depth x
  | x :: r => do
    let first ← print l depth x
    let others ← printItems l depth r
    return first ++ l.separator depth ++ others

def printMembers (l : Layout) (depth : Nat) :
    List (Value × Value) → Except Unwritable (List Letter)
  | [] => .ok []
  | [(k, v)] => do
    let key ← name l.ascii k
    let item ← print l depth v
    return key ++ .char ':' :: .char ' ' :: item
  | (k, v) :: r => do
    let key ← name l.ascii k
    let item ← print l depth v
    let others ← printMembers l depth r
    return key ++ .char ':' :: .char ' ' :: (item ++ l.separator depth ++ others)

end

/-- The text of a document. -/
def render (l : Layout) (v : Value) : Except Unwritable Text := do
  let cs ← print l 0 v
  return ⟨cs⟩

end ShortVolume.Json
