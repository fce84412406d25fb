import ShortVolume.Text.Blank
set_option autoImplicit false

/-!
Recognising literals: numbers, texts, three constants, and tuples, sets and maps of literals.

Only what can be decided by reading is of interest here: whether a text is a literal. A sum counts
when it writes a complex number. Members of sets and keys of maps must not be sets or maps.
-/

namespace ShortVolume.Console.Handler

/-- What a literal is, as far as it decides where it may stand. -/
inductive Literal where
  /-- A number without a sign. -/
  | real
  /-- An imaginary number without a sign. -/
  | imaginary
  /-- A number with a sign. -/
  | signed
  /-- Any other literal that can be a key. -/
  | plain
  /-- A literal that cannot be a key. -/
  | compound
  deriving DecidableEq, Repr

namespace Literal

def isKey (l : Literal) : Bool := l != compound

/-- Whether an imaginary number may be added to it. -/
def isSummand (l : Literal) : Bool := l == real || l == signed

end Literal

/-- A literal, or a part of one, and what follows it. -/
abbrev Found := Option (Literal × List Char)

def isDigit (c : Char) : Bool := '0' ≤ c && c ≤ '9'

def isHexDigit (c : Char) : Bool :=
  isDigit c || ('a' ≤ c && c ≤ 'f') || ('A' ≤ c && c ≤ 'F')

def isLetter (c : Char) : Bool := ('a' ≤ c && c ≤ 'z') || ('A' ≤ c && c ≤ 'Z')

/-- Characters of names: letters, digits and the underscore. Beyond ASCII all characters but blanks
count as letters. -/
def isNameChar (c : Char) : Bool :=
  isLetter c || isDigit c || c == '_' || (0x80 ≤ c.toNat && !Text.isBlank c)

def isNewline (c : Char) : Bool := c == '\n' || c == '\r'

/-- The text after blanks and comments, and, inside of brackets, after line ends. -/
def skip (inside comment : Bool) : List Char → List Char
  | [] => []
  | '\\' :: '\n' :: r => if comment && !inside then '\n' :: r else skip inside false r
  | c :: r =>
    if isNewline c then if inside then skip inside false r else c :: r
    else if comment || c == '#' then skip inside true r
    else if c == ' ' || c == '\t' || c == '\x0c' then skip inside false r
    else c :: r

/-! ### Numbers -/

/-- What follows the digits that go on, with at most one underscore between two. -/
def moreDigits (isDigit : Char → Bool) : List Char → List Char
  | '_' :: c :: r => if isDigit c then moreDigits isDigit r else '_' :: c :: r
  | c :: r => if isDigit c then moreDigits isDigit r else c :: r
  | [] => []

/-- What follows one digit or more. -/
def digits? (isDigit : Char → Bool) : List Char → Option (List Char)
  | c :: r => if isDigit c then some (moreDigits isDigit r) else none
  | [] => none

/-- The digits of the base that a letter marks. -/
def radix? (c : Char) : Option (Char → Bool) :=
  match c.toLower with
  | 'x' => some isHexDigit
  | 'o' => some (fun c => '0' ≤ c && c ≤ '7')
  | 'b' => some (fun c => c == '0' || c == '1')
  | _ => none

/-- What follows an exponent. -/
def exponent? : List Char → Option (List Char)
  | 'e' :: r | 'E' :: r =>
    match r with
    | '+' :: t | '-' :: t => digits? isDigit t
    | _ => digits? isDigit r
  | _ => none

/-- Whether digits can be a whole number: no zero leads, and there are at most 4300 of them. -/
def isWhole (digits : List Char) : Bool :=
  (digits.head? != some '0' || digits.all (· == '0')) && digits.length ≤ 4300

def decimal (s : List Char) : Found := do
  let (whole, r) ← match digits? isDigit s, s with
    | some ('.' :: r), _ => some (false, (digits? isDigit r).getD r)
    | some r, _ => some (true, r)
    | none, '.' :: r => (digits? isDigit r).map (fun r => (false, r))
    | none, _ => none
  let (whole, r) := match exponent? r with
    | some r => (false, r)
    | none => (whole, r)
  match r with
  | 'j' :: t | 'J' :: t => return (.imaginary, t)
  | r =>
    let digits := (s.take (s.length - r.length)).filter isDigit
    if !whole || isWhole digits then return (.real, r) else none

/-- A number. No name may follow it at once. -/
def number (s : List Char) : Found := do
  let (l, r) ← match s with
    | '0' :: x :: r =>
      match radix? x, r with
      | some p, '_' :: r => (digits? p r).map (fun r => (Literal.real, r))
      | some p, r => (digits? p r).map (fun r => (Literal.real, r))
      | none, _ => decimal s
    | s => decimal s
  if (r.head?.map isNameChar).getD false then none else return (l, r)

/-! ### Texts -/

/-- How a text is written. -/
structure Quoting where
  ending : List Char
  raw : Bool
  bytes : Bool

/-- What follows so many hexadecimal digits. -/
def hexDigits? : Nat → List Char → Option (List Char)
  | 0, r => some r
  | n + 1, c :: r => if isHexDigit c then hexDigits? n r else none
  | _, [] => none

/-- What follows an escape whose backslash is gone. -/
def escape? (q : Quoting) : List Char → Option (List Char)
  | [] => none
  | c :: r =>
    if q.bytes && 0x80 ≤ c.toNat then none
    else if q.raw then some r
    else if c == 'x' then hexDigits? 2 r
    else if q.bytes then some r
    else if c == 'u' then hexDigits? 4 r
    else if c == 'U' then
      if ['0', '0'].isPrefixOf r && (r.take 4 == ['0', '0', '1', '0'] || (r.drop 2).head? == some '0')
      then hexDigits? 8 r
      else none
    else if c == 'N' then none
    else some r

/-- What follows the ending of a text of at most `n` characters. -/
def body : Nat → Quoting → List Char → Option (List Char)
  | 0, _, _ => none
  | n + 1, q, s =>
    if q.ending.isPrefixOf s then some (s.drop q.ending.length)
    else match s with
      | [] => none
      | '\\' :: r => (escape? q r).bind (body n q)
      | c :: r =>
        if (isNewline c && q.ending.length == 1) || (q.bytes && 0x80 ≤ c.toNat) then none
        else body n q r

/-- Whether the letters before a text make it raw, and whether they make it bytes. -/
def marks? (letters : List Char) : Option (Bool × Bool) :=
  match String.ofList (letters.map Char.toLower) with
  | "" | "u" => some (false, false)
  | "r" => some (true, false)
  | "b" => some (false, true)
  | "br" | "rb" => some (true, true)
  | _ => none

/-- Whether a text is of bytes, and what follows it. -/
def oneText (s : List Char) : Option (Bool × List Char) := do
  let (raw, bytes) ← marks? (s.takeWhile isNameChar)
  match s.dropWhile isNameChar with
  | c :: r =>
    if c != '\'' && c != '"' then none
    else
      let (ending, r) := if [c, c].isPrefixOf r then ([c, c, c], r.drop 2) else ([c], r)
      return (bytes, ← body (r.length + 1) ⟨ending, raw, bytes⟩ r)
  | [] => none

/-- What follows texts side by side, which have to be all of bytes or all of characters. -/
def moreTexts (inside bytes : Bool) : Nat → List Char → Option (List Char)
  | 0, _ => none
  | n + 1, s =>
    match oneText (skip inside false s) with
    | some (b, r) => if b = bytes then moreTexts inside bytes n r else none
    | none => some s

/-! ### Literals -/

/-- A literal of one word or one text. -/
def word (inside : Bool) (s : List Char) : Found :=
  match oneText s with
  | some (bytes, r) => (moreTexts inside bytes (r.length + 1) r).map (fun r => (.plain, r))
  | none =>
    let r := s.dropWhile isNameChar
    match String.ofList (s.takeWhile isNameChar), skip inside false r with
    | "True", _ | "False", _ | "None", _ => some (.plain, r)
    | "set", '(' :: t =>
      match skip true false t with
      | ')' :: t => some (.compound, t)
      | _ => none
    | _, _ => none

mutual

/-- A literal, and what follows it and the blanks after it. -/
def literal : Nat → Bool → List Char → Found
  | 0, _, _ => none
  | n + 1, inside, s => do
    let (l, r) ← signed n inside (skip inside false s)
    match skip inside false r with
    | c :: t =>
      if c == '+' || c == '-' then
        match atom n inside (skip inside false t) with
        | some (.imaginary, r) =>
          if l.isSummand then return (.plain, skip inside false r) else none
        | _ => none
      else return (l, c :: t)
    | [] => return (l, [])

/-- A number with a sign, or a literal without one. -/
def signed : Nat → Bool → List Char → Found
  | 0, _, _ => none
  | _, _, [] => none
  | n + 1, inside, c :: r =>
    if c == '+' || c == '-' then
      match atom n inside (skip inside false r) with
      | some (.real, t) => some (.signed, t)
      | some (.imaginary, t) => some (.plain, t)
      | _ => none
    else atom n inside (c :: r)

/-- A literal without signs. -/
def atom : Nat → Bool → List Char → Found
  | 0, _, _ => none
  | n + 1, inside, s =>
    match s with
    | '(' :: r =>
      match skip true false r with
      | ')' :: t => some (.plain, t)
      | r =>
        match literal n true r with
        | some (l, ')' :: t) => some (l, t)
        | some (l, ',' :: t) => members n ')' (if l.isKey then .plain else .compound) t
        | _ => none
    | '\x7b' :: r =>
      match skip true false r with
      | '\x7d' :: t => some (.compound, t)
      | r =>
        match literal n true r with
        | some (l, ':' :: t) => if l.isKey then value n t else none
        | some (l, ',' :: t) =>
          if l.isKey then keys n t else none
        | some (l, '\x7d' :: t) => if l.isKey then some (.compound, t) else none
        | _ => none
    | '.' :: '.' :: '.' :: r => some (.plain, r)
    | c :: _ => if isDigit c || c == '.' then number s else word inside s
    | [] => none

/-- The members after a comma up to a bracket; `l` is what the whole is so far. -/
def members : Nat → Char → Literal → List Char → Found
  | 0, _, _, _ => none
  | n + 1, close, l, s =>
    match skip true false s with
    | [] => none
    | c :: t =>
      if c = close then some (l, t)
      else
        match literal n true (c :: t) with
        | some (m, ',' :: t) => members n close (if m.isKey then l else .compound) t
        | some (m, c :: t) =>
          if c = close then some (if m.isKey then l else .compound, t) else none
        | _ => none

/-- The members of a set after a comma. -/
def keys : Nat → List Char → Found
  | 0, _ => none
  | n + 1, s =>
    match skip true false s with
    | '\x7d' :: t => some (.compound, t)
    | s =>
      match literal n true s with
      | some (l, ',' :: t) => if l.isKey then keys n t else none
      | some (l, '\x7d' :: t) => if l.isKey then some (.compound, t) else none
      | _ => none

/-- The value of a key, and the other entries of a map. -/
def value : Nat → List Char → Found
  | 0, _ => none
  | n + 1, s =>
    match literal n true s with
    | some (_, '\x7d' :: t) => some (.compound, t)
    | some (_, ',' :: t) =>
      match skip true false t with
      | '\x7d' :: t => some (.compound, t)
      | s =>
        match literal n true s with
        | some (l, ':' :: t) => if l.isKey then value n t else none
        | _ => none
    | _ => none

end

/-- Whether nothing but literals with commas between them follows, at most `n` of them. -/
def areLiterals : Nat → List Char → Bool
  | 0, _ => false
  | n + 1, s =>
    match literal (2 * s.length + 2) false s with
    | some (_, ',' :: t) =>
      (skip true false t).isEmpty || areLiterals n t
    | some (_, r) => (skip true false r).isEmpty
    | none => false

/-- Whether a text is a literal; one without brackets around its commas is a tuple. -/
def isLiteral (s : List Char) : Bool :=
  !s.contains '\x00' && areLiterals (s.length + 1) (skip true false s)

example : isLiteral "(1, 'a\\x41', \x7bb'c': -2.5e3\x7d)".toList = true := by decide +kernel
example : isLiteral "1 - 2j, ...".toList = true := by decide +kernel
example : isLiteral "(x)".toList = false ∧ isLiteral "(".toList = false := by decide +kernel
example : isLiteral "01".toList = false ∧ isLiteral "\x7b\x7b\x7d\x7d".toList = false := by
  decide +kernel

end ShortVolume.Console.Handler
