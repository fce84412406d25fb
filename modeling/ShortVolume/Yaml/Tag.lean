import ShortVolume.Yaml.Charset
import ShortVolume.Yaml.Error
import ShortVolume.Text.Blank
set_option autoImplicit false

/-!
Tags, and the tag that a plain scalar has by its form.
-/

namespace ShortVolume.Yaml

/-- The type of a node. -/
inductive Tag where
  | null
  | bool
  | int
  | float
  | binary
  | timestamp
  | orderedMap
  | pairs
  | set
  | str
  | seq
  | map
  | merge
  | value
  | unknown (address : String)
  deriving DecidableEq, Repr

namespace Tag

/-- The address under which the common tags lie. -/
def home : String := "tag:yaml.org,2002:"

/-- The names of the common tags. -/
def names : List (String × Tag) :=
  [("null", null), ("bool", bool), ("int", int), ("float", float), ("binary", binary),
    ("timestamp", timestamp), ("omap", orderedMap), ("pairs", pairs), ("set", set), ("str", str),
    ("seq", seq), ("map", map), ("merge", merge), ("value", value)]

def ofAddress (a : String) : Tag :=
  match names.find? (fun e => home ++ e.1 == a) with
  | some (_, t) => t
  | none => unknown a

end Tag

/-! ### The forms of plain scalars -/

namespace Form

/-- A digit or an underscore between digits. -/
def isDigitOr_ (c : Char) : Bool := isDigit c || c == '_'

def isOctalOr_ (c : Char) : Bool := ('0' ≤ c && c ≤ '7') || c == '_'

def isBinaryOr_ (c : Char) : Bool := c == '0' || c == '1' || c == '_'

def isHexOr_ (c : Char) : Bool := isHexDigit c || c == '_'

/-- At least one character, and all of a class. -/
def isRun (inClass : Char → Bool) (s : List Char) : Bool := !s.isEmpty && s.all inClass

/-- The text without one sign before it. -/
def unsigned : List Char → List Char
  | '+' :: r | '-' :: r => r
  | s => s

/-- Digits in which underscores may follow the first. -/
def isWhole : List Char → Bool
  | c :: r => isDigit c && r.all isDigitOr_
  | [] => false

/-- A group of one digit, or of two that are below sixty. -/
def isSixtieth : List Char → Bool
  | [a] => isDigit a
  | [a, b] => '0' ≤ a && a ≤ '5' && isDigit b
  | _ => false

/-- A number in base sixty: a whole number that starts with no digit below `least`, and groups. -/
def isSexagesimal (least : Char) (s : List Char) : Bool :=
  match Text.splitOn ':' s with
  | head :: group :: groups =>
    isWhole head && least ≤ head.headD ' ' && (group :: groups).all isSixtieth
  | _ => false

/-- An exponent, with or without a sign. -/
def isExponent (signed : Bool) : List Char → Bool
  | e :: r =>
    (e == 'e' || e == 'E') &&
      isRun isDigit (unsigned r) && (!signed || (unsigned r).length < r.length)
  | [] => false

/-- A whole part, a point and decimals, or a whole part alone; then an exponent, which only the
former may lack. -/
def isPointed (s : List Char) : Bool :=
  let head := s.takeWhile isDigitOr_
  isWhole head &&
    (match s.dropWhile isDigitOr_ with
     | '.' :: r =>
       let tail := r.dropWhile isDigitOr_
       tail.isEmpty || isExponent false tail
     | tail => isExponent false tail)

/-- Decimals after a point that nothing stands before, and then perhaps an exponent with a sign. -/
def isBarePointed : List Char → Bool
  | '.' :: r =>
    let tail := r.dropWhile isDigitOr_
    tail.length < r.length && (tail.isEmpty || isExponent true tail)
  | _ => false

/-- A number in base sixty whose last group may be followed by decimals. -/
def isSexagesimalPointed (s : List Char) : Bool :=
  let head := s.takeWhile (· != '.')
  match s.dropWhile (· != '.') with
  | '.' :: r => isSexagesimal '0' head && r.all isDigitOr_
  | _ => false

def isOneOf (words : List String) (s : List Char) : Bool := words.contains (String.ofList s)

def isInfinite (s : List Char) : Bool := isOneOf [".inf", ".Inf", ".INF"] (unsigned s)

def isNaN (s : List Char) : Bool := isOneOf [".nan", ".NaN", ".NAN"] s

def isFloat (v : Version) (s : List Char) : Bool :=
  isPointed (unsigned s) || isInfinite s || isNaN s ||
    (if v = .v1_1 then isBarePointed s || isSexagesimalPointed (unsigned s)
     else isBarePointed (unsigned s))

/-- Digits, or a base and digits, with perhaps a sign. The first character is no underscore. -/
def isInt (v : Version) (s : List Char) : Bool :=
  let u := unsigned s
  s.head? != some '_' &&
    ((match u with
      | '0' :: 'b' :: r => isRun isBinaryOr_ r
      | '0' :: 'x' :: r => isRun isHexOr_ r
      | '0' :: 'o' :: r => v != .v1_1 && isRun isOctalOr_ r
      | _ => false) ||
     (if v = .v1_1 then
        isRun isOctalOr_ u || (isWhole u && u.headD '0' != '0') || isSexagesimal '1' u
      else isRun isDigitOr_ u))

def isBool (v : Version) (s : List Char) : Bool :=
  isOneOf ["true", "True", "TRUE", "false", "False", "FALSE"] s ||
    (v = .v1_1 &&
      isOneOf ["y", "Y", "yes", "Yes", "YES", "n", "N", "no", "No", "NO", "on", "On", "ON", "off",
        "Off", "OFF"] s)

def isNull (s : List Char) : Bool := isOneOf ["", "~", "null", "Null", "NULL"] s

/-- One or two digits at the start of a text, and what follows them. -/
def shortNumber? (s : List Char) : Option (List Char × List Char) :=
  match s with
  | a :: b :: r =>
    if isDigit a && isDigit b then some ([a, b], r)
    else if isDigit a then some ([a], b :: r)
    else none
  | [a] => if isDigit a then some ([a], []) else none
  | [] => none

/-- Exactly `n` digits at the start of a text, and what follows them. -/
def digits? (n : Nat) (s : List Char) : Option (List Char × List Char) :=
  let ds := s.take n
  if ds.length = n && ds.all isDigit then some (ds, s.drop n) else none

/-- What follows a given character. -/
def after? (c : Char) : List Char → Option (List Char)
  | d :: r => if c = d then some r else none
  | [] => none

/-- The groups of digits of a moment. -/
structure Moment where
  year : List Char
  month : List Char
  day : List Char
  clock : Option (List Char × List Char × List Char)
  fraction : List Char
  zone : List Char
  deriving Repr

def isSpace (c : Char) : Bool := c == ' ' || c == '\t'

/-- Whether a text is a zone: `Z`, or a sign, hours and perhaps minutes. -/
def isZone : List Char → Bool
  | ['Z'] => true
  | c :: r =>
    (c == '+' || c == '-') &&
      (match shortNumber? r with
       | none => false
       | some (_, []) => true
       | some (_, rest) =>
         match (after? ':' rest).bind (digits? 2) with
         | some (_, []) => true
         | _ => false)
  | [] => false

/-- The groups of a date with perhaps a time of day. -/
def moment? (s : List Char) : Option Moment := do
  let (year, s) ← digits? 4 s
  let (month, s) ← shortNumber? (← after? '-' s)
  let (day, s) ← shortNumber? (← after? '-' s)
  if s.isEmpty then return ⟨year, month, day, none, [], []⟩
  let s ← match s with
    | 'T' :: r | 't' :: r => some r
    | c :: r => if isSpace c then some (r.dropWhile isSpace) else none
    | [] => none
  let (hour, s) ← shortNumber? s
  let (minute, s) ← digits? 2 (← after? ':' s)
  let (second, s) ← digits? 2 (← after? ':' s)
  let (fraction, s) := match s with
    | '.' :: r => (r.takeWhile isDigit, r.dropWhile isDigit)
    | s => ([], s)
  let clock := some (hour, minute, second)
  if s.isEmpty then return ⟨year, month, day, clock, fraction, []⟩
  let zone := s.dropWhile isSpace
  if isZone zone then return ⟨year, month, day, clock, fraction, zone⟩ else none

/-- A date alone is written with two digits for month and day. -/
def isTimestamp (s : List Char) : Bool :=
  match moment? s with
  | some m => m.clock.isSome || s.length == 10
  | none => false

end Form

/-- The text whose form counts: one line break at its end does not, unless it is all there is. -/
def Form.core (s : List Char) : List Char :=
  if s.getLast? = some '\n' && s.length ≠ 1 then s.dropLast else s

/-- The tag that a plain scalar has by its form. -/
def Tag.ofPlain (v : Version) (content : Text) : Except Error Tag :=
  if !v.isRuled then .error (.of .unruledVersion)
  else
    match Text.chars? content.toList with
    | none => .ok .str
    | some cs =>
      let s := Form.core cs
      if Form.isBool v s then .ok .bool
      else if Form.isFloat v s then .ok .float
      else if Form.isInt v s then .ok .int
      else if s = ['<', '<'] then .ok .merge
      else if Form.isNull s then .ok .null
      else if Form.isTimestamp s then .ok .timestamp
      else if s = ['='] then .ok .value
      else .ok .str

end ShortVolume.Yaml
