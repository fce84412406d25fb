import ShortVolume.Value.Literal
import ShortVolume.Json.Error
set_option autoImplicit false

/-!
Reading JSON.

The reader keeps integers apart from numbers with a fraction or an exponent, takes the words `NaN`,
`Infinity` and `-Infinity` as numbers, and lets the last of several equal names win, at the place of
the first. Every step works on a cursor: the text not read yet, and how much was read.
-/

namespace ShortVolume.Json

/-- A place in the text, and the text from there on. -/
structure Cursor where
  place : Nat
  rest : List Letter
  deriving Repr

namespace Cursor

def isSpace (c : Letter) : Bool := c == ' ' || c == '\t' || c == '\n' || c == '\r'

/-- Past the white space at the cursor. -/
def skipSpaces (c : Cursor) : Cursor :=
  ⟨c.place + (c.rest.takeWhile isSpace).length, c.rest.dropWhile isSpace⟩

/-- Past the next `n` characters. -/
def drop (c : Cursor) (n : Nat) : Cursor := ⟨c.place + n, c.rest.drop n⟩

end Cursor

def hexValue? (c : Letter) : Option Nat :=
  let n := c.toNat
  if '0'.toNat ≤ n ∧ n ≤ '9'.toNat then some (n - '0'.toNat)
  else if 'a'.toNat ≤ n ∧ n ≤ 'f'.toNat then some (n - 'a'.toNat + 10)
  else if 'A'.toNat ≤ n ∧ n ≤ 'F'.toNat then some (n - 'A'.toNat + 10)
  else none

/-- The number that four hexadecimal digits stand for. -/
def hexCode? : List Letter → Option Nat
  | [a, b, c, d] => do
    let a ← hexValue? a
    let b ← hexValue? b
    let c ← hexValue? c
    let d ← hexValue? d
    return ((a * 16 + b) * 16 + c) * 16 + d
  | _ => none

/-- The character that a letter after a backslash stands for. -/
def simpleEscape? : Letter → Option Char
  | .char '"' => some '"'
  | .char '\\' => some '\\'
  | .char '/' => some '/'
  | .char 'b' => some '\x08'
  | .char 'f' => some '\x0c'
  | .char 'n' => some '\n'
  | .char 'r' => some '\r'
  | .char 't' => some '\t'
  | _ => none

def isHighSurrogate (n : Nat) : Bool := 0xD800 ≤ n && n ≤ 0xDBFF

def isLowSurrogate (n : Nat) : Bool := 0xDC00 ≤ n && n ≤ 0xDFFF

/-- The second half of a surrogate pair, when one follows a first half. It has to be followed by
more text. A low half is taken with its six characters; another code is left where it is. -/
def secondHalf? (place : Nat) (r : List Letter) : Except Error (Option Nat) :=
  match r with
  | .char '\\' :: .char 'u' :: more =>
    if more.length ≤ 4 then .ok none
    else match hexCode? (more.take 4) with
      | none => .error (.grammar .badCodeEscape (place + 1))
      | some n => .ok (if isLowSurrogate n then some n else none)
  | _ => .ok none

/-- The rest of a string whose opening quote stands at `start`. The characters read so far are
kept in reverse. -/
def stringFrom (start : Nat) : Nat → Cursor → List Letter → Except Error (List Letter × Cursor)
  | 0, _, _ => .error (.grammar .unterminatedString start)
  | fuel + 1, ⟨place, rest⟩, done =>
    match rest with
    | [] => .error (.grammar .unterminatedString start)
    | .char '"' :: r => .ok (done.reverse, ⟨place + 1, r⟩)
    | .char '\\' :: r =>
      match r with
      | [] => .error (.grammar .unterminatedString start)
      | .char 'u' :: r' =>
        if r'.length ≤ 4 then .error (.grammar .badCodeEscape (place + 1))
        else match hexCode? (r'.take 4) with
          | none => .error (.grammar .badCodeEscape (place + 1))
          | some n =>
            if isHighSurrogate n then
              match secondHalf? (place + 6) (r'.drop 4) with
              | .error e => .error e
              | .ok (some low) =>
                let code := 0x10000 + (n - 0xD800) * 0x400 + (low - 0xDC00)
                stringFrom start fuel ⟨place + 12, r'.drop 10⟩ (Letter.ofNat code :: done)
              | .ok none =>
                stringFrom start fuel ⟨place + 6, r'.drop 4⟩ (Letter.ofNat n :: done)
            else stringFrom start fuel ⟨place + 6, r'.drop 4⟩ (Letter.ofNat n :: done)
      | e :: r' =>
        match simpleEscape? e with
        | some c => stringFrom start fuel ⟨place + 2, r'⟩ (c :: done)
        | none => .error (.grammar .badEscape place)
    | c :: r =>
      if c.toNat < 0x20 then .error (.grammar .controlCharacter place)
      else stringFrom start fuel ⟨place + 1, r⟩ (c :: done)

/-- The string whose opening quote was just read. -/
def string (c : Cursor) : Except Error (Text × Cursor) :=
  match stringFrom (c.place - 1) (c.rest.length + 1) c [] with
  | .ok (s, c') => .ok (⟨s⟩, c')
  | .error e => .error e

def isDigit (c : Letter) : Bool := c.is Char.isDigit

@[simp] theorem isDigit_char (c : Char) : isDigit c = c.isDigit := rfl

def digitsValue (ds : List Letter) : Nat := ds.foldl (fun n d => n * 10 + (d.toNat - '0'.toNat)) 0

/-- The parts of a number: sign, digits before the point, digits after it, exponent. -/
structure Numeral where
  negative : Bool
  whole : List Letter
  fraction : List Letter
  exponent : Int
  integral : Bool
  deriving Repr

/-- The digits after a point, if a point and a digit come next. -/
def fractionPart (r : List Letter) : List Letter × List Letter :=
  match r with
  | .char '.' :: d :: r' =>
    if isDigit d then (d :: r'.takeWhile isDigit, r'.dropWhile isDigit) else ([], r)
  | _ => ([], r)

/-- The exponent, if its mark and a digit come next. -/
def exponentPart (r : List Letter) : Option Int × List Letter :=
  match r with
  | m :: r' =>
    if m = 'e' ∨ m = 'E' then
      let (negative, r'') := match r' with
        | .char '-' :: t => (true, t)
        | .char '+' :: t => (false, t)
        | t => (false, t)
      let ds := r''.takeWhile isDigit
      if ds.isEmpty then (none, r)
      else
        let n : Int := digitsValue ds
        (some (if negative then -n else n), r''.dropWhile isDigit)
    else (none, r)
  | [] => (none, r)

/-- The longest number at the start of the text. -/
def numeral? (s : List Letter) : Option (Numeral × List Letter) :=
  let (negative, s) := match s with
    | .char '-' :: r => (true, r)
    | r => (false, r)
  match s with
  | [] => none
  | d :: r =>
    if isDigit d then
      let whole : List Letter := if d = '0' then ['0'] else d :: r.takeWhile isDigit
      let after := if d = '0' then r else r.dropWhile isDigit
      let (fraction, after) := fractionPart after
      let (exponent, after) := exponentPart after
      some (⟨negative, whole, fraction, exponent.getD 0, fraction.isEmpty && exponent.isNone⟩, after)
    else none

/-- The value of a number. An integer may have 4300 digits at most. -/
def Numeral.value (n : Numeral) : Except Error Value :=
  if n.integral then
    let i : Int := digitsValue n.whole
    if n.whole.length ≤ 4300 then .ok (.int (if n.negative then -i else i)) else .error .longInteger
  else
    let m := digitsValue (n.whole ++ n.fraction)
    .ok (.float (.ofDecimal n.negative m (n.exponent - n.fraction.length)))

/-- The words that are values. -/
def words : List (Text × Value) :=
  [("null", .null), ("true", .bool true), ("false", .bool false),
   ("NaN", .float .nan), ("Infinity", .float (.infinity false)),
   ("-Infinity", .float (.infinity true))]

/-- A value that is a word or a number. -/
def atom (c : Cursor) : Except Error (Value × Cursor) :=
  match words.find? (fun w => w.1.toList.isPrefixOf c.rest) with
  | some (w, v) => .ok (v, c.drop w.length)
  | none =>
    match numeral? c.rest with
    | some (n, rest) =>
      match n.value with
      | .ok v => .ok (v, ⟨c.place + (c.rest.length - rest.length), rest⟩)
      | .error e => .error e
    | none => .error (.grammar .expectedValue c.place)

mutual

def value : Nat → Cursor → Except Error (Value × Cursor)
  | 0, c => .error (.grammar .expectedValue c.place)
  | fuel + 1, c =>
    match c.rest with
    | .char '"' :: r =>
      match string ⟨c.place + 1, r⟩ with
      | .ok (s, c') => .ok (.text s, c')
      | .error e => .error e
    | .char '[' :: r =>
      let c' := Cursor.skipSpaces ⟨c.place + 1, r⟩
      match c'.rest with
      | .char ']' :: r' => .ok (.list [], ⟨c'.place + 1, r'⟩)
      | _ => items fuel c' []
    | .char '\x7b' :: r =>
      let c' := Cursor.skipSpaces ⟨c.place + 1, r⟩
      match c'.rest with
      | .char '\x7d' :: r' => .ok (.map [], ⟨c'.place + 1, r'⟩)
      | _ => members fuel c' []
    | _ => atom c

/-- The items of a list up to its end; those before the cursor are kept in reverse. -/
def items : Nat → Cursor → List Value → Except Error (Value × Cursor)
  | 0, c, _ => .error (.grammar .expectedValue c.place)
  | fuel + 1, c, done =>
    match value fuel c with
    | .error e => .error e
    | .ok (v, c) =>
      let c := c.skipSpaces
      match c.rest with
      | .char ']' :: r => .ok (.list (v :: done).reverse, ⟨c.place + 1, r⟩)
      | .char ',' :: r => items fuel (Cursor.skipSpaces ⟨c.place + 1, r⟩) (v :: done)
      | _ => .error (.grammar .expectedComma c.place)

/-- The members of an object up to its end; those before the cursor are kept in reverse. -/
def members : Nat → Cursor → List (Value × Value) → Except Error (Value × Cursor)
  | 0, c, _ => .error (.grammar .expectedName c.place)
  | fuel + 1, c, done =>
    match c.rest with
    | .char '"' :: r =>
      match string ⟨c.place + 1, r⟩ with
      | .error e => .error e
      | .ok (name, c) =>
        let c := c.skipSpaces
        match c.rest with
        | .char ':' :: r =>
          match value fuel (Cursor.skipSpaces ⟨c.place + 1, r⟩) with
          | .error e => .error e
          | .ok (v, c) =>
            let c := c.skipSpaces
            let done := (Value.text name, v) :: done
            match c.rest with
            | .char '\x7d' :: r => .ok (.map (Entries.ofPairs done.reverse), ⟨c.place + 1, r⟩)
            | .char ',' :: r => members fuel (Cursor.skipSpaces ⟨c.place + 1, r⟩) done
            | _ => .error (.grammar .expectedComma c.place)
        | _ => .error (.grammar .expectedColon c.place)
    | _ => .error (.grammar .expectedName c.place)

end

/-- The one value that a document holds. A list or an object takes two steps for each of its
characters at most, which bounds the steps. -/
def document (s : List Letter) : Except Error Value :=
  match value (2 * s.length + 2) (Cursor.skipSpaces ⟨0, s⟩) with
  | .error e => .error e
  | .ok (v, c) =>
    let c := c.skipSpaces
    match c.rest with
    | [] => .ok v
    | _ => .error (.grammar .extraData c.place)

/-- The value of a document that was given as a text: a byte order mark in front is refused. -/
def ofText (s : List Letter) : Except Error Value :=
  match s with
  | .char '\ufeff' :: _ => .error (.grammar .byteOrderMark 0)
  | _ => document s

end ShortVolume.Json
