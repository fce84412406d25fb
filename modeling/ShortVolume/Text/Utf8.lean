import ShortVolume.Text.Blank
import ShortVolume.Text.Literal
set_option autoImplicit false

/-!
Texts as bytes: UTF-8 in both directions, and reading UTF-16 and UTF-32.

A reader reports the first bytes that stand for no character: where they begin and end, and why.
-/

namespace ShortVolume.Text

/-- Why bytes are no text. -/
inductive Defect where
  | badStart
  | badContinuation
  | unexpectedEnd
  | truncated
  | outOfRange
  deriving DecidableEq, Repr

def Defect.reason : Defect → String
  | badStart => "invalid start byte"
  | badContinuation => "invalid continuation byte"
  | unexpectedEnd => "unexpected end of data"
  | truncated => "truncated data"
  | outOfRange => "code point not in range(0x110000)"

/-- The bytes from `first` on, `count` of them, are no text in an encoding. -/
structure DecodeError where
  encoding : String
  first : Nat
  count : Nat
  byte : UInt8
  defect : Defect
  deriving DecidableEq, Repr

def DecodeError.message (e : DecodeError) : String :=
  let where_ :=
    if e.count = 1 then
      "byte 0x" ++ String.ofList (hex 2 e.byte.toNat) ++ " in position " ++ toString e.first
    else "bytes in position " ++ toString e.first ++ "-" ++ toString (e.first + e.count - 1)
  "'" ++ e.encoding ++ "' codec can't decode " ++ where_ ++ ": " ++ e.defect.reason

namespace Utf8

def encodeChar (c : Char) : List UInt8 :=
  let n := c.toNat
  if n < 0x80 then [.ofNat n]
  else if n < 0x800 then [.ofNat (0xC0 + n / 0x40), .ofNat (0x80 + n % 0x40)]
  else if n < 0x10000 then
    [.ofNat (0xE0 + n / 0x1000), .ofNat (0x80 + n / 0x40 % 0x40), .ofNat (0x80 + n % 0x40)]
  else
    [.ofNat (0xF0 + n / 0x40000), .ofNat (0x80 + n / 0x1000 % 0x40),
     .ofNat (0x80 + n / 0x40 % 0x40), .ofNat (0x80 + n % 0x40)]

def encode (s : List Char) : List UInt8 := s.flatMap encodeChar

/-- The bytes of a text; one that holds half of a pair has none. -/
def bytes? (t : Text) : Option (List UInt8) := (chars? t.toList).map encode

def isContinuation (b : UInt8) : Bool := 0x80 ≤ b.toNat && b.toNat < 0xC0

/-- What the bytes begin with: a character and its length, or a defect and the number of bytes that
it spans. -/
def step (bs : List UInt8) : Except (Defect × Nat) (Char × Nat) :=
  match bs with
  | [] => .error (.unexpectedEnd, 0)
  | b :: r =>
    let n := b.toNat
    if n < 0x80 then .ok (Char.ofNat n, 1)
    else if n < 0xC2 ∨ 0xF5 ≤ n then .error (.badStart, 1)
    else if n < 0xE0 then
      match r with
      | [] => .error (.unexpectedEnd, 1)
      | c :: _ =>
        if isContinuation c then .ok (Char.ofNat ((n - 0xC0) * 0x40 + (c.toNat - 0x80)), 2)
        else .error (.badContinuation, 1)
    else if n < 0xF0 then
      match r with
      | [] => .error (.unexpectedEnd, 1)
      | c :: r =>
        if !isContinuation c || (n == 0xE0 && c.toNat < 0xA0) || (n == 0xED && 0xA0 ≤ c.toNat) then
          .error (.badContinuation, 1)
        else match r with
          | [] => .error (.unexpectedEnd, 2)
          | d :: _ =>
            if isContinuation d then
              .ok (Char.ofNat (((n - 0xE0) * 0x40 + (c.toNat - 0x80)) * 0x40 + (d.toNat - 0x80)), 3)
            else .error (.badContinuation, 2)
    else
      match r with
      | [] => .error (.unexpectedEnd, 1)
      | c :: r =>
        if !isContinuation c || (n == 0xF0 && c.toNat < 0x90) || (n == 0xF4 && 0x90 ≤ c.toNat) then
          .error (.badContinuation, 1)
        else match r with
          | [] => .error (.unexpectedEnd, 2)
          | d :: r =>
            if !isContinuation d then .error (.badContinuation, 2)
            else match r with
              | [] => .error (.unexpectedEnd, 3)
              | e :: _ =>
                if isContinuation e then
                  .ok (Char.ofNat ((((n - 0xF0) * 0x40 + (c.toNat - 0x80)) * 0x40
                    + (d.toNat - 0x80)) * 0x40 + (e.toNat - 0x80)), 4)
                else .error (.badContinuation, 3)

/-- What a step finds in the bytes from a place on, one after the other; what was found before them is
kept in reverse. -/
def decodeFrom {α : Type} (step : List UInt8 → Except (Defect × Nat) (α × Nat)) :
    Nat → Nat → List UInt8 → List α → Except DecodeError (List α)
  | _, _, [], done => .ok done.reverse
  | 0, _, _ :: _, done => .ok done.reverse
  | fuel + 1, place, b :: r, done =>
    match step (b :: r) with
    | .ok (a, n) => decodeFrom step fuel (place + n) ((b :: r).drop n) (a :: done)
    | .error (defect, n) => .error ⟨"utf-8", place, n, b, defect⟩

def decode (bs : List UInt8) : Except DecodeError (List Char) := decodeFrom step bs.length 0 bs []

/-- The half of a pair that the bytes begin with, written like a character of three bytes. -/
def half? : List UInt8 → Option Letter
  | a :: b :: c :: _ =>
    if a = 0xED ∧ 0xA0 ≤ b.toNat ∧ b.toNat < 0xC0 ∧ isContinuation c then
      some (.ofNat (0xD000 + (b.toNat - 0x80) * 0x40 + (c.toNat - 0x80)))
    else none
  | _ => none

/-- A step that lets halves of pairs pass. -/
def passingStep (bs : List UInt8) : Except (Defect × Nat) (Letter × Nat) :=
  match half? bs with
  | some h => .ok (h, 3)
  | none => (step bs).map (fun e => (.char e.1, e.2))

def decodePassing (bs : List UInt8) : Except DecodeError (List Letter) :=
  decodeFrom passingStep bs.length 0 bs []

end Utf8

/-- The order of bytes in a unit of several. -/
inductive ByteOrder where
  | little
  | big
  deriving DecidableEq, Repr

namespace ByteOrder

def suffix : ByteOrder → String
  | little => "le"
  | big => "be"

/-- The number that bytes stand for. -/
def number : ByteOrder → List UInt8 → Nat
  | little, bs => bs.foldr (fun b n => n * 256 + b.toNat) 0
  | big, bs => bs.foldl (fun n b => n * 256 + b.toNat) 0

end ByteOrder

/-- The letters of units of two bytes, from a place on. -/
def decode16From (o : ByteOrder) : Nat → Nat → List UInt8 → List Letter →
    Except DecodeError (List Letter)
  | 0, _, _, done => .ok done.reverse
  | fuel + 1, place, bs, done =>
    match bs with
    | [] => .ok done.reverse
    | [b] => .error ⟨"utf-16-" ++ o.suffix, place, 1, b, .truncated⟩
    | a :: b :: r =>
      let n := o.number [a, b]
      match r with
      | c :: d :: r' =>
        let m := o.number [c, d]
        if 0xD800 ≤ n ∧ n < 0xDC00 ∧ 0xDC00 ≤ m ∧ m < 0xE000 then
          let code := 0x10000 + (n - 0xD800) * 0x400 + (m - 0xDC00)
          decode16From o fuel (place + 4) r' (Letter.ofNat code :: done)
        else decode16From o fuel (place + 2) r (Letter.ofNat n :: done)
      | _ => decode16From o fuel (place + 2) r (Letter.ofNat n :: done)

/-- The letters of units of four bytes, from a place on. -/
def decode32From (o : ByteOrder) : Nat → Nat → List UInt8 → List Letter →
    Except DecodeError (List Letter)
  | 0, _, _, done => .ok done.reverse
  | fuel + 1, place, bs, done =>
    match bs with
    | [] => .ok done.reverse
    | a :: b :: c :: d :: r =>
      let n := o.number [a, b, c, d]
      if 0x110000 ≤ n then .error ⟨"utf-32-" ++ o.suffix, place, 4, a, .outOfRange⟩
      else decode32From o fuel (place + 4) r (Letter.ofNat n :: done)
    | a :: r => .error ⟨"utf-32-" ++ o.suffix, place, r.length + 1, a, .truncated⟩

/-- The encoding of a text that begins with an ASCII character or a byte order mark, told by its
first bytes, with the length of the mark. -/
inductive Encoding where
  | utf8 (mark : Nat)
  | utf16 (order : ByteOrder) (mark : Nat)
  | utf32 (order : ByteOrder) (mark : Nat)
  deriving DecidableEq, Repr

/-- The byte order marks, the longer before those that they begin with. -/
def Encoding.marks : List (List UInt8 × Encoding) :=
  [([0x00, 0x00, 0xFE, 0xFF], .utf32 .big 4), ([0xFF, 0xFE, 0x00, 0x00], .utf32 .little 4),
    ([0xFE, 0xFF], .utf16 .big 2), ([0xFF, 0xFE], .utf16 .little 2),
    ([0xEF, 0xBB, 0xBF], .utf8 3)]

/-- The encoding of a text that begins with an ASCII character, told by its first zeros. -/
def Encoding.ofZeros : List UInt8 → Encoding
  | a :: b :: c :: d :: _ =>
    if a = 0 then (if b ≠ 0 then .utf16 .big 0 else .utf32 .big 0)
    else if b = 0 then (if c ≠ 0 ∨ d ≠ 0 then .utf16 .little 0 else .utf32 .little 0)
    else .utf8 0
  | [a, b] => if a = 0 then .utf16 .big 0 else if b = 0 then .utf16 .little 0 else .utf8 0
  | _ => .utf8 0

def Encoding.detect (bs : List UInt8) : Encoding :=
  match marks.find? (·.1.isPrefixOf bs) with
  | some (_, e) => e
  | none => .ofZeros bs

/-- The letters of bytes in the encoding that their beginning shows. Halves of pairs are let pass. Places
count the byte order mark, save that of UTF-8. -/
def decodeDetected (bs : List UInt8) : Except DecodeError (List Letter) :=
  match Encoding.detect bs with
  | .utf8 mark => Utf8.decodePassing (bs.drop mark)
  | .utf16 o mark => decode16From o (bs.length + 1) mark (bs.drop mark) []
  | .utf32 o mark => decode32From o (bs.length + 1) mark (bs.drop mark) []

/-- The characters of a file: UTF-8, without the byte order mark it may begin with, and with every
line end a line feed. A file that stops inside the mark is empty. -/
def decodeFile (bs : List UInt8) : Except DecodeError (List Char) :=
  match bs with
  | [0xEF] | [0xEF, 0xBB] => .ok []
  | _ =>
    let body := match bs with
      | 0xEF :: 0xBB :: 0xBF :: r => r
      | _ => bs
    match Utf8.decode body with
    | .ok s => .ok (unifyLineEnds s)
    | .error e => .error e

end ShortVolume.Text
