import ShortVolume.Yaml.Tag
import ShortVolume.Value
import ShortVolume.Number.Numeral
import ShortVolume.Text.Base64
set_option autoImplicit false

/-!
What the content of a scalar stands for, by its tag.
-/

namespace ShortVolume.Yaml.Scalar

/-- The characters of a content; one with half of a pair is wrong for every tag but that of texts. -/
def characters (wrong : Cause) (content : Text) : Except Error (List Char) :=
  match Text.chars? content.toList with
  | some cs => .ok cs
  | none => .error (.of wrong)

/-- The content without the underscores that group its digits. -/
def ungrouped (s : List Char) : List Char := s.filter (· != '_')

/-! ### Integers -/

def integer (base : Nat) (s : List Char) : Except Error Int :=
  match Numeral.integer? base s with
  | some i => .ok i
  | none => .error (.of (.number (String.ofList s)))

/-- The number of groups in base sixty, from the last one to the first. -/
def sixtieths : List Int → Int
  | [] => 0
  | i :: r => i + 60 * sixtieths r

/-- The integer that is written without its sign. Up to version 1.1 a leading zero means base eight
and colons base sixty. -/
def magnitude (v : Version) (s : List Char) : Except Error Int :=
  match s with
  | ['0'] => .ok 0
  | '0' :: 'b' :: r => integer 2 r
  | '0' :: 'x' :: r => integer 16 r
  | '0' :: 'o' :: r => integer 8 r
  | s =>
    if v ≠ .v1_1 then integer 10 s
    else
      match s with
      | [] => .error (.of .emptyNumber)
      | '0' :: _ => integer 8 s
      | s =>
        if s.contains ':' then do
          let groups ← (Text.splitOn ':' s).mapM (integer 10)
          return sixtieths groups.reverse
        else integer 10 s

def int (v : Version) (content : Text) : Except Error Int := do
  let s := ungrouped (← characters (.number content) content)
  if s.isEmpty then .error (.of .emptyNumber)
  else
    let (negative, rest) := Numeral.signed s
    return Numeral.withSign negative (← magnitude v rest)

/-! ### Numbers with a fraction -/

def lowerAscii (c : Char) : Char := if 'A' ≤ c && c ≤ 'Z' then Char.ofNat (c.toNat + 32) else c

/-- A decimal, or a name of the infinite or undefined number. -/
def number (s : List Char) : Except Error Binary64 :=
  match Numeral.number? s with
  | some x => .ok x
  | none => .error (.of (.number (String.ofList s)))

/-- The sum of groups in base sixty, from the last one on; every product and sum is rounded. -/
def sixtiethSum (base : Nat) (sum : Binary64) : List Binary64 → Binary64
  | [] => sum
  | x :: r => sixtiethSum (base * 60) (sum.plus (x.times (.ofInt base))) r

/-- Whether a content, less its sign, is the name of the undefined number. -/
def isUndefined (content : Text) : Bool :=
  match Text.chars? content.toList with
  | some cs => (Numeral.signed ((ungrouped cs).map lowerAscii)).2 == ".nan".toList
  | none => false

def float (v : Version) (content : Text) : Except Error Binary64 := do
  let s := (ungrouped (← characters (.number content) content)).map lowerAscii
  if s.isEmpty then .error (.of .emptyNumber)
  else
    let (negative, rest) := Numeral.signed s
    let x ←
      if rest = ".inf".toList then .ok (.infinity false)
      else if rest = ".nan".toList then .ok .nan
      else if v ≠ .v1_2 && rest.contains ':' then do
        let groups ← (Text.splitOn ':' rest).mapM number
        .ok (sixtiethSum 1 (.zero false) groups.reverse)
      else number rest
    return if negative && !x.isNaN then x.negate else x

/-! ### Truth values -/

def bool (content : Text) : Except Error Bool := do
  let s := String.ofList ((← characters (.truthName content) content).map lowerAscii)
  if ["yes", "y", "true", "on"].contains s then .ok true
  else if ["no", "n", "false", "off"].contains s then .ok false
  else .error (.of (.truthName s))

/-! ### Dates and times -/

def natOf (ds : List Char) : Nat := (Numeral.digitsValue? 10 ds).getD 0

/-- The millionths of a second that decimals stand for, rounded at the seventh. -/
def millionths (fraction : List Char) : Nat :=
  let head := fraction.take 6
  natOf (head ++ List.replicate (6 - head.length) '0') +
    (if 4 < natOf (fraction.drop 6 |>.take 1) then 1 else 0)

/-- The zone that a text names. -/
def zone? (s : List Char) : Option Zone :=
  match s with
  | [] => none
  | ['Z'] => some ⟨0, "Z"⟩
  | c :: r =>
    let groups := Text.splitOn ':' r
    let minutes : Int := natOf (groups.headD []) * 60 + natOf (groups.getD 1 [])
    some ⟨Numeral.withSign (c == '-') minutes, String.ofList s⟩

/-- The date, or the time of day on it, that a moment stands for. -/
def ofMoment (m : Form.Moment) : Except Error Value :=
  let date : Date := ⟨natOf m.year, natOf m.month, natOf m.day⟩
  match m.clock with
  | none => if date.isValid then .ok (.date date) else .error (.of .date)
  | some (hour, minute, second) =>
    let micro := millionths m.fraction
    let t : Timestamp :=
      ⟨date, natOf hour, natOf minute, natOf second, micro % 1000000, zone? m.zone⟩
    let t' := if micro = 1000000 then t.nextSecond else t
    if !t.isValid then .error (.of .date)
    else if !t'.isValid then .error (.of .beyondCalendar)
    else .ok (.time t')

def timestamp (content : Text) : Except Error Value := do
  match Form.moment? (Form.core (← characters (.moment content) content)) with
  | some m => ofMoment m
  | none => .error (.of (.moment content))

/-! ### Bytes -/

def binary (content : Text) : Except Error (List UInt8) := do
  let cs ← characters .content content
  if cs.all (fun c => c.toNat < 128) then
    match Text.Base64.decode cs with
    | some bs => .ok bs
    | none => .error (.of .content)
  else .error (.of .content)

end ShortVolume.Yaml.Scalar
