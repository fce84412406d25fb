import ShortVolume.Value
import ShortVolume.Text.Literal
import ShortVolume.Number.Shortest
set_option autoImplicit false

/-!
How messages show a value: as a literal, or bare.

A bare text is the text itself and a bare word of a vocabulary its qualified name; a bare date has
its standard notation; every other bare value is its literal. Integers of more than 4300 digits
have no decimal text, and neither has a value that holds one. Inside itself a collection is written
as an ellipsis between its brackets.
-/

namespace ShortVolume

/-- Integers from here on have no decimal text. -/
def digitBound : Nat := tenTo 4300

/-- Whether an integer has a decimal text. -/
def hasDigits (i : Int) : Bool := i.natAbs < digitBound

namespace Value

mutual

/-- Whether every integer in the value has a decimal text. -/
def isShowable : Value → Bool
  | int i => hasDigits i
  | list xs | tuple xs | set xs => areShowable xs
  | map es | orderedMap es => entriesShowable es
  | loop _ body => body.isShowable
  | _ => true

def areShowable : List Value → Bool
  | [] => true
  | x :: r => x.isShowable && areShowable r

def entriesShowable : List (Value × Value) → Bool
  | [] => true
  | (k, v) :: r => k.isShowable && v.isShowable && entriesShowable r

end

end Value

/-- A span of time as days and seconds, whichever are not zero. -/
def spanLiteral (seconds : Int) : String :=
  let days := seconds.fdiv 86400
  let rest := seconds.fmod 86400
  let parts := (if days = 0 then [] else ["days=" ++ toString days]) ++
    (if rest = 0 then [] else ["seconds=" ++ toString rest])
  "datetime.timedelta(" ++ (if parts.isEmpty then "0" else ", ".intercalate parts) ++ ")"

def Zone.literal (z : Zone) : String :=
  "datetime.timezone(" ++ spanLiteral (z.minutes * 60) ++ ", " ++ Text.literal z.name ++ ")"

def Date.literal (d : Date) : String :=
  "datetime.date(" ++ ", ".intercalate ([d.year, d.month, d.day].map toString) ++ ")"

/-- The fields of a time; the seconds and their millionths are left out when nothing follows. -/
def Timestamp.literal (t : Timestamp) : String :=
  let fields := [t.date.year, t.date.month, t.date.day, t.hour, t.minute] ++
    (if t.micro ≠ 0 then [t.second, t.micro] else if t.second ≠ 0 then [t.second] else [])
  let zone := match t.zone with
    | none => []
    | some z => ["tzinfo=" ++ z.literal]
  "datetime.datetime(" ++ ", ".intercalate (fields.map toString ++ zone) ++ ")"

def Term.literal (t : Term) : String := "<" ++ t.label ++ ": " ++ Text.literal t.text ++ ">"

namespace Value

/-- What stands for a collection inside itself. -/
def ellipsis : Value → String
  | list _ => "[...]"
  | tuple _ => "(...)"
  | map _ => "\x7b...\x7d"
  | _ => "..."

/-- The collections around a value: the number and the ellipsis of each. -/
abbrev Enclosing := List (Nat × String)

def Enclosing.ellipsis? (around : Enclosing) (id : Nat) : Option String :=
  (around.find? (fun e => e.1 == id)).map Prod.snd

mutual

/-- The literal of a value inside the collections `around` it. -/
def literalIn (around : Enclosing) : Value → String
  | null => "None"
  | bool b => if b then "True" else "False"
  | int i => toString i
  | float x => x.text .plain
  | text s => Text.literal s
  | term t => t.literal
  | bytes bs => Text.bytesLiteral bs
  | date d => d.literal
  | time t => t.literal
  | list xs => "[" ++ ", ".intercalate (literals around xs) ++ "]"
  | tuple [x] => "(" ++ literalIn around x ++ ",)"
  | tuple xs => "(" ++ ", ".intercalate (literals around xs) ++ ")"
  | set [] => "set()"
  | set xs => "\x7b" ++ ", ".intercalate (literals around xs) ++ "\x7d"
  | map es => "\x7b" ++ ", ".intercalate (entryLiterals around es) ++ "\x7d"
  | orderedMap [] => "ordereddict()"
  | orderedMap es => "ordereddict([" ++ ", ".intercalate (pairLiterals around es) ++ "])"
  | loop id body =>
    match around.ellipsis? id with
    | some dots => dots
    | none => literalIn ((id, body.ellipsis) :: around) body
  | again id => (around.ellipsis? id).getD "..."

def literals (around : Enclosing) : List Value → List String
  | [] => []
  | x :: r => literalIn around x :: literals around r

def entryLiterals (around : Enclosing) : List (Value × Value) → List String
  | [] => []
  | (k, v) :: r => (literalIn around k ++ ": " ++ literalIn around v) :: entryLiterals around r

def pairLiterals (around : Enclosing) : List (Value × Value) → List String
  | [] => []
  | (k, v) :: r =>
    ("(" ++ literalIn around k ++ ", " ++ literalIn around v ++ ")") :: pairLiterals around r

end

def literal (v : Value) : String := literalIn [] v

/-- The value as it stands inside a sentence. -/
def bare : Value → Text
  | text s => s
  | term t => t.label
  | date d => d.text
  | time t => t.text " "
  | v => v.literal

end Value

example : (Value.list [.int 1, .text "x"]).literal = "[1, 'x']" := by decide +kernel
example : (Value.loop 0 (.list [.again 0])).literal = "[[...]]" := by decide +kernel

end ShortVolume
