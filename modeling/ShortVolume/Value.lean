import ShortVolume.Vocabulary
import ShortVolume.Calendar
import ShortVolume.Number.Binary64
set_option autoImplicit false

/-!
Values as documents hold them.

A map keeps the order in which its keys came, and its keys are distinct as keys: `Value.same` is
the equality that decides this. It compares numbers by value, so `1`, `1.0` and `true` are one key,
while an undefined number is the same as itself only.

A collection may contain itself. It is written as a `loop` with a number, and `again` with that
number stands for it inside; `Value.view` opens it.
-/

namespace ShortVolume

inductive Value where
  | null
  | bool (b : Bool)
  | int (i : Int)
  | float (x : Binary64)
  | text (s : Text)
  | term (t : Term)
  | bytes (bs : List UInt8)
  | date (d : Date)
  | time (t : Timestamp)
  | list (xs : List Value)
  | tuple (xs : List Value)
  | set (xs : List Value)
  | map (entries : List (Value × Value))
  /-- A map that was asked to keep its order. -/
  | orderedMap (entries : List (Value × Value))
  /-- A collection that contains itself. -/
  | loop (id : Nat) (body : Value)
  /-- The collection around it that has the number. -/
  | again (id : Nat)
  deriving Repr, Inhabited

/-- The entries of a map, in order. -/
abbrev Entries := List (Value × Value)

namespace Value

/-- The name of a value's kind, as messages give it. -/
def kind : Value → String
  | null => "NoneType"
  | bool _ => "bool"
  | int _ => "int"
  | float _ => "float"
  | text _ => "str"
  | term t => t.family
  | bytes _ => "bytes"
  | date _ => "date"
  | time _ => "datetime"
  | list _ => "list"
  | tuple _ => "tuple"
  | set _ => "set"
  | map _ => "dict"
  | orderedMap _ => "ordereddict"
  | loop _ body => body.kind
  | again _ => "NoneType"

/-- Whether a value counts as absent where one is asked for: nothing, false, zero or empty. -/
def isFalsy : Value → Bool
  | null => true
  | bool b => !b
  | int i => i == 0
  | float x => x.isZero
  | text s => s.isEmpty
  | bytes bs => bs.isEmpty
  | list xs | tuple xs | set xs => xs.isEmpty
  | map es | orderedMap es => es.isEmpty
  | term _ | date _ | time _ | loop _ _ | again _ => false

/-- The integer that a truth value or an integer stands for as a key. -/
def int? : Value → Option Int
  | bool b => some (if b then 1 else 0)
  | int i => some i
  | _ => none

/-- The characters that a text or a word of a vocabulary stands for. -/
def text? : Value → Option Text
  | text s => some s
  | term t => some t.text
  | _ => none

/-- Equality of values without parts. -/
def sameScalar (a b : Value) : Bool :=
  match a.int?, b.int? with
  | some i, some j => i == j
  | some i, none => match b with
    | float y => y.isInt i
    | _ => false
  | none, some j => match a with
    | float x => x.isInt j
    | _ => false
  | none, none =>
    match a.text?, b.text? with
    | some s, some t => s == t
    | none, none => match a, b with
      | null, null => true
      | float x, float y => x == y || x.same y
      | bytes s, bytes t => s == t
      | date s, date t => s == t
      | time s, time t => s.same t
      | _, _ => false
    | _, _ => false

mutual

/-- Equality of values as keys. -/
def same : Value → Value → Bool
  | list xs, list ys => sameAll xs ys
  | tuple xs, tuple ys => sameAll xs ys
  | a, b => sameScalar a b

/-- Equality of sequences, place by place. -/
def sameAll : List Value → List Value → Bool
  | [], [] => true
  | x :: xs, y :: ys => same x y && sameAll xs ys
  | _, _ => false

end

mutual

/-- Whether a value can be a key: neither it nor a part of it is a list, a set or a map. -/
def isKey : Value → Bool
  | list _ | set _ | map _ | orderedMap _ | loop _ _ | again _ => false
  | tuple xs => areKeys xs
  | _ => true

def areKeys : List Value → Bool
  | [] => true
  | x :: xs => x.isKey && areKeys xs

end

mutual

/-- The value with `w` in the place of the collection that has the number `id`. -/
def unroll (id : Nat) (w : Value) : Value → Value
  | again i => if i = id then w else again i
  | loop i body => if i = id then loop i body else loop i (unroll id w body)
  | list xs => list (unrollAll id w xs)
  | tuple xs => tuple (unrollAll id w xs)
  | set xs => set xs
  | map es => map (unrollEntries id w es)
  | orderedMap es => orderedMap (unrollEntries id w es)
  | null => null
  | bool b => bool b
  | int i => int i
  | float x => float x
  | text s => text s
  | term t => term t
  | bytes bs => bytes bs
  | date d => date d
  | time t => time t

def unrollAll (id : Nat) (w : Value) : List Value → List Value
  | [] => []
  | x :: r => unroll id w x :: unrollAll id w r

def unrollEntries (id : Nat) (w : Value) : List (Value × Value) → List (Value × Value)
  | [] => []
  | (k, v) :: r => (k, unroll id w v) :: unrollEntries id w r

end

/-- The value, with what is inside of it in sight. -/
def view : Value → Value
  | loop id body => unroll id (loop id body) body
  | v => v

/-- The entries of a map of either kind. -/
def entries? (v : Value) : Option (List (Value × Value)) :=
  match v.view with
  | map es | orderedMap es => some es
  | _ => none

def isMap (v : Value) : Bool := v.entries?.isSome

end Value

namespace Entries

/-- The value under a key. -/
def get? (k : Value) : Entries → Option Value
  | [] => none
  | (k', v) :: r => if k'.same k then some v else get? k r

/-- The value under a text key. -/
def lookup? (es : Entries) (key : String) : Option Value := get? (.text key) es

def hasKey (k : Value) (es : Entries) : Bool := (get? k es).isSome

/-- Puts a value under a key. A key that is there keeps its place. -/
def put (k v : Value) : Entries → Entries
  | [] => [(k, v)]
  | (k', v') :: r => if k'.same k then (k', v) :: r else (k', v') :: put k v r

/-- Puts all entries of `m` into `s`, in order: an entry of `m` wins over one of `s`. -/
def union (s m : Entries) : Entries := m.foldl (fun acc e => put e.1 e.2 acc) s

/-- The map of a list of entries, in which a later entry wins over an earlier one. -/
def ofPairs (es : Entries) : Entries := union [] es

end Entries

end ShortVolume
