import ShortVolume.Value
set_option autoImplicit false

/-!
The items of a value, and the map that a value lists.

A collection has its items, a map its keys, a text its letters. A list of pairs can stand for a
map; a value that has no items cannot.
-/

namespace ShortVolume.Value

/-- The letters of a text, each as a text. -/
def letters (t : Text) : List Value := t.toList.map (fun c => text ⟨[c]⟩)

/-- The items of a value; numbers and dates have none. -/
def items? (v : Value) : Option (List Value) :=
  match v.view with
  | list xs | tuple xs | set xs => some xs
  | text s => some (letters s)
  | term t => some (letters t.text)
  | bytes bs => some (bs.map (fun b => int b.toNat))
  | map es | orderedMap es => some (es.map (fun e => e.1))
  | _ => none

/-- The values that a value lists, none when it is absent. -/
def listed? (v : Value) : Option (List Value) :=
  if v.isFalsy then some [] else v.items?

/-- Why values are no entries of a map. -/
inductive PairFault where
  /-- A value without items where a pair has to be, or a key that cannot be one. -/
  | misplaced (value : Value)
  /-- A value that does not have two items. -/
  | notPair (value : Value)
  deriving Repr

/-- The entry that a value with two items stands for. -/
def pair (v : Value) : Except PairFault (Value × Value) :=
  match v.items? with
  | none => .error (.misplaced v)
  | some [k, w] => if k.isKey then .ok (k, w) else .error (.misplaced k)
  | some _ => .error (.notPair v)

/-- The entries that values stand for, or the first value that is none. -/
def pairs : List Value → Except PairFault Entries
  | [] => .ok []
  | v :: r =>
    match v.pair with
    | .error f => .error f
    | .ok e =>
      match pairs r with
      | .ok es => .ok (e :: es)
      | .error f => .error f

/-- The map that a value is or lists: nothing when it is absent, otherwise its entries, or the
pairs among its items. -/
def listedMap (v : Value) : Except PairFault Entries :=
  if v.isFalsy then .ok []
  else match v.entries? with
    | some es => .ok es
    | none =>
      match v.items? with
      | none => .error (.misplaced v)
      | some xs =>
        match pairs xs with
        | .ok es => .ok (Entries.ofPairs es)
        | .error f => .error f

theorem listedMap_map (es : Entries) : (map es).listedMap = .ok es := by
  cases es <;> rfl

end ShortVolume.Value
