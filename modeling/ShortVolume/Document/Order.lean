import ShortVolume.Volume
set_option autoImplicit false

/-!
The order in which the keys of a document are written.

What names a volume comes first, then its store, then all other keys as they came. Maps inside maps,
and maps that are items of a list inside a map, are ordered too.
-/

namespace ShortVolume

namespace Entries

/-- The keys that come first, in their order. -/
def leading : List String := ["name", "namespace", "version", "cluster", "vol_type", "vol_id"]

def isNamed (name : String) (e : Value × Value) : Bool := e.1.same (.text name)

def leadingFirst (es : Entries) : Entries :=
  leading.flatMap (fun name => es.filter (isNamed name)) ++
    es.filter (fun e => !leading.any (fun name => isNamed name e))

end Entries

namespace Value

mutual

/-- A map with its keys in order, and likewise the maps inside; any other value as it is. -/
def ordered : Value → Value
  | map es | orderedMap es => map (Entries.leadingFirst (orderedEntries es))
  | v => v

/-- The entries of a map with each value in order; of a list, each item. -/
def orderedEntries : List (Value × Value) → List (Value × Value)
  | [] => []
  | (k, list xs) :: r => (k, list (orderedItems xs)) :: orderedEntries r
  | (k, v) :: r => (k, v.ordered) :: orderedEntries r

def orderedItems : List Value → List Value
  | [] => []
  | x :: r => x.ordered :: orderedItems r

end

/-- A document in order. Of one that wraps a record, the record is in order. -/
def orderedDocument (v : Value) : Value :=
  match v with
  | map [(k, record)] | orderedMap [(k, record)] =>
    if k.same (.text wrapperKey) then map [(.text wrapperKey, record.ordered)] else v.ordered
  | v => v.ordered

end Value

end ShortVolume
