import ShortVolume.Value
set_option autoImplicit false

/-!
Collections under construction, and the values that they stand for.

A collection is a cell, and the parts of a cell may be cells, so that a collection can contain itself. A
cell that is met again inside itself is not followed any further; it and all cells on the way back to it
become loops.
-/

namespace ShortVolume.Yaml

/-- A value without parts that could change, or the number of a cell. -/
inductive Part where
  | whole (v : Value)
  | cell (i : Nat)
  deriving Repr

/-- A collection under construction. -/
inductive Cell where
  | list (xs : List Part)
  | tuple (xs : List Part)
  | set (keys : List Value)
  | map (entries : List (Value × Part))
  | orderedMap (entries : List (Value × Part))
  deriving Repr

/-- A value, and the cells around it that it refers to. -/
structure Unfolded where
  value : Value
  loose : List Nat

namespace Unfolded

def all (xs : List Unfolded) : List Value × List Nat :=
  (xs.map Unfolded.value, xs.flatMap Unfolded.loose)

/-- The value of the cell with the number `i`. -/
def close (i : Nat) (value : Value) (loose : List Nat) : Unfolded :=
  if loose.isEmpty then ⟨value, []⟩ else ⟨.loop i value, loose.filter (· != i)⟩

end Unfolded

/-- The value of a part inside the cells `around` it, at most `n` cells deep. -/
def unfold (cells : Array Cell) : Nat → List Nat → Part → Unfolded
  | _, _, .whole v => ⟨v, []⟩
  | 0, _, .cell _ => ⟨.null, []⟩
  | n + 1, around, .cell i =>
    if around.contains i then ⟨.again i, [i]⟩
    else
      let inside := unfold cells n (i :: around)
      let items (xs : List Part) := Unfolded.all (xs.map inside)
      let entries (es : List (Value × Part)) : List (Value × Value) × List Nat :=
        let (vs, loose) := items (es.map Prod.snd)
        ((es.map Prod.fst).zip vs, loose)
      match cells[i]? with
      | some (.list xs) => .close i (.list (items xs).1) (items xs).2
      | some (.tuple xs) => .close i (.tuple (items xs).1) (items xs).2
      | some (.set keys) => ⟨.set keys, []⟩
      | some (.map es) => .close i (.map (entries es).1) (entries es).2
      | some (.orderedMap es) => .close i (.orderedMap (entries es).1) (entries es).2
      | none => ⟨.null, []⟩

end ShortVolume.Yaml
