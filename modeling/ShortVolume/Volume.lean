import ShortVolume.Volume.Source
import ShortVolume.Volume.Meta
set_option autoImplicit false

/-!
A volume and its flat record.

The two halves of a volume lie side by side in one map. Writing puts the metadata into the store's
half, so that it would win on a common key; reading takes the store from the map, then the metadata.
A document may hold the record itself or wrap it under one key.
-/

namespace ShortVolume

structure Volume where
  data : Meta
  source : Source
  deriving Repr

/-- The one key of a document that wraps a record. -/
def wrapperKey : String := "persistent_volume"

namespace Volume

def ofRecord (es : Entries) : Except Fault Volume := do
  let selector ← es.selector
  let tag ← es.required .string "vol_type"
  let source ← Source.decode tag selector es
  let data ← Meta.decode es
  return ⟨data, source⟩

/-- The volume of a value, which has to be a record. -/
def ofValue (v : Value) : Except Fault Volume :=
  match v.entries? with
  | some es => ofRecord es
  | none => .error (.notObject v)

/-- The record that a wrapping document holds. -/
def unwrap (v : Value) : Except Fault Value :=
  match v.entries? with
  | some es =>
    match Entries.lookup? es wrapperKey with
    | some v => .ok v
    | none => .error (.field .null wrapperKey .dictionary)
  | none => .error (.notWrapper v)

def ofWrapped (v : Value) : Except Fault Volume := do
  ofValue (← unwrap v)

def entries (v : Volume) : Except Fault Entries := do
  let source ← v.source.entries
  return Entries.union source v.data.entries

/-- The record of a volume as a document. -/
def toValue (v : Volume) : Except Fault Value := do
  return .map (← v.entries)

/-- The document that wraps the record of a volume. -/
def toWrapped (v : Volume) : Except Fault Value := do
  return .map [(.text wrapperKey, .map (← v.entries))]

end Volume

/-- Whether a document wraps a record: its one key is the wrapper's. -/
def Value.isWrapped (v : Value) : Bool :=
  match v.entries? with
  | some [(k, _)] => k.same (.text wrapperKey)
  | _ => false

end ShortVolume
