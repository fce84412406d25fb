import ShortVolume.Volume.Fault
set_option autoImplicit false

/-!
Reading the fields of a record.

A key that is absent and a key without a value are the same, save for a required field. A value of
another kind than the field's is a fault that names the field.
-/

namespace ShortVolume.Entries

/-- The value of a field, nothing when the key is absent. -/
def field (es : Entries) (key : String) : Value := (es.lookup? key).getD .null

/-- A value of the expected kind. -/
def required (want : Expected) (es : Entries) (key : String) : Except Fault Value :=
  let v := es.field key
  if want.accepts v then .ok v else .error (.field v key want)

/-- A value of the expected kind, or nothing. -/
def optional (want : Expected) (es : Entries) (key : String) : Except Fault (Option Value) :=
  match es.field key with
  | .null => .ok none
  | v => if want.accepts v then .ok (some v) else .error (.field v key want)

def string? (es : Entries) (key : String) : Except Fault (Option Text) :=
  match es.optional .string key with
  | .ok v => .ok (v.bind Value.text?)
  | .error f => .error f

def integer? (es : Entries) (key : String) : Except Fault (Option Int) :=
  match es.optional .integer key with
  | .ok v => .ok (v.bind Value.int?)
  | .error f => .error f

/-- A truth value; absent means false. -/
def flag (es : Entries) (key : String) : Except Fault Bool :=
  match es.optional .boolean key with
  | .ok (some (.bool b)) => .ok b
  | .ok _ => .ok false
  | .error f => .error f

/-- A quantity as a text; a number becomes its own notation. -/
def quantity? (es : Entries) (key : String) : Except Fault (Option Text) :=
  match es.optional .quantity key with
  | .ok none => .ok none
  | .ok (some v) => if v.isShowable then .ok (some v.bare) else .error .longInteger
  | .error f => .error f

def object? (es : Entries) (key : String) : Except Fault (Option Entries) :=
  match es.optional .dictionary key with
  | .ok v => .ok (v.bind Value.entries?)
  | .error f => .error f

/-- The entries of a map of texts under the key `key`. A value of another kind is a fault at the
field's name and its own. -/
def textEntries (key : String) : Entries → Except Fault (List (Value × Text))
  | [] => .ok []
  | (k, v) :: r =>
    match v.text? with
    | none =>
      if k.isShowable then .error (.field v (key ++ "." ++ k.bare) .string) else .error .longInteger
    | some s =>
      match textEntries key r with
      | .ok rest => .ok ((k, s) :: rest)
      | .error f => .error f

/-- A map of texts as it stands in the record; absent means empty. -/
def textMap (es : Entries) (key : String) : Except Fault Entries :=
  match es.object? key with
  | .ok none => .ok []
  | .ok (some m) =>
    match textEntries key m with
    | .ok _ => .ok m
    | .error f => .error f
  | .error f => .error f

/-- A map of texts; absent means empty. -/
def labels (es : Entries) (key : String) : Except Fault (List (Value × Text)) :=
  match es.object? key with
  | .ok none => .ok []
  | .ok (some m) => textEntries key m
  | .error f => .error f

end ShortVolume.Entries
