import ShortVolume.Document.Order
import ShortVolume.Volume.Wire
import ShortVolume.Yaml.Load
import ShortVolume.Yaml.Print
set_option autoImplicit false

/-!
Texts of many documents.

Each document holds one volume, as a record or as a record in a wrapper, and is written the way it
came. Documents are written as YAML, with a marker between two of them, or as JSON, one on a line.
-/

namespace ShortVolume

/-- Why a text has no volumes, or volumes have no text. -/
inductive Failure where
  /-- A document is no volume, or a volume no document. -/
  | fault (f : Fault)
  /-- The text is no YAML. -/
  | yaml (e : Yaml.Error)
  /-- A value has no YAML text. -/
  | unprintable (u : Yaml.Unprintable)
  /-- A value has no JSON text. -/
  | unwritable (u : Json.Unwritable)
  /-- What should be written is no document: it has no keys. -/
  | keyless (v : Value)
  deriving Repr

/-- The form in which documents are written. -/
inductive Format where
  | yaml
  | json
  deriving DecidableEq, Repr

/-- A volume, and whether its record stands in a wrapper. -/
structure Document where
  volume : Volume
  wrapped : Bool
  deriving Repr

namespace Document

def ofValue (v : Value) : Except Fault Document := do
  if v.isWrapped then return ⟨← Volume.ofWrapped v, true⟩
  else return ⟨← Volume.ofValue v, false⟩

/-- The value of a document, in the form that it came in. -/
def toValue (d : Document) : Except Fault Value :=
  if d.wrapped then d.volume.toWrapped else d.volume.toValue

end Document

def documents (text : Text) : Except Failure (List Document) :=
  match Yaml.load text with
  | .error e => .error (.yaml e)
  | .ok vs => (vs.mapM Document.ofValue).mapError .fault

/-- The volumes of a text, whichever form they have. -/
def volumes (text : Text) : Except Failure (List Volume) := do
  return (← documents text).map Document.volume

namespace Format

/-- A value with keys in order, if it has any. -/
def order (v : Value) : Except Failure Value :=
  if v.isMap then .ok v.orderedDocument else .error (.keyless v)

/-- The text of one document, with the line feed that ends it. -/
def one (f : Format) (v : Value) : Except Failure Text :=
  match f with
  | .json =>
    match Json.render ⟨false, none⟩ v with
    | .ok s => .ok (s ++ "\n")
    | .error u => .error (.unwritable u)
  | .yaml =>
    match v.entries? with
    | some es =>
      match Yaml.print es with
      | .ok s => .ok s
      | .error u => .error (.unprintable u)
    | none => .error (.keyless v)

/-- What stands between two documents. -/
def separator : Format → Text
  | yaml => "---\n"
  | json => ""

/-- The texts of values, one for each. Absent and empty values are left out, and all others are
ordered before the first is written. -/
def texts (f : Format) (vs : List Value) : Except Failure (List Text) := do
  let ordered ← (vs.filter (fun v => !v.isFalsy)).mapM order
  ordered.mapM f.one

def write (f : Format) (vs : List Value) : Except Failure Text := do
  return f.separator.intercalate (← f.texts vs)

end Format

/-- A writer of documents. A document without a YAML text jams it: the documents that it writes from
then on are lost, and only what stands between them is left. -/
structure Writer where
  format : Format
  jammed : Bool
  deriving DecidableEq, Repr

namespace Writer

def new (f : Format) : Writer := ⟨f, false⟩

/-- The text that values leave. -/
def write (w : Writer) (vs : List Value) : Except Failure Text := do
  let texts ← w.format.texts vs
  return w.format.separator.intercalate (if w.jammed then texts.map (fun _ => "") else texts)

/-- The text that documents leave. -/
def writeDocuments (w : Writer) (ds : List Document) : Except Failure Text := do
  w.write (← (ds.mapM Document.toValue).mapError .fault)

end Writer

def Format.writeDocuments (f : Format) (ds : List Document) : Except Failure Text :=
  (Writer.new f).writeDocuments ds

/-- The canonical text of the documents of a text. -/
def transcode (f : Format) (text : Text) : Except Failure Text := do
  f.writeDocuments (← documents text)

end ShortVolume
