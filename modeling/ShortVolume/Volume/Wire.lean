import ShortVolume.Volume
import ShortVolume.Text.Utf8
import ShortVolume.Json.Parse
import ShortVolume.Json.Print
set_option autoImplicit false

/-!
The wire form of a volume: its record as one JSON document, given as a text or as bytes.
-/

namespace ShortVolume

/-- What came over the wire. -/
inductive Wire where
  | text (s : Text)
  | bytes (bs : List UInt8)
  deriving Repr

namespace Wire

def value : Wire → Value
  | text s => .text s
  | bytes bs => .bytes bs

/-- The value of the document, or why there is none. -/
def document (w : Wire) : Except Fault Value :=
  match w with
  | text s => ofJson s.toList (Json.ofText s.toList)
  | bytes bs =>
    match Text.decodeDetected bs with
    | .ok s => ofJson s (Json.document s)
    | .error e => .error (.unreadable w.value e.message)
where
  ofJson (s : List Letter) : Except Json.Error Value → Except Fault Value
    | .ok v => .ok v
    | .error (.grammar cause place) => .error (.unreadable w.value (cause.message s place))
    | .error .longInteger => .error .longInteger

/-- The volume that came over the wire. -/
def volume (w : Wire) : Except Fault Volume := do
  Volume.ofValue (← w.document)

end Wire

/-- The fault of a record that has no JSON text. -/
def Json.Unwritable.fault : Json.Unwritable → Fault
  | .kind v => .unwritable v
  | .longInteger => .longInteger

/-- The lines of a wire form. A negative indent breaks lines as zero does. -/
def wireLayout (indent : Option Int) : Json.Layout := ⟨false, indent.map Int.toNat⟩

/-- Whether a number can be an index: a signed one of 64 bits. -/
def isIndex (i : Int) : Bool := -0x8000000000000000 ≤ i && i < 0x8000000000000000

/-- The wire form of a record, on one line or indented. The indent has to be an index. -/
def Value.toWire (doc : Value) (indent : Option Int) : Except Fault Text :=
  if indent.all isIndex then
    match Json.render (wireLayout indent) doc with
    | .ok s => .ok s
    | .error e => .error e.fault
  else .error .wideIndent

/-- The wire form of a volume, on one line or indented. -/
def Volume.toWire (v : Volume) (indent : Option Int) : Except Fault Text := do
  (← v.toValue).toWire indent

end ShortVolume
