import ShortVolume.Volume.Fault
import ShortVolume.Text.Blank
import ShortVolume.Json.Parse
import ShortVolume.Json.Print
set_option autoImplicit false

/-!
The compact form of a list of access modes: their symbols with commas between them, in order.

Main statements: what is written is read back, and only what is written can be read.
-/

namespace ShortVolume.AccessMode

/-- The compact form. No modes give the empty text. -/
def compact (ms : List AccessMode) : String :=
  String.ofList (Text.joinWith ',' (ms.map (fun m => m.symbol.toList)))

/-- The modes of symbols, or the first text that is no symbol. -/
def ofTokens : List Text → Except Text (List AccessMode)
  | [] => .ok []
  | t :: r =>
    match ofSymbol? t with
    | none => .error t
    | some m =>
      match ofTokens r with
      | .ok ms => .ok (m :: ms)
      | .error t => .error t

/-- The modes of a compact form, or its first unknown token. -/
def ofCompact (s : Text) : Except Text (List AccessMode) :=
  if s = "" then .ok []
  else ofTokens ((Text.splitOn (Letter.char ',') s.toList).map Text.ofList)

/-- The modes that a value of a record stands for. -/
def ofField (v : Value) : Except Fault (List AccessMode) :=
  match ofCompact (v.text?.getD "") with
  | .ok ms => .ok ms
  | .error t => .error (.unknownToken (.text t) v)

/-- The modes among values, all of which have to be modes. -/
def ofValues : List Value → Except Fault (List AccessMode)
  | [] => .ok []
  | .term (.mode m) :: r =>
    match ofValues r with
    | .ok ms => .ok (m :: ms)
    | .error f => .error f
  | v :: _ => .error (.unknownWord v .accessMode)

/-- The compact form as a JSON document: one string, in ASCII. -/
def toJson (ms : List AccessMode) : Text := ⟨Json.quoted true (compact ms)⟩

/-- The modes of a JSON document that holds one string. A text that is no JSON is its own unknown
token. -/
def ofJson (s : Text) : Except Fault (List AccessMode) :=
  match Json.ofText s.toList with
  | .error (.grammar _ _) => .error (.unknownToken (.text s) (.text s))
  | .error .longInteger => .error .longInteger
  | .ok (.text t) => ofField (.text t)
  | .ok v => .error (.unknownToken v (.text s))

end ShortVolume.AccessMode
