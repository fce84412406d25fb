import ShortVolume.Volume.Field
import ShortVolume.Text.Blank
set_option autoImplicit false

/-!
The backing store of a volume, and its half of the flat record.

A store is named by the segments of its selector: a disk by one, a host path by its path and, if
asked for, its type. The record holds the kind's tag, the segments with colons between them, and
the other fields of a disk that are set.
-/

namespace ShortVolume

/-- A disk, by the name its provider knows it by. -/
structure Disk where
  id : Text
  fs : Option Text
  partition : Option Int
  readOnly : Bool
  deriving DecidableEq, Repr

/-- A backing store. -/
inductive Source where
  | gcePD (disk : Disk)
  | awsEBS (disk : Disk)
  | hostPath (path : Text) (type : Option HostPathType)
  deriving DecidableEq, Repr

def Source.kind : Source → Kind
  | gcePD _ => .gcePD
  | awsEBS _ => .awsEBS
  | hostPath _ _ => .hostPath

def selectorSeparator : Char := ':'

/-- The segments of a compound identifier. -/
def segments (s : Text) : List Text :=
  (Text.splitOn (Letter.char selectorSeparator) s.toList).map Text.ofList

/-- The compound identifier of segments. -/
def joinSegments (selector : List Text) : Text :=
  ⟨Text.joinWith (Letter.char selectorSeparator) (selector.map Text.toList)⟩

namespace Entries

/-- The segments of the record's compound identifier, none when the key is absent. -/
def selector (es : Entries) : Except Fault (List Text) :=
  match es.lookup? "vol_id" with
  | none => .ok []
  | some v =>
    match v.text? with
    | some s => .ok (segments s)
    | none => .error (.field v "vol_id" .string)

/-- The disk with the given name and the record's other disk fields. -/
def disk (id : Text) (es : Entries) : Except Fault Disk := do
  let fs ← es.string? "fs"
  let partition ← es.integer? "partition"
  let readOnly ← es.flag "ro"
  return ⟨id, fs, partition, readOnly⟩

end Entries

namespace Source

/-- The type that the second segment of a host path names. -/
def pathType (s : Text) : Except Fault HostPathType :=
  match HostPathType.ofText? s with
  | some t => .ok t
  | none => .error (.unknownWord (.text s) .hostPathType)

/-- The store of a kind that a selector and a record name. -/
def ofRecord (kind : Kind) (selector : List Text) (es : Entries) : Except Fault Source :=
  match kind, selector with
  | .gcePD, [id] => do return .gcePD (← es.disk id)
  | .awsEBS, [id] => do return .awsEBS (← es.disk id)
  | .hostPath, [path] => .ok (.hostPath path none)
  | .hostPath, [path, type] => do return .hostPath path (some (← pathType type))
  | kind, selector => .error (.segmentCount selector kind)

/-- The store that a tag, a selector and a record name. -/
def decode (tag : Value) (selector : List Text) (es : Entries) : Except Fault Source :=
  if tag.isKey then
    match tag.text?.bind Kind.ofTag? with
    | some kind => ofRecord kind selector es
    | none => .error (.unsupportedType tag)
  else .error (.misplaced tag)

end Source

/-- The fields of a disk that are set, apart from its name. -/
def Disk.entries (d : Disk) : Entries :=
  (match d.fs with
   | some s => [(.text "fs", .text s)]
   | none => []) ++
  (match d.partition with
   | some i => [(.text "partition", .int i)]
   | none => []) ++
  (if d.readOnly then [(.text "ro", .bool true)] else [])

/-- The record of a store: its other fields, its tag, and its segments as one identifier. -/
def storeEntries (kind : Kind) (selector : List Text) (extra : Entries) : Entries :=
  extra ++ [(.text "vol_type", .text kind.tag), (.text "vol_id", .text (joinSegments selector))]

/-- Whether a text holds the separator, so that it would be read back as several segments. -/
def holdsSeparator (s : Text) : Bool := s.toList.contains (Letter.char selectorSeparator)

namespace Source

/-- The segments that name the store. -/
def selector : Source → List Text
  | gcePD d | awsEBS d => [d.id]
  | hostPath path none => [path]
  | hostPath path (some t) => [path, t.text]

/-- The record's fields besides tag and identifier. -/
def extra : Source → Entries
  | gcePD d | awsEBS d => d.entries
  | hostPath _ _ => []

/-- The store's half of the record. There is none when a segment holds the separator. -/
def entries (s : Source) : Except Fault Entries :=
  match s.selector.find? holdsSeparator with
  | some segment => .error (.separatorInside (s.selector.map .text) (.text segment) s.kind)
  | none => .ok (storeEntries s.kind s.selector s.extra)

end Source

end ShortVolume
