import ShortVolume.Volume.Field
import ShortVolume.Volume.Modes
set_option autoImplicit false

/-!
Everything about a volume but its backing store, and that half of the flat record.

Reading ignores the keys that belong to other things. Writing leaves empty texts, empty maps and an
empty list of modes out; a claim and a status are written even when nothing in them is set.
-/

namespace ShortVolume

/-- A reference to the claim that a volume is bound to. -/
structure Claim where
  kind : Option Text := none
  space : Option Text := none
  name : Option Text := none
  uid : Option Text := none
  apiVersion : Option Text := none
  resourceVersion : Option Text := none
  fieldPath : Option Text := none
  deriving DecidableEq, Repr

/-- The state a volume was last seen in. -/
structure Status where
  phase : Option Text := none
  message : Option Text := none
  reason : Option Text := none
  deriving DecidableEq, Repr

/-- Texts under keys, in order. -/
abbrev Labels := List (Value × Text)

structure Meta where
  version : Option Text := none
  cluster : Option Text := none
  name : Option Text := none
  space : Option Text := none
  labels : Labels := []
  annotations : Labels := []
  storage : Option Text := none
  modes : List AccessMode := []
  claim : Option Claim := none
  reclaim : Option ReclaimPolicy := none
  storageClass : Option Text := none
  mountOptions : Option Text := none
  status : Option Status := none
  deriving Repr

/-- What the record says about a volume besides its store: modes and reclaim policy are words of
their vocabularies, the rest is whatever values are to be written. -/
structure MetaRecord where
  version : Value
  cluster : Value
  name : Value
  space : Value
  labels : Entries
  annotations : Entries
  storage : Value
  modes : List AccessMode
  claim : Option Entries
  reclaim : Option ReclaimPolicy
  storageClass : Value
  mountOptions : Value
  status : Option Entries
  deriving Repr

namespace Claim

def decode (es : Entries) : Except Fault Claim := do
  return {
    kind := ← es.string? "kind"
    space := ← es.string? "namespace"
    name := ← es.string? "name"
    uid := ← es.string? "uid"
    apiVersion := ← es.string? "apiVersion"
    resourceVersion := ← es.string? "resourceVersion"
    fieldPath := ← es.string? "fieldPath" }

end Claim

namespace Status

def decode (es : Entries) : Except Fault Status := do
  return {
    phase := ← es.string? "phase"
    message := ← es.string? "message"
    reason := ← es.string? "reason" }

end Status

/-- Whether a value is left out of a record: nothing, or an empty text, map or list. Zero and false
are written. -/
def Value.isBlank : Value → Bool
  | null => true
  | text s => s == ""
  | map es | orderedMap es => es.isEmpty
  | list xs => xs.isEmpty
  | _ => false

/-- A text that may be absent. -/
def Value.ofText? : Option Text → Value
  | none => .null
  | some s => .text s

/-- The entry of a value that is not left out. -/
def fieldEntry (key : String) (v : Value) : Entries :=
  if v.isBlank then [] else [(.text key, v)]

/-- The entry of a text that is set and not empty. -/
def textEntry (key : String) (s : Option Text) : Entries := fieldEntry key (.ofText? s)

/-- The entry of an object of its own, which may be empty. -/
def partEntry (key : String) : Option Entries → Entries
  | none => []
  | some es => [(.text key, .map es)]

@[simp] theorem textEntry_none (key : String) : textEntry key none = [] := rfl

theorem textEntry_some (key : String) (s : Text) :
    textEntry key (some s) = if s = "" then [] else [(.text key, .text s)] := by
  simp [textEntry, fieldEntry, Value.ofText?, Value.isBlank]

@[simp] theorem fieldEntry_map (key : String) (es : Entries) :
    fieldEntry key (.map es) = if es.isEmpty then [] else [(.text key, .map es)] := rfl

/-- The texts under keys as entries. -/
def Labels.entries (ls : Labels) : Entries := ls.map (fun e => (e.1, .text e.2))

def Claim.entries (c : Claim) : Entries :=
  textEntry "kind" c.kind ++ textEntry "namespace" c.space ++ textEntry "name" c.name ++
    textEntry "uid" c.uid ++ textEntry "apiVersion" c.apiVersion ++
    textEntry "resourceVersion" c.resourceVersion ++ textEntry "fieldPath" c.fieldPath

def Status.entries (s : Status) : Entries :=
  textEntry "phase" s.phase ++ textEntry "message" s.message ++ textEntry "reason" s.reason

namespace Entries

/-- The reclaim policy of the record; an empty text is none. -/
def reclaim (es : Entries) : Except Fault (Option ReclaimPolicy) :=
  match es.string? "reclaim" with
  | .error f => .error f
  | .ok none => .ok none
  | .ok (some s) =>
    if s = "" then .ok none
    else match ReclaimPolicy.ofText? s with
      | some p => .ok (some p)
      | none => .error (.unknownWord (es.field "reclaim") .reclaimPolicy)

/-- A part of the record that is an object of its own. -/
def part {α : Type} (decode : Entries → Except Fault α) (es : Entries) (key : String) :
    Except Fault (Option α) :=
  match es.object? key with
  | .error f => .error f
  | .ok none => .ok none
  | .ok (some m) =>
    match decode m with
    | .ok a => .ok (some a)
    | .error f => .error f

/-- The compact modes of the record, if the key has a value. -/
def modes (es : Entries) : Except Fault (List AccessMode) :=
  match es.field "modes" with
  | .null => .ok []
  | v => AccessMode.ofField v

end Entries

namespace Meta

/-- The metadata of a record. The kind of `modes` is looked at before all other fields, its tokens
in the order of the fields. -/
def decode (es : Entries) : Except Fault Meta := do
  let _ ← es.optional .string "modes"
  return {
    version := ← es.string? "version"
    cluster := ← es.string? "cluster"
    name := ← es.string? "name"
    space := ← es.string? "namespace"
    labels := ← es.labels "labels"
    annotations := ← es.labels "annotations"
    storage := ← es.quantity? "storage"
    modes := ← es.modes
    claim := ← es.part Claim.decode "claim"
    reclaim := ← es.reclaim
    storageClass := ← es.string? "storage_class"
    mountOptions := ← es.string? "mount_options"
    status := ← es.part Status.decode "status" }

/-- What the record says about the metadata. -/
def record (m : Meta) : MetaRecord where
  version := .ofText? m.version
  cluster := .ofText? m.cluster
  name := .ofText? m.name
  space := .ofText? m.space
  labels := m.labels.entries
  annotations := m.annotations.entries
  storage := .ofText? m.storage
  modes := m.modes
  claim := m.claim.map Claim.entries
  reclaim := m.reclaim
  storageClass := .ofText? m.storageClass
  mountOptions := .ofText? m.mountOptions
  status := m.status.map Status.entries

end Meta

/-- The metadata's half of the record, in the order in which it is written. -/
def MetaRecord.entries (m : MetaRecord) : Entries :=
  fieldEntry "version" m.version ++ fieldEntry "cluster" m.cluster ++ fieldEntry "name" m.name ++
    fieldEntry "namespace" m.space ++ fieldEntry "labels" (.map m.labels) ++
    fieldEntry "annotations" (.map m.annotations) ++ fieldEntry "storage" m.storage ++
    fieldEntry "modes" (.text (AccessMode.compact m.modes)) ++ partEntry "claim" m.claim ++
    (match m.reclaim with
     | some p => [(.text "reclaim", .text p.text)]
     | none => []) ++
    fieldEntry "storage_class" m.storageClass ++ fieldEntry "mount_options" m.mountOptions ++
    partEntry "status" m.status

def Meta.entries (m : Meta) : Entries := m.record.entries

end ShortVolume
