import ShortVolume.Value.Items
import ShortVolume.Volume
set_option autoImplicit false

/-!
Volumes that nobody checked: each field is whatever value was given.

A draft is written as a volume is. Labels have to be a map or pairs, modes, reclaim policy and host
path type words of their vocabularies, and the segments of a selector texts; all else goes into the
record as it stands. Main statements: a volume is the draft of itself, and writing it as a draft
gives its record.
-/

namespace ShortVolume

/-- Metadata whose fields may hold any value. A claim and a status are their fields under their
names, in order. -/
structure DraftMeta where
  version : Value := .null
  cluster : Value := .null
  name : Value := .null
  space : Value := .null
  labels : Value := .map []
  annotations : Value := .map []
  storage : Value := .null
  modes : Value := .list []
  claim : Option Entries := none
  reclaim : Value := .null
  storageClass : Value := .null
  mountOptions : Value := .null
  status : Option Entries := none
  deriving Repr

/-- A disk whose fields may hold any value. -/
structure DraftDisk where
  id : Value := .null
  fs : Value := .null
  partition : Value := .null
  readOnly : Value := .bool false
  deriving Repr

/-- A store whose fields may hold any value, or any other value in its place. -/
inductive DraftSource where
  | gcePD (disk : DraftDisk)
  | awsEBS (disk : DraftDisk)
  | hostPath (path type : Value)
  | other (v : Value)
  deriving Repr

/-- A volume that was not checked. -/
structure Draft where
  data : DraftMeta := {}
  source : DraftSource := .other .null
  deriving Repr

def ReclaimPolicy.ofValue : Value → Except Fault (Option ReclaimPolicy)
  | .null => .ok none
  | .term (.policy p) => .ok (some p)
  | v => .error (.unknownWord v .reclaimPolicy)

def HostPathType.ofValue : Value → Except Fault (Option HostPathType)
  | .null => .ok none
  | .term (.pathType t) => .ok (some t)
  | v => .error (.unknownWord v .hostPathType)

def AccessMode.ofListed (v : Value) : Except Fault (List AccessMode) :=
  match v.listed? with
  | some xs => AccessMode.ofValues xs
  | none => .error (.misplaced v)

/-- The labels that a value is or lists. -/
def Value.labels (v : Value) : Except Fault Entries :=
  match v.listedMap with
  | .ok es => .ok es
  | .error (.misplaced v) => .error (.misplaced v)
  | .error (.notPair v) => .error (.notPair v)

namespace DraftMeta

/-- The fields of an object of its own that are not left out. -/
def part (es : Entries) : Entries := es.filter (fun e => !e.2.isBlank)

/-- What the record says about the metadata. The fields are looked at in the order of the record. -/
def record (m : DraftMeta) : Except Fault MetaRecord := do
  let labels ← m.labels.labels
  let annotations ← m.annotations.labels
  let modes ← AccessMode.ofListed m.modes
  let reclaim ← ReclaimPolicy.ofValue m.reclaim
  return {
    version := m.version, cluster := m.cluster, name := m.name, space := m.space
    labels := labels, annotations := annotations, storage := m.storage, modes := modes
    claim := m.claim.map part, reclaim := reclaim, storageClass := m.storageClass
    mountOptions := m.mountOptions, status := m.status.map part }

/-- The metadata's half of the record. -/
def entries (m : DraftMeta) : Except Fault Entries := do
  return (← m.record).entries

end DraftMeta

/-- The fields of a disk that are set, apart from its name. -/
def DraftDisk.entries (d : DraftDisk) : Entries :=
  (match d.fs with
   | .null => []
   | v => [(.text "fs", v)]) ++
  (match d.partition with
   | .null => []
   | v => [(.text "partition", v)]) ++
  (if d.readOnly.isFalsy then [] else [(.text "ro", .bool true)])

/-- A store taken apart: its kind, the segments that name it, and its other fields. -/
structure StoreParts where
  kind : Kind
  selector : List Value
  extra : Entries
  deriving Repr

namespace DraftSource

/-- The parts of a store, if it is one and its host path type is one. -/
def parts : DraftSource → Except Fault StoreParts
  | gcePD d => .ok ⟨.gcePD, [d.id], d.entries⟩
  | awsEBS d => .ok ⟨.awsEBS, [d.id], d.entries⟩
  | hostPath path type =>
    match HostPathType.ofValue type with
    | .ok none => .ok ⟨.hostPath, [path], []⟩
    | .ok (some t) => .ok ⟨.hostPath, [path, .text t.text], []⟩
    | .error f => .error f
  | other v => .error (.noSource v)

end DraftSource

/-- Whether the separator is in a value, as a character or as an item; nothing for a value that
has no items. -/
def Value.holdsSeparator? (v : Value) : Option Bool :=
  match v.text? with
  | some s => some (holdsSeparator s)
  | none => v.items?.map (fun xs => xs.any (Value.same (.text ⟨[.char selectorSeparator]⟩)))

namespace StoreParts

def texts (s : StoreParts) : List Value → Except Fault (List Text)
  | [] => .ok []
  | v :: r =>
    match v.holdsSeparator?, v.text? with
    | some true, _ => .error (.separatorInside s.selector v s.kind)
    | some false, some t =>
      match s.texts r with
      | .ok ts => .ok (t :: ts)
      | .error f => .error f
    | _, _ => .error (.misplaced v)

/-- The store's half of the record. -/
def entries (s : StoreParts) : Except Fault Entries :=
  match s.texts s.selector with
  | .ok ts => .ok (storeEntries s.kind ts s.extra)
  | .error f => .error f

end StoreParts

/-- The store's half of the record. -/
def DraftSource.entries (s : DraftSource) : Except Fault Entries := do
  (← s.parts).entries

/-- The metadata as a draft, with any value in the place of its modes and its reclaim policy. -/
def Meta.draft (m : Meta) (modes reclaim : Value) : DraftMeta where
  version := .ofText? m.version
  cluster := .ofText? m.cluster
  name := .ofText? m.name
  space := .ofText? m.space
  labels := .map m.labels.entries
  annotations := .map m.annotations.entries
  storage := .ofText? m.storage
  modes := modes
  claim := m.claim.map Claim.entries
  reclaim := reclaim
  storageClass := .ofText? m.storageClass
  mountOptions := .ofText? m.mountOptions
  status := m.status.map Status.entries

def AccessMode.listValue (ms : List AccessMode) : Value := .list (ms.map (fun m => .term (.mode m)))

def ReclaimPolicy.value? : Option ReclaimPolicy → Value
  | none => .null
  | some p => .term (.policy p)

def HostPathType.value? : Option HostPathType → Value
  | none => .null
  | some t => .term (.pathType t)

def Disk.draft (d : Disk) : DraftDisk :=
  ⟨.text d.id, .ofText? d.fs, (d.partition.map Value.int).getD .null, .bool d.readOnly⟩

def Source.draft : Source → DraftSource
  | gcePD d => .gcePD d.draft
  | awsEBS d => .awsEBS d.draft
  | hostPath path type => .hostPath (.text path) (HostPathType.value? type)

theorem AccessMode.ofValues_terms (ms : List AccessMode) :
    AccessMode.ofValues (ms.map (fun m => .term (.mode m))) = .ok ms := by
  induction ms with
  | nil => rfl
  | cons m r ih => simp [AccessMode.ofValues, ih]

theorem AccessMode.ofListed_listValue (ms : List AccessMode) :
    AccessMode.ofListed (AccessMode.listValue ms) = .ok ms := by
  have h : (AccessMode.listValue ms).listed? = some (ms.map (fun m => .term (.mode m))) := by
    cases ms <;> rfl
  rw [AccessMode.ofListed, h]
  exact ofValues_terms ms

theorem ReclaimPolicy.ofValue_value? (p : Option ReclaimPolicy) :
    ReclaimPolicy.ofValue (ReclaimPolicy.value? p) = .ok p := by
  cases p <;> rfl

theorem HostPathType.ofValue_value? (t : Option HostPathType) :
    HostPathType.ofValue (HostPathType.value? t) = .ok t := by
  cases t <;> rfl

theorem Disk.entries_draft (d : Disk) : d.draft.entries = d.entries := by
  obtain ⟨id, fs, partition, readOnly⟩ := d
  cases fs <;> cases partition <;> cases readOnly <;> rfl

namespace Draft

/-- The record of a draft; the metadata is looked at first. -/
def entries (d : Draft) : Except Fault Entries := do
  let data ← d.data.entries
  let source ← d.source.entries
  return Entries.union source data

/-- The record of a draft as a document. -/
def toValue (d : Draft) : Except Fault Value := do
  return .map (← d.entries)

/-- The document that wraps the record of a draft. -/
def toWrapped (d : Draft) : Except Fault Value := do
  return .map [(.text wrapperKey, .map (← d.entries))]

end Draft

def Volume.draft (v : Volume) : Draft :=
  ⟨v.data.draft (AccessMode.listValue v.data.modes) (ReclaimPolicy.value? v.data.reclaim),
    v.source.draft⟩

@[simp] theorem DraftMeta.part_fieldEntry (key : String) (v : Value) :
    DraftMeta.part (fieldEntry key v) = fieldEntry key v := by
  by_cases h : v.isBlank <;> simp [DraftMeta.part, fieldEntry, h]

@[simp] theorem DraftMeta.part_append (a b : Entries) :
    DraftMeta.part (a ++ b) = DraftMeta.part a ++ DraftMeta.part b := by
  simp [DraftMeta.part]

theorem DraftMeta.part_claim (c : Claim) : DraftMeta.part c.entries = c.entries := by
  simp [Claim.entries, textEntry]

theorem DraftMeta.part_status (s : Status) : DraftMeta.part s.entries = s.entries := by
  simp [Status.entries, textEntry]

theorem Value.labels_map (es : Entries) : (Value.map es).labels = .ok es := by
  simp [Value.labels, Value.listedMap_map]

/-- Metadata written as a draft gives its half of the record. -/
theorem Meta.entries_draft (m : Meta) :
    (m.draft (AccessMode.listValue m.modes) (ReclaimPolicy.value? m.reclaim)).entries =
      .ok m.entries := by
  have hc : m.claim.map (DraftMeta.part ∘ Claim.entries) = m.claim.map Claim.entries :=
    congrArg (m.claim.map ·) (funext DraftMeta.part_claim)
  have hs : m.status.map (DraftMeta.part ∘ Status.entries) = m.status.map Status.entries :=
    congrArg (m.status.map ·) (funext DraftMeta.part_status)
  simp [DraftMeta.entries, DraftMeta.record, Meta.draft, Value.labels_map,
    AccessMode.ofListed_listValue, ReclaimPolicy.ofValue_value?, hc, hs, Meta.entries, Meta.record,
    bind, Except.bind, pure, Except.pure]

theorem Value.holdsSeparator?_text (s : Text) :
    (Value.text s).holdsSeparator? = some (holdsSeparator s) := rfl

theorem StoreParts.texts_text (p : StoreParts) (ts : List Text) :
    p.texts (ts.map .text) =
      match ts.find? holdsSeparator with
      | some t => .error (.separatorInside p.selector (.text t) p.kind)
      | none => .ok ts := by
  induction ts with
  | nil => rfl
  | cons t r ih =>
    cases h : holdsSeparator t with
    | true => simp [StoreParts.texts, Value.holdsSeparator?_text, h]
    | false =>
      cases hf : r.find? holdsSeparator <;>
        simp [StoreParts.texts, Value.holdsSeparator?_text, h, hf, ih, Value.text?]

theorem Source.parts_draft (s : Source) :
    s.draft.parts = .ok ⟨s.kind, s.selector.map .text, s.extra⟩ := by
  cases s with
  | gcePD d =>
    exact congrArg (fun es => Except.ok (StoreParts.mk .gcePD [.text d.id] es)) d.entries_draft
  | awsEBS d =>
    exact congrArg (fun es => Except.ok (StoreParts.mk .awsEBS [.text d.id] es)) d.entries_draft
  | hostPath path type => cases type <;> rfl

/-- A store written as a draft gives its half of the record. -/
theorem Source.entries_draft (s : Source) : s.draft.entries = s.entries := by
  simp only [DraftSource.entries, Source.parts_draft, bind, Except.bind, StoreParts.entries,
    StoreParts.texts_text, Source.entries]
  cases s.selector.find? holdsSeparator <;> rfl

/-- A volume written as a draft gives its record. -/
theorem Volume.entries_draft (v : Volume) : v.draft.entries = v.entries := by
  simp only [Draft.entries, Volume.draft, Meta.entries_draft, Source.entries_draft, bind,
    Except.bind, Volume.entries]

end ShortVolume
