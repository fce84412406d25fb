import ShortVolume.Proofs.Value.Equality
import ShortVolume.Proofs.Value.Quantity
import ShortVolume.Proofs.Volume.RoundTrip
set_option autoImplicit false

/-!
Canonical records.

The canonical record of a record is said on its values alone: which keys are kept, in which order
and with which values. Reading a record and writing the volume gives exactly its canonical record,
and the canonical record is its own.
-/

namespace ShortVolume

def Value.set? : Value → Option Value
  | .null => none
  | v => some v

/-- A quantity as the text of its notation, unless it is nothing or an empty text. -/
def Value.quantityText? (v : Value) : Option Value :=
  if v.isBlank then none else some (.text v.bare)

/-- A map of texts, unless it has no entries. -/
def Value.textMap? (v : Value) : Option Value :=
  match v.entries? with
  | some (e :: m) => some (.map ((e :: m).map (fun e => (e.1,e.2.plain))))
  | _ => none

namespace Entries

/-- The fields with the given names that are set and not empty, in the order of the names. -/
def filledFields (names : List String) (es : Entries) : Fields :=
  names.map (fun name => (name,(es.field name).plain.filled?))

/-- Of an object of its own the fields with the given names; there may be none of them. -/
def partOf? (names : List String) (v : Value) : Option Value :=
  v.entries?.map (fun m => .map (filledFields names m).entries)

def claimNames : List String :=
  ["kind","namespace","name","uid","apiVersion","resourceVersion","fieldPath"]

def statusNames : List String := ["phase","message","reason"]

/-- Whether the record is that of a disk. -/
def isDisk (es : Entries) : Bool :=
  (es.field "vol_type").text? == some ("gce_pd" : Text) ||
    (es.field "vol_type").text? == some ("aws_ebs" : Text)

/-- The fields of a disk: those that are not nothing, the flag only when it is true. -/
def canonicalDisk (es : Entries) : Fields :=
  if es.isDisk then
    [("fs",(es.field "fs").plain.set?), ("partition",(es.field "partition").set?),
      ("ro",match es.field "ro" with
        | .bool true => some (.bool true)
        | _ => none)]
  else [("fs",none), ("partition",none), ("ro",none)]

def canonicalFields (es : Entries) : Fields :=
  es.canonicalDisk ++
    [("vol_type",some (es.field "vol_type").plain), ("vol_id",some (es.field "vol_id").plain),
      ("version",(es.field "version").plain.filled?), ("cluster",(es.field "cluster").plain.filled?),
      ("name",(es.field "name").plain.filled?), ("namespace",(es.field "namespace").plain.filled?),
      ("labels",(es.field "labels").textMap?), ("annotations",(es.field "annotations").textMap?),
      ("storage",(es.field "storage").quantityText?), ("modes",(es.field "modes").plain.filled?),
      ("claim",partOf? claimNames (es.field "claim")), ("reclaim",(es.field "reclaim").plain.filled?),
      ("storage_class",(es.field "storage_class").plain.filled?),
      ("mount_options",(es.field "mount_options").plain.filled?),
      ("status",partOf? statusNames (es.field "status"))]

/-- The canonical record: of the keys that a volume has, those that are set, in a fixed order and
with the values that they have. -/
def canonical (es : Entries) : Entries := es.canonicalFields.entries

end Entries

/-! ### Quantities -/

theorem Entries.HoldsQuantity.filled {es : Entries} {key : String} {q : Option Text}
    (h : es.HoldsQuantity key q) : (Value.ofText? q).filled? = (es.field key).quantityText? := by
  rcases h with ⟨hnull,rfl⟩ | ⟨haccepts,-,rfl⟩
  · rw [hnull]
    rfl
  · cases hb : (es.field key).isBlank with
    | true =>
      have hempty : es.field key = .text "" := by
        cases hv : es.field key with
        | text s => simpa [hv,Value.isBlank] using hb
        | _ => simp [hv,Expected.accepts,Value.isBlank] at haccepts hb
      rw [hempty]
      rfl
    | false =>
      have hne := Value.bare_ne_empty haccepts hb
      have htext : (Value.text (es.field key).bare).isBlank = false := by
        simpa [Value.isBlank] using hne
      simp [Value.quantityText?,hb,Value.ofText?,Value.filled?,htext]

/-! ### Labels, modes, words and parts -/

theorem Entries.HoldsLabels.filled {es : Entries} {key : String} {ls : Labels}
    (h : es.HoldsLabels key ls) :
    (Value.map ls.entries).filled? = (es.field key).textMap? := by
  rcases h with ⟨hnull,rfl⟩ | ⟨m,hm,hls⟩
  · rw [hnull]
    rfl
  · rw [← hls]
    cases m <;> simp [Value.textMap?,hm,Value.filled?,Value.isBlank]

theorem Entries.HoldsModes.filled {es : Entries} {ms : List AccessMode} (h : es.HoldsModes ms) :
    (Value.text (AccessMode.compact ms)).filled? = (es.field "modes").plain.filled? := by
  rcases h with ⟨hnull,rfl⟩ | hmodes
  · rw [hnull]
    rfl
  · rw [hmodes]

theorem Entries.HoldsReclaim.filled {es : Entries} {p : Option ReclaimPolicy}
    (h : es.HoldsReclaim p) :
    p.map (fun p => Value.text p.text) = (es.field "reclaim").plain.filled? := by
  rcases h with ⟨rfl,hnull | hempty⟩ | ⟨q,rfl,hq⟩
  · rw [hnull]
    rfl
  · rw [hempty]
    rfl
  · rw [hq]
    cases q <;> rfl

theorem Claim.Reads.fields_eq {es : Entries} {c : Claim} (h : Claim.Reads es c) :
    c.fields = es.filledFields Entries.claimNames := by
  simp [Claim.fields,Entries.filledFields,Entries.claimNames,h.kind,h.space,h.name,h.uid,
    h.apiVersion,h.resourceVersion,h.fieldPath]

theorem Status.Reads.fields_eq {es : Entries} {s : Status} (h : Status.Reads es s) :
    s.fields = es.filledFields Entries.statusNames := by
  simp [Status.fields,Entries.filledFields,Entries.statusNames,h.phase,h.message,h.reason]

theorem Entries.HoldsPart.filled {α : Type} {reads : Entries → α → Prop} {es : Entries}
    {key : String} {a : Option α} (names : List String) (write : α → Entries)
    (hw : ∀ m c, reads m c → write c = (m.filledFields names).entries)
    (h : HoldsPart reads es key a) :
    (a.map write).map Value.map = partOf? names (es.field key) := by
  rcases h with ⟨hnull,rfl⟩ | ⟨m,c,hm,hc,rfl⟩
  · rw [hnull]
    rfl
  · simp [partOf?,hm,hw m c hc]

/-! ### Volumes -/

theorem Meta.Reads.fields_eq {es : Entries} {m : Meta} (h : Meta.Reads es m) :
    es.canonicalFields = es.canonicalDisk ++
      [("vol_type",some (es.field "vol_type").plain), ("vol_id",some (es.field "vol_id").plain)] ++
      m.fields := by
  have hclaim := h.claim.filled Entries.claimNames Claim.entries
    (fun m c hc => by rw [Claim.entries_eq,hc.fields_eq])
  have hstatus := h.status.filled Entries.statusNames Status.entries
    (fun m s hs => by rw [Status.entries_eq,hs.fields_eq])
  simp only [Entries.canonicalFields,Meta.fields,MetaRecord.fields,Meta.record,h.version,h.cluster,
    h.name,h.space,← h.labels.filled,← h.annotations.filled,← h.storage.filled,← h.modes.filled,
    ← hclaim,← h.reclaim.filled,h.storageClass,h.mountOptions,← hstatus,List.append_assoc,
    List.cons_append,List.nil_append]

theorem Disk.Reads.fields_eq {es : Entries} {d : Disk} (h : Disk.Reads es d)
    (hdisk : es.isDisk = true) :
    es.canonicalDisk = [("fs",d.fs.map .text), ("partition",d.partition.map .int),
      ("ro",if d.readOnly then some (.bool true) else none)] := by
  have hflag : (match es.field "ro" with
      | .bool true => some (Value.bool true)
      | _ => none) = if d.readOnly then some (.bool true) else none := by
    rcases h.readOnly with hro | ⟨hro,hfalse⟩
    · rw [hro]
      cases d.readOnly <;> rfl
    · rw [hro,hfalse]
      rfl
  rw [Entries.canonicalDisk,if_pos hdisk,h.fs,h.partition,hflag]
  cases d.fs <;> cases d.partition <;> rfl

theorem Source.Reads.fields_eq {es : Entries} {s : Source} (h : Source.Reads es s) :
    s.fields = es.canonicalDisk ++
      [("vol_type",some (es.field "vol_type").plain),
        ("vol_id",some (es.field "vol_id").plain)] := by
  have htag := (Value.text?_eq_some_iff _ _).mpr h.tag
  have hdisk : es.canonicalDisk = s.diskFields := by
    cases s with
    | gcePD d => exact h.disk.fields_eq (by simp [Entries.isDisk,htag,Source.kind,Kind.tag])
    | awsEBS d => exact h.disk.fields_eq (by simp [Entries.isDisk,htag,Source.kind,Kind.tag])
    | hostPath path type =>
      exact if_neg (by simp [Entries.isDisk,htag,Source.kind,Kind.tag])
  rw [Source.fields,hdisk,h.tag,h.selector]

/-- A record that holds a volume has the volume's record as its canonical one. -/
theorem Volume.entries_of_ofRecord {es : Entries} {v : Volume} (h : Volume.ofRecord es = .ok v) :
    v.entries = .ok es.canonical := by
  have hreads := (Volume.ofRecord_eq_ok_iff es v).mp h
  rw [Volume.entries_eq_ok_iff]
  refine ⟨hreads.source.free,?_⟩
  rw [Entries.canonical,hreads.data.fields_eq,← hreads.source.fields_eq,Volume.fields]

theorem filled_pruneText (s : Option Text) :
    (Value.ofText? (pruneText s)).filled? = (Value.ofText? s).filled? := by
  cases s with
  | none => rfl
  | some t =>
    by_cases h : t = "" <;>
      simp [pruneText,Option.filter,Value.ofText?,Value.filled?,Value.isBlank,h]

theorem Claim.entries_pruned (c : Claim) : c.pruned.entries = c.entries := by
  simp [Claim.entries_eq,Claim.fields,Claim.pruned,filled_pruneText]

theorem Status.entries_pruned (s : Status) : s.pruned.entries = s.entries := by
  simp [Status.entries_eq,Status.fields,Status.pruned,filled_pruneText]

/-- Empty texts make no difference to the record. -/
theorem Volume.entries_pruned (v : Volume) : v.pruned.entries = v.entries := by
  have hdata : v.pruned.data.fields = v.data.fields := by
    simp [Meta.fields,MetaRecord.fields,Meta.record,Volume.pruned,Meta.pruned,filled_pruneText,
      Function.comp_def,Claim.entries_pruned,Status.entries_pruned]
  have hsource : v.pruned.source = v.source := rfl
  rw [Volume.entries_eq,Volume.entries_eq,Volume.fields,Volume.fields,hdata,hsource]

/-- Reads a record and writes the volume that it holds. -/
def Volume.rewrite (doc : Value) : Except Fault Value := do (← Volume.ofValue doc).toValue

theorem Volume.rewrite_of_ofValue {doc record : Value} {v : Volume}
    (h : Volume.ofValue doc = .ok v) (hw : v.toValue = .ok record) :
    Volume.rewrite doc = .ok record := by
  rw [Volume.rewrite,Except.bind_eq_ok_iff]
  exact ⟨v,h,hw⟩

/-- Writing a volume that was read gives the canonical record of what it was read from, and doing
so again changes nothing. -/
theorem Volume.rewrite_eq_canonical {doc : Value} {v : Volume} (h : Volume.ofValue doc = .ok v) :
    ∃ es : Entries, doc.entries? = some es ∧ Volume.rewrite doc = .ok (.map es.canonical) ∧
      Volume.rewrite (.map es.canonical) = .ok (.map es.canonical) := by
  have hread := h
  unfold Volume.ofValue at h
  split at h
  · next es hes =>
    have hentries := Volume.entries_of_ofRecord h
    have hwritten := (v.toValue_eq_ok_iff _).mpr ⟨_,hentries,rfl⟩
    have hagain : Volume.ofValue (.map (Entries.canonical es)) = .ok v.pruned :=
      Volume.ofRecord_entries hentries
    have hpruned : v.pruned.toValue = .ok (.map (Entries.canonical es)) := by
      rw [Volume.toValue,Volume.entries_pruned]
      exact hwritten
    exact ⟨es,hes,Volume.rewrite_of_ofValue hread hwritten,
      Volume.rewrite_of_ofValue hagain hpruned⟩
  · contradiction

/-- A record with empty and foreign keys, a number for its storage, and fields of a disk. -/
def scatteredDisk : Value :=
  .map [(.text "claim",.map [(.text "host",.int 1), (.text "name",.text "")]),
    (.text "vol_id",.text "d"), (.text "partition",.int 0), (.text "fs",.text ""),
    (.text "storage",.int 10), (.text "note",.null), (.text "ro",.bool true),
    (.text "vol_type",.text "gce_pd"), (.text "cluster",.text ""), (.text "modes",.text "rw,ro,rw"),
    (.text "labels",.map [(.text "b",.text ""), (.text "a",.text "x")])]

def settledDisk : Value :=
  .map [(.text "fs",.text ""), (.text "partition",.int 0), (.text "ro",.bool true),
    (.text "vol_type",.text "gce_pd"), (.text "vol_id",.text "d"),
    (.text "labels",.map [(.text "b",.text ""), (.text "a",.text "x")]),
    (.text "storage",.text "10"), (.text "modes",.text "rw,ro,rw"), (.text "claim",.map [])]

theorem Volume.rewrite_scatteredDisk :
    (∃ v, Volume.ofValue scatteredDisk = .ok v) ∧
      Volume.rewrite scatteredDisk = .ok settledDisk ∧
      Volume.rewrite settledDisk = .ok settledDisk := by
  have hread : (Volume.ofValue scatteredDisk).toOption.isSome = true := by decide +kernel
  obtain ⟨v,hv⟩ := Option.isSome_iff_exists.mp hread
  rw [Except.toOption_eq_some_iff] at hv
  obtain ⟨es,hes,hwritten,hagain⟩ := Volume.rewrite_eq_canonical hv
  have hsettled : Value.map es.canonical = settledDisk := by
    cases hes
    decide +kernel
  rw [hsettled] at hwritten hagain
  exact ⟨⟨v,hv⟩,hwritten,hagain⟩

end ShortVolume
