import Mathlib.Data.List.Nodup
import ShortVolume.Volume
set_option autoImplicit false

/-!
Records as tables: the names of the fields in their order, each of them set or not.

A table's record holds the fields that are set. Where the names are distinct, looking a name up in
the record gives what the table has under it, and putting one record into another appends it. The
record of a volume is that of its table, whose names are the same for all volumes.
-/

namespace ShortVolume

/-- Only texts and words of a vocabulary are the same key as a text. -/
theorem Value.same_text (k : Value) (s : Text) : k.same (.text s) = (k.text? == some s) := by
  cases k with
  | text t => simp [same,sameScalar,int?,text?]
  | term t => simp [same,sameScalar,int?,text?]
  | float x => simp [same,sameScalar,int?,text?]
  | _ => rfl

namespace Entries

@[simp] theorem lookup?_nil (key : String) : lookup? [] key = none := rfl

theorem lookup?_cons (k v : Value) (es : Entries) (key : String) :
    lookup? ((k,v) :: es) key = if k.text? = some (key : Text) then some v else lookup? es key := by
  simp only [lookup?,get?,Value.same_text,beq_iff_eq]

theorem lookup?_append (a b : Entries) (key : String) :
    lookup? (a ++ b) key = (lookup? a key).or (lookup? b key) := by
  induction a with
  | nil => rfl
  | cons e r ih =>
    obtain ⟨k,v⟩ := e
    by_cases h : k.text? = some (key : Text) <;> simp [lookup?_cons,h,ih]

/-- A key that is not there comes last. -/
theorem put_of_lookup?_eq_none {es : Entries} {key : String} (v : Value)
    (h : es.lookup? key = none) : put (.text key) v es = es ++ [(.text key,v)] := by
  induction es with
  | nil => rfl
  | cons e r ih =>
    obtain ⟨k,w⟩ := e
    rw [lookup?_cons] at h
    by_cases hk : k.text? = some (key : Text)
    · simp [hk] at h
    · rw [if_neg hk] at h
      simp [put,Value.same_text,hk,ih h]

end Entries

/-- Fields under their names, in order. -/
abbrev Fields := List (String × Option Value)

namespace Fields

def names (fs : Fields) : List String := fs.map Prod.fst

theorem names_append (fs gs : Fields) : (fs ++ gs).names = fs.names ++ gs.names := List.map_append

def entries (fs : Fields) : Entries :=
  fs.filterMap (fun f => f.2.map (fun v => (.text f.1,v)))

@[simp] theorem entries_nil : entries [] = [] := rfl

theorem entries_cons (name : String) (v : Option Value) (fs : Fields) :
    entries ((name,v) :: fs) = (v.map (fun v => (Value.text name,v))).toList ++ entries fs := by
  cases v <;> rfl

theorem entries_append (fs gs : Fields) : entries (fs ++ gs) = entries fs ++ entries gs :=
  List.filterMap_append

theorem lookup?_entries_of_not_mem {fs : Fields} {key : String} (h : key ∉ fs.names) :
    fs.entries.lookup? key = none := by
  induction fs with
  | nil => rfl
  | cons f fs ih =>
    obtain ⟨name,v⟩ := f
    simp only [names,List.map_cons,List.mem_cons,not_or] at h
    have hr := ih h.2
    cases v with
    | none => simpa [entries_cons] using hr
    | some v => simp [entries_cons,Entries.lookup?_cons,Value.text?,Ne.symm h.1,hr]

/-- The record of a table with distinct names has under a name what the table has. -/
theorem lookup?_entries {fs : Fields} (hn : fs.names.Nodup) {key : String} {v : Option Value}
    (h : (key,v) ∈ fs) : fs.entries.lookup? key = v := by
  induction fs with
  | nil => simp at h
  | cons f fs ih =>
    obtain ⟨name,w⟩ := f
    obtain ⟨hname,hrest⟩ := List.nodup_cons.mp hn
    rcases List.mem_cons.mp h with heq | hmem
    · obtain ⟨rfl,rfl⟩ := Prod.mk.inj heq
      cases v with
      | none => simpa [entries_cons] using lookup?_entries_of_not_mem hname
      | some v => simp [entries_cons,Entries.lookup?_cons,Value.text?]
    · have hne : name ≠ key := by
        intro heq
        subst heq
        exact hname (List.mem_map.mpr ⟨_,hmem,rfl⟩)
      have hr := ih hrest hmem
      cases w with
      | none => simpa [entries_cons] using hr
      | some w => simpa [entries_cons,Entries.lookup?_cons,Value.text?,hne] using hr

theorem field_entries {fs : Fields} (hn : fs.names.Nodup) {key : String} {v : Option Value}
    (h : (key,v) ∈ fs) : fs.entries.field key = v.getD .null := by
  rw [Entries.field,lookup?_entries hn h]

/-- Records without a common name lie one after the other in their union. -/
theorem union_entries {fs gs : Fields} (hn : (fs ++ gs).names.Nodup) :
    Entries.union fs.entries gs.entries = (fs ++ gs).entries := by
  induction gs generalizing fs with
  | nil => simp [Entries.union]
  | cons g gs ih =>
    obtain ⟨name,v⟩ := g
    have hsplit : fs ++ (name,v) :: gs = (fs ++ [(name,v)]) ++ gs := by simp
    rw [hsplit] at hn ⊢
    cases v with
    | none =>
      have hfs : (fs ++ [(name,none)]).entries = fs.entries := by
        simp [entries_append,entries_cons]
      rw [← ih hn,hfs]
      rfl
    | some v =>
      have habsent : name ∉ fs.names := by
        simp only [names,List.map_append,List.append_assoc] at hn
        intro hmem
        exact List.disjoint_of_nodup_append hn hmem (by simp)
      have hput := Entries.put_of_lookup?_eq_none v (lookup?_entries_of_not_mem habsent)
      have hfs : (fs ++ [(name,some v)]).entries = fs.entries ++ [(.text name,v)] := by
        simp [entries_append,entries_cons]
      rw [← ih hn,hfs,← hput]
      rfl

end Fields

/-! ### The tables of a volume -/

/-- The value, unless it is left out of a record. -/
def Value.filled? (v : Value) : Option Value := if v.isBlank then none else some v

theorem fieldEntry_eq (key : String) (v : Value) :
    fieldEntry key v = Fields.entries [(key,v.filled?)] := by
  by_cases h : v.isBlank <;> simp [fieldEntry,Value.filled?,Fields.entries,h]

theorem partEntry_eq (key : String) (es : Option Entries) :
    partEntry key es = Fields.entries [(key,es.map Value.map)] := by
  cases es <;> rfl

def Claim.fields (c : Claim) : Fields :=
  [("kind",(Value.ofText? c.kind).filled?), ("namespace",(Value.ofText? c.space).filled?),
    ("name",(Value.ofText? c.name).filled?), ("uid",(Value.ofText? c.uid).filled?),
    ("apiVersion",(Value.ofText? c.apiVersion).filled?),
    ("resourceVersion",(Value.ofText? c.resourceVersion).filled?),
    ("fieldPath",(Value.ofText? c.fieldPath).filled?)]

theorem Claim.entries_eq (c : Claim) : c.entries = c.fields.entries := by
  simp only [Claim.entries,textEntry,fieldEntry_eq,← Fields.entries_append]
  rfl

theorem Claim.names_nodup (c : Claim) : c.fields.names.Nodup := by
  change ["kind","namespace","name","uid","apiVersion","resourceVersion","fieldPath"].Nodup
  decide

def Status.fields (s : Status) : Fields :=
  [("phase",(Value.ofText? s.phase).filled?), ("message",(Value.ofText? s.message).filled?),
    ("reason",(Value.ofText? s.reason).filled?)]

theorem Status.entries_eq (s : Status) : s.entries = s.fields.entries := by
  simp only [Status.entries,textEntry,fieldEntry_eq,← Fields.entries_append]
  rfl

theorem Status.names_nodup (s : Status) : s.fields.names.Nodup := by
  change ["phase","message","reason"].Nodup
  decide

def MetaRecord.fields (m : MetaRecord) : Fields :=
  [("version",m.version.filled?), ("cluster",m.cluster.filled?), ("name",m.name.filled?),
    ("namespace",m.space.filled?), ("labels",(Value.map m.labels).filled?),
    ("annotations",(Value.map m.annotations).filled?), ("storage",m.storage.filled?),
    ("modes",(Value.text (AccessMode.compact m.modes)).filled?),
    ("claim",m.claim.map .map), ("reclaim",m.reclaim.map (fun p => .text p.text)),
    ("storage_class",m.storageClass.filled?), ("mount_options",m.mountOptions.filled?),
    ("status",m.status.map .map)]

theorem MetaRecord.entries_eq (m : MetaRecord) : m.entries = m.fields.entries := by
  have hreclaim (p : ReclaimPolicy) : [(Value.text "reclaim",Value.text p.text)] =
      Fields.entries [("reclaim",some (.text p.text))] := rfl
  have hnone : ([] : Entries) = Fields.entries [("reclaim",none)] := rfl
  cases h : m.reclaim with
  | some p =>
    simp only [MetaRecord.entries,MetaRecord.fields,h,hreclaim,fieldEntry_eq,partEntry_eq,
      ← Fields.entries_append]
    rfl
  | none =>
    simp only [MetaRecord.entries,MetaRecord.fields,h,hnone,fieldEntry_eq,partEntry_eq,
      ← Fields.entries_append]
    rfl

def Meta.fields (m : Meta) : Fields := m.record.fields

/-- The fields of a disk that are set, and none of them for a path. -/
def Source.diskFields : Source → Fields
  | gcePD d | awsEBS d =>
    [("fs",d.fs.map .text), ("partition",d.partition.map .int),
      ("ro",if d.readOnly then some (.bool true) else none)]
  | hostPath _ _ => [("fs",none), ("partition",none), ("ro",none)]

def Source.fields (s : Source) : Fields :=
  s.diskFields ++
    [("vol_type",some (.text s.kind.tag)), ("vol_id",some (.text (joinSegments s.selector)))]

theorem Disk.entries_eq (d : Disk) :
    d.entries = Fields.entries [("fs",d.fs.map .text), ("partition",d.partition.map .int),
      ("ro",if d.readOnly then some (.bool true) else none)] := by
  obtain ⟨id,fs,partition,readOnly⟩ := d
  cases fs <;> cases partition <;> cases readOnly <;> rfl

theorem Source.storeEntries_eq (s : Source) :
    storeEntries s.kind s.selector s.extra = s.fields.entries := by
  have hextra : s.extra = s.diskFields.entries := by
    cases s with
    | gcePD d => exact d.entries_eq
    | awsEBS d => exact d.entries_eq
    | hostPath path type => rfl
  rw [storeEntries,hextra,Source.fields,Fields.entries_append]
  rfl

def Volume.fields (v : Volume) : Fields := v.source.fields ++ v.data.fields

def recordNames : List String :=
  ["fs","partition","ro","vol_type","vol_id","version","cluster","name","namespace","labels",
    "annotations","storage","modes","claim","reclaim","storage_class","mount_options","status"]

theorem Volume.names_eq (v : Volume) : v.fields.names = recordNames := by
  obtain ⟨data,source⟩ := v
  cases source <;> rfl

theorem Volume.names_nodup (v : Volume) : v.fields.names.Nodup := by
  rw [Volume.names_eq]
  decide

/-- A volume has a record unless a segment of its selector holds the separator, and it is that of
its table. -/
theorem Volume.entries_eq (v : Volume) :
    v.entries = match v.source.selector.find? holdsSeparator with
      | some segment =>
        .error (.separatorInside (v.source.selector.map .text) (.text segment) v.source.kind)
      | none => .ok v.fields.entries := by
  unfold Volume.entries Source.entries
  cases v.source.selector.find? holdsSeparator with
  | some segment => rfl
  | none =>
    have hdata : v.data.entries = v.data.fields.entries := MetaRecord.entries_eq _
    simp only [bind,Except.bind,pure,Except.pure,hdata,Source.storeEntries_eq]
    rw [Fields.union_entries v.names_nodup]
    rfl

theorem Volume.entries_eq_ok_iff (v : Volume) (es : Entries) :
    v.entries = .ok es ↔
      (∀ s ∈ v.source.selector, holdsSeparator s = false) ∧ es = v.fields.entries := by
  rw [Volume.entries_eq]
  cases h : v.source.selector.find? holdsSeparator with
  | some segment =>
    have hs := List.find?_some h
    have hm := List.mem_of_find?_eq_some h
    simp only [reduceCtorEq,false_iff,not_and]
    intro hall
    simp [hall segment hm] at hs
  | none =>
    simp only [List.find?_eq_none,Bool.not_eq_true] at h
    constructor
    · intro he
      exact ⟨h,(Except.ok.inj he).symm⟩
    · rintro ⟨-,rfl⟩
      rfl

end ShortVolume
