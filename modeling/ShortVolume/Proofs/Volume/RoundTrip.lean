import ShortVolume.Proofs.Record.Fields
import ShortVolume.Proofs.Volume.Reading
set_option autoImplicit false

/-!
A volume that is written and read again.

Writing cannot tell an empty text from an absent one. So what is read back is the volume with its
empty texts taken as absent, `Volume.pruned`; file system, partition, flag and selector, empty
claims and statuses, and the order of modes and labels all come back as they were.
-/

namespace ShortVolume

def pruneText (s : Option Text) : Option Text := s.filter (fun t => t != "")

def Claim.pruned (c : Claim) : Claim where
  kind := pruneText c.kind
  space := pruneText c.space
  name := pruneText c.name
  uid := pruneText c.uid
  apiVersion := pruneText c.apiVersion
  resourceVersion := pruneText c.resourceVersion
  fieldPath := pruneText c.fieldPath

def Status.pruned (s : Status) : Status where
  phase := pruneText s.phase
  message := pruneText s.message
  reason := pruneText s.reason

/-- The metadata with each empty text taken as absent. -/
def Meta.pruned (m : Meta) : Meta where
  version := pruneText m.version
  cluster := pruneText m.cluster
  name := pruneText m.name
  space := pruneText m.space
  labels := m.labels
  annotations := m.annotations
  storage := pruneText m.storage
  modes := m.modes
  claim := m.claim.map Claim.pruned
  reclaim := m.reclaim
  storageClass := pruneText m.storageClass
  mountOptions := pruneText m.mountOptions
  status := m.status.map Status.pruned

def Volume.pruned (v : Volume) : Volume := ⟨v.data.pruned,v.source⟩

/-- What names a store: the disk's name or the path. -/
def Source.name : Source → Text
  | gcePD d | awsEBS d => d.id
  | hostPath path _ => path

theorem HostPathType.text_free (t : HostPathType) : holdsSeparator t.text = false := by
  cases t <;> decide

/-- Types of host paths are free of the separator, so only the name can hold it. -/
theorem Source.selector_free_iff (s : Source) :
    (∀ segment ∈ s.selector, holdsSeparator segment = false) ↔
      .char selectorSeparator ∉ s.name.toList := by
  rw [← holdsSeparator_eq_false_iff]
  cases s with
  | hostPath path type =>
    cases type with
    | none => simp [selector,name]
    | some t => simp [selector,name,t.text_free]
  | _ => simp [selector,name]

/-! ### Fields that were written -/

theorem filled_ofText? (s : Option Text) :
    (Value.ofText? s).filled?.getD .null = .ofText? (pruneText s) := by
  cases s with
  | none => rfl
  | some t =>
    by_cases h : t = "" <;>
      simp [Value.ofText?,Value.filled?,Value.isBlank,pruneText,Option.filter,h]

theorem plain_ofText? (s : Option Text) : (Value.ofText? s).plain = .ofText? s := by
  cases s <;> rfl

namespace Entries

/-- A record agrees with a table that has under each name what the record has. -/
def Agrees (es : Entries) (fs : Fields) : Prop := ∀ f ∈ fs, es.field f.1 = f.2.getD .null

theorem agrees_entries {fs : Fields} (hn : fs.names.Nodup) : Agrees fs.entries fs :=
  fun _ hf => Fields.field_entries hn hf

theorem Agrees.append {es : Entries} {fs gs : Fields} (h : es.Agrees (fs ++ gs)) :
    es.Agrees fs ∧ es.Agrees gs :=
  ⟨fun f hf => h f (List.mem_append_left gs hf),fun f hf => h f (List.mem_append_right fs hf)⟩

theorem holdsText_of_field {es : Entries} {key : String} {s : Option Text}
    (h : es.field key = (Value.ofText? s).filled?.getD .null) :
    (es.field key).plain = .ofText? (pruneText s) := by
  rw [h,filled_ofText?,plain_ofText?]

theorem holdsLabels_of_field {es : Entries} {key : String} {ls : Labels}
    (h : es.field key = (Value.map ls.entries).filled?.getD .null) : es.HoldsLabels key ls := by
  cases ls with
  | nil => exact .inl ⟨h,rfl⟩
  | cons l ls =>
    have hmap : es.field key = .map (Labels.entries (l :: ls)) := h
    refine .inr ⟨Labels.entries (l :: ls),by rw [hmap]; rfl,?_⟩
    simp [Labels.entries,Value.plain,Function.comp_def]

theorem holdsQuantity_of_field {es : Entries} {key : String} {s : Option Text}
    (h : es.field key = (Value.ofText? s).filled?.getD .null) :
    es.HoldsQuantity key (pruneText s) := by
  rw [filled_ofText?] at h
  unfold HoldsQuantity
  rw [h]
  cases pruneText s with
  | none => exact .inl ⟨rfl,rfl⟩
  | some t => exact .inr ⟨rfl,rfl,rfl⟩

theorem holdsModes_of_field {es : Entries} {ms : List AccessMode}
    (h : es.field "modes" = (Value.text (AccessMode.compact ms)).filled?.getD .null) :
    es.HoldsModes ms := by
  unfold HoldsModes
  rw [h]
  by_cases hms : ms = []
  · subst hms
    exact .inl ⟨rfl,rfl⟩
  · have hne := mt (AccessMode.compact_eq_empty_iff ms).mp hms
    exact .inr (by simp [Value.filled?,Value.isBlank,Value.plain,hne])

theorem holdsReclaim_of_field {es : Entries} {p : Option ReclaimPolicy}
    (h : es.field "reclaim" = (p.map (fun p => Value.text p.text)).getD .null) :
    es.HoldsReclaim p := by
  unfold HoldsReclaim
  rw [h]
  cases p with
  | none => exact .inl ⟨rfl,.inl rfl⟩
  | some p => exact .inr ⟨p,rfl,rfl⟩

theorem holdsPart_of_field {α : Type} {reads : Entries → α → Prop} {es : Entries} {key : String}
    {a : Option α} (write : α → Entries) (prune : α → α) (hr : ∀ c, reads (write c) (prune c))
    (h : es.field key = ((a.map write).map Value.map).getD .null) :
    HoldsPart reads es key (a.map prune) := by
  unfold HoldsPart
  rw [h]
  cases a with
  | none => exact .inl ⟨rfl,rfl⟩
  | some c => exact .inr ⟨write c,prune c,rfl,hr c,rfl⟩

end Entries

/-! ### Volumes that were written -/

theorem Claim.reads_entries (c : Claim) : Claim.Reads c.entries c.pruned := by
  have h := Entries.agrees_entries c.names_nodup
  rw [← Claim.entries_eq] at h
  simp only [Entries.Agrees,Claim.fields,List.forall_mem_cons] at h
  obtain ⟨hkind,hspace,hname,huid,hapi,hresource,hpath,-⟩ := h
  constructor
  · exact Entries.holdsText_of_field hkind
  · exact Entries.holdsText_of_field hspace
  · exact Entries.holdsText_of_field hname
  · exact Entries.holdsText_of_field huid
  · exact Entries.holdsText_of_field hapi
  · exact Entries.holdsText_of_field hresource
  · exact Entries.holdsText_of_field hpath

theorem Status.reads_entries (s : Status) : Status.Reads s.entries s.pruned := by
  have h := Entries.agrees_entries s.names_nodup
  rw [← Status.entries_eq] at h
  simp only [Entries.Agrees,Status.fields,List.forall_mem_cons] at h
  obtain ⟨hphase,hmessage,hreason,-⟩ := h
  constructor
  · exact Entries.holdsText_of_field hphase
  · exact Entries.holdsText_of_field hmessage
  · exact Entries.holdsText_of_field hreason

/-- A record that agrees with the table of metadata holds them, whatever else is in it. -/
theorem Meta.reads_of_agrees {es : Entries} {m : Meta} (h : es.Agrees m.fields) :
    Meta.Reads es m.pruned := by
  simp only [Entries.Agrees,Meta.fields,MetaRecord.fields,Meta.record,List.forall_mem_cons] at h
  obtain ⟨hversion,hcluster,hname,hspace,hlabels,hannotations,hstorage,hmodes,hclaim,hreclaim,
    hclass,hoptions,hstatus,-⟩ := h
  constructor
  · exact Entries.holdsText_of_field hversion
  · exact Entries.holdsText_of_field hcluster
  · exact Entries.holdsText_of_field hname
  · exact Entries.holdsText_of_field hspace
  · exact Entries.holdsLabels_of_field hlabels
  · exact Entries.holdsLabels_of_field hannotations
  · exact Entries.holdsQuantity_of_field hstorage
  · exact Entries.holdsModes_of_field hmodes
  · exact Entries.holdsPart_of_field Claim.entries Claim.pruned Claim.reads_entries hclaim
  · exact Entries.holdsReclaim_of_field hreclaim
  · exact Entries.holdsText_of_field hclass
  · exact Entries.holdsText_of_field hoptions
  · exact Entries.holdsPart_of_field Status.entries Status.pruned Status.reads_entries hstatus

theorem Disk.reads_of_agrees {es : Entries} {d : Disk}
    (h : es.Agrees [("fs",d.fs.map .text), ("partition",d.partition.map .int),
      ("ro",if d.readOnly then some (.bool true) else none)]) : Disk.Reads es d := by
  simp only [Entries.Agrees,List.forall_mem_cons] at h
  obtain ⟨hfs,hpartition,hflag,-⟩ := h
  refine ⟨?_,hpartition,?_⟩
  · rw [hfs]
    cases d.fs <;> rfl
  · rw [hflag]
    cases d.readOnly with
    | true => exact .inl rfl
    | false => exact .inr ⟨rfl,rfl⟩

theorem Source.reads_of_agrees {es : Entries} {s : Source} (h : es.Agrees s.fields)
    (hfree : ∀ segment ∈ s.selector, holdsSeparator segment = false) : Source.Reads es s := by
  obtain ⟨hdisk,hnames⟩ := Entries.Agrees.append h
  simp only [Entries.Agrees,List.forall_mem_cons] at hnames
  obtain ⟨htag,hselector,-⟩ := hnames
  refine ⟨by rw [htag]; rfl,by rw [hselector]; rfl,hfree,?_⟩
  cases s with
  | gcePD d => exact Disk.reads_of_agrees hdisk
  | awsEBS d => exact Disk.reads_of_agrees hdisk
  | hostPath path type => trivial

theorem Volume.ofRecord_entries {v : Volume} {es : Entries} (h : v.entries = .ok es) :
    Volume.ofRecord es = .ok v.pruned := by
  obtain ⟨hfree,rfl⟩ := (v.entries_eq_ok_iff es).mp h
  obtain ⟨hsource,hdata⟩ := Entries.Agrees.append (Entries.agrees_entries v.names_nodup)
  rw [Volume.ofRecord_eq_ok_iff]
  exact ⟨Source.reads_of_agrees hsource hfree,Meta.reads_of_agrees hdata⟩

theorem Volume.toValue_eq_ok_iff (v : Volume) (doc : Value) :
    v.toValue = .ok doc ↔ ∃ es, v.entries = .ok es ∧ Value.map es = doc := by
  simp only [Volume.toValue,Except.bind_eq_ok_iff,Except.pure_eq_ok_iff]

theorem Volume.toWrapped_eq_ok_iff (v : Volume) (doc : Value) :
    v.toWrapped = .ok doc ↔
      ∃ es, v.entries = .ok es ∧ Value.map [(.text wrapperKey,.map es)] = doc := by
  simp only [Volume.toWrapped,Except.bind_eq_ok_iff,Except.pure_eq_ok_iff]

theorem Volume.ofWrapped_wrapper (es : Entries) :
    Volume.ofWrapped (.map [(.text wrapperKey,.map es)]) = Volume.ofRecord es := by
  simp [Volume.ofWrapped,Volume.unwrap,Entries.lookup?_cons,Value.text?,Volume.ofValue,bind,
    Except.bind]

/-- A volume can be written, as a record and in a wrapper, exactly when the name of its store is
free of the separator, and what is written is read back as the volume with its empty texts taken
as absent. -/
theorem Volume.read_of_written (v : Volume) :
    ((∃ doc, v.toValue = .ok doc) ↔ .char selectorSeparator ∉ v.source.name.toList) ∧
      (∀ doc, v.toValue = .ok doc → Volume.ofValue doc = .ok v.pruned) ∧
      ((∃ doc, v.toWrapped = .ok doc) ↔ .char selectorSeparator ∉ v.source.name.toList) ∧
      (∀ doc, v.toWrapped = .ok doc → Volume.ofWrapped doc = .ok v.pruned) := by
  have hwritten : (∃ es, v.entries = .ok es) ↔ .char selectorSeparator ∉ v.source.name.toList := by
    simp [Volume.entries_eq_ok_iff,← Source.selector_free_iff]
  refine ⟨?_,?_,?_,?_⟩
  · rw [← hwritten]
    simp [Volume.toValue_eq_ok_iff]
  · intro doc h
    obtain ⟨es,hes,rfl⟩ := (v.toValue_eq_ok_iff doc).mp h
    exact Volume.ofRecord_entries hes
  · rw [← hwritten]
    simp [Volume.toWrapped_eq_ok_iff]
  · intro doc h
    obtain ⟨es,hes,rfl⟩ := (v.toWrapped_eq_ok_iff doc).mp h
    rw [Volume.ofWrapped_wrapper]
    exact Volume.ofRecord_entries hes

end ShortVolume
