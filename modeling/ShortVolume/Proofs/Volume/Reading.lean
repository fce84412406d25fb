import ShortVolume.Proofs.Record.Reading
set_option autoImplicit false

/-!
The volume that a record holds.

`Volume.Reads` says on the values of a record which volume it holds, store and metadata each by
their own fields. Reading gives a volume exactly when the record holds it.
-/

namespace ShortVolume

structure Claim.Reads (es : Entries) (c : Claim) : Prop where
  kind : (es.field "kind").plain = .ofText? c.kind
  space : (es.field "namespace").plain = .ofText? c.space
  name : (es.field "name").plain = .ofText? c.name
  uid : (es.field "uid").plain = .ofText? c.uid
  apiVersion : (es.field "apiVersion").plain = .ofText? c.apiVersion
  resourceVersion : (es.field "resourceVersion").plain = .ofText? c.resourceVersion
  fieldPath : (es.field "fieldPath").plain = .ofText? c.fieldPath

theorem Claim.decode_eq_ok_iff (es : Entries) (c : Claim) :
    Claim.decode es = .ok c ↔ Claim.Reads es c := by
  simp only [Claim.decode,Except.bind_eq_ok_iff,Except.pure_eq_ok_iff,Entries.string?_eq_ok_iff]
  constructor
  · rintro ⟨_,hkind,_,hspace,_,hname,_,huid,_,hapi,_,hresource,_,hpath,rfl⟩
    exact ⟨hkind,hspace,hname,huid,hapi,hresource,hpath⟩
  · intro h
    exact ⟨_,h.kind,_,h.space,_,h.name,_,h.uid,_,h.apiVersion,_,h.resourceVersion,_,h.fieldPath,rfl⟩

structure Status.Reads (es : Entries) (s : Status) : Prop where
  phase : (es.field "phase").plain = .ofText? s.phase
  message : (es.field "message").plain = .ofText? s.message
  reason : (es.field "reason").plain = .ofText? s.reason

theorem Status.decode_eq_ok_iff (es : Entries) (s : Status) :
    Status.decode es = .ok s ↔ Status.Reads es s := by
  simp only [Status.decode,Except.bind_eq_ok_iff,Except.pure_eq_ok_iff,Entries.string?_eq_ok_iff]
  constructor
  · rintro ⟨_,hphase,_,hmessage,_,hreason,rfl⟩
    exact ⟨hphase,hmessage,hreason⟩
  · intro h
    exact ⟨_,h.phase,_,h.message,_,h.reason,rfl⟩

structure Meta.Reads (es : Entries) (m : Meta) : Prop where
  version : (es.field "version").plain = .ofText? m.version
  cluster : (es.field "cluster").plain = .ofText? m.cluster
  name : (es.field "name").plain = .ofText? m.name
  space : (es.field "namespace").plain = .ofText? m.space
  labels : es.HoldsLabels "labels" m.labels
  annotations : es.HoldsLabels "annotations" m.annotations
  storage : es.HoldsQuantity "storage" m.storage
  modes : es.HoldsModes m.modes
  claim : Entries.HoldsPart Claim.Reads es "claim" m.claim
  reclaim : es.HoldsReclaim m.reclaim
  storageClass : (es.field "storage_class").plain = .ofText? m.storageClass
  mountOptions : (es.field "mount_options").plain = .ofText? m.mountOptions
  status : Entries.HoldsPart Status.Reads es "status" m.status

theorem Meta.decode_eq_ok_iff (es : Entries) (m : Meta) :
    Meta.decode es = .ok m ↔ Meta.Reads es m := by
  simp only [Meta.decode,Except.bind_eq_ok_iff,Except.pure_eq_ok_iff,Entries.string?_eq_ok_iff,
    Entries.labels_eq_ok_iff,Entries.quantity?_eq_ok_iff,
    Entries.part_eq_ok_iff Claim.decode_eq_ok_iff,Entries.part_eq_ok_iff Status.decode_eq_ok_iff,
    Entries.reclaim_eq_ok_iff]
  constructor
  · rintro ⟨_,hkind,_,hversion,_,hcluster,_,hname,_,hspace,_,hlabels,_,hannotations,_,hstorage,
      _,htokens,_,hclaim,_,hreclaim,_,hclass,_,hoptions,_,hstatus,rfl⟩
    exact ⟨hversion,hcluster,hname,hspace,hlabels,hannotations,hstorage,
      Entries.modes_eq_ok_iff.mp ⟨⟨_,hkind⟩,htokens⟩,hclaim,hreclaim,hclass,hoptions,hstatus⟩
  · intro h
    obtain ⟨⟨_,hkind⟩,htokens⟩ := Entries.modes_eq_ok_iff.mpr h.modes
    exact ⟨_,hkind,_,h.version,_,h.cluster,_,h.name,_,h.space,_,h.labels,_,h.annotations,
      _,h.storage,_,htokens,_,h.claim,_,h.reclaim,_,h.storageClass,_,h.mountOptions,_,h.status,rfl⟩

/-! ### Stores -/

structure Disk.Reads (es : Entries) (d : Disk) : Prop where
  fs : (es.field "fs").plain = .ofText? d.fs
  partition : es.field "partition" = (d.partition.map Value.int).getD .null
  readOnly : es.field "ro" = .bool d.readOnly ∨ es.field "ro" = .null ∧ d.readOnly = false

theorem Disk.ofEntries_eq_ok_iff (id : Text) (es : Entries) (d : Disk) :
    es.disk id = .ok d ↔ d.id = id ∧ Disk.Reads es d := by
  simp only [Entries.disk,Except.bind_eq_ok_iff,Except.pure_eq_ok_iff,Entries.string?_eq_ok_iff,
    Entries.integer?_eq_ok_iff,Entries.flag_eq_ok_iff]
  constructor
  · rintro ⟨_,hfs,_,hpartition,_,hflag,rfl⟩
    exact ⟨rfl,hfs,hpartition,hflag⟩
  · rintro ⟨rfl,h⟩
    exact ⟨_,h.fs,_,h.partition,_,h.readOnly,rfl⟩

/-- The other fields of a disk; a path has none. -/
def Source.ReadsDisk (es : Entries) : Source → Prop
  | gcePD d | awsEBS d => Disk.Reads es d
  | hostPath _ _ => True

theorem Source.pathType_eq_ok_iff (s : Text) (t : HostPathType) :
    pathType s = .ok t ↔ s = t.text := by
  constructor
  · intro h
    unfold pathType at h
    split at h
    · next t' ht =>
      cases h
      exact HostPathType.text_of_ofText? ht
    · contradiction
  · rintro rfl
    simp [pathType]

theorem Source.ofRecord_eq_ok_iff (kind : Kind) (selector : List Text) (es : Entries)
    (s : Source) :
    ofRecord kind selector es = .ok s ↔
      s.kind = kind ∧ s.selector = selector ∧ s.ReadsDisk es := by
  unfold ofRecord
  split
  · simp only [Except.bind_eq_ok_iff,Except.pure_eq_ok_iff,Disk.ofEntries_eq_ok_iff]
    cases s <;> simp [Source.kind,Source.selector,ReadsDisk]
  · simp only [Except.bind_eq_ok_iff,Except.pure_eq_ok_iff,Disk.ofEntries_eq_ok_iff]
    cases s <;> simp [Source.kind,Source.selector,ReadsDisk]
  · cases s with
    | hostPath path type => cases type <;> simp [Source.kind,Source.selector,ReadsDisk,eq_comm]
    | _ => simp [Source.kind]
  · simp only [Except.bind_eq_ok_iff,Except.pure_eq_ok_iff,pathType_eq_ok_iff]
    cases s with
    | hostPath path type =>
      cases type with
      | none => simp [Source.kind,Source.selector]
      | some t =>
        simp [Source.kind,Source.selector,ReadsDisk]
        grind
    | _ => simp [Source.kind]
  · next hdisk hebs hpath htyped =>
    -- No store has a selector of another length than the four forms above.
    simp only [reduceCtorEq,false_iff,not_and]
    rintro rfl rfl
    cases s with
    | gcePD d => exact absurd rfl (hdisk d.id rfl)
    | awsEBS d => exact absurd rfl (hebs d.id rfl)
    | hostPath path type =>
      cases type with
      | none => exact absurd rfl (hpath path rfl)
      | some t => exact absurd rfl (htyped path t.text rfl)

/-- The store of a record: its tag, its segments in one identifier, and the fields of a disk. -/
structure Source.Reads (es : Entries) (s : Source) : Prop where
  tag : (es.field "vol_type").plain = .text s.kind.tag
  selector : (es.field "vol_id").plain = .text (joinSegments s.selector)
  free : ∀ segment ∈ s.selector, holdsSeparator segment = false
  disk : s.ReadsDisk es

theorem Source.selector_ne_nil (s : Source) : s.selector ≠ [] := by
  cases s with
  | hostPath path type => cases type <;> simp [Source.selector]
  | _ => simp [Source.selector]

theorem Entries.selector_eq_ok_iff (es : Entries) (l : List Text) (hl : l ≠ []) :
    es.selector = .ok l ↔ ∃ s, (es.field "vol_id").plain = .text s ∧ segments s = l := by
  unfold Entries.selector field
  cases es.lookup? "vol_id" with
  | none => simp [Value.plain,hl.symm]
  | some v =>
    cases hv : v.text? with
    | none =>
      have hno (s : Text) : v.plain ≠ .text s := by
        rw [Ne,← Value.text?_eq_some_iff,hv]
        simp
      simp [hv,hno]
    | some s => simp [hv,(Value.text?_eq_some_iff v s).mp hv]

theorem Source.decode_eq_ok_iff (tag : Value) (selector : List Text) (es : Entries)
    (s : Source) (ht : Expected.string.accepts tag = true) :
    Source.decode tag selector es = .ok s ↔
      tag.plain = .text s.kind.tag ∧ s.selector = selector ∧ s.ReadsDisk es := by
  have hkey : tag.isKey = true := by
    cases tag <;> simp [Expected.accepts] at ht <;> rfl
  obtain ⟨t,htext⟩ : ∃ t, tag.text? = some t := by
    cases tag <;> simp [Expected.accepts] at ht <;> exact ⟨_,rfl⟩
  rw [Source.decode,if_pos hkey,htext,(Value.text?_eq_some_iff tag t).mp htext]
  cases hk : Kind.ofTag? t with
  | none =>
    simp only [Option.bind_some,hk,reduceCtorEq,Value.text.injEq,false_iff,not_and]
    rintro rfl
    simp at hk
  | some kind =>
    obtain rfl := Kind.tag_of_ofTag? hk
    simp only [Option.bind_some,Kind.ofTag?_tag,ofRecord_eq_ok_iff,Value.text.injEq]
    constructor
    · rintro ⟨rfl,hs⟩
      exact ⟨rfl,hs⟩
    · rintro ⟨htags,hs⟩
      have hkind := congrArg Kind.ofTag? htags
      simp only [Kind.ofTag?_tag,Option.some.injEq] at hkind
      exact ⟨hkind.symm,hs⟩

/-! ### Volumes -/

structure Volume.Reads (es : Entries) (v : Volume) : Prop where
  source : Source.Reads es v.source
  data : Meta.Reads es v.data

/-- Reading a record gives the volumes that it holds, of which there is at most one. -/
theorem Volume.ofRecord_eq_ok_iff (es : Entries) (v : Volume) :
    Volume.ofRecord es = .ok v ↔ Volume.Reads es v := by
  simp only [Volume.ofRecord,Except.bind_eq_ok_iff,Except.pure_eq_ok_iff,Meta.decode_eq_ok_iff,
    Entries.required_eq_ok_iff]
  constructor
  · rintro ⟨selector,hselector,tag,⟨haccepts,rfl⟩,source,hsource,data,hdata,rfl⟩
    obtain ⟨hkind,rfl,hdisk⟩ := (Source.decode_eq_ok_iff _ _ _ _ haccepts).mp hsource
    obtain ⟨s,hs,hl⟩ := (Entries.selector_eq_ok_iff _ _ source.selector_ne_nil).mp hselector
    refine ⟨⟨hkind,?_,?_,hdisk⟩,hdata⟩
    · rw [hs,← hl,joinSegments_segments]
    · intro segment hsegment
      rw [← hl] at hsegment
      exact holdsSeparator_of_mem_segments hsegment
  · rintro ⟨⟨htag,hselector,hfree,hdisk⟩,hdata⟩
    have haccepts : Expected.string.accepts (es.field "vol_type") = true := by
      cases hv : es.field "vol_type" <;> simp [hv,Value.plain,Expected.accepts] at htag ⊢
    have hsegments := segments_joinSegments v.source.selector_ne_nil hfree
    have hl := (Entries.selector_eq_ok_iff _ _ v.source.selector_ne_nil).mpr ⟨_,hselector,hsegments⟩
    have hsource := (Source.decode_eq_ok_iff _ _ _ _ haccepts).mpr ⟨htag,rfl,hdisk⟩
    exact ⟨_,hl,_,⟨haccepts,rfl⟩,_,hsource,_,hdata,rfl⟩

end ShortVolume
