import ShortVolume.Proofs.Document.Rewrite
import ShortVolume.Proofs.Volume.Wire
import ShortVolume.Volume.Draft
set_option autoImplicit false

/-!
The kinds of values that a volume has in its fields.

The draft of a volume shows the values in its fields, which may be any. What is read from a record has
in each field a value of the kind that is declared for it, save for the keys of labels and annotations,
which nothing looks at. They are texts in a document of JSON, but may be anything in one of YAML.
-/

namespace ShortVolume

namespace Value

def IsText (v : Value) : Prop := ∃ s, v = .text s

def IsOptionalText (v : Value) : Prop := v = .null ∨ v.IsText

/-- A map of texts under texts. -/
def IsTextMap (v : Value) : Prop := ∃ es, v = .map es ∧ ∀ e ∈ es, e.1.IsText ∧ e.2.IsText

theorem isOptionalText_ofText? (s : Option Text) : (Value.ofText? s).IsOptionalText := by
  cases s with
  | none => exact .inl rfl
  | some s => exact .inr ⟨s,rfl⟩

end Value

/-! ### Declared kinds -/

/-- Each field has a value of the kind that is declared for it. -/
structure DraftMeta.IsTyped (m : DraftMeta) : Prop where
  version : m.version.IsOptionalText
  cluster : m.cluster.IsOptionalText
  name : m.name.IsOptionalText
  space : m.space.IsOptionalText
  labels : m.labels.IsTextMap
  annotations : m.annotations.IsTextMap
  storage : m.storage.IsOptionalText
  modes : ∃ xs, m.modes = .list xs ∧ ∀ x ∈ xs, ∃ a, x = .term (.mode a)
  claim : ∀ es, m.claim = some es → ∀ e ∈ es, e.2.IsText
  reclaim : m.reclaim = .null ∨ ∃ p, m.reclaim = .term (.policy p)
  storageClass : m.storageClass.IsOptionalText
  mountOptions : m.mountOptions.IsOptionalText
  status : ∀ es, m.status = some es → ∀ e ∈ es, e.2.IsText

/-- A text that can be a segment of a selector. -/
def Value.IsSegment (v : Value) : Prop := ∃ s, v = .text s ∧ .char selectorSeparator ∉ s.toList

structure DraftDisk.IsTyped (d : DraftDisk) : Prop where
  id : d.id.IsSegment
  fs : d.fs.IsOptionalText
  partition : d.partition = .null ∨ ∃ i, d.partition = .int i
  readOnly : ∃ b, d.readOnly = .bool b

/-- The store is of one of the kinds, with its fields as they are declared. -/
def DraftSource.IsTyped : DraftSource → Prop
  | gcePD d | awsEBS d => d.IsTyped
  | hostPath path type => path.IsSegment ∧ (type = .null ∨ ∃ t, type = .term (.pathType t))
  | other _ => False

structure Draft.IsTyped (d : Draft) : Prop where
  data : d.data.IsTyped
  source : d.source.IsTyped

/-! ### Volumes -/

/-- Labels whose keys are texts. -/
def Labels.HasTextKeys (ls : Labels) : Prop := ∀ e ∈ ls, e.1.IsText

theorem Labels.isTextMap_entries_iff (ls : Labels) :
    (Value.map ls.entries).IsTextMap ↔ ls.HasTextKeys := by
  constructor
  · rintro ⟨es,hes,hall⟩ e he
    cases hes
    exact (hall _ (List.mem_map_of_mem he)).1
  · intro h
    refine ⟨_,rfl,fun e he => ?_⟩
    obtain ⟨l,hl,rfl⟩ := List.mem_map.mp he
    exact ⟨h l hl,⟨l.2,rfl⟩⟩

theorem isText_of_mem_textEntry {key : String} {s : Option Text} :
    ∀ e ∈ textEntry key s, e.2.IsText := by
  cases s with
  | none => exact nofun
  | some s =>
    rw [textEntry_some]
    split
    · exact nofun
    · simp [Value.IsText]

theorem Claim.isText_of_mem_entries (c : Claim) : ∀ e ∈ c.entries, e.2.IsText := by
  simp only [Claim.entries,List.forall_mem_append]
  exact ⟨⟨⟨⟨⟨⟨isText_of_mem_textEntry,isText_of_mem_textEntry⟩,isText_of_mem_textEntry⟩,
    isText_of_mem_textEntry⟩,isText_of_mem_textEntry⟩,isText_of_mem_textEntry⟩,
    isText_of_mem_textEntry⟩

theorem Status.isText_of_mem_entries (s : Status) : ∀ e ∈ s.entries, e.2.IsText := by
  simp only [Status.entries,List.forall_mem_append]
  exact ⟨⟨isText_of_mem_textEntry,isText_of_mem_textEntry⟩,isText_of_mem_textEntry⟩

theorem Volume.isTyped_data_iff (v : Volume) :
    v.draft.data.IsTyped ↔ v.data.labels.HasTextKeys ∧ v.data.annotations.HasTextKeys := by
  rw [← Labels.isTextMap_entries_iff,← Labels.isTextMap_entries_iff]
  constructor
  · exact fun h => ⟨h.labels,h.annotations⟩
  · rintro ⟨hlabels,hannotations⟩
    exact {
      version := Value.isOptionalText_ofText? _
      cluster := Value.isOptionalText_ofText? _
      name := Value.isOptionalText_ofText? _
      space := Value.isOptionalText_ofText? _
      labels := hlabels
      annotations := hannotations
      storage := Value.isOptionalText_ofText? _
      modes := ⟨_,rfl,by simp⟩
      claim := by
        intro es hes
        obtain ⟨c,-,rfl⟩ := Option.map_eq_some_iff.mp hes
        exact c.isText_of_mem_entries
      reclaim := by
        cases hp : v.data.reclaim <;> simp [Volume.draft,Meta.draft,hp,ReclaimPolicy.value?]
      storageClass := Value.isOptionalText_ofText? _
      mountOptions := Value.isOptionalText_ofText? _
      status := by
        intro es hes
        obtain ⟨s,-,rfl⟩ := Option.map_eq_some_iff.mp hes
        exact s.isText_of_mem_entries }

theorem Value.isSegment_text (s : Text) :
    (Value.text s).IsSegment ↔ .char selectorSeparator ∉ s.toList := by
  simp [IsSegment]

theorem Disk.isTyped_draft_iff (d : Disk) :
    d.draft.IsTyped ↔ .char selectorSeparator ∉ d.id.toList := by
  rw [← Value.isSegment_text]
  refine ⟨DraftDisk.IsTyped.id,fun h => ⟨h,Value.isOptionalText_ofText? _,?_,⟨_,rfl⟩⟩⟩
  cases hp : d.partition <;> simp [Disk.draft,hp]

theorem Source.isTyped_draft_iff (s : Source) :
    s.draft.IsTyped ↔ .char selectorSeparator ∉ s.name.toList := by
  cases s with
  | gcePD d => exact d.isTyped_draft_iff
  | awsEBS d => exact d.isTyped_draft_iff
  | hostPath path type =>
    have htype : HostPathType.value? type = .null ∨
        ∃ t, HostPathType.value? type = .term (.pathType t) := by
      cases type <;> simp [HostPathType.value?]
    simp [Source.draft,DraftSource.IsTyped,htype,Value.isSegment_text,Source.name]

/-- Only the keys of labels and annotations and the separator are left to chance. -/
theorem Volume.isTyped_draft_iff (v : Volume) :
    v.draft.IsTyped ↔ (v.data.labels.HasTextKeys ∧ v.data.annotations.HasTextKeys) ∧
      .char selectorSeparator ∉ v.source.name.toList := by
  rw [← v.isTyped_data_iff,← v.source.isTyped_draft_iff]
  exact ⟨fun h => ⟨h.data,h.source⟩,fun h => ⟨h.1,h.2⟩⟩

/-! ### Records -/

/-- The keys in the map under a key, if there is one, are texts. -/
def Entries.HasTextKeys (es : Entries) (key : String) : Prop :=
  ∀ m, (es.field key).entries? = some m → ∀ e ∈ m, e.1.IsText

theorem Entries.HoldsLabels.hasTextKeys_iff {es : Entries} {key : String} {ls : Labels}
    (h : es.HoldsLabels key ls) : ls.HasTextKeys ↔ es.HasTextKeys key := by
  unfold Entries.HasTextKeys
  rcases h with ⟨hnull,rfl⟩ | ⟨m,hm,hls⟩
  · rw [hnull]
    exact iff_of_true nofun nofun
  · have hkeys : m.map Prod.fst = ls.map Prod.fst := by
      have := congrArg (List.map Prod.fst) hls
      simpa [Labels.entries,Function.comp_def] using this
    have hall (P : Value → Prop) : (∀ e ∈ ls, P e.1) ↔ ∀ e ∈ m, P e.1 := by
      rw [← List.forall_mem_map (f := Prod.fst),← hkeys,List.forall_mem_map]
    simp only [hm,Option.some.injEq,forall_eq']
    exact hall Value.IsText

/-- A record holds a volume of the declared kinds if the keys of its labels and annotations are texts,
and only then. -/
theorem Volume.Reads.isTyped_iff {es : Entries} {v : Volume} (h : Volume.Reads es v) :
    v.draft.IsTyped ↔ es.HasTextKeys "labels" ∧ es.HasTextKeys "annotations" := by
  have hfree := v.source.selector_free_iff.mp h.source.free
  rw [v.isTyped_draft_iff,h.data.labels.hasTextKeys_iff,h.data.annotations.hasTextKeys_iff]
  exact and_iff_left hfree

/-- The record of a document, in a wrapper or not. -/
def Value.record? (v : Value) : Option Entries :=
  if v.isWrapped then (Volume.unwrap v).toOption.bind Value.entries? else v.entries?

theorem Volume.reads_of_ofValue {x : Value} {v : Volume} (h : Volume.ofValue x = .ok v) :
    ∃ es, x.entries? = some es ∧ Volume.Reads es v := by
  unfold Volume.ofValue at h
  split at h
  · next es hes => exact ⟨es,hes,(Volume.ofRecord_eq_ok_iff es v).mp h⟩
  · contradiction

theorem Document.reads_of_ofValue {x : Value} {d : Document} (h : Document.ofValue x = .ok d) :
    ∃ es, x.record? = some es ∧ Volume.Reads es d.volume := by
  unfold Document.ofValue at h
  unfold Value.record?
  split at h
  · next hwrapped =>
    simp only [Volume.ofWrapped,Except.bind_eq_ok_iff,Except.pure_eq_ok_iff] at h
    obtain ⟨v,⟨r,hunwrap,hread⟩,rfl⟩ := h
    obtain ⟨es,hes,hreads⟩ := Volume.reads_of_ofValue hread
    exact ⟨es,by simp [hwrapped,hunwrap,Except.toOption,hes],hreads⟩
  · next hwrapped =>
    simp only [Except.bind_eq_ok_iff,Except.pure_eq_ok_iff] at h
    obtain ⟨v,hread,rfl⟩ := h
    obtain ⟨es,hes,hreads⟩ := Volume.reads_of_ofValue hread
    exact ⟨es,by simp [hwrapped,hes],hreads⟩

/-! ### Documents of JSON -/

theorem Entries.mem_of_get? {es : Entries} {k v : Value} (h : es.get? k = some v) :
    ∃ e ∈ es, e.2 = v := by
  induction es with
  | nil => contradiction
  | cons e r ih =>
    rw [get?] at h
    split at h
    · exact ⟨e,List.mem_cons_self,Option.some.inj h⟩
    · obtain ⟨e',he',hv⟩ := ih h
      exact ⟨e',List.mem_cons_of_mem e he',hv⟩

namespace Json.IsHeld

theorem entries {v : Value} {es : Entries} (h : IsHeld v) (hes : v.entries? = some es) :
    (∀ e ∈ es, e.1.IsText) ∧ ∀ e ∈ es, IsHeld e.2 := by
  cases h with
  | map hkeys hvalues =>
    cases hes
    exact ⟨hkeys,hvalues⟩
  | _ => cases hes

theorem field {es : Entries} (h : ∀ e ∈ es, IsHeld e.2) (key : String) : IsHeld (es.field key) := by
  unfold Entries.field
  cases hv : es.lookup? key with
  | none => exact .null
  | some v =>
    obtain ⟨e,he,rfl⟩ := Entries.mem_of_get? hv
    exact h e he

/-- Keys are texts at every depth of a document, so also those of labels. -/
theorem hasTextKeys {es : Entries} (h : ∀ e ∈ es, IsHeld e.2) (key : String) :
    es.HasTextKeys key :=
  fun _ hm => ((field h key).entries hm).1

end Json.IsHeld

theorem Wire.isHeld_of_document {w : Wire} {doc : Value} (h : w.document = .ok doc) :
    Json.IsHeld doc := by
  rcases w.document_cases with ⟨v,hv,hheld⟩ | ⟨f,hf,-⟩ | ⟨hlong,-⟩
  · rw [hv] at h
    cases h
    exact hheld
  · simp [hf] at h
  · simp [hlong] at h

/-- What is read holds values of the declared kinds. Where it is read from YAML, this takes that all
keys of labels and annotations are texts; where it is read from JSON, they are. -/
theorem Volume.isTyped_of_read (text : Text) (w : Wire) :
    (∀ ds, documents text = .ok ds →
      ∃ xs, Yaml.load text = .ok xs ∧
        List.Forall₂ (fun x d => ∃ es, Value.record? x = some es ∧ Volume.Reads es d.volume ∧
          (d.volume.draft.IsTyped ↔ es.HasTextKeys "labels" ∧ es.HasTextKeys "annotations"))
          xs ds) ∧
    ∀ v, w.volume = .ok v →
      ∃ doc es, w.document = .ok doc ∧ doc.entries? = some es ∧ Volume.Reads es v ∧
        v.draft.IsTyped := by
  refine ⟨fun ds h => ?documents,fun v h => ?wire⟩
  case documents =>
    obtain ⟨xs,hload,hread⟩ := documents_eq_ok_iff.mp h
    refine ⟨xs,hload,(Except.mapM_eq_ok_iff.mp hread).imp (fun x d hd => ?_)⟩
    obtain ⟨es,hes,hreads⟩ := Document.reads_of_ofValue hd
    exact ⟨es,hes,hreads,hreads.isTyped_iff⟩
  case wire =>
    obtain ⟨doc,hdoc,hread⟩ := Except.bind_eq_ok_iff.mp h
    obtain ⟨es,hes,hreads⟩ := Volume.reads_of_ofValue hread
    obtain ⟨-,hvalues⟩ := (Wire.isHeld_of_document hdoc).entries hes
    have hkeys := Json.IsHeld.hasTextKeys hvalues
    exact ⟨doc,es,hdoc,hes,hreads,hreads.isTyped_iff.mpr ⟨hkeys _,hkeys _⟩⟩

/-- A disk with a label. -/
def labelledDisk : String := "vol_type: gce_pd\nvol_id: d\nlabels: \x7ba: x\x7d\n"

def labelledRecord : Entries :=
  [(.text "vol_type",.text "gce_pd"),(.text "vol_id",.text "d"),
    (.text "labels",.map [(.text "a",.text "x")])]

def labelledLine : String :=
  "\x7b\"vol_type\": \"gce_pd\", \"vol_id\": \"d\", \"labels\": \x7b\"a\": \"x\"\x7d\x7d"

theorem Volume.isTyped_labelledDisk :
    (∃ d, documents labelledDisk = .ok [d] ∧ d.volume.draft.IsTyped) ∧
      ∃ v, (Wire.text labelledLine).volume = .ok v ∧ v.draft.IsTyped := by
  obtain ⟨hdocuments,hwire⟩ := Volume.isTyped_of_read labelledDisk (.text labelledLine)
  constructor
  · have hload : (Yaml.load labelledDisk).toOption = some [.map labelledRecord] := by decide +kernel
    have hread : (documents labelledDisk).toOption.map List.length = some 1 := by decide +kernel
    obtain ⟨ds,hds,hlength⟩ := Option.map_eq_some_iff.mp hread
    obtain ⟨d,rfl⟩ := List.length_eq_one_iff.mp hlength
    rw [Except.toOption_eq_some_iff] at hload hds
    obtain ⟨xs,hxs,hall⟩ := hdocuments _ hds
    obtain rfl := Except.ok.inj (hload.symm.trans hxs)
    obtain ⟨⟨es,hes,-,htyped⟩,-⟩ := List.forall₂_cons.mp hall
    obtain rfl : labelledRecord = es := Option.some.inj hes
    refine ⟨d,hds,htyped.mpr ⟨fun m hm => ?_,fun m hm => ?_⟩⟩
    · obtain rfl : [(.text "a",.text "x")] = m := Option.some.inj hm
      simp [Value.IsText]
    · cases hm
  · have hread : (Wire.text labelledLine).volume.toOption.isSome = true := by decide +kernel
    obtain ⟨v,hv⟩ := Option.isSome_iff_exists.mp hread
    rw [Except.toOption_eq_some_iff] at hv
    obtain ⟨-,-,-,-,-,htyped⟩ := hwire _ hv
    exact ⟨v,hv,htyped⟩

/-- A disk with an integer as the key of a label. -/
def numberedDisk : String := "vol_type: gce_pd\nvol_id: d\nlabels: \x7b1: x\x7d\n"

/-- The disk is read, though its labels are no map of texts under texts. -/
theorem documents_numberedDisk :
    ∃ d, documents numberedDisk = .ok [d] ∧ ¬ d.volume.draft.IsTyped := by
  have hlabels : (documents numberedDisk).toOption.map (List.map (fun d => d.volume.data.labels)) =
      some [[(.int 1,("x" : Text))]] := by
    decide +kernel
  obtain ⟨ds,hds,hlabels⟩ := Option.map_eq_some_iff.mp hlabels
  obtain ⟨d,rfl,hd⟩ := List.map_eq_singleton_iff.mp hlabels
  refine ⟨d,Except.toOption_eq_some_iff.mp hds,fun htyped => ?_⟩
  obtain ⟨hkeys,-⟩ := (d.volume.isTyped_draft_iff.mp htyped).1
  obtain ⟨s,hs⟩ := hkeys (.int 1,"x") (by rw [hd]; exact List.mem_singleton_self _)
  cases hs

end ShortVolume
