import Mathlib.Data.List.ReduceOption
import ShortVolume.Proofs.Json.Letters
import ShortVolume.Proofs.Text.Utf8
import ShortVolume.Proofs.Volume.Typed
set_option autoImplicit false

/-!
A volume that is sent over the wire and received.

The record of a volume with values of the declared kinds is a record of JSON, whatever its texts are.
So it can be sent in every layout, and is received as it was sent, as a text and as bytes.
-/

namespace ShortVolume

/-! ### Texts of volumes -/

/-- The texts in a reference to a claim. -/
def Claim.texts (c : Claim) : List Text :=
  [c.kind,c.space,c.name,c.uid,c.apiVersion,c.resourceVersion,c.fieldPath].reduceOption

def Status.texts (s : Status) : List Text := [s.phase,s.message,s.reason].reduceOption

def Labels.texts (ls : Labels) : List Text :=
  ls.filterMap (fun e => e.1.text?) ++ ls.map Prod.snd

def Meta.texts (m : Meta) : List Text :=
  [m.version,m.cluster,m.name,m.space,m.storage,m.storageClass,m.mountOptions].reduceOption ++
    m.labels.texts ++ m.annotations.texts ++ m.claim.toList.flatMap Claim.texts ++
    m.status.toList.flatMap Status.texts

def Source.texts : Source → List Text
  | gcePD d | awsEBS d => d.id :: d.fs.toList
  | hostPath path _ => [path]

/-- All texts of a volume, but for the words of vocabularies. -/
def Volume.texts (v : Volume) : List Text := v.source.texts ++ v.data.texts

/-! ### Records of volumes -/

section Class
variable {inClass : Text → Prop}

/-- The fields that are set have values that JSON can hold, with texts of a class. -/
def Fields.AreRecords (inClass : Text → Prop) (fs : Fields) : Prop :=
  ∀ f ∈ fs, ∀ w, f.2 = some w → Json.IsRecord inClass w

theorem Fields.names_sublist (fs : Fields) :
    List.Sublist ((fs.filterMap (fun f => f.2.map (fun v => (f.1,v)))).map Prod.fst) fs.names := by
  induction fs with
  | nil => exact .slnil
  | cons f fs ih =>
    obtain ⟨name,v⟩ := f
    cases v with
    | none => exact .cons name ih
    | some v => exact .cons_cons name ih

section Fields
variable (hstring : ∀ s : String, inClass s)
include hstring

theorem Fields.AreRecords.isRecord {fs : Fields} (h : fs.AreRecords inClass) (hn : fs.names.Nodup) :
    Json.IsRecord inClass (.map fs.entries) := by
  have hnamed : Entries.named (fs.filterMap (fun f => f.2.map (fun v => ((f.1 : Text),v)))) =
      fs.entries := by
    simp [Entries.named,Fields.entries,List.map_filterMap,Function.comp_def]
  have hnames : (fs.filterMap (fun f => f.2.map (fun v => ((f.1 : Text),v)))).map Prod.fst =
      ((fs.filterMap (fun f => f.2.map (fun v => (f.1,v)))).map Prod.fst).map Text.ofString := by
    simp [List.map_filterMap,Function.comp_def]
  rw [← hnamed]
  refine .map ?names (fun m hm => ?_) (fun m hm => ?_)
  case names =>
    rw [hnames]
    exact (hn.sublist fs.names_sublist).map (fun _ _ => Text.ofString_inj.mp)
  · obtain ⟨f,-,hm⟩ := List.mem_filterMap.mp hm
    obtain ⟨w,-,rfl⟩ := Option.map_eq_some_iff.mp hm
    exact hstring f.1
  · obtain ⟨f,hf,hm⟩ := List.mem_filterMap.mp hm
    obtain ⟨w,hw,rfl⟩ := Option.map_eq_some_iff.mp hm
    exact h f hf w hw

end Fields

theorem isRecord_of_filled {v w : Value} (hv : v = .null ∨ Json.IsRecord inClass v)
    (h : v.filled? = some w) : Json.IsRecord inClass w := by
  rcases hv with rfl | hv
  · contradiction
  · unfold Value.filled? at h
    split at h
    · contradiction
    · exact Option.some.inj h ▸ hv

theorem isRecord_text? {s : Option Text} (hs : ∀ t, s = some t → inClass t) (w : Value)
    (h : (Value.ofText? s).filled? = some w) : Json.IsRecord inClass w := by
  refine isRecord_of_filled ?_ h
  cases s with
  | none => exact .inl rfl
  | some s => exact .inr (.text (hs s rfl))

theorem Claim.areRecords_fields {c : Claim} (h : ∀ s ∈ c.texts, inClass s) :
    c.fields.AreRecords inClass := by
  have hfield {s : Option Text} (hs : s ∈ [c.kind,c.space,c.name,c.uid,c.apiVersion,
      c.resourceVersion,c.fieldPath]) (t : Text) (ht : s = some t) : inClass t :=
    h t (List.reduceOption_mem_iff.mpr (ht ▸ hs))
  simp only [Fields.AreRecords,Claim.fields,List.forall_mem_cons]
  exact ⟨isRecord_text? (hfield (by simp)),isRecord_text? (hfield (by simp)),
    isRecord_text? (hfield (by simp)),isRecord_text? (hfield (by simp)),
    isRecord_text? (hfield (by simp)),isRecord_text? (hfield (by simp)),
    isRecord_text? (hfield (by simp)),List.forall_mem_nil _⟩

theorem Status.areRecords_fields {s : Status} (h : ∀ t ∈ s.texts, inClass t) :
    s.fields.AreRecords inClass := by
  have hfield {u : Option Text} (hu : u ∈ [s.phase,s.message,s.reason]) (t : Text) (ht : u = some t) :
      inClass t :=
    h t (List.reduceOption_mem_iff.mpr (ht ▸ hu))
  simp only [Fields.AreRecords,Status.fields,List.forall_mem_cons]
  exact ⟨isRecord_text? (hfield (by simp)),isRecord_text? (hfield (by simp)),
    isRecord_text? (hfield (by simp)),List.forall_mem_nil _⟩

/-- Labels under distinct texts are a record. -/
theorem Labels.isRecord_entries {ls : Labels} (h : ∀ s ∈ ls.texts, inClass s) (hkeys : ls.HasTextKeys)
    (hdistinct : (ls.map Prod.fst).Nodup) : Json.IsRecord inClass (.map ls.entries) := by
  obtain ⟨ms,rfl⟩ := Value.exists_texts hkeys
  have hentries : Entries.named (ms.map (fun m => (m.1,.text m.2))) =
      Labels.entries (ms.map (fun m => (.text m.1,m.2))) := by
    simp [Entries.named,Labels.entries]
  have htexts : ∀ m ∈ ms, inClass m.1 ∧ inClass m.2 := by
    refine fun m hm => ⟨h m.1 (List.mem_append_left _ ?_),h m.2 (List.mem_append_right _ ?_)⟩
    · exact List.mem_filterMap.mpr ⟨_,List.mem_map_of_mem hm,rfl⟩
    · exact List.mem_map.mpr ⟨_,List.mem_map_of_mem hm,rfl⟩
  rw [← hentries]
  refine .map ?_ ?_ ?_
  · rw [List.map_map] at hdistinct ⊢
    exact List.Nodup.of_map Value.text (by rwa [List.map_map])
  · simp only [List.forall_mem_map]
    exact fun m hm => (htexts m hm).1
  · simp only [List.forall_mem_map]
    exact fun m hm => .text (htexts m hm).2

section Volumes
variable (hstring : ∀ s : String, inClass s)
include hstring

theorem Meta.areRecords_fields {m : Meta} (h : ∀ s ∈ m.texts, inClass s)
    (hlabels : Json.IsRecord inClass (.map m.labels.entries))
    (hannotations : Json.IsRecord inClass (.map m.annotations.entries)) :
    m.fields.AreRecords inClass := by
  simp only [Meta.texts,List.forall_mem_append,List.forall_mem_flatMap] at h
  obtain ⟨⟨⟨⟨hplain,-⟩,-⟩,hclaim⟩,hstatus⟩ := h
  have hfield {s : Option Text} (hs : s ∈ [m.version,m.cluster,m.name,m.space,m.storage,
      m.storageClass,m.mountOptions]) (t : Text) (ht : s = some t) : inClass t :=
    hplain t (List.reduceOption_mem_iff.mpr (ht ▸ hs))
  simp only [Fields.AreRecords,Meta.fields,MetaRecord.fields,Meta.record,List.forall_mem_cons]
  refine ⟨isRecord_text? (hfield (by simp)),isRecord_text? (hfield (by simp)),
    isRecord_text? (hfield (by simp)),isRecord_text? (hfield (by simp)),
    fun _ => isRecord_of_filled (.inr hlabels),fun _ => isRecord_of_filled (.inr hannotations),
    isRecord_text? (hfield (by simp)),fun _ => isRecord_of_filled (.inr (.text (hstring _))),
    ?claim,?reclaim,isRecord_text? (hfield (by simp)),isRecord_text? (hfield (by simp)),?status,
    List.forall_mem_nil _⟩
  case claim =>
    intro w hw
    rw [Option.map_map] at hw
    obtain ⟨c,hc,rfl⟩ := Option.map_eq_some_iff.mp hw
    have hrecords := Claim.areRecords_fields (hclaim c (Option.mem_toList.mpr hc))
    have hrecord := hrecords.isRecord hstring c.names_nodup
    rwa [← c.entries_eq] at hrecord
  case reclaim =>
    intro w hw
    obtain ⟨p,-,rfl⟩ := Option.map_eq_some_iff.mp hw
    exact .text (hstring p.text)
  case status =>
    intro w hw
    rw [Option.map_map] at hw
    obtain ⟨s,hs,rfl⟩ := Option.map_eq_some_iff.mp hw
    have hrecords := Status.areRecords_fields (hstatus s (Option.mem_toList.mpr hs))
    have hrecord := hrecords.isRecord hstring s.names_nodup
    rwa [← s.entries_eq] at hrecord

/-- The partition of a disk, none for a path. -/
def Source.partition? : Source → Option Int
  | gcePD d | awsEBS d => d.partition
  | hostPath _ _ => none

theorem Source.areRecords_fields {s : Source} (htexts : ∀ t ∈ s.texts, inClass t)
    (hselector : inClass (joinSegments s.selector))
    (h : ∀ i, s.partition? = some i → hasDigits i = true) : s.fields.AreRecords inClass := by
  have hdisk (d : Disk) (htexts : ∀ t ∈ d.id :: d.fs.toList, inClass t)
      (hd : ∀ i, d.partition = some i → hasDigits i = true) :
      Fields.AreRecords inClass [("fs",d.fs.map .text), ("partition",d.partition.map .int),
        ("ro",if d.readOnly then some (.bool true) else none)] := by
    simp only [Fields.AreRecords,List.forall_mem_cons]
    refine ⟨fun w hw => ?_,fun w hw => ?_,fun w hw => ?_,List.forall_mem_nil _⟩
    · obtain ⟨fs,hfs,rfl⟩ := Option.map_eq_some_iff.mp hw
      exact .text (htexts fs (List.mem_cons_of_mem _ (Option.mem_toList.mpr hfs)))
    · obtain ⟨i,hi,rfl⟩ := Option.map_eq_some_iff.mp hw
      exact .int (hd i hi)
    · split at hw
      · cases hw
        exact .bool true
      · contradiction
  have hdisks : s.diskFields.AreRecords inClass := by
    cases s with
    | gcePD d => exact hdisk d htexts h
    | awsEBS d => exact hdisk d htexts h
    | hostPath path type => simp [Fields.AreRecords,Source.diskFields]
  intro f hf w hw
  rcases List.mem_append.mp hf with hf | hf
  · exact hdisks f hf w hw
  · simp only [List.mem_cons,List.not_mem_nil,or_false] at hf
    rcases hf with rfl | rfl <;> cases hw
    · exact .text (hstring _)
    · exact .text hselector

theorem Volume.isRecord_fields {v : Volume} (htyped : v.draft.IsTyped)
    (htexts : ∀ s ∈ v.texts, inClass s) (hselector : inClass (joinSegments v.source.selector))
    (hlabels : (v.data.labels.map Prod.fst).Nodup)
    (hannotations : (v.data.annotations.map Prod.fst).Nodup)
    (hpartition : ∀ i, v.source.partition? = some i → hasDigits i = true) :
    Json.IsRecord inClass (.map v.fields.entries) := by
  obtain ⟨hlabelKeys,hannotationKeys⟩ := v.isTyped_data_iff.mp htyped.data
  obtain ⟨hsourceTexts,hdataTexts⟩ := List.forall_mem_append.mp htexts
  have hsource := Source.areRecords_fields hstring hsourceTexts hselector hpartition
  have hparts := hdataTexts
  simp only [Meta.texts,List.forall_mem_append] at hparts
  obtain ⟨⟨⟨⟨-,hlabelTexts⟩,hannotationTexts⟩,-⟩,-⟩ := hparts
  have hdata := Meta.areRecords_fields hstring hdataTexts
    (Labels.isRecord_entries hlabelTexts hlabelKeys hlabels)
    (Labels.isRecord_entries hannotationTexts hannotationKeys hannotations)
  refine Fields.AreRecords.isRecord hstring (fun f hf => ?_) v.names_nodup
  rcases List.mem_append.mp hf with hf | hf
  · exact hsource f hf
  · exact hdata f hf

end Volumes

end Class

/-! ### Wire forms -/

theorem Source.isWhole_selector {s : Source} (h : ∀ t ∈ s.texts, t.isWhole = true) :
    (joinSegments s.selector).isWhole = true := by
  cases s with
  | gcePD d => exact h d.id List.mem_cons_self
  | awsEBS d => exact h d.id List.mem_cons_self
  | hostPath path type =>
    have hpath := h path List.mem_cons_self
    cases type with
    | none => exact hpath
    | some type =>
      obtain ⟨s,rfl⟩ := Text.isWhole_iff.mp hpath
      refine Text.isWhole_iff.mpr ⟨s ++ ":" ++ type.text,?_⟩
      rw [Text.ofString_append,Text.ofString_append,Text.append_assoc]
      rfl

/-- A record of whole texts is received as it was sent, as a text and as the bytes of the text. -/
theorem Value.received_of_toWire {es : Entries}
    (h : Json.IsRecord (fun s => s.isWhole = true) (.map es)) {indent : Option Int}
    (hindent : indent.all isIndex = true) :
    ∃ s bs, (Value.map es).toWire indent = .ok s ∧ Text.Utf8.bytes? s = some bs ∧
      (Wire.text s).document = .ok (.map es) ∧ (Wire.bytes bs).document = .ok (.map es) := by
  obtain ⟨c,r,hprint,hspells,hc⟩ := h.print_map (l := wireLayout indent) rfl 0
  obtain ⟨cs,hcs⟩ := Text.isWhole_ofList_iff.mp (h.isWhole hprint)
  obtain ⟨b,cs,rfl,hb,hcs⟩ := List.map_eq_cons_iff.mp hcs.symm
  obtain ⟨d,cs,rfl,rfl,rfl⟩ := List.map_eq_cons_iff.mp hcs
  obtain rfl := Letter.char.inj hb
  have hspells : Json.Spells (Text.letters ('\x7b' :: d :: cs)) (.map es) := hspells
  refine ⟨⟨Text.letters ('\x7b' :: d :: cs)⟩,Text.Utf8.encode ('\x7b' :: d :: cs),?_,?_,?_,?_⟩
  · rw [toWire,if_pos hindent,Json.render,hprint]
    rfl
  · exact congrArg (Option.map Text.Utf8.encode) (Text.chars?_letters ('\x7b' :: d :: cs))
  · simp only [Wire.document,hspells.ofText]
    rfl
  · rw [Wire.document,Text.decodeDetected_encode (by decide) hc]
    simp only [hspells.document]
    rfl

/-- A volume with values of the declared kinds and whole texts, whose integers have a decimal text, can be
sent with every indent that is an index. It is received with its empty texts taken as absent. -/
theorem Volume.received_of_sent {v : Volume} (htyped : v.draft.IsTyped)
    (hwhole : ∀ s ∈ v.texts, s.isWhole = true) (hlabels : (v.data.labels.map Prod.fst).Nodup)
    (hannotations : (v.data.annotations.map Prod.fst).Nodup)
    (hpartition : ∀ i, v.source.partition? = some i → hasDigits i = true) {indent : Option Int}
    (hindent : indent.all isIndex = true) :
    ∃ s bs, v.toWire indent = .ok s ∧ Text.Utf8.bytes? s = some bs ∧
      (Wire.text s).volume = .ok v.pruned ∧ (Wire.bytes bs).volume = .ok v.pruned := by
  have hfree := v.source.selector_free_iff.mpr (v.source.isTyped_draft_iff.mp htyped.source)
  have hentries : v.entries = .ok v.fields.entries := (v.entries_eq_ok_iff _).mpr ⟨hfree,rfl⟩
  have hread : Volume.ofValue (.map v.fields.entries) = .ok v.pruned :=
    Volume.ofRecord_entries hentries
  have hselector := Source.isWhole_selector (List.forall_mem_append.mp hwhole).1
  have hrecord := Volume.isRecord_fields (fun s => Text.isWhole_ofString s) htyped hwhole hselector
    hlabels hannotations hpartition
  obtain ⟨s,bs,hs,hbytes,hdocument,hreceived⟩ := Value.received_of_toWire hrecord hindent
  refine ⟨s,bs,?_,hbytes,?_,?_⟩
  · rw [toWire,(v.toValue_eq_ok_iff _).mpr ⟨_,hentries,rfl⟩]
    exact hs
  · rw [Wire.volume,hdocument]
    exact hread
  · rw [Wire.volume,hreceived]
    exact hread

/-- A disk whose labels have quotes, line feeds and characters beyond ASCII in them. -/
def quotedDisk : Volume where
  data := {
    name := some ("" : Text)
    labels := [(.text "\"a\"",("" : Text)), (.text "é\n",("😀" : Text))]
    claim := some {} }
  source := .gcePD ⟨"d",some ("" : Text),some (-3),true⟩

/-- What a volume has to be for its wire form to be received. -/
theorem Volume.isSendable_quotedDisk :
    quotedDisk.draft.IsTyped ∧ (∀ s ∈ quotedDisk.texts, s.isWhole = true) ∧
      (quotedDisk.data.labels.map Prod.fst).Nodup ∧
      (quotedDisk.data.annotations.map Prod.fst).Nodup ∧
      ∀ i, quotedDisk.source.partition? = some i → hasDigits i = true := by
  refine ⟨?_,by decide,by simp [quotedDisk],.nil,?_⟩
  · rw [Volume.isTyped_draft_iff]
    refine ⟨⟨?_,nofun⟩,by decide⟩
    simp [quotedDisk,Labels.HasTextKeys,Value.IsText]
  · rintro i hi
    obtain rfl : -3 = i := Option.some.inj hi
    decide +kernel

theorem Volume.received_quotedDisk :
    quotedDisk.draft.IsTyped ∧ (∀ s ∈ quotedDisk.texts, s.isWhole = true) ∧
      (quotedDisk.data.labels.map Prod.fst).Nodup ∧
      (quotedDisk.data.annotations.map Prod.fst).Nodup ∧
      (∀ i, quotedDisk.source.partition? = some i → hasDigits i = true) ∧
      (some (-2) : Option Int).all isIndex = true ∧
      ∃ s bs, quotedDisk.toWire (some (-2)) = .ok s ∧ Text.Utf8.bytes? s = some bs ∧
        (Wire.text s).volume = .ok quotedDisk.pruned ∧
        (Wire.bytes bs).volume = .ok quotedDisk.pruned := by
  obtain ⟨htyped,hwhole,hlabels,hannotations,hpartition⟩ := Volume.isSendable_quotedDisk
  have hindent : (some (-2) : Option Int).all isIndex = true := by decide
  exact ⟨htyped,hwhole,hlabels,hannotations,hpartition,hindent,
    Volume.received_of_sent htyped hwhole hlabels hannotations hpartition hindent⟩

/-- With an indent that is no index the same volume is not sent at all. -/
theorem Volume.not_sent_quotedDisk :
    quotedDisk.draft.IsTyped ∧ (∀ s ∈ quotedDisk.texts, s.isWhole = true) ∧
      (quotedDisk.data.labels.map Prod.fst).Nodup ∧
      (quotedDisk.data.annotations.map Prod.fst).Nodup ∧
      (∀ i, quotedDisk.source.partition? = some i → hasDigits i = true) ∧
      quotedDisk.toWire (some (-2 ^ 70)) = .error .wideIndent := by
  obtain ⟨htyped,hwhole,hlabels,hannotations,hpartition⟩ := Volume.isSendable_quotedDisk
  exact ⟨htyped,hwhole,hlabels,hannotations,hpartition,by rfl⟩

end ShortVolume
