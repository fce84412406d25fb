import Mathlib.Data.List.Forall2
import ShortVolume.Document
import ShortVolume.Proofs.Document.Arranged
import ShortVolume.Proofs.Volume.Canonical
set_option autoImplicit false

/-!
A text that is rewritten twice.

The records of a text are written in order. If a text of these records is read back as these
records, its documents are those of the first text with labels in order and empty texts taken as
absent, and rewriting it gives the same text.
-/

namespace ShortVolume

/-! ### Reading and writing item by item -/

theorem Except.mapM_eq_ok_iff {ε α β : Type} {f : α → Except ε β} {xs : List α} {ys : List β} :
    xs.mapM f = .ok ys ↔ List.Forall₂ (fun x y => f x = .ok y) xs ys := by
  induction xs generalizing ys with
  | nil => rw [List.mapM_nil,Except.pure_eq_ok_iff,List.forall₂_nil_left_iff,eq_comm]
  | cons x xs ih =>
    simp only [List.mapM_cons,Except.bind_eq_ok_iff,Except.pure_eq_ok_iff,ih]
    constructor
    · rintro ⟨y,hy,ys,hys,rfl⟩
      exact .cons hy hys
    · intro h
      cases h with
      | cons hy hys => exact ⟨_,hy,_,hys,rfl⟩

theorem Except.exists_of_mapM_error {ε α β : Type} {f : α → Except ε β} {xs : List α} {e : ε}
    (h : xs.mapM f = .error e) : ∃ x ∈ xs, f x = .error e := by
  induction xs with
  | nil => contradiction
  | cons x xs ih =>
    rw [List.mapM_cons,Except.bind_eq_error_iff] at h
    rcases h with hx | ⟨y,-,hrest⟩
    · exact ⟨x,List.mem_cons_self,hx⟩
    · rw [Except.bind_eq_error_iff] at hrest
      rcases hrest with hxs | ⟨ys,-,hpure⟩
      · obtain ⟨x',hx',herror⟩ := ih hxs
        exact ⟨x',List.mem_cons_of_mem x hx',herror⟩
      · contradiction

theorem Except.mapError_eq_ok_iff {ε ζ α : Type} {f : ε → ζ} {x : Except ε α} {a : α} :
    x.mapError f = .ok a ↔ x = .ok a := by
  cases x <;> simp [Except.mapError]

theorem Except.mapError_eq_error_iff {ε ζ α : Type} {f : ε → ζ} {x : Except ε α} {z : ζ} :
    x.mapError f = .error z ↔ ∃ e, x = .error e ∧ f e = z := by
  cases x <;> simp [Except.mapError]

/-! ### The values that are written -/

/-- The values of which a rewritten text is made, with their keys in order. -/
def handed (text : Text) : Except Failure (List Value) := do
  let vs ← ((← documents text).mapM Document.toValue).mapError .fault
  (vs.filter (fun v => !v.isFalsy)).mapM Format.order

def Writer.rewrite (w : Writer) (text : Text) : Except Failure Text := do
  w.writeDocuments (← documents text)

theorem transcode_eq_rewrite (f : Format) (text : Text) :
    transcode f text = (Writer.new f).rewrite text := rfl

/-- The text that values in order leave. -/
def Writer.setDown (w : Writer) (xs : List Value) : Except Failure Text := do
  let texts ← xs.mapM w.format.one
  return w.format.separator.intercalate (if w.jammed then texts.map (fun _ => "") else texts)

theorem Writer.rewrite_eq (w : Writer) (text : Text) :
    w.rewrite text = handed text >>= w.setDown := by
  simp only [rewrite,writeDocuments,write,Format.texts,handed,bind_assoc]
  rfl

/-! ### One document -/

/-- A record, in the wrapper or not. -/
def envelope (wrapped : Bool) (es : Entries) : Value :=
  if wrapped then .map [(.text wrapperKey,.map es)] else .map es

theorem Document.toValue_eq_ok_iff (d : Document) (v : Value) :
    d.toValue = .ok v ↔ ∃ es, d.volume.entries = .ok es ∧ envelope d.wrapped es = v := by
  unfold toValue envelope
  cases d.wrapped with
  | true => exact d.volume.toWrapped_eq_ok_iff v
  | false => exact d.volume.toValue_eq_ok_iff v

/-- A record has the keys of its store, so it is not taken for a wrapper. -/
theorem Volume.two_le_length_entries (v : Volume) : 2 ≤ v.fields.entries.length := by
  simp only [Volume.fields,Source.fields,Fields.entries_append,List.length_append]
  have hnames : (Fields.entries [("vol_type",some (.text v.source.kind.tag)),
      ("vol_id",some (.text (joinSegments v.source.selector)))]).length = 2 := rfl
  omega

theorem Volume.two_le_length {v : Volume} {es : Entries} (h : v.entries = .ok es) :
    2 ≤ es.length := by
  rw [((v.entries_eq_ok_iff es).mp h).2]
  exact v.two_le_length_entries

theorem isWrapped_envelope {es : Entries} (h : 2 ≤ es.length) (wrapped : Bool) :
    (envelope wrapped es).isWrapped = wrapped := by
  cases wrapped with
  | true => rfl
  | false =>
    match es, h with
    | _ :: _ :: _, _ => rfl

theorem orderedDocument_envelope {es : Entries} (h : 2 ≤ es.length) (wrapped : Bool) :
    (envelope wrapped es).orderedDocument = envelope wrapped es.ordered := by
  cases wrapped with
  | true => rfl
  | false =>
    match es, h with
    | _ :: _ :: _, _ => rfl

theorem Document.ofValue_envelope {es : Entries} {v : Volume} (h : 2 ≤ es.length)
    (hv : Volume.ofRecord es = .ok v) (wrapped : Bool) :
    Document.ofValue (envelope wrapped es) = .ok ⟨v,wrapped⟩ := by
  rw [ofValue,isWrapped_envelope h]
  cases wrapped with
  | true =>
    have hread : Volume.ofWrapped (envelope true es) = .ok v := by
      rw [← hv]
      exact Volume.ofWrapped_wrapper es
    simp [hread,bind,Except.bind,pure,Except.pure]
  | false =>
    have hread : Volume.ofValue (envelope false es) = .ok v := hv
    simp [hread,bind,Except.bind,pure,Except.pure]

/-! ### A volume in order -/

/-- What a record has of metadata holds no folded map. -/
theorem Meta.isUnfolded_of_agrees {es : Entries} {m : Meta} (h : es.Agrees m.fields) :
    es.IsUnfolded := by
  simp only [Entries.Agrees,Meta.fields,MetaRecord.fields,Meta.record,List.forall_mem_cons] at h
  obtain ⟨-,-,-,-,hlabels,hannotations,-,-,hclaim,-,-,-,hstatus,-⟩ := h
  have hfilled (m : Entries) : ((Value.map m).filled?.getD .null).view =
      (Value.map m).filled?.getD .null := by
    cases m <;> rfl
  have hpart (m : Option Entries) : ((m.map Value.map).getD .null).view =
      (m.map Value.map).getD .null := by
    cases m <;> rfl
  simp only [Entries.IsUnfolded,Entries.partNames,List.forall_mem_cons]
  refine ⟨?_,?_,?_,?_,by simp⟩
  · rw [hlabels,hfilled]
  · rw [hannotations,hfilled]
  · rw [hclaim,hpart]
  · rw [hstatus,hpart]

/-- The record of a volume, put in order, holds the pruned volume with its labels in order. -/
theorem Volume.ofRecord_ordered {v : Volume} {es : Entries} (h : v.entries = .ok es) :
    Volume.ofRecord es.ordered = .ok v.pruned.arranged := by
  have hreads := (Volume.ofRecord_eq_ok_iff _ _).mp (Volume.ofRecord_entries h)
  obtain ⟨-,rfl⟩ := (v.entries_eq_ok_iff es).mp h
  obtain ⟨-,hdata⟩ := Entries.Agrees.append (Entries.agrees_entries v.names_nodup)
  exact (Volume.ofRecord_eq_ok_iff _ _).mpr (hreads.ordered (Meta.isUnfolded_of_agrees hdata))

/-- The map of labels in order is that of the arranged labels in order. -/
theorem Labels.orderedField_arranged (ls : Labels) :
    (Value.map ls.arranged.entries).filled?.map Value.orderedField =
      (Value.map ls.entries).filled?.map Value.orderedField := by
  have htexts (ms : Labels) : Value.orderedEntries ms.entries = ms.entries := by
    rw [Value.orderedEntries_eq_map]
    simp [Labels.entries,Value.orderedField,Value.ordered,Function.comp_def]
  have hordered (ms : Labels) :
      (Value.map ms.entries).orderedField = .map (Entries.leadingFirst ms.entries) := by
    simp only [Value.orderedField,Value.ordered,htexts]
  have hfield : (Value.map ls.arranged.entries).orderedField =
      (Value.map ls.entries).orderedField := by
    rw [hordered,hordered,Labels.entries_arranged,Entries.leadingFirst_idem]
  have hlength := ls.arranged_perm.length_eq
  cases ls with
  | nil => rfl
  | cons l ls =>
    cases harranged : Labels.arranged (l :: ls) with
    | nil => simp [harranged] at hlength
    | cons m ms =>
      rw [harranged] at hfield
      exact congrArg some hfield

theorem Fields.map_entries (f : Value → Value) (fs : Fields) :
    fs.entries.map (fun e => (e.1,f e.2)) =
      Fields.entries (fs.map (fun g => (g.1,g.2.map f))) := by
  induction fs with
  | nil => rfl
  | cons g fs ih =>
    obtain ⟨name,v⟩ := g
    cases v <;> simp [entries_cons,ih]

/-- Records of volumes that differ in the order of labels only are the same in order. -/
theorem Volume.ordered_arranged (v : Volume) :
    v.arranged.fields.entries.ordered = v.fields.entries.ordered := by
  have hlabels := v.data.labels.orderedField_arranged
  have hannotations := v.data.annotations.orderedField_arranged
  rw [Entries.ordered,Entries.ordered,Value.orderedEntries_eq_map,Value.orderedEntries_eq_map,
    Fields.map_entries,Fields.map_entries]
  simp only [Volume.fields,Volume.arranged,Meta.fields,MetaRecord.fields,Meta.record,Meta.arranged,
    List.map_append,List.map_cons,hlabels,hannotations]

/-! ### A document in order -/

/-- The document with its labels in order and its empty texts taken as absent. -/
def Document.arranged (d : Document) : Document := ⟨d.volume.pruned.arranged,d.wrapped⟩

/-- A document that is written in order is read as the arranged document, which is written in order
the same way. -/
theorem Document.ofValue_orderedDocument {d : Document} {v : Value} (h : d.toValue = .ok v) :
    Document.ofValue v.orderedDocument = .ok d.arranged ∧
      ∃ w, d.arranged.toValue = .ok w ∧ w.orderedDocument = v.orderedDocument := by
  obtain ⟨es,hes,rfl⟩ := (d.toValue_eq_ok_iff v).mp h
  obtain ⟨hfree,-⟩ := (d.volume.entries_eq_ok_iff es).mp hes
  have hlength := Volume.two_le_length hes
  rw [orderedDocument_envelope hlength]
  refine ⟨?_,?_⟩
  · have hordered : 2 ≤ es.ordered.length := by
      rw [Entries.length_ordered]
      exact hlength
    exact Document.ofValue_envelope hordered (Volume.ofRecord_ordered hes) d.wrapped
  · let v' := d.volume.pruned.arranged
    have hwritten : v'.entries = .ok v'.fields.entries :=
      (v'.entries_eq_ok_iff _).mpr ⟨hfree,rfl⟩
    refine ⟨_,(d.arranged.toValue_eq_ok_iff _).mpr ⟨_,hwritten,rfl⟩,?_⟩
    rw [orderedDocument_envelope v'.two_le_length_entries]
    have hpruned : d.volume.pruned.fields.entries = es := by
      have := d.volume.entries_pruned.trans hes
      exact (((Volume.entries_eq_ok_iff _ _).mp this).2).symm
    rw [Volume.ordered_arranged,hpruned]
    rfl

/-! ### A text -/

theorem documents_eq_ok_iff {text : Text} {ds : List Document} :
    documents text = .ok ds ↔ ∃ vs, Yaml.load text = .ok vs ∧ vs.mapM Document.ofValue = .ok ds := by
  unfold documents
  cases Yaml.load text <;> simp [Except.mapError_eq_ok_iff]

/-- Documents that are written are maps with keys, so none is left out or refused. -/
theorem order_of_written {ds : List Document} {vs : List Value}
    (h : ds.mapM Document.toValue = .ok vs) :
    (vs.filter (fun v => !v.isFalsy)).mapM Format.order = .ok (vs.map Value.orderedDocument) := by
  rw [Except.mapM_eq_ok_iff] at h
  induction h with
  | nil => rfl
  | @cons d v ds vs hd _ ih =>
    obtain ⟨es,hes,rfl⟩ := (d.toValue_eq_ok_iff v).mp hd
    have hlength := Volume.two_le_length hes
    have hkept : (envelope d.wrapped es).isFalsy = false := by
      cases d.wrapped with
      | true => rfl
      | false =>
        match es, hlength with
        | _ :: _, _ => rfl
    have horder : Format.order (envelope d.wrapped es) =
        .ok (envelope d.wrapped es).orderedDocument := by
      cases d.wrapped <;> rfl
    simp only [List.filter_cons,hkept,Bool.not_false,if_true,List.mapM_cons,horder,ih,List.map_cons]
    rfl

theorem handed_eq_ok_iff {text : Text} {xs : List Value} :
    handed text = .ok xs ↔ ∃ ds vs, documents text = .ok ds ∧
      ds.mapM Document.toValue = .ok vs ∧ vs.map Value.orderedDocument = xs := by
  simp only [handed,Except.bind_eq_ok_iff,Except.mapError_eq_ok_iff]
  constructor
  · rintro ⟨ds,hds,vs,hvs,hxs⟩
    rw [order_of_written hvs] at hxs
    exact ⟨ds,vs,hds,hvs,Except.ok.inj hxs⟩
  · rintro ⟨ds,vs,hds,hvs,rfl⟩
    exact ⟨ds,hds,vs,hvs,order_of_written hvs⟩

/-- Documents that are written in order are read as the arranged documents, which are written in
order the same way. -/
theorem mapM_ofValue_ordered {ds : List Document} {vs : List Value}
    (h : ds.mapM Document.toValue = .ok vs) :
    (vs.map Value.orderedDocument).mapM Document.ofValue = .ok (ds.map Document.arranged) ∧
      ∃ ws, (ds.map Document.arranged).mapM Document.toValue = .ok ws ∧
        ws.map Value.orderedDocument = vs.map Value.orderedDocument := by
  simp only [Except.mapM_eq_ok_iff] at h ⊢
  induction h with
  | nil => exact ⟨.nil,[],.nil,rfl⟩
  | cons hd _ ih =>
    obtain ⟨hread,w,hw,hordered⟩ := Document.ofValue_orderedDocument hd
    obtain ⟨hreads,ws,hws,hordereds⟩ := ih
    refine ⟨.cons hread hreads,w :: ws,.cons hw hws,?_⟩
    rw [List.map_cons,List.map_cons,hordered,hordereds]

/-- Rewriting changes no volume and no wrapper, and rewriting again changes nothing, if the text is
read back as the values of which it was made: each document comes back with the volume that it had,
its empty texts taken as absent, and the second text is the first. -/
theorem Writer.rewrite_fixed (w : Writer) {t u : Text} (h : w.rewrite t = .ok u)
    (hload : ∀ xs, handed t = .ok xs → Yaml.load u = .ok xs) :
    ∃ ds es, documents t = .ok ds ∧ documents u = .ok es ∧
      List.Forall₂ (fun d e => Volume.Equal e.volume d.volume.pruned ∧ e.wrapped = d.wrapped)
        ds es ∧
      w.rewrite u = .ok u := by
  have hwritten := h
  rw [Writer.rewrite_eq,Except.bind_eq_ok_iff] at h
  obtain ⟨xs,hxs,-⟩ := h
  obtain ⟨ds,vs,hds,hvs,rfl⟩ := handed_eq_ok_iff.mp hxs
  obtain ⟨hread,ws,hws,hordered⟩ := mapM_ofValue_ordered hvs
  have hdocuments : documents u = .ok (ds.map Document.arranged) :=
    documents_eq_ok_iff.mpr ⟨_,hload _ hxs,hread⟩
  -- Both texts are made of the same values.
  have hagain : handed u = handed t := by
    rw [hxs]
    exact handed_eq_ok_iff.mpr ⟨_,ws,hdocuments,hws,hordered⟩
  refine ⟨ds,_,hds,hdocuments,?_,?_⟩
  · rw [List.forall₂_map_right_iff,List.forall₂_same]
    exact fun d _ => ⟨d.volume.pruned.arranged_equal,rfl⟩
  · rw [← hwritten,Writer.rewrite_eq,Writer.rewrite_eq,hagain]

/-- A wrapped path and a disk, with keys out of order and an empty text. -/
def scatteredText : String :=
  "persistent_volume:\n  labels: \x7bb: x, name: y\x7d\n  vol_id: /a:dir\n  vol_type: hostpath\n" ++
    "---\nvol_type: gce_pd\nvol_id: d\ncluster: ''\nname: n\n"

/-- The same volumes as they are written. -/
def settledText : String :=
  "persistent_volume:\n  vol_type: hostpath\n  vol_id: /a:dir\n  labels:\n    name: y\n    b: x\n" ++
    "---\nname: n\nvol_type: gce_pd\nvol_id: d\n"

theorem Writer.rewrite_scatteredText :
    (Writer.new .yaml).rewrite scatteredText = .ok settledText ∧
      (∀ xs, handed scatteredText = .ok xs → Yaml.load settledText = .ok xs) ∧
      ∃ ds es, documents scatteredText = .ok ds ∧ documents settledText = .ok es ∧
        List.Forall₂ (fun d e => Volume.Equal e.volume d.volume.pruned ∧ e.wrapped = d.wrapped)
          ds es ∧
        (Writer.new .yaml).rewrite settledText = .ok settledText := by
  have hwritten : (Writer.new .yaml).rewrite scatteredText = .ok settledText := by
    have : ((Writer.new .yaml).rewrite scatteredText).toOption =
        some (settledText : Text) := by
      decide +kernel
    exact Except.toOption_eq_some_iff.mp this
  have hload : ∀ xs, handed scatteredText = .ok xs → Yaml.load settledText = .ok xs := by
    intro xs hxs
    have hsame : (Yaml.load settledText).toOption = (handed scatteredText).toOption := by
      decide +kernel
    rw [hxs] at hsame
    exact Except.toOption_eq_some_iff.mp hsame
  exact ⟨hwritten,hload,Writer.rewrite_fixed _ hwritten hload⟩

end ShortVolume
