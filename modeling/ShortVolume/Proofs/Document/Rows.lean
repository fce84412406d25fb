import ShortVolume.Proofs.Document.Lines
import ShortVolume.Proofs.Document.Settled
import ShortVolume.Proofs.Json.Letters
import ShortVolume.Proofs.Volume.Sent
set_option autoImplicit false

/-!
Volumes on rows of JSON.

The record of a volume stays a record when its keys are put in order, and has no line feed in its text of one
line. So the text of volumes falls into their records at its line feeds, and each row is read as the record
that it was made of.
-/

namespace ShortVolume

/-! ### Records in order -/

namespace Json

variable {inClass : Text → Prop}

/-- Whether a map is a record does not depend on the order of its entries. -/
theorem isRecord_map_iff (es : Entries) :
    IsRecord inClass (.map es) ↔
      (es.map Prod.fst).Nodup ∧ ∀ e ∈ es, (∃ s, e.1 = .text s ∧ inClass s) ∧ IsRecord inClass e.2 := by
  have hkeys (ms : List (Text × Value)) :
      (Entries.named ms).map Prod.fst = (ms.map Prod.fst).map Value.text := by
    simp [Entries.named,Function.comp_def]
  constructor
  · intro h
    cases h with
    | @map ms hnames hclass h =>
      refine ⟨?_,List.forall_mem_map.mpr (fun m hm => ⟨⟨m.1,rfl,hclass m hm⟩,h m hm⟩)⟩
      rw [hkeys]
      exact hnames.map (fun _ _ => Value.text.inj)
  · rintro ⟨hdistinct,h⟩
    obtain ⟨ms,rfl⟩ := Value.exists_texts (fun e he => (h e he).1.imp (fun _ hs => hs.1))
    rw [← Entries.named,hkeys] at hdistinct
    refine .map hdistinct.of_map (fun m hm => ?_) (fun m hm => (List.forall_mem_map.mp h m hm).2)
    obtain ⟨⟨s,hs,hclass⟩,-⟩ := List.forall_mem_map.mp h m hm
    exact Value.text.inj hs ▸ hclass

theorem IsRecord.leadingFirst {es : Entries} (h : IsRecord inClass (.map es)) :
    IsRecord inClass (.map (Entries.leadingFirst es)) := by
  rw [isRecord_map_iff] at h ⊢
  have hperm := Entries.leadingFirst_perm es
  exact ⟨(hperm.map Prod.fst).nodup_iff.mpr h.1,fun e he => h.2 e (hperm.mem_iff.mp he)⟩

theorem IsRecord.orderedField {v : Value} (h : IsRecord inClass v) : v.orderedField = v.ordered := by
  cases h <;> rfl

theorem IsRecord.ordered {v : Value} (h : IsRecord inClass v) : IsRecord inClass v.ordered := by
  induction h with
  | text hs => exact .text hs
  | int hi => exact .int hi
  | bool b => exact .bool b
  | @map ms hnames hclass h ih =>
    have hentries : Value.orderedEntries (Entries.named ms) =
        Entries.named (ms.map (fun m => (m.1,m.2.ordered))) := by
      rw [Value.orderedEntries_eq_map,Entries.named,Entries.named,List.map_map,List.map_map]
      refine List.map_congr_left (fun m hm => ?_)
      exact congrArg (Prod.mk _) (h m hm).orderedField
    rw [Value.ordered,hentries]
    refine IsRecord.leadingFirst (.map ?_ (List.forall_mem_map.mpr hclass)
      (List.forall_mem_map.mpr ih))
    simpa [Function.comp_def] using hnames

end Json

/-! ### Rows -/

/-- A row is the text of a record, without a line feed. -/
theorem Format.one_of_isRecord {inClass : Text → Prop} {v : Value} (h : Json.IsRecord inClass v) :
    ∃ row, Format.json.one v = .ok ⟨row ++ [.char '\n']⟩ ∧ .char '\n' ∉ row ∧
      Json.ofText row = .ok v := by
  obtain ⟨row,hrow,hspells⟩ := h.print_spells (l := .line) rfl 0
  refine ⟨row,?_,h.lineFeed_not_mem hrow,hspells.ofText⟩
  have hrender : Json.render ⟨false,none⟩ v = .ok ⟨row⟩ := by
    rw [Json.render,show Json.print ⟨false,none⟩ 0 v = .ok row from hrow]
    rfl
  rw [Format.one,hrender]
  rfl

/-- A volume has values of the declared kinds, under distinct labels, and the partition has a decimal text. -/
structure Volume.IsDeclared (v : Volume) : Prop where
  data : v.draft.data.IsTyped
  labels : (v.data.labels.map Prod.fst).Nodup
  annotations : (v.data.annotations.map Prod.fst).Nodup
  partition : ∀ i, v.source.partition? = some i → hasDigits i = true

theorem Volume.IsDeclared.isRecord {v : Volume} (h : v.IsDeclared) {es : Entries}
    (hes : v.entries = .ok es) : Json.IsRecord (fun _ => True) (.map es) := by
  obtain ⟨hfree,rfl⟩ := (v.entries_eq_ok_iff es).mp hes
  have htyped : v.draft.IsTyped := {
    data := h.data
    source := v.source.isTyped_draft_iff.mpr (v.source.selector_free_iff.mp hfree) }
  exact v.isRecord_fields (fun _ => trivial) htyped (fun _ _ => trivial) trivial h.labels h.annotations
    h.partition

theorem Document.isRecord_of_toValue {d : Document} (h : d.volume.IsDeclared) {v : Value}
    (hv : d.toValue = .ok v) : Json.IsRecord (fun _ => True) v ∧ ¬ v.WrapsList := by
  obtain ⟨es,hes,rfl⟩ := (d.toValue_eq_ok_iff v).mp hv
  have hrecord := h.isRecord hes
  have hlength := Volume.two_le_length hes
  cases d.wrapped with
  | true =>
    refine ⟨(Json.isRecord_map_iff _).mpr ⟨List.nodup_singleton _,?_⟩,?_⟩
    · exact List.forall_mem_singleton.mpr ⟨⟨wrapperKey,rfl,trivial⟩,hrecord⟩
    · simp [Value.WrapsList,envelope,Value.fields?]
  | false =>
    refine ⟨hrecord,?_⟩
    rintro ⟨xs,hxs⟩
    obtain rfl : es = _ := Option.some.inj hxs
    contradiction

/-- The row is that of the value: it is written for the value with its keys in order, and read as that. -/
structure Value.HasRow (v : Value) (row : List Letter) : Prop where
  written : Format.json.one v.orderedDocument = .ok ⟨row ++ [.char '\n']⟩
  unbroken : .char '\n' ∉ row
  read : ∃ w, Json.ofText row = .ok w ∧ v.Alike w ∧ v.InOrder w

theorem Document.exists_row {d : Document} (h : d.volume.IsDeclared) {v : Value}
    (hv : d.toValue = .ok v) : ∃ row, v.HasRow row := by
  obtain ⟨hrecord,hlist⟩ := Document.isRecord_of_toValue h hv
  obtain ⟨row,hwritten,hunbroken,hread⟩ := Format.one_of_isRecord hrecord.ordered
  refine ⟨row,?_,hunbroken,v.ordered,hread,v.alike_ordered,v.inOrder_ordered⟩
  rw [Value.orderedDocument_eq_ordered hlist,hwritten]

theorem Writer.write_eq (w : Writer) (vs : List Value) :
    w.write vs = (vs.filter (fun v => !v.isFalsy)).mapM Format.order >>= w.setDown := by
  simp only [write,Format.texts,bind_assoc]
  rfl

/-- Volumes that can be written leave one row for each, which is read as the record of the volume with its
keys in order. -/
theorem Writer.write_rows {ds : List Document} {vs : List Value}
    (hdeclared : ∀ d ∈ ds, d.volume.IsDeclared) (hvs : ds.mapM Document.toValue = .ok vs) :
    ∃ rows : List (List Letter), rows.length = ds.length ∧
      (Writer.new .json).write vs = .ok (rowsText rows) ∧
      List.Forall₂ (fun v row => .char '\n' ∉ row ∧
        ∃ w, Json.ofText row = .ok w ∧ v.Alike w ∧ v.InOrder w) vs rows := by
  have hvalues := Except.mapM_eq_ok_iff.mp hvs
  have hrows : ∃ rows, List.Forall₂ Value.HasRow vs rows := by
    clear hvs
    induction hvalues with
    | nil => exact ⟨[],.nil⟩
    | cons hv _ ih =>
      obtain ⟨hfirst,hothers⟩ := List.forall_mem_cons.mp hdeclared
      obtain ⟨row,hrow⟩ := Document.exists_row hfirst hv
      obtain ⟨rows,hrows⟩ := ih hothers
      exact ⟨row :: rows,.cons hrow hrows⟩
  obtain ⟨rows,hrows⟩ := hrows
  refine ⟨rows,?length,?text,hrows.imp (fun _ _ h => ⟨h.unbroken,h.read⟩)⟩
  case length => rw [← hrows.length_eq,← hvalues.length_eq]
  case text =>
    rw [Writer.write_eq,order_of_written hvs]
    exact setDown_rows (List.forall₂_map_left_iff.mpr (hrows.imp (fun _ _ h => h.written)))

/-- A disk with line feeds in a label, before one with a leading key. -/
def brokenLabel : Volume where
  data := { labels := [(.text "a\n",("\n" : Text)), (.text "name",("x" : Text))] }
  source := .gcePD ⟨"d",none,none,false⟩

/-- The same disk twice, in a wrapper and not. -/
def brokenTwice : List Document := [⟨brokenLabel,true⟩, ⟨brokenLabel,false⟩]

theorem Writer.write_brokenTwice :
    (∀ d ∈ brokenTwice, d.volume.IsDeclared) ∧
      ∃ vs, brokenTwice.mapM Document.toValue = .ok vs ∧
        ∃ rows : List (List Letter), rows.length = 2 ∧
          (Writer.new .json).write vs = .ok (rowsText rows) ∧
          List.Forall₂ (fun v row => .char '\n' ∉ row ∧
            ∃ w, Json.ofText row = .ok w ∧ v.Alike w ∧ v.InOrder w) vs rows := by
  have hdeclared : brokenLabel.IsDeclared := by
    refine ⟨?_,by simp [brokenLabel],.nil,?_⟩
    · rw [Volume.isTyped_data_iff]
      simp [brokenLabel,Labels.HasTextKeys,Value.IsText]
    · simp [brokenLabel,Source.partition?]
  have hall : ∀ d ∈ brokenTwice, d.volume.IsDeclared := by simp [brokenTwice,hdeclared]
  exact ⟨hall,_,rfl,Writer.write_rows hall rfl⟩

example : ((Writer.new .json).writeDocuments brokenTwice).toOption =
    some (Text.ofString ("\x7b\"persistent_volume\": \x7b\"vol_type\": \"gce_pd\", \"vol_id\": \"d\", " ++
      "\"labels\": \x7b\"name\": \"x\", \"a\\n\": \"\\n\"\x7d\x7d\x7d\n" ++
      "\x7b\"vol_type\": \"gce_pd\", \"vol_id\": \"d\", " ++
      "\"labels\": \x7b\"name\": \"x\", \"a\\n\": \"\\n\"\x7d\x7d\n")) := by
  cbv

end ShortVolume
