import ShortVolume.Proofs.Volume.Halves
set_option autoImplicit false

/-!
The compound identifier of a store.

Identifiers and non-empty lists of segments without a colon stand for each other: an identifier is read as
the one such list whose segments, with colons between them, make it. A store is written exactly when its
segments are such a list, that is when they would be read back.
-/

namespace ShortVolume

theorem Text.joinWith_eq_intercalate {α : Type} (sep : α) (ls : List (List α)) :
    joinWith sep ls = [sep].intercalate ls := by
  induction ls with
  | nil => rfl
  | cons l rest ih =>
    cases rest with
    | nil => simp [joinWith]
    | cons m rest =>
      rw [joinWith_cons sep l (List.cons_ne_nil m rest),ih]
      simp

theorem joinSegments_eq_intercalate (l : List Text) : joinSegments l = Text.intercalate ":" l := by
  rw [joinSegments,Text.joinWith_eq_intercalate]
  rfl

theorem segments_ne_nil (s : Text) : segments s ≠ [] := by
  simp [segments,Text.splitOn_ne_nil]

theorem segments_eq_iff {s : Text} {l : List Text} :
    segments s = l ↔ l ≠ [] ∧ (∀ t ∈ l, .char ':' ∉ t.toList) ∧ Text.intercalate ":" l = s := by
  rw [← joinSegments_eq_intercalate]
  constructor
  · rintro rfl
    refine ⟨segments_ne_nil s,fun t ht => ?_,joinSegments_segments s⟩
    exact (holdsSeparator_eq_false_iff t).mp (holdsSeparator_of_mem_segments ht)
  · rintro ⟨hne,hfree,rfl⟩
    exact segments_joinSegments hne (fun t ht => (holdsSeparator_eq_false_iff t).mpr (hfree t ht))

/-- Segments are those of the identifier that they make unless one of them holds the separator. -/
theorem segments_intercalate_iff {l : List Text} (hne : l ≠ []) :
    segments (Text.intercalate ":" l) = l ↔ ∀ t ∈ l, holdsSeparator t = false := by
  simp only [holdsSeparator_eq_false_iff]
  rw [segments_eq_iff]
  exact ⟨fun h => h.2.1,fun hfree => ⟨hne,hfree,rfl⟩⟩

theorem Entries.selector_of_text? {es : Entries} {v : Value} {s : Text}
    (hv : es.lookup? "vol_id" = some v) (hs : v.text? = some s) : es.selector = .ok (segments s) := by
  rw [selector,hv]
  simp only [hs]

/-- The record that holds nothing but an identifier. -/
def identifierEntries (s : Text) : Entries := [(.text "vol_id",.text s)]

theorem selector_identifierEntries (s : Text) :
    (identifierEntries s).selector = .ok (segments s) :=
  Entries.selector_of_text? (v := .text s) rfl rfl

/-! ### Stores -/

/-- Segments that are strings are all read, or the first that holds the separator is refused. -/
theorem StoreParts.texts_cases (p : StoreParts) {vs : List Value} {ts : List Text}
    (h : List.Forall₂ (fun v t => v.text? = some t) vs ts) :
    ((∀ t ∈ ts, holdsSeparator t = false) ∧ p.texts vs = .ok ts) ∨
      ∃ v ∈ vs, ∃ t ∈ ts, v.text? = some t ∧ holdsSeparator t = true ∧
        p.texts vs = .error (.separatorInside p.selector v p.kind) := by
  induction h with
  | nil => exact .inl ⟨nofun,rfl⟩
  | @cons v t vs ts hv _ ih =>
    have hholds : v.holdsSeparator? = some (holdsSeparator t) := by
      rw [Value.holdsSeparator?,hv]
    cases ht : holdsSeparator t with
    | true =>
      refine .inr ⟨v,List.mem_cons_self,t,List.mem_cons_self,hv,ht,?_⟩
      simp [texts,hholds,ht]
    | false =>
      rcases ih with ⟨hfree,hread⟩ | ⟨w,hw,u,hu,hwu,hcolon,hread⟩
      · exact .inl ⟨List.forall_mem_cons.mpr ⟨ht,hfree⟩,by simp [texts,hholds,ht,hv,hread]⟩
      · refine .inr ⟨w,List.mem_cons_of_mem v hw,u,List.mem_cons_of_mem t hu,hwu,hcolon,?_⟩
        simp [texts,hholds,ht,hv,hread]

theorem DraftSource.selector_ne_nil {s : DraftSource} {p : StoreParts} (h : s.parts = .ok p) :
    p.selector ≠ [] := by
  cases s with
  | hostPath path type =>
    simp only [parts] at h
    split at h <;> cases h <;> simp
  | other v => contradiction
  | _ =>
    cases h
    simp

/-- A store that is named by strings is written unless one of them holds the separator. -/
theorem DraftSource.entries_cases {s : DraftSource} {p : StoreParts} {ts : List Text}
    (h : s.parts = .ok p) (hts : List.Forall₂ (fun v t => v.text? = some t) p.selector ts) :
    ((∀ t ∈ ts, holdsSeparator t = false) ∧ s.entries = .ok (storeEntries p.kind ts p.extra)) ∨
      ∃ v ∈ p.selector, ∃ t ∈ ts, v.text? = some t ∧ holdsSeparator t = true ∧
        s.entries = .error (.separatorInside p.selector v p.kind) := by
  have hentries : s.entries = p.entries := by
    rw [DraftSource.entries,h]
    rfl
  rw [hentries,StoreParts.entries]
  rcases p.texts_cases hts with ⟨hfree,hread⟩ | ⟨v,hv,t,ht,hvt,hcolon,hread⟩
  · exact .inl ⟨hfree,by rw [hread]⟩
  · exact .inr ⟨v,hv,t,ht,hvt,hcolon,by rw [hread]⟩

/-- The segments that are written into a record are those that are read from it. -/
theorem DraftSource.selector_storeEntries {s : DraftSource} {p : StoreParts} (h : s.parts = .ok p)
    (ts : List Text) :
    (storeEntries p.kind ts p.extra).selector = .ok (segments (Text.intercalate ":" ts)) := by
  obtain ⟨fs,hnames,hextra⟩ := exists_fields_extra h
  have habsent : p.extra.lookup? "vol_id" = none := by
    rw [hextra]
    exact Fields.lookup?_entries_of_not_mem (hnames ▸ by decide)
  refine Entries.selector_of_text? (v := .text (joinSegments ts)) ?_ ?_
  · rw [storeEntries,Entries.lookup?_append,habsent]
    rfl
  · rw [joinSegments_eq_intercalate]
    rfl

theorem DraftSource.ne_separatorInside_of_parts {s : DraftSource} {f : Fault} (h : s.parts = .error f)
    (selector : List Value) (segment : Value) (kind : Kind) :
    f ≠ .separatorInside selector segment kind := by
  cases s with
  | hostPath path type =>
    simp only [parts] at h
    split at h
    · contradiction
    · contradiction
    · next hf =>
      cases h
      unfold HostPathType.ofValue at hf
      split at hf <;> cases hf
      simp
  | other v =>
    cases h
    simp
  | _ => contradiction

/-- A record's identifier is read as the one non-empty list of segments without a colon that make it, so
that every such list comes back from what it makes. A store whose segments are strings is refused exactly
when they would not come back, by a fault that has them all and names one with a colon in it; what is
written of it is read as its segments. What is no store is refused for another reason. -/
theorem selector_bijective :
    (∀ (es : Entries) (v : Value) (s : Text), es.lookup? "vol_id" = some v → v.text? = some s →
      (∃ l, es.selector = .ok l) ∧
        ∀ l, es.selector = .ok l ↔ l ≠ [] ∧ (∀ t ∈ l, .char ':' ∉ t.toList) ∧ Text.intercalate ":" l = s) ∧
    (∀ (s : DraftSource) (p : StoreParts) (ts : List Text), s.parts = .ok p →
      List.Forall₂ (fun v t => v.text? = some t) p.selector ts →
      ((∃ f, s.entries = .error f) ↔
          (identifierEntries (Text.intercalate ":" ts)).selector ≠ .ok ts) ∧
        (∀ f, s.entries = .error f → ∃ v ∈ p.selector, ∃ t ∈ ts, v.text? = some t ∧
          .char ':' ∈ t.toList ∧ f = .separatorInside p.selector v p.kind) ∧
        ∀ es, s.entries = .ok es → es.selector = .ok ts) ∧
    ∀ (s : DraftSource) (f : Fault), s.parts = .error f →
      s.entries = .error f ∧
        ∀ selector segment kind, f ≠ .separatorInside selector segment kind := by
  refine ⟨fun es v s hv hs => ?_,fun s p ts hp hts => ?_,fun s f hf => ?_⟩
  · rw [Entries.selector_of_text? hv hs]
    refine ⟨⟨_,rfl⟩,fun l => ?_⟩
    rw [Except.ok.injEq,segments_eq_iff]
  · have hne : ts ≠ [] := by
      rintro rfl
      exact DraftSource.selector_ne_nil hp (List.forall₂_nil_right_iff.mp hts)
    have hsplit : (identifierEntries (Text.intercalate ":" ts)).selector = .ok ts ↔
        ∀ t ∈ ts, holdsSeparator t = false := by
      rw [selector_identifierEntries,Except.ok.injEq,segments_intercalate_iff hne]
    rw [Ne,hsplit]
    rcases DraftSource.entries_cases hp hts with ⟨hfree,hread⟩ | ⟨v,hv,t,ht,hvt,hholds,hread⟩
    · rw [hread]
      refine ⟨iff_of_false nofun (not_not_intro hfree),nofun,fun es hes => ?_⟩
      obtain rfl := Except.ok.inj hes
      rw [DraftSource.selector_storeEntries hp,(segments_intercalate_iff hne).mpr hfree]
    · have hcolon : .char ':' ∈ t.toList := List.contains_iff_mem.mp hholds
      rw [hread]
      refine ⟨iff_of_true ⟨_,rfl⟩ (fun hfree => ?_),fun f hf => ?_,nofun⟩
      · exact Bool.false_ne_true ((hfree t ht).symm.trans hholds)
      · exact ⟨v,hv,t,ht,hvt,hcolon,(Except.error.inj hf).symm⟩
  · refine ⟨?_,DraftSource.ne_separatorInside_of_parts hf⟩
    rw [DraftSource.entries,hf]
    rfl

/-- An identifier with empty segments within and at its end. -/
def gappedRecord : Entries := [(.text "name",.text "n"), (.text "vol_id",.text "a::b:")]

def colonPath : DraftSource := .hostPath (.text "/a:b") (.term (.pathType .directory))

theorem selector_gappedRecord :
    gappedRecord.lookup? "vol_id" = some (.text "a::b:") ∧
      gappedRecord.selector = .ok ["a","","b",""] ∧
      (identifierEntries (Text.intercalate ":" ["/a:b","dir"])).selector ≠ .ok ["/a:b","dir"] ∧
      (∃ f, colonPath.entries = .error f) ∧
      (DraftSource.other .null).entries = .error (.noSource .null) := by
  obtain ⟨hread,hwrite,hrefused⟩ := selector_bijective
  have hlookup : gappedRecord.lookup? "vol_id" = some (.text "a::b:") := by decide
  have hgaps := (hread _ _ _ hlookup rfl).2 ["a","","b",""]
  have hparts : colonPath.parts = .ok ⟨.hostPath,[.text "/a:b",.text "dir"],[]⟩ := rfl
  obtain ⟨hcolon,-,-⟩ := hwrite _ _ ["/a:b","dir"] hparts (.cons rfl (.cons rfl .nil))
  have hsplit :
      (identifierEntries (Text.intercalate ":" ["/a:b","dir"])).selector ≠ .ok ["/a:b","dir"] := by
    intro hback
    obtain ⟨-,hfree,-⟩ := ((hread _ (.text _) _ rfl rfl).2 _).mp hback
    exact hfree "/a:b" List.mem_cons_self (by decide)
  exact ⟨hlookup,hgaps.mpr ⟨by decide,by decide,by decide⟩,hsplit,hcolon.mpr hsplit,
    (hrefused _ _ rfl).1⟩

end ShortVolume
