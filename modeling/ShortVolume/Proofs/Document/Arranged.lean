import ShortVolume.Proofs.Document.Order
import ShortVolume.Proofs.Volume.RoundTrip
set_option autoImplicit false

/-!
Volumes of records that were put in order.

A record in order holds the volume that it held before, with its labels and annotations in order.
These are maps, and as such the same: `Volume.Equal` leaves the order of their entries out.
-/

namespace ShortVolume

/-! ### Volumes whose labels are in order -/

/-- The labels in the order in which they are printed. -/
def Labels.arranged (ls : Labels) : Labels :=
  (Entries.leadingFirst ls.entries).map (fun e => (e.1,e.2.text?.getD ""))

theorem Labels.entries_arranged (ls : Labels) :
    ls.arranged.entries = Entries.leadingFirst ls.entries := by
  have htext : ∀ e ∈ Entries.leadingFirst ls.entries, (e.1,Value.text (e.2.text?.getD "")) = e := by
    intro e he
    have hmem := (Entries.leadingFirst_perm ls.entries).mem_iff.mp he
    obtain ⟨l,-,rfl⟩ := List.mem_map.mp hmem
    rfl
  calc ls.arranged.entries
      = (Entries.leadingFirst ls.entries).map (fun e => (e.1,Value.text (e.2.text?.getD ""))) := by
        simp [Labels.arranged,Labels.entries]
    _ = (Entries.leadingFirst ls.entries).map id := List.map_congr_left htext
    _ = Entries.leadingFirst ls.entries := List.map_id _

theorem Labels.arranged_perm (ls : Labels) : ls.arranged.Perm ls := by
  have hback : ls.entries.map (fun e => (e.1,e.2.text?.getD "")) = ls := by
    simp [Labels.entries,Value.text?,Function.comp_def]
  have := (Entries.leadingFirst_perm ls.entries).map (fun e => (e.1,e.2.text?.getD ""))
  rwa [hback] at this

def Meta.arranged (m : Meta) : Meta :=
  { m with labels := m.labels.arranged, annotations := m.annotations.arranged }

def Volume.arranged (v : Volume) : Volume := ⟨v.data.arranged,v.source⟩

/-- Equality of metadata, for which labels and annotations are maps. -/
structure Meta.Equal (m n : Meta) : Prop where
  labels : m.labels.Perm n.labels
  annotations : m.annotations.Perm n.annotations
  rest : { m with labels := [], annotations := [] } = { n with labels := [], annotations := [] }

/-- Equality of volumes, for which labels and annotations are maps. -/
structure Volume.Equal (v w : Volume) : Prop where
  source : v.source = w.source
  data : Meta.Equal v.data w.data

theorem Volume.arranged_equal (v : Volume) : Volume.Equal v.arranged v :=
  ⟨rfl,v.data.labels.arranged_perm,v.data.annotations.arranged_perm,rfl⟩

/-! ### Fields of a record in order -/

theorem Value.orderedField_of_plain {v : Value} {s : Option Text} (h : v.plain = .ofText? s) :
    v.orderedField = v := by
  cases v <;> cases s <;> simp [plain,ofText?] at h <;> rfl

/-- A map that is not folded, in order. -/
theorem Value.orderedField_of_entries? {v : Value} {m : Entries} (hv : v.view = v)
    (h : v.entries? = some m) : v.orderedField = .map (Entries.ordered m) := by
  rw [entries?,hv] at h
  cases v <;> simp at h <;> subst h <;> rfl

namespace Entries

theorem plain_ordered {es : Entries} {key : String} {s : Option Text}
    (h : (es.field key).plain = .ofText? s) : (es.ordered.field key).plain = .ofText? s := by
  rw [field_ordered,Value.orderedField_of_plain h,h]

theorem HoldsQuantity.ordered {es : Entries} {key : String} {q : Option Text}
    (h : es.HoldsQuantity key q) : es.ordered.HoldsQuantity key q := by
  have hfield : (es.field key).orderedField = es.field key := by
    rcases h with ⟨hnull,-⟩ | ⟨haccepts,-⟩
    · rw [hnull]
      rfl
    · cases hv : es.field key <;> simp [hv,Expected.accepts] at haccepts <;> rfl
  unfold HoldsQuantity
  rw [field_ordered,hfield]
  exact h

theorem HoldsModes.ordered {es : Entries} {ms : List AccessMode} (h : es.HoldsModes ms) :
    es.ordered.HoldsModes ms := by
  unfold HoldsModes
  rw [field_ordered]
  rcases h with ⟨hnull,rfl⟩ | hmodes
  · rw [hnull]
    exact .inl ⟨rfl,rfl⟩
  · rw [Value.orderedField_of_plain (s := some _) hmodes]
    exact .inr hmodes

theorem HoldsReclaim.ordered {es : Entries} {p : Option ReclaimPolicy} (h : es.HoldsReclaim p) :
    es.ordered.HoldsReclaim p := by
  unfold HoldsReclaim
  rw [field_ordered]
  rcases h with ⟨rfl,hnull | hempty⟩ | ⟨q,rfl,hq⟩
  · rw [Value.orderedField_of_plain (s := none) hnull]
    exact .inl ⟨rfl,.inl hnull⟩
  · rw [Value.orderedField_of_plain (s := some "") hempty]
    exact .inl ⟨rfl,.inr hempty⟩
  · rw [Value.orderedField_of_plain (s := some q.text) hq]
    exact .inr ⟨q,rfl,hq⟩

theorem HoldsLabels.ordered {es : Entries} {key : String} {ls : Labels}
    (h : es.HoldsLabels key ls) (hv : (es.field key).view = es.field key) :
    es.ordered.HoldsLabels key ls.arranged := by
  unfold HoldsLabels
  rw [field_ordered]
  rcases h with ⟨hnull,rfl⟩ | ⟨m,hm,hls⟩
  · rw [hnull]
    exact .inl ⟨rfl,rfl⟩
  · -- The values are texts, in which there is nothing to order.
    have hsame : Value.orderedEntries m = m := by
      rw [Value.orderedEntries_eq_map]
      refine (List.map_congr_left (fun e he => ?_)).trans (List.map_id m)
      have hmem : (e.1,e.2.plain) ∈ ls.entries := hls ▸ List.mem_map.mpr ⟨e,he,rfl⟩
      obtain ⟨l,-,hl⟩ := List.mem_map.mp hmem
      have hplain : e.2.plain = .text l.2 := (congrArg Prod.snd hl).symm
      rw [Value.orderedField_of_plain (s := some l.2) hplain]
      rfl
    refine .inr ⟨Entries.ordered m,?_,?_⟩
    · rw [Value.orderedField_of_entries? hv hm]
      rfl
    · rw [Entries.ordered,hsame,Labels.entries_arranged,← hls,leadingFirst_map]

theorem HoldsPart.ordered {α : Type} {reads : Entries → α → Prop} {es : Entries} {key : String}
    {a : Option α} (hr : ∀ m c, reads m c → reads (Entries.ordered m) c) (h : HoldsPart reads es key a)
    (hv : (es.field key).view = es.field key) : HoldsPart reads es.ordered key a := by
  unfold HoldsPart
  rw [field_ordered]
  rcases h with ⟨hnull,rfl⟩ | ⟨m,c,hm,hc,rfl⟩
  · rw [hnull]
    exact .inl ⟨rfl,rfl⟩
  · refine .inr ⟨Entries.ordered m,c,?_,hr m c hc,rfl⟩
    rw [Value.orderedField_of_entries? hv hm]
    rfl

/-- The keys of the maps inside of a record. -/
def partNames : List String := ["labels","annotations","claim","status"]

/-- No map inside of the record is folded. -/
def IsUnfolded (es : Entries) : Prop := ∀ key ∈ partNames, (es.field key).view = es.field key

end Entries

/-! ### Volumes -/

theorem Claim.Reads.ordered {es : Entries} {c : Claim} (h : Claim.Reads es c) :
    Claim.Reads es.ordered c :=
  ⟨Entries.plain_ordered h.kind,Entries.plain_ordered h.space,Entries.plain_ordered h.name,
    Entries.plain_ordered h.uid,Entries.plain_ordered h.apiVersion,
    Entries.plain_ordered h.resourceVersion,Entries.plain_ordered h.fieldPath⟩

theorem Status.Reads.ordered {es : Entries} {s : Status} (h : Status.Reads es s) :
    Status.Reads es.ordered s :=
  ⟨Entries.plain_ordered h.phase,Entries.plain_ordered h.message,Entries.plain_ordered h.reason⟩

theorem Meta.Reads.ordered {es : Entries} {m : Meta} (h : Meta.Reads es m)
    (hes : es.IsUnfolded) : Meta.Reads es.ordered m.arranged where
  version := Entries.plain_ordered h.version
  cluster := Entries.plain_ordered h.cluster
  name := Entries.plain_ordered h.name
  space := Entries.plain_ordered h.space
  labels := h.labels.ordered (hes "labels" (by decide))
  annotations := h.annotations.ordered (hes "annotations" (by decide))
  storage := h.storage.ordered
  modes := h.modes.ordered
  claim := h.claim.ordered (fun _ _ => Claim.Reads.ordered) (hes "claim" (by decide))
  reclaim := h.reclaim.ordered
  storageClass := Entries.plain_ordered h.storageClass
  mountOptions := Entries.plain_ordered h.mountOptions
  status := h.status.ordered (fun _ _ => Status.Reads.ordered) (hes "status" (by decide))

theorem Disk.Reads.ordered {es : Entries} {d : Disk} (h : Disk.Reads es d) :
    Disk.Reads es.ordered d where
  fs := Entries.plain_ordered h.fs
  partition := by
    rw [Entries.field_ordered,h.partition]
    cases d.partition <;> rfl
  readOnly := by
    rw [Entries.field_ordered]
    rcases h.readOnly with hro | ⟨hro,hfalse⟩
    · rw [hro]
      exact .inl rfl
    · rw [hro]
      exact .inr ⟨rfl,hfalse⟩

theorem Source.Reads.ordered {es : Entries} {s : Source} (h : Source.Reads es s) :
    Source.Reads es.ordered s where
  tag := Entries.plain_ordered (s := some _) h.tag
  selector := Entries.plain_ordered (s := some _) h.selector
  free := h.free
  disk := by
    cases s with
    | gcePD d => exact Disk.Reads.ordered h.disk
    | awsEBS d => exact Disk.Reads.ordered h.disk
    | hostPath path type => trivial

/-- A record in order holds the same volume, with its labels in order. -/
theorem Volume.Reads.ordered {es : Entries} {v : Volume} (h : Volume.Reads es v)
    (hes : es.IsUnfolded) : Volume.Reads es.ordered v.arranged :=
  ⟨h.source.ordered,h.data.ordered hes⟩

end ShortVolume
