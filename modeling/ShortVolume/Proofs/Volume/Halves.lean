import ShortVolume.Proofs.Record.Union
import ShortVolume.Proofs.Volume.Drafts
import ShortVolume.Proofs.Volume.Owned
set_option autoImplicit false

/-!
The two halves of a record.

The store and the metadata of a volume are written into tables of their own, and no name is in both. So
neither hides anything of the other where they are put together: what a record has under the names of a
half is that half, for whatever was written.
-/

namespace ShortVolume

namespace Entries

/-- The names of a store's half, whatever the store. -/
def storeNames : List String := diskNames ++ ["vol_type","vol_id"]

def dataNames : List String :=
  ["version","cluster","name","namespace","labels","annotations","storage","modes","claim","reclaim",
    "storage_class","mount_options","status"]

theorem nodup_names : (storeNames ++ dataNames).Nodup := by decide

/-- The entries under some names, in their order. -/
def restrict (names : List String) (es : Entries) : Entries :=
  es.filter (fun e => names.any (fun name => isNamed name e))

theorem restrict_append (names : List String) (es fs : Entries) :
    restrict names (es ++ fs) = restrict names es ++ restrict names fs := List.filter_append es fs

end Entries

namespace Fields

theorem exists_name {fs : Fields} {e : Value × Value} (h : e ∈ fs.entries) :
    ∃ name ∈ fs.names, e.1 = .text name := by
  obtain ⟨⟨name,v⟩,hf,he⟩ := List.mem_filterMap.mp h
  obtain ⟨w,-,rfl⟩ := Option.map_eq_some_iff.mp he
  exact ⟨name,List.mem_map_of_mem hf,rfl⟩

theorem restrict_entries {fs : Fields} {names : List String} (h : fs.names ⊆ names) :
    fs.entries.restrict names = fs.entries := by
  refine List.filter_eq_self.mpr (fun e he => ?_)
  obtain ⟨name,hname,hkey⟩ := exists_name he
  refine List.any_eq_true.mpr ⟨name,h hname,?_⟩
  rw [Entries.isNamed_iff,hkey]
  rfl

theorem restrict_entries_of_disjoint {fs : Fields} {names : List String}
    (h : fs.names.Disjoint names) : fs.entries.restrict names = [] := by
  refine List.filter_eq_nil_iff.mpr (fun e he => ?_)
  obtain ⟨name,hname,hkey⟩ := exists_name he
  rw [List.any_eq_true]
  rintro ⟨other,hother,hnamed⟩
  rw [Entries.isNamed_iff,hkey] at hnamed
  obtain rfl := Text.ofString_inj.mp (Option.some.inj hnamed)
  exact h hname hother

/-- Of two tables without a common name each is what their record has under its names. -/
theorem restrict_entries_append {fs gs : Fields} (h : (fs ++ gs).names.Nodup) :
    (fs ++ gs).entries.restrict fs.names = fs.entries ∧
      (fs ++ gs).entries.restrict gs.names = gs.entries := by
  rw [names_append] at h
  have hdisjoint : fs.names.Disjoint gs.names := List.disjoint_of_nodup_append h
  rw [entries_append,Entries.restrict_append,Entries.restrict_append]
  constructor
  · rw [restrict_entries (List.Subset.refl _),
      restrict_entries_of_disjoint (List.disjoint_comm.mp hdisjoint),List.append_nil]
  · rw [restrict_entries (List.Subset.refl _),restrict_entries_of_disjoint hdisjoint,
      List.nil_append]

end Fields

/-! ### Tables of drafts -/

/-- The value, unless it is nothing. -/
def Value.given? : Value → Option Value
  | null => none
  | v => some v

def DraftDisk.fields (d : DraftDisk) : Fields :=
  [("fs",d.fs.given?), ("partition",d.partition.given?),
    ("ro",if d.readOnly.isFalsy then none else some (.bool true))]

theorem DraftDisk.entries_eq (d : DraftDisk) : d.entries = d.fields.entries := by
  obtain ⟨id,fs,partition,readOnly⟩ := d
  have hgiven (key : String) (v : Value) :
      (match v with
        | .null => []
        | v => [(Value.text key,v)]) = Fields.entries [(key,v.given?)] := by
    cases v <;> rfl
  have hflag : (if readOnly.isFalsy then [] else [(Value.text "ro",Value.bool true)]) =
      Fields.entries [("ro",if readOnly.isFalsy then none else some (.bool true))] := by
    cases readOnly.isFalsy <;> rfl
  calc DraftDisk.entries ⟨id,fs,partition,readOnly⟩
    _ = Fields.entries [("fs",fs.given?)] ++ Fields.entries [("partition",partition.given?)] ++
        Fields.entries [("ro",if readOnly.isFalsy then none else some (.bool true))] := by
      rw [← hflag,← hgiven,← hgiven]
      rfl
    _ = _ := by
      rw [← Fields.entries_append,← Fields.entries_append]
      rfl

/-- The fields of a store besides tag and identifier; a path has none of them. -/
theorem DraftSource.exists_fields_extra {s : DraftSource} {p : StoreParts} (h : s.parts = .ok p) :
    ∃ fs : Fields, fs.names = Entries.diskNames ∧ p.extra = fs.entries := by
  cases s with
  | gcePD d =>
    cases h
    exact ⟨d.fields,rfl,d.entries_eq⟩
  | awsEBS d =>
    cases h
    exact ⟨d.fields,rfl,d.entries_eq⟩
  | hostPath path type =>
    refine ⟨[("fs",none),("partition",none),("ro",none)],rfl,?_⟩
    simp only [parts] at h
    split at h <;> cases h <;> rfl
  | other v => contradiction

theorem DraftSource.exists_fields {s : DraftSource} {es : Entries} (h : s.entries = .ok es) :
    ∃ fs : Fields, fs.names = Entries.storeNames ∧ es = fs.entries := by
  obtain ⟨p,hparts,hentries⟩ := Except.bind_eq_ok_iff.mp h
  obtain ⟨fs,hnames,hextra⟩ := exists_fields_extra hparts
  unfold StoreParts.entries at hentries
  split at hentries
  · next ts hts =>
    cases hentries
    let tagged : Fields :=
      [("vol_type",some (.text p.kind.tag)),("vol_id",some (.text (joinSegments ts)))]
    refine ⟨fs ++ tagged,?_,?_⟩
    · rw [Fields.names_append,hnames]
      rfl
    · rw [Fields.entries_append,storeEntries,hextra]
      rfl
  · contradiction

theorem DraftMeta.exists_fields {m : DraftMeta} {es : Entries} (h : m.entries = .ok es) :
    ∃ fs : Fields, fs.names = Entries.dataNames ∧ es = fs.entries := by
  obtain ⟨r,-,hr⟩ := Except.bind_eq_ok_iff.mp h
  cases hr
  exact ⟨r.fields,rfl,r.entries_eq⟩

/-- Each half is what the record has under its names. -/
theorem Draft.halves_of_entries {d : Draft} {es : Entries} (h : d.entries = .ok es) :
    d.source.entries = .ok (es.restrict Entries.storeNames) ∧
      d.data.entries = .ok (es.restrict Entries.dataNames) ∧
      es = es.restrict Entries.storeNames ++ es.restrict Entries.dataNames := by
  obtain ⟨data,hdata,hrest⟩ := Except.bind_eq_ok_iff.mp h
  obtain ⟨store,hstore,hunion⟩ := Except.bind_eq_ok_iff.mp hrest
  obtain ⟨fs,hfs,rfl⟩ := DraftSource.exists_fields hstore
  obtain ⟨gs,hgs,rfl⟩ := DraftMeta.exists_fields hdata
  have hnames : (fs ++ gs).names.Nodup := by
    rw [Fields.names_append,hfs,hgs]
    exact Entries.nodup_names
  have hes : es = (fs ++ gs).entries :=
    (Except.ok.inj hunion).symm.trans (Fields.union_entries hnames)
  obtain ⟨hleft,hright⟩ := Fields.restrict_entries_append hnames
  rw [← hes,hfs] at hleft
  rw [← hes,hgs] at hright
  rw [hleft,hright]
  exact ⟨hstore,hdata,hes.trans (Fields.entries_append fs gs)⟩

/-- The union of two maps is theirs with the second winning: there is just one such map. It is
associative, keys and their order included, the empty map changes nothing on either side, and a map with
itself gives itself. Where a store and metadata are put together nothing is to be won: of every draft
that has a record, the two halves are what the record has under their names, and they are all of it. -/
theorem Entries.union_favors_second :
    (∀ s m : Entries, s.IsDictionary → m.IsDictionary →
      (∀ u, IsUnion s m u ↔ u = union s m) ∧ union [] s = s ∧ union s [] = s ∧ union s s = s ∧
        ∀ t : Entries, t.IsDictionary → union (union s m) t = union s (union m t)) ∧
    (∀ (d : Draft) (es : Entries), d.entries = .ok es →
      d.source.entries = .ok (es.restrict storeNames) ∧
        d.data.entries = .ok (es.restrict dataNames) ∧
        es = es.restrict storeNames ++ es.restrict dataNames) ∧
    storeNames.Disjoint dataNames := by
  refine ⟨fun s m hs hm => ?_,fun d es => Draft.halves_of_entries,
    List.disjoint_of_nodup_append nodup_names⟩
  exact ⟨isUnion_iff hs hm,nil_union hs,union_nil s,union_self hs,fun t ht => union_assoc hs hm ht⟩

/-- Keys of several kinds. -/
def mixedKeys : Entries :=
  [(.int 1,.text "one"), (.text "retain",.text "kept"), (.null,.int 0)]

/-- Keys among which two are the same as two of these, in another order and of other kinds. -/
def likeKeys : Entries :=
  [(.text "zone",.null), (.term (.policy .retain),.int 5), (.bool true,.text "yes")]

/-- A key that is the same as one of each. -/
def pointKey : Entries := [(.float ⟨0x3FF0000000000000⟩,.text "1.0")]

/-- A volume on a disk, with a number for its name and an empty field in its claim. -/
def claimedDisk : Draft where
  data := {
    name := .int 7
    modes := .list [.term (.mode .readWriteOnce)]
    claim := some [(.text "uid",.text "u"), (.text "name",.text "")] }
  source := .gcePD { id := .text "d", partition := .int 0, readOnly := .int 2 }

def claimedDiskEntries : Entries :=
  [(.text "partition",.int 0), (.text "ro",.bool true), (.text "vol_type",.text "gce_pd"),
    (.text "vol_id",.text "d"), (.text "name",.int 7), (.text "modes",.text "rw-once"),
    (.text "claim",.map [(.text "uid",.text "u")])]

theorem Entries.union_mixedKeys :
    mixedKeys.IsDictionary ∧ likeKeys.IsDictionary ∧ pointKey.IsDictionary ∧
      IsUnion mixedKeys likeKeys [(.int 1,.text "yes"), (.text "retain",.int 5), (.null,.int 0),
        (.text "zone",.null)] ∧
      union (union mixedKeys likeKeys) pointKey = union mixedKeys (union likeKeys pointKey) ∧
      union mixedKeys (union likeKeys pointKey) = [(.int 1,.text "1.0"), (.text "retain",.int 5),
        (.null,.int 0), (.text "zone",.null)] ∧
      claimedDisk.entries = .ok claimedDiskEntries ∧
      claimedDisk.source.entries = .ok (claimedDiskEntries.take 4) ∧
      claimedDisk.data.entries = .ok (claimedDiskEntries.drop 4) := by
  have hmixed : mixedKeys.IsDictionary := by decide
  have hlike : likeKeys.IsDictionary := by decide
  have hpoint : pointKey.IsDictionary := by decide
  have hentries : claimedDisk.entries = .ok claimedDiskEntries := rfl
  obtain ⟨hunion,hhalves,-⟩ := union_favors_second
  obtain ⟨hsource,hdata,-⟩ := hhalves _ _ hentries
  obtain ⟨hunique,-,-,-,hassoc⟩ := hunion _ _ hmixed hlike
  exact ⟨hmixed,hlike,hpoint,(hunique _).mpr (by decide),hassoc _ hpoint,by decide +kernel,hentries,
    hsource,hdata⟩

end ShortVolume
