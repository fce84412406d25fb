import ShortVolume.Proofs.Document.Order
import ShortVolume.Proofs.Value.Keys
import ShortVolume.Proofs.Volume.Canonical
set_option autoImplicit false

/-!
What a volume is read from.

A reader of a field looks at nothing but the value under its name. So two records that share the fields
of a volume, and those of a disk if they are of one, give the same volume or the same fault, whatever
else is in them and in whatever order.
-/

namespace ShortVolume

namespace Entries

def diskNames : List String := ["fs","partition","ro"]

/-- The fields of a volume of any kind that are read as they stand. The identifier is not among them,
since it may not be without a value, nor are the claim and the status, of which only some fields are
read. -/
def plainNames : List String :=
  ["vol_type","version","cluster","name","namespace","labels","annotations","storage","modes",
    "reclaim","storage_class","mount_options"]

/-- The two records have the same value under a key, or a map each with the same values under the given
names. -/
def SharesPart (names : List String) (key : String) (es fs : Entries) : Prop :=
  es.field key = fs.field key ∨
    ∃ m n : Entries, (es.field key).entries? = some m ∧ (fs.field key).entries? = some n ∧
      ∀ name ∈ names, m.field name = n.field name

/-- The two records share what a volume is read from. A field may be absent in the one and without a
value in the other, save for the identifier. -/
structure SharesOwned (es fs : Entries) : Prop where
  identifier : es.lookup? "vol_id" = fs.lookup? "vol_id"
  plain : ∀ name ∈ plainNames, es.field name = fs.field name
  claim : SharesPart claimNames "claim" es fs
  status : SharesPart statusNames "status" es fs
  disk : es.isDisk = true → ∀ name ∈ diskNames, es.field name = fs.field name

/-! ### Readers of one field -/

section Field
variable {es fs : Entries} {key : String} (h : es.field key = fs.field key)
include h

theorem required_congr (want : Expected) : es.required want key = fs.required want key := by
  simp only [required,h]

theorem optional_congr (want : Expected) : es.optional want key = fs.optional want key := by
  simp only [optional,h]

theorem string?_congr : es.string? key = fs.string? key := by
  simp only [string?,optional_congr h]

theorem integer?_congr : es.integer? key = fs.integer? key := by
  simp only [integer?,optional_congr h]

theorem flag_congr : es.flag key = fs.flag key := by
  simp only [flag,optional_congr h]

theorem quantity?_congr : es.quantity? key = fs.quantity? key := by
  simp only [quantity?,optional_congr h]

theorem object?_congr : es.object? key = fs.object? key := by
  simp only [object?,optional_congr h]

theorem labels_congr : es.labels key = fs.labels key := by
  simp only [labels,object?_congr h]

end Field

theorem modes_congr {es fs : Entries} (h : es.field "modes" = fs.field "modes") :
    es.modes = fs.modes := by
  simp only [modes,h]

theorem reclaim_congr {es fs : Entries} (h : es.field "reclaim" = fs.field "reclaim") :
    es.reclaim = fs.reclaim := by
  simp only [reclaim,string?_congr h,h]

theorem selector_congr {es fs : Entries} (h : es.lookup? "vol_id" = fs.lookup? "vol_id") :
    es.selector = fs.selector := by
  simp only [selector,h]

/-- A part is read from its own fields only. -/
theorem part_congr {α : Type} {decode : Entries → Except Fault α} {names : List String}
    (hdecode : ∀ m n : Entries, (∀ name ∈ names, m.field name = n.field name) → decode m = decode n)
    {es fs : Entries} {key : String} (h : SharesPart names key es fs) :
    es.part decode key = fs.part decode key := by
  rcases h with hsame | ⟨m,n,hm,hn,hfields⟩
  · simp only [part,object?_congr hsame]
  · have hleft : es.object? key = .ok (some m) := object?_eq_ok_iff.mpr (.inr ⟨m,hm,rfl⟩)
    have hright : fs.object? key = .ok (some n) := object?_eq_ok_iff.mpr (.inr ⟨n,hn,rfl⟩)
    simp only [part,hleft,hright,hdecode m n hfields]

end Entries

/-! ### Parts and stores -/

theorem Claim.decode_congr (m n : Entries)
    (h : ∀ name ∈ Entries.claimNames, m.field name = n.field name) :
    Claim.decode m = Claim.decode n := by
  have hread (name : String) (hname : name ∈ Entries.claimNames) : m.string? name = n.string? name :=
    Entries.string?_congr (h name hname)
  simp only [Claim.decode,hread "kind" (by decide),hread "namespace" (by decide),
    hread "name" (by decide),hread "uid" (by decide),hread "apiVersion" (by decide),
    hread "resourceVersion" (by decide),hread "fieldPath" (by decide)]

theorem Status.decode_congr (m n : Entries)
    (h : ∀ name ∈ Entries.statusNames, m.field name = n.field name) :
    Status.decode m = Status.decode n := by
  have hread (name : String) (hname : name ∈ Entries.statusNames) : m.string? name = n.string? name :=
    Entries.string?_congr (h name hname)
  simp only [Status.decode,hread "phase" (by decide),hread "message" (by decide),
    hread "reason" (by decide)]

theorem Entries.disk_congr {es fs : Entries}
    (h : ∀ name ∈ diskNames, es.field name = fs.field name) (id : Text) :
    es.disk id = fs.disk id := by
  simp only [disk,string?_congr (h "fs" (by decide)),integer?_congr (h "partition" (by decide)),
    flag_congr (h "ro" (by decide))]

/-- Only a disk has fields besides its tag and identifier. -/
theorem Source.ofRecord_congr {kind : Kind} {es fs : Entries}
    (h : kind ≠ .hostPath → ∀ name ∈ Entries.diskNames, es.field name = fs.field name)
    (selector : List Text) : ofRecord kind selector es = ofRecord kind selector fs := by
  cases kind with
  | hostPath => rcases selector with _ | ⟨path,_ | ⟨type,_ | ⟨_,_⟩⟩⟩ <;> rfl
  | gcePD => simp only [ofRecord,Entries.disk_congr (h Kind.noConfusion)]
  | awsEBS => simp only [ofRecord,Entries.disk_congr (h Kind.noConfusion)]

theorem Entries.isDisk_of_tag {es : Entries} {kind : Kind} 
    (h : (es.field "vol_type").text? = some (kind.tag : Text))
    (hkind : kind ≠ .hostPath) : es.isDisk = true := by
  unfold isDisk
  rw [h]
  cases kind with
  | hostPath => exact absurd rfl hkind
  | gcePD => rfl
  | awsEBS => rfl

theorem Source.decode_congr {es fs : Entries}
    (h : es.isDisk = true → ∀ name ∈ Entries.diskNames, es.field name = fs.field name)
    (selector : List Text) :
    decode (es.field "vol_type") selector es = decode (es.field "vol_type") selector fs := by
  unfold decode
  split
  · split
    · next kind hkind =>
      obtain ⟨tag,htag,hknown⟩ := Option.bind_eq_some_iff.mp hkind
      obtain rfl := Kind.tag_of_ofTag? hknown
      exact ofRecord_congr (fun hne => h (Entries.isDisk_of_tag htag hne)) selector
    · rfl
  · rfl

/-! ### Volumes -/

section Shares
variable {es fs : Entries} (h : es.SharesOwned fs)
include h

theorem Meta.decode_of_sharesOwned : Meta.decode es = Meta.decode fs := by
  have hfield (name : String) (hname : name ∈ Entries.plainNames) : es.field name = fs.field name :=
    h.plain name hname
  simp only [Meta.decode,Entries.optional_congr (hfield "modes" (by decide)),
    Entries.string?_congr (hfield "version" (by decide)),
    Entries.string?_congr (hfield "cluster" (by decide)),
    Entries.string?_congr (hfield "name" (by decide)),
    Entries.string?_congr (hfield "namespace" (by decide)),
    Entries.labels_congr (hfield "labels" (by decide)),
    Entries.labels_congr (hfield "annotations" (by decide)),
    Entries.quantity?_congr (hfield "storage" (by decide)),
    Entries.modes_congr (hfield "modes" (by decide)),
    Entries.part_congr Claim.decode_congr h.claim,
    Entries.reclaim_congr (hfield "reclaim" (by decide)),
    Entries.string?_congr (hfield "storage_class" (by decide)),
    Entries.string?_congr (hfield "mount_options" (by decide)),
    Entries.part_congr Status.decode_congr h.status]

theorem Volume.ofRecord_of_sharesOwned : Volume.ofRecord es = Volume.ofRecord fs := by
  have htag := h.plain "vol_type" (by decide)
  simp only [Volume.ofRecord,Entries.selector_congr h.identifier,Meta.decode_of_sharesOwned h,
    Entries.required_congr htag]
  refine bind_congr (fun selector => ?_)
  -- The tag that was read is that of both records.
  cases hread : fs.required .string "vol_type" with
  | error f => rfl
  | ok tag =>
    obtain ⟨-,rfl⟩ := Entries.required_eq_ok_iff.mp hread
    have hsource := Source.decode_congr h.disk selector
    rw [htag] at hsource
    simp only [bind,Except.bind,hsource]

end Shares

/-! ### Other entries, and the order of all -/

theorem Value.same_of_text? {k l : Value} {s : Text} (hk : k.text? = some s)
    (hl : l.text? = some s) : k.same l = true := by
  have hplain : l.plain = .text s := (text?_eq_some_iff l s).mp hl
  cases l with
  | text t =>
    obtain rfl : t = s := by simpa [plain] using hplain
    simp [same_text,hk]
  | term t =>
    obtain rfl : t.text = s := by simpa [plain] using hplain
    cases k <;> simp [text?] at hk <;> simp [same,sameScalar,int?,text?,hk]
  | _ => simp [text?] at hl

namespace Entries

theorem lookup?_eq_of_perm {es fs : Entries} (hkeyed : es.IsKeyed) (h : es.Perm fs) (key : String) :
    es.lookup? key = fs.lookup? key := by
  have hperm := h.filter (isNamed key)
  rw [← lookup?_filter_self key es,← lookup?_filter_self key fs]
  congr 1
  -- One entry at most has the key, so there is nothing to reorder.
  rcases hnamed : es.filter (isNamed key) with _ | ⟨e,_ | ⟨f,r⟩⟩
  · rw [hnamed] at hperm
    exact hperm.nil_eq
  · rw [hnamed] at hperm
    exact (List.perm_singleton.mp hperm.symm).symm
  · have hpair := hkeyed.filter (isNamed key)
    have hname : ∀ x ∈ es.filter (isNamed key), x.1.text? = some (key : Text) :=
      fun x hx => (isNamed_iff key x).mp (List.mem_filter.mp hx).2
    rw [hnamed] at hpair hname
    have hdifferent := List.rel_of_pairwise_cons hpair List.mem_cons_self
    simp [Value.same_of_text? (hname e (by simp)) (hname f (by simp))] at hdifferent

theorem sharesOwned_of_lookup? {es fs : Entries}
    (h : ∀ name ∈ recordNames, es.lookup? name = fs.lookup? name) : es.SharesOwned fs := by
  have hfield (name : String) (hname : name ∈ recordNames) : es.field name = fs.field name := by
    rw [field,field,h name hname]
  have hplain : plainNames ⊆ recordNames := by decide
  have hdisk : diskNames ⊆ recordNames := by decide
  exact ⟨h _ (by decide),fun name hname => hfield name (hplain hname),.inl (hfield _ (by decide)),
    .inl (hfield _ (by decide)),fun _ name hname => hfield name (hdisk hname)⟩

/-- The names under which the record is read. -/
def ownedNames (es : Entries) : List String :=
  if es.isDisk then recordNames else recordNames.filter (fun name => !diskNames.contains name)

/-- The entries from which the record is read. -/
def owned (es : Entries) : Entries :=
  es.filter (fun e => es.ownedNames.any (fun name => isNamed name e))

theorem mem_ownedNames {es : Entries} {name : String} (h : name ∈ recordNames)
    (hdisk : es.isDisk = true ∨ name ∉ diskNames) : name ∈ es.ownedNames := by
  unfold ownedNames
  split
  · exact h
  · next hother => simpa [h] using hdisk.resolve_left hother

theorem lookup?_owned {es : Entries} {name : String} (h : name ∈ es.ownedNames) :
    es.owned.lookup? name = es.lookup? name :=
  lookup?_filter_all (fun _ he => List.any_eq_true.mpr ⟨name,h,he⟩)

theorem sharesOwned_owned (es : Entries) : es.SharesOwned es.owned := by
  have hfield {name : String} (h : name ∈ recordNames) (hdisk : es.isDisk = true ∨ name ∉ diskNames) :
      es.field name = es.owned.field name := by
    rw [field,field,lookup?_owned (mem_ownedNames h hdisk)]
  have hplain : ∀ name ∈ plainNames, name ∈ recordNames ∧ name ∉ diskNames := by decide
  have hnames : diskNames ⊆ recordNames := by decide
  exact ⟨(lookup?_owned (mem_ownedNames (by decide) (.inr (by decide)))).symm,
    fun name hname => hfield (hplain name hname).1 (.inr (hplain name hname).2),
    .inl (hfield (by decide) (.inr (by decide))),.inl (hfield (by decide) (.inr (by decide))),
    fun hdisk name hname => hfield (hnames hname) (.inl hdisk)⟩

end Entries

theorem Volume.ofValue_of_entries? {v : Value} {es : Entries} (h : v.entries? = some es) :
    ofValue v = ofRecord es := by
  rw [ofValue,h]

/-- Reading a map depends on what it owns. It gives the same volume or the same fault as any map that
shares its fields, as one with the same entries in another order, and as the entries that it owns alone:
foreign entries do not count, nor do the fields of a disk in a record that is of none. -/
theorem Volume.ofValue_of_sharesOwned {v w : Value} {es fs : Entries} (hv : v.entries? = some es)
    (hw : w.entries? = some fs) :
    (es.SharesOwned fs → ofValue v = ofValue w) ∧
      (es.IsKeyed → es.Perm fs → ofValue v = ofValue w) ∧ ofValue v = ofRecord es.owned := by
  rw [ofValue_of_entries? hv,ofValue_of_entries? hw]
  refine ⟨ofRecord_of_sharesOwned,fun hkeyed hperm => ?_,
    ofRecord_of_sharesOwned es.sharesOwned_owned⟩
  exact ofRecord_of_sharesOwned
    (Entries.sharesOwned_of_lookup? (fun name _ => Entries.lookup?_eq_of_perm hkeyed hperm name))

/-- A path with a foreign list, a number where a disk has a text, and a claim with a foreign field. -/
def burdenedPath : Entries :=
  [(.text "note",.list [.int 1]), (.text "vol_type",.text "hostpath"), (.text "fs",.int 3),
    (.text "claim",.map [(.text "host",.bool true), (.text "uid",.int 7)]), (.int 5,.null),
    (.text "vol_id",.text "/a"), (.text "name",.null)]

/-- The same without these. -/
def barePath : Entries :=
  [(.text "vol_id",.text "/a"), (.text "claim",.map [(.text "uid",.int 7)]),
    (.text "vol_type",.text "hostpath")]

theorem Volume.ofValue_burdenedPath :
    burdenedPath.SharesOwned barePath ∧ burdenedPath.IsKeyed ∧
      ofValue (.map burdenedPath) = ofValue (.map barePath) ∧
      ofValue (.map burdenedPath) = ofValue (.map burdenedPath.reverse) ∧
      ofValue (.map barePath) = .error (.field (.int 7) "uid" .string) := by
  have hshares : burdenedPath.SharesOwned barePath :=
    ⟨by decide +kernel,by decide +kernel,.inr ⟨_,_,rfl,rfl,by decide +kernel⟩,.inl (by decide +kernel),
      fun hdisk => absurd hdisk (by decide +kernel)⟩
  have hkeyed : burdenedPath.IsKeyed := by decide +kernel
  exact ⟨hshares,hkeyed,(ofValue_of_sharesOwned rfl rfl).1 hshares,
    (ofValue_of_sharesOwned rfl rfl).2.1 hkeyed (List.reverse_perm _).symm,rfl⟩

end ShortVolume
