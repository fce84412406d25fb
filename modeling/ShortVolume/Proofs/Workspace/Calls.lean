import ShortVolume.Proofs.Document.Rewrite
import ShortVolume.Proofs.Tree.Writing
import ShortVolume.Proofs.Workspace.Backup
set_option autoImplicit false

/-!
What a call does.

It ends without a report where the system does not look at what its path leads to. Otherwise it leaves
the file system as it is and reports no effect, or the file is to be replaced: then all that happens is
that it is replaced, and the report says what came of it.
-/

namespace ShortVolume

theorem Rejection.verdict_ne (r : Rejection) : r.verdict ≠ .preview ∧ r.verdict ≠ .replaced := by
  cases r with
  | unprintable u => cases u <;> simp [verdict]
  | _ => simp [verdict]

theorem Tree.read_eq_ok_iff (t : Tree) (p : Path) (bytes : List UInt8) :
    t.read p = .ok bytes ↔ t.get? p = some (.file bytes) := by
  unfold read
  split <;> simp_all

namespace Workspace

/-! ### The report of a file that was read -/

theorem convert_eq_ok_iff {w : Workspace} {text : String} {vs : List Volume} {canonical : Text} :
    w.convert text = .ok (vs,canonical) ↔ ∃ ds, documents text = .ok ds ∧
      vs = ds.map Document.volume ∧ w.writer.writeDocuments ds = .ok canonical := by
  constructor
  · intro h
    obtain ⟨ds,hds,hrest⟩ := Except.bind_eq_ok_iff.mp h
    obtain ⟨s,hs,hpair⟩ := Except.bind_eq_ok_iff.mp hrest
    obtain ⟨rfl,rfl⟩ := Prod.mk.inj (Except.pure_eq_ok_iff.mp hpair)
    exact ⟨ds,hds,rfl,hs⟩
  · rintro ⟨ds,hds,rfl,hs⟩
    exact Except.bind_eq_ok_iff.mpr ⟨ds,hds,Except.bind_eq_ok_iff.mpr ⟨canonical,hs,rfl⟩⟩

theorem examine_eq_ok_iff {w : Workspace} {bytes : List UInt8} {vs : List Volume} {present : String}
    {canonical : Text} :
    w.examine bytes = .ok (vs,present,canonical) ↔
      (Text.decodeFile bytes).map String.ofList = .ok present ∧ ∃ ds, documents present = .ok ds ∧
        vs = ds.map Document.volume ∧ w.writer.writeDocuments ds = .ok canonical := by
  rw [← convert_eq_ok_iff,examine]
  cases Text.decodeFile bytes with
  | error e => simp [Except.map]
  | ok cs =>
    simp only [Except.map,Except.ok.injEq]
    constructor
    · intro h
      split at h
      · cases h
      · next hconvert =>
        obtain ⟨rfl,rfl,rfl⟩ := by simpa using h
        exact ⟨rfl,hconvert⟩
    · rintro ⟨rfl,hconvert⟩
      rw [hconvert]

def acceptance (vs : List Volume) (present : String) (canonical : Text) (dryRun : Bool) (e : Effect) :
    Acceptance :=
  ⟨vs.map Volume.describe,present,if differs present canonical then some canonical else none,dryRun,
    e⟩

/-- The file is to be replaced: not in a dry run, and only volumes that are written differently. -/
def IsWanted (dryRun : Bool) (vs : List Volume) (present : String) (canonical : Text) : Prop :=
  dryRun = false ∧ differs present canonical = true ∧ vs ≠ []

section Settle
variable {dryRun : Bool} {vs : List Volume} {present : String} {canonical : Text}

theorem settle_of_wanted (w : Workspace) (t : Tree) (target : Path) (bytes : List UInt8)
    (h : IsWanted dryRun vs present canonical) :
    w.settle t target bytes dryRun vs present canonical =
      ((w.replace t target bytes canonical).1,
        (w.replace t target bytes canonical).2.map (acceptance vs present canonical dryRun)) := by
  obtain ⟨rfl,hdiffers,hvolumes⟩ := h
  have hdue : (!false && differs present canonical && !vs.isEmpty) = true := by
    simp [hdiffers,hvolumes]
  simp only [settle,if_pos hdue]
  rfl

theorem settle_of_not_wanted (w : Workspace) (t : Tree) (target : Path) (bytes : List UInt8)
    (h : ¬ IsWanted dryRun vs present canonical) :
    w.settle t target bytes dryRun vs present canonical =
      (t,.ok (acceptance vs present canonical dryRun .none)) := by
  have hdue : ¬ (!dryRun && differs present canonical && !vs.isEmpty) = true := by
    simpa [IsWanted,and_assoc] using h
  simp only [settle,if_neg hdue,acceptance]

theorem settle_dry (w : Workspace) (t : Tree) (target : Path) (bytes : List UInt8) :
    w.settle t target bytes true vs present canonical =
      (t,.ok (acceptance vs present canonical true .none)) :=
  w.settle_of_not_wanted t target bytes (fun h => Bool.false_ne_true h.1.symm)

theorem verdict_of_differs (hdiffers : differs present canonical = true) (hvolumes : vs ≠ [])
    (dryRun : Bool) (e : Effect) :
    (acceptance vs present canonical dryRun e).verdict = if dryRun then .preview else .replaced := by
  simp [acceptance,Acceptance.verdict,hdiffers,hvolumes]

theorem verdict_of_wanted (h : IsWanted dryRun vs present canonical) (e : Effect) :
    (acceptance vs present canonical dryRun e).verdict = .replaced := by
  obtain ⟨rfl,hdiffers,hvolumes⟩ := h
  exact verdict_of_differs hdiffers hvolumes false e

theorem verdict_of_same (h : ¬ (differs present canonical = true ∧ vs ≠ [])) (dryRun : Bool)
    (e : Effect) :
    (acceptance vs present canonical dryRun e).verdict = if vs = [] then .empty else .canonical := by
  by_cases hvolumes : vs = []
  · simp [acceptance,Acceptance.verdict,hvolumes]
  · have hdiffers : differs present canonical = false := by simpa [hvolumes] using h
    simp [acceptance,Acceptance.verdict,hvolumes,hdiffers]

theorem verdict_of_not_wanted (h : ¬ IsWanted dryRun vs present canonical) (e : Effect) :
    (acceptance vs present canonical dryRun e).verdict ≠ .replaced := by
  by_cases hdue : differs present canonical = true ∧ vs ≠ []
  · have hdry : dryRun = true := by
      simpa using fun hdry => h ⟨hdry,hdue⟩
    rw [verdict_of_differs hdue.1 hdue.2,if_pos hdry]
    decide
  · rw [verdict_of_same hdue]
    split <;> decide

end Settle

end Workspace

/-! ### One call -/

structure Call where
  workspace : Workspace
  tree : Tree
  path : String
  dryRun : Bool

/-- The system looks at what the path of the call leads to. -/
structure Call.LooksAt (c : Call) (target : Path) (found : Option Entry) : Prop where
  noNul : Path.holdsNul c.path = false
  resolved : c.tree.resolve c.workspace.root c.path = some target
  stat : c.tree.stat target = .ok found

/-- The call is to replace the file that its path leads to: it is no dry run, and the file holds
volumes that are written differently. -/
structure Call.Wants (c : Call) (target : Path) (bytes : List UInt8) (vs : List Volume)
    (present : String) (canonical : Text) : Prop where
  looked : ∃ e, c.LooksAt target (some e)
  file : c.tree.get? target = some (.file bytes)
  examined : c.workspace.examine bytes = .ok (vs,present,canonical)
  wanted : Workspace.IsWanted c.dryRun vs present canonical

theorem Call.Wants.resolved {c : Call} {target : Path} {bytes : List UInt8} {vs : List Volume}
    {present : String} {canonical : Text} (h : c.Wants target bytes vs present canonical) :
    c.tree.resolve c.workspace.root c.path = some target := by
  obtain ⟨_,hlooked⟩ := h.looked
  exact hlooked.resolved

/-- A call wants one file and one text at most. -/
theorem Call.Wants.unique {c : Call} {target target' : Path} {bytes bytes' : List UInt8}
    {vs vs' : List Volume} {present present' : String} {canonical canonical' : Text}
    (h : c.Wants target bytes vs present canonical)
    (h' : c.Wants target' bytes' vs' present' canonical') :
    target = target' ∧ bytes = bytes' ∧ canonical = canonical' := by
  obtain rfl : target = target' := Option.some.inj (h.resolved.symm.trans h'.resolved)
  obtain rfl : bytes = bytes' := by simpa [h.file] using h'.file
  exact ⟨rfl,rfl,(Prod.mk.inj (Prod.mk.inj (Except.ok.inj (h.examined.symm.trans h'.examined))).2).2⟩

namespace Workspace
variable {w : Workspace} {t : Tree} {path : String} {dryRun : Bool}

/-- Where the system does not look nothing is done. -/
theorem process_of_not_looked (h : ∀ target found, ¬ Call.LooksAt ⟨w,t,path,dryRun⟩ target found) :
    ∃ m, w.process t path dryRun = (t,.error m) := by
  unfold process
  split
  · exact ⟨_,rfl⟩
  · next hnul =>
    split
    · exact ⟨_,rfl⟩
    · next target hresolved =>
      cases hstat : t.stat target with
      | error e => exact ⟨_,rfl⟩
      | ok found => exact absurd ⟨by simpa using hnul,hresolved,hstat⟩ (h target found)

theorem process_of_looked {target : Path} {found : Option Entry}
    (h : Call.LooksAt ⟨w,t,path,dryRun⟩ target found) :
    w.process t path dryRun = if found = none then (t,.ok ⟨path,.rejected (.missing target)⟩)
      else ((w.processAt t target dryRun).1,
        (w.processAt t target dryRun).2.map (Report.mk path)) := by
  obtain ⟨hnul,hresolved,hstat⟩ := h
  dsimp only at hnul hresolved hstat
  cases found <;> simp [process,hnul,hresolved,hstat]

theorem processAt_of_file {target : Path} {bytes : List UInt8}
    (hfile : t.get? target = some (.file bytes)) :
    w.processAt t target dryRun =
      match w.examine bytes with
      | .error r => (t,.ok (.rejected r))
      | .ok (vs,present,canonical) =>
        ((w.settle t target bytes dryRun vs present canonical).1,
          (w.settle t target bytes dryRun vs present canonical).2.map .accepted) := by
  have hread := (t.read_eq_ok_iff target bytes).mpr hfile
  rcases hexamined : w.examine bytes with r | ⟨vs,present,canonical⟩
  · simp [processAt,hread,hexamined]
  · simp [processAt,hread,hexamined]

theorem processAt_of_not_file {target : Path}
    (h : ∀ bytes, t.get? target ≠ some (.file bytes)) :
    ∃ x, w.processAt t target dryRun = (t,.ok (.rejected x)) := by
  cases hread : t.read target with
  | error e => exact ⟨_,by simp only [processAt,hread]; rfl⟩
  | ok bytes => exact absurd ((t.read_eq_ok_iff _ _).mp hread) (h bytes)

variable (w) (dryRun)

theorem process_of_resolved {target : Path} (hnul : Path.holdsNul path = false)
    (hresolved : t.resolve w.root path = some target) (hreal : t.IsReal target)
    {bytes : List UInt8} (hfile : t.get? target = some (.file bytes)) :
    w.process t path dryRun =
      match w.examine bytes with
      | .error r => (t,.ok ⟨path,.rejected r⟩)
      | .ok (vs,present,canonical) =>
        ((w.settle t target bytes dryRun vs present canonical).1,
          (w.settle t target bytes dryRun vs present canonical).2.map
            (fun a => ⟨path,.accepted a⟩)) := by
  rw [process_of_looked ⟨hnul,hresolved,hreal.stat_of_get? hfile⟩,if_neg (by simp),
    processAt_of_file hfile]
  rcases w.examine bytes with r | ⟨vs,present,canonical⟩
  · rfl
  · dsimp only
    cases (w.settle t target bytes dryRun vs present canonical).2 <;> rfl

theorem process_of_file {p : Path} (hne : p ≠ []) (hplace : t.IsPlace (w.root ++ p))
    {bytes : List UInt8} (hfile : t.get? (w.root ++ p) = some (.file bytes)) :
    w.process t (Path.relative p) dryRun =
      match w.examine bytes with
      | .error r => (t,.ok ⟨Path.relative p,.rejected r⟩)
      | .ok (vs,present,canonical) =>
        ((w.settle t (w.root ++ p) bytes dryRun vs present canonical).1,
          (w.settle t (w.root ++ p) bytes dryRun vs present canonical).2.map
            (fun a => ⟨Path.relative p,.accepted a⟩)) := by
  have hnames : ∀ name ∈ p, IsName name :=
    fun name hname => hplace.named name (List.mem_append_right _ hname)
  exact w.process_of_resolved dryRun (Path.not_holdsNul_relative hnames)
    (Tree.resolve_relative hnames hne hplace.isReal) hplace.isReal hfile

variable {w dryRun}

theorem process_of_wants {target : Path} {bytes : List UInt8} {vs : List Volume} {present : String}
    {canonical : Text} (h : Call.Wants ⟨w,t,path,dryRun⟩ target bytes vs present canonical) :
    w.process t path dryRun = ((w.replace t target bytes canonical).1,
      (w.replace t target bytes canonical).2.map
        (fun e => ⟨path,.accepted (acceptance vs present canonical dryRun e)⟩)) := by
  obtain ⟨e,hlooked⟩ := h.looked
  rw [process_of_looked hlooked,if_neg (by simp),processAt_of_file h.file,h.examined]
  simp only [settle_of_wanted w t target bytes h.wanted]
  cases (w.replace t target bytes canonical).2 <;> rfl

/-- A call that is to replace nothing reports so. -/
theorem process_of_not_wants {target : Path} {found : Option Entry}
    (hlooked : Call.LooksAt ⟨w,t,path,dryRun⟩ target found)
    (h : ∀ target bytes vs present canonical,
      ¬ Call.Wants ⟨w,t,path,dryRun⟩ target bytes vs present canonical) :
    ∃ r, w.process t path dryRun = (t,.ok r) ∧ r.effect = .none ∧ r.verdict ≠ .replaced := by
  have hrejected (x : Rejection) (h : w.process t path dryRun = (t,.ok ⟨path,.rejected x⟩)) :
      ∃ r, w.process t path dryRun = (t,.ok r) ∧ r.effect = .none ∧ r.verdict ≠ .replaced :=
    ⟨_,h,rfl,x.verdict_ne.2⟩
  have hprocess := process_of_looked hlooked
  cases found with
  | none => exact hrejected (.missing target) hprocess
  | some e =>
    rw [if_neg (by simp)] at hprocess
    by_cases hfile : ∃ bytes, t.get? target = some (.file bytes)
    case neg =>
      obtain ⟨x,hx⟩ : ∃ x, w.processAt t target dryRun = (t,.ok (.rejected x)) :=
        processAt_of_not_file (not_exists.mp hfile)
      exact hrejected x (by rw [hprocess,hx]; rfl)
    obtain ⟨bytes,hfile⟩ := hfile
    rw [processAt_of_file hfile] at hprocess
    rcases hexamined : w.examine bytes with x | ⟨vs,present,canonical⟩
    · exact hrejected x (by rw [hprocess,hexamined]; rfl)
    · have hkept : ¬ IsWanted dryRun vs present canonical := fun hwanted =>
        h target bytes vs present canonical ⟨⟨e,hlooked⟩,hfile,hexamined,hwanted⟩
      refine ⟨⟨path,.accepted (acceptance vs present canonical dryRun .none)⟩,?_,rfl,
        verdict_of_not_wanted hkept .none⟩
      rw [hprocess,hexamined]
      simp only [settle_of_not_wanted w t target bytes hkept]
      rfl

variable (w t path dryRun)

/-- What a call does. It ends without a report where the system does not look, it reports and does
nothing else, or it replaces the file that it wants. -/
theorem process_cases :
    (∃ m, w.process t path dryRun = (t,.error m) ∧
        ∀ target found, ¬ Call.LooksAt ⟨w,t,path,dryRun⟩ target found) ∨
      (∃ r, w.process t path dryRun = (t,.ok r) ∧ r.effect = .none ∧ r.verdict ≠ .replaced ∧
        ∀ target bytes vs present canonical,
          ¬ Call.Wants ⟨w,t,path,dryRun⟩ target bytes vs present canonical) ∨
      ∃ target bytes vs present canonical,
        Call.Wants ⟨w,t,path,dryRun⟩ target bytes vs present canonical ∧
          w.process t path dryRun = ((w.replace t target bytes canonical).1,
            (w.replace t target bytes canonical).2.map
              (fun e => ⟨path,.accepted (acceptance vs present canonical dryRun e)⟩)) := by
  by_cases hlooked : ∃ target found, Call.LooksAt ⟨w,t,path,dryRun⟩ target found
  case neg =>
    obtain ⟨m,hm⟩ := process_of_not_looked (fun target found h => hlooked ⟨target,found,h⟩)
    exact .inl ⟨m,hm,fun target found h => hlooked ⟨target,found,h⟩⟩
  by_cases hwants : ∃ target bytes vs present canonical,
      Call.Wants ⟨w,t,path,dryRun⟩ target bytes vs present canonical
  · obtain ⟨target,bytes,vs,present,canonical,h⟩ := hwants
    exact .inr (.inr ⟨target,bytes,vs,present,canonical,h,process_of_wants h⟩)
  · obtain ⟨target,found,hlooked⟩ := hlooked
    simp only [not_exists] at hwants
    obtain ⟨r,hr,heffect,hverdict⟩ := process_of_not_wants hlooked hwants
    exact .inr (.inl ⟨r,hr,heffect,hverdict,hwants⟩)

variable {w t path dryRun}

/-- What a report tells of the run that it comes of. -/
theorem process_eq_ok {u : Tree} {r : Report} (h : w.process t path dryRun = (u,.ok r)) :
    (u = t ∧ r.effect = .none ∧ r.verdict ≠ .replaced) ∨
      ∃ target bytes vs present canonical e,
        Call.Wants ⟨w,t,path,dryRun⟩ target bytes vs present canonical ∧
          w.replace t target bytes canonical = (u,.ok e) ∧
          r = ⟨path,.accepted (acceptance vs present canonical dryRun e)⟩ := by
  rcases w.process_cases t path dryRun with ⟨m,hm,-⟩ | ⟨r',hr,heffect,hverdict,-⟩ |
    ⟨target,bytes,vs,present,canonical,hwants,hprocess⟩
  · simp [hm] at h
  · obtain ⟨rfl,hsame⟩ := Prod.mk.inj (hr.symm.trans h)
    cases hsame
    exact .inl ⟨rfl,heffect,hverdict⟩
  · obtain ⟨htree,hreport⟩ := Prod.mk.inj (hprocess.symm.trans h)
    obtain ⟨e,he,rfl⟩ := Except.map_eq_ok_iff.mp hreport
    exact .inr ⟨target,bytes,vs,present,canonical,e,hwants,Prod.ext htree he,rfl⟩

end Workspace

/-! ### Texts without bytes -/

/-- YAML has escapes for halves of pairs, so what it leaves is whole. -/
theorem Writer.isWhole_of_yaml {w : Writer} (hw : w.format = .yaml) {ds : List Document} {s : Text}
    (h : w.writeDocuments ds = .ok s) : s.isWhole = true := by
  obtain ⟨vs,-,hwrite⟩ := Except.bind_eq_ok_iff.mp h
  obtain ⟨texts,htexts,hs⟩ := Except.bind_eq_ok_iff.mp hwrite
  obtain ⟨ordered,-,hones⟩ := Except.bind_eq_ok_iff.mp htexts
  have hone : ∀ t ∈ texts, t.isWhole = true := by
    replace hones := Except.mapM_eq_ok_iff.mp hones
    clear htexts hs
    induction hones with
    | nil => simp
    | cons hv _ ih =>
      refine List.forall_mem_cons.mpr ⟨?_,ih⟩
      rw [hw,Format.one] at hv
      split at hv
      · split at hv
        · cases hv
          exact Text.isWhole_ofString _
        · cases hv
      · cases hv
  rw [← Except.pure_eq_ok_iff.mp hs,hw]
  refine Text.isWhole_intercalate (Text.isWhole_ofString _) (fun t ht => ?_)
  split at ht
  · obtain ⟨_,-,rfl⟩ := List.mem_map.mp ht
    exact Text.isWhole_ofString _
  · exact hone t ht

theorem Workspace.format_of_unencodable {w : Workspace} {bytes : List UInt8} {vs : List Volume}
    {present : String} {canonical : Text} (h : w.examine bytes = .ok (vs,present,canonical))
    (hnone : Text.Utf8.bytes? canonical = none) : w.writer.format = .json := by
  cases hw : w.writer.format with
  | json => rfl
  | yaml =>
    obtain ⟨-,_,-,-,hwritten⟩ := examine_eq_ok_iff.mp h
    have hwhole := Writer.isWhole_of_yaml hw hwritten
    simp [Text.Utf8.not_isWhole_of_bytes? hnone] at hwhole

/-- A temporary file can be made for a file. -/
def Tree.TakesTemporary (t : Tree) (target : Path) : Prop :=
  t.isLocked target.parent = false ∧ ∃ u, t.write (temporaryPlace target) [] = .ok u

/-- The call is to replace the file at a path by a text that has no bytes, and a temporary file can be
made for it. -/
def Call.IsUnencodable (c : Call) (target : Path) : Prop :=
  ∃ bytes vs present canonical, c.Wants target bytes vs present canonical ∧
    c.tree.TakesTemporary target ∧ Text.Utf8.bytes? canonical = none

end ShortVolume
