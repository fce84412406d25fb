import ShortVolume.Proofs.Workspace.Announcement
set_option autoImplicit false

/-!
A dry run says what the run does.

In a file system without links and without temporary files both runs of a scan report the same of each
file, if there is room for the backups, though a file in a locked directory cannot be written. The run
reads a file after it has replaced others, but those are not the file, and the backups that they leave
are none of the files to come. Each leaves one backup at most, so a directory never takes more places
than it had entries. Only a text that has no bytes keeps the run from its reports.
-/

namespace ShortVolume

/-! ### Room for the backups of many files -/

/-- How many entries the directory of a path has. -/
def Tree.crowd (t : Tree) (p : Path) : Nat :=
  ((t.entries.map Prod.fst).filter (fun q => q.parent == p.parent)).length

namespace Workspace

/-- The names of as many backups as a directory has entries are not too long, for any file in it with
the extension. -/
def HasRoomFor (w : Workspace) (t : Tree) (extension : String) : Prop :=
  ∀ p, w.Matches t extension p → ∀ k < t.crowd (w.root ++ p),
    isTooLong (backupName p.name k) = false

/-- What a run has come to after some files: only those have changed, and what is new lies beside one
of them, and beside each of them at most one. -/
structure Progress (root : Path) (t u : Tree) (done : List Path) : Prop where
  clean : u.IsClean
  locked : u.locked = t.locked
  kept : ∀ q e, t.get? q = some e → (∀ p ∈ done, q ≠ root ++ p) → u.get? q = some e
  owner : ∃ owner : Path → Path,
    (∀ q e, u.get? q = some e → t.get? q = none →
      owner q ∈ done ∧ (root ++ owner q).parent = q.parent) ∧
    ∀ q r e f, u.get? q = some e → t.get? q = none → u.get? r = some f → t.get? r = none →
      owner q = owner r → q = r

theorem Progress.refl (root : Path) {t : Tree} (ht : t.IsClean) : Progress root t t [] where
  clean := ht
  locked := rfl
  kept := fun _ _ h _ => h
  owner := ⟨id,fun q e h hnone => by simp [hnone] at h,fun q _ e _ h hnone => by simp [hnone] at h⟩

theorem isSuffix_backupPlace (target : Path) (k : Nat) :
    backupSuffix.toList <:+ (backupPlace target k).name.toList := by
  rw [backupPlace,Path.name_beside,backupName,String.toList_append]
  exact List.suffix_append _ _

/-- A file that a scan processes is no place for a backup. -/
theorem Matches.ne_backupPlace {w : Workspace} {t : Tree} {extension : String} {p : Path}
    (h : w.Matches t extension p) (target : Path) (k : Nat) :
    w.root ++ p ≠ backupPlace target k := by
  intro heq
  have hsuffix := isSuffix_backupPlace target k
  rw [← heq,Path.name_append _ h.ne_nil] at hsuffix
  exact h.noBackup hsuffix

theorem mem_crowd {t : Tree} {p q : Path} {e : Entry} (hq : q ≠ []) (h : t.get? q = some e)
    (hparent : q.parent = p.parent) :
    q ∈ (t.entries.map Prod.fst).filter (fun q => q.parent == p.parent) := by
  refine List.mem_filter.mpr ⟨?_,by simp [hparent]⟩
  exact List.mem_map.mpr ⟨_,Tree.mem_entries_of_get? hq h,rfl⟩

/-- Different members of a list, and one more, are fewer than the list is long. -/
theorem lt_length_of_distinct {α : Type} {l : List α} {x : α} {f : Nat → α} {k : Nat} (hx : x ∈ l)
    (hmem : ∀ j < k, f j ∈ l) (hne : ∀ j < k, f j ≠ x)
    (hinj : ∀ i < k, ∀ j < k, f i = f j → i = j) : k < l.length := by
  have hnodup : (x :: (List.range k).map f).Nodup := by
    refine List.nodup_cons.mpr ⟨?_,?_⟩
    · intro hsource
      obtain ⟨j,hj,heq⟩ := List.mem_map.mp hsource
      exact hne j (List.mem_range.mp hj) heq
    · refine List.nodup_range.map_on (fun i hi j hj heq => ?_)
      exact hinj i (List.mem_range.mp hi) j (List.mem_range.mp hj) heq
  have hsubset : (x :: (List.range k).map f) ⊆ l := by
    intro y hy
    rcases List.mem_cons.mp hy with rfl | hsource
    · exact hx
    · obtain ⟨j,hj,rfl⟩ := List.mem_map.mp hsource
      exact hmem j (List.mem_range.mp hj)
  have hlength := (List.subperm_of_subset hnodup hsubset).length_le
  rwa [List.length_cons,List.length_map,List.length_range] at hlength

section Owner
variable {w : Workspace} {t u : Tree} {done : List Path} {owner : Path → Path}

/-- The entry that keeps a place taken: what was there at first, or else the file to which the backup
there belongs. -/
def occupant (w : Workspace) (t : Tree) (owner : Path → Path) (q : Path) : Path :=
  if (t.get? q).isSome then q else w.root ++ owner q

theorem occupant_old {q : Path} {e : Entry} (h : t.get? q = some e) : w.occupant t owner q = q :=
  if_pos (by simp [h])

theorem occupant_new {q : Path} (h : t.get? q = none) :
    w.occupant t owner q = w.root ++ owner q :=
  if_neg (by simp [h])

variable {extension : String} (hdone : ∀ q ∈ done, w.Matches t extension q)
  (howner : ∀ q e, u.get? q = some e → t.get? q = none →
    owner q ∈ done ∧ (w.root ++ owner q).parent = q.parent)
include hdone howner

theorem occupant_mem_crowd {target : Path} {k : Nat} {e : Entry}
    (he : u.get? (backupPlace target k) = some e) :
    w.occupant t owner (backupPlace target k) ∈
      (t.entries.map Prod.fst).filter (fun q => q.parent == target.parent) := by
  have hbeside : (backupPlace target k).parent = target.parent := Path.parent_beside _ _
  cases hold : t.get? (backupPlace target k) with
  | some f =>
    rw [occupant_old hold]
    exact mem_crowd (Path.beside_ne_nil _ _) hold hbeside
  | none =>
    obtain ⟨hq,hparent⟩ := howner _ e he hold
    obtain ⟨old,hfile⟩ := (hdone _ hq).file
    rw [occupant_new hold]
    exact mem_crowd (Tree.ne_nil_of_file hfile) hfile (hparent.trans hbeside)

omit hdone in
theorem occupant_ne {p : Path} (hp : w.Matches t extension p) (hnotmem : p ∉ done) {k : Nat}
    {e : Entry} (he : u.get? (backupPlace (w.root ++ p) k) = some e) :
    w.occupant t owner (backupPlace (w.root ++ p) k) ≠ w.root ++ p := by
  intro heq
  cases hold : t.get? (backupPlace (w.root ++ p) k) with
  | some f =>
    rw [occupant_old hold] at heq
    exact hp.ne_backupPlace _ k heq.symm
  | none =>
    rw [occupant_new hold] at heq
    exact hnotmem (List.append_cancel_left heq ▸ (howner _ e he hold).1)

/-- The files to which backups belong are no backups themselves. -/
theorem occupant_inj
    (hinjective : ∀ q r e f, u.get? q = some e → t.get? q = none → u.get? r = some f →
      t.get? r = none → owner q = owner r → q = r)
    {target : Path} {i j : Nat} {e f : Entry} (he : u.get? (backupPlace target i) = some e)
    (hf : u.get? (backupPlace target j) = some f)
    (heq : w.occupant t owner (backupPlace target i) = w.occupant t owner (backupPlace target j)) :
    i = j := by
  cases hi : t.get? (backupPlace target i) with
  | some e' =>
    cases hj : t.get? (backupPlace target j) with
    | some f' =>
      rw [occupant_old hi,occupant_old hj] at heq
      exact backupName_inj (Path.beside_inj heq)
    | none =>
      rw [occupant_old hi,occupant_new hj] at heq
      exact absurd heq.symm ((hdone _ (howner _ f hf hj).1).ne_backupPlace target i)
  | none =>
    cases hj : t.get? (backupPlace target j) with
    | some f' =>
      rw [occupant_new hi,occupant_old hj] at heq
      exact absurd heq ((hdone _ (howner _ e he hi).1).ne_backupPlace target j)
    | none =>
      rw [occupant_new hi,occupant_new hj] at heq
      have hsame := hinjective _ _ e f he hi hf hj (List.append_cancel_left heq)
      exact backupName_inj (Path.beside_inj hsame)

end Owner

section Progress
variable {w : Workspace} {t u : Tree} {done : List Path} (h : Progress w.root t u done)
include h

/-- The places that are taken beside a file to come are fewer than the entries there at first. -/
theorem Progress.lt_crowd {extension : String} (hdone : ∀ q ∈ done, w.Matches t extension q)
    {p : Path} (hp : w.Matches t extension p) (hnotmem : p ∉ done) {k : Nat}
    (htaken : ∀ j < k, ∃ e, u.get? (backupPlace (w.root ++ p) j) = some e) :
    k < t.crowd (w.root ++ p) := by
  obtain ⟨owner,howner,hinjective⟩ := h.owner
  obtain ⟨bytes,hfile⟩ := hp.file
  refine lt_length_of_distinct (mem_crowd (Tree.ne_nil_of_file hfile) hfile rfl)
    (f := fun j => w.occupant t owner (backupPlace (w.root ++ p) j)) ?_ ?_ ?_
  · intro j hj
    obtain ⟨e,he⟩ := htaken j hj
    exact occupant_mem_crowd hdone howner he
  · intro j hj
    obtain ⟨e,he⟩ := htaken j hj
    exact occupant_ne howner hp hnotmem he
  · intro i hi j hj heq
    obtain ⟨e,he⟩ := htaken i hi
    obtain ⟨f,hf⟩ := htaken j hj
    exact occupant_inj hdone howner hinjective he hf heq

theorem Progress.hasRoom {extension : String} (hroom : w.HasRoomFor t extension)
    (hdone : ∀ q ∈ done, w.Matches t extension q) {p : Path} (hp : w.Matches t extension p)
    (hnotmem : p ∉ done) (hfile : ∃ bytes, u.get? (w.root ++ p) = some (.file bytes)) :
    HasRoom u (w.root ++ p) := by
  intro k hk
  obtain ⟨bytes,hfile⟩ := hfile
  have hdirect := h.clean.direct _ _ hfile
  have hlt := h.lt_crowd hdone hp hnotmem (k := k) (fun j hj => by
    obtain ⟨e,he⟩ := hk j hj
    exact ⟨e,Tree.get?_of_stat h.clean.toIsPlain (backupPlace_direct hdirect j) he⟩)
  rw [Path.name_append _ hp.ne_nil]
  exact hroom p hp k hlt

end Progress

/-! ### Many files -/

section Replaces
variable {root : Path} {t u v : Tree} {p b : Path} {bytes now : List UInt8} {text : Text} {r : Report}

theorem Replaces.get? (h : Replaces root u v p b bytes now text r) (q : Path) :
    v.get? q = if q = root ++ p then some (.file now)
      else if q = root ++ b then some (.file bytes) else u.get? q := by
  rw [h.update q,Tree.get?_put _ _ h.spare.ne_nil]

theorem Replaces.isClean (h : Replaces root u v p b bytes now text r)
    (hfile : u.get? (root ++ p) = some (.file bytes)) : v.IsClean := by
  have hkept := Tree.get?_put_of_free h.spare.free hfile (.file bytes)
  exact h.clean.update h.update (h.clean.direct _ _ hkept) (h.clean.parent _ _ hkept)
    (by simp [hkept]) (h.clean.noTemporary _ _ hkept)

theorem Replaces.absent (h : Replaces root u v p b bytes now text r) {q : Path}
    (hq : v.get? q = none) : u.get? q = none := by
  rw [h.get?] at hq
  split at hq
  · contradiction
  · split at hq
    · contradiction
    · exact hq

variable {done : List Path}

theorem Progress.append (h : Progress root t u done) (p : Path) :
    Progress root t u (done ++ [p]) where
  clean := h.clean
  locked := h.locked
  kept := fun q e hq hne => h.kept q e hq (fun p hp => hne p (List.mem_append_left _ hp))
  owner := by
    obtain ⟨owner,howner,hinjective⟩ := h.owner
    refine ⟨owner,fun q e hq hnone => ?_,hinjective⟩
    obtain ⟨hmem,hparent⟩ := howner q e hq hnone
    exact ⟨List.mem_append_left _ hmem,hparent⟩

theorem Progress.replace (h : Progress root t u done) (hnotmem : p ∉ done)
    (hfile : t.get? (root ++ p) = some (.file bytes))
    (hfile' : u.get? (root ++ p) = some (.file bytes)) (hr : Replaces root u v p b bytes now text r) :
    Progress root t v (done ++ [p]) where
  clean := hr.isClean hfile'
  locked := hr.locked.trans h.locked
  kept := by
    intro q e hq hne
    have hsame := h.kept q e hq (fun p' hp' => hne p' (List.mem_append_left _ hp'))
    have hplace : q ≠ root ++ b := by
      rintro rfl
      simp [hr.spare.free] at hsame
    rw [hr.get?,if_neg (hne p (List.mem_append_right _ List.mem_cons_self)),if_neg hplace]
    exact hsame
  owner := by
    obtain ⟨owner,howner,hinjective⟩ := h.owner
    have hother : ∀ q e, v.get? q = some e → t.get? q = none → q ≠ root ++ b →
        u.get? q = some e := by
      intro q e hq hnone hne
      rw [hr.get?,if_neg (by rintro rfl; simp [hfile] at hnone),if_neg hne] at hq
      exact hq
    obtain ⟨k,hk⟩ := hr.spare.number
    -- The backup belongs to the file, and nothing else does.
    refine ⟨fun q => if q = root ++ b then p else owner q,fun q e hq hnone => ?_,
      fun q s e f hq hqnone hs hsnone heq => ?_⟩
    · by_cases hb : q = root ++ b
      · simp only [if_pos hb]
        refine ⟨List.mem_append_right _ List.mem_cons_self,?_⟩
        rw [hb,hk,backupPlace,Path.parent_beside]
      · obtain ⟨hmem,hparent⟩ := howner q e (hother q e hq hnone hb) hnone
        simp only [if_neg hb]
        exact ⟨List.mem_append_left _ hmem,hparent⟩
    · have hmine : ∀ q e, v.get? q = some e → t.get? q = none → q ≠ root ++ b → owner q ≠ p := by
        rintro q e hq hnone hne rfl
        exact hnotmem (howner q e (hother q e hq hnone hne) hnone).1
      simp only at heq
      split at heq
      · next hqb =>
        split at heq
        · next hsb => rw [hqb,hsb]
        · next hsb => exact absurd heq.symm (hmine s f hs hsnone hsb)
      · next hqb =>
        split at heq
        · exact absurd heq (hmine q e hq hqnone hqb)
        · next hsb =>
          exact hinjective q s e f (hother q e hq hqnone hqb) hqnone (hother s f hs hsnone hsb)
            hsnone heq

end Replaces

/-- What a run from `u` to `v` has made of a file, as its report says: nothing, or its canonical text,
and a backup of it where nothing was. -/
def Settled (root : Path) (t u v : Tree) (p : Path) (r : Report) : Prop :=
  r.path = Path.relative p ∧
    ((Leaves root t p r ∧ v.get? (root ++ p) = t.get? (root ++ p)) ∨
      ∃ bytes now text b, r.verdict = .replaced ∧ r.canonical? = some text ∧
        Text.Utf8.bytes? text = some now ∧ r.effect = ⟨true,some (Path.relative b),none,none⟩ ∧
        b ≠ [] ∧ (∀ name ∈ b, IsName name) ∧ t.get? (root ++ p) = some (.file bytes) ∧
        v.get? (root ++ p) = some (.file now) ∧ u.get? (root ++ b) = none ∧
        v.get? (root ++ b) = some (.file bytes))

/-- Where the file of a report is. -/
def placeOf (root : Path) (r : Report) : Path := root ++ Path.names r.path

/-- The reports of a run agree with those of its dry run. -/
def Agree (root : Path) (t : Tree) : List Report → List Report → Prop :=
  List.Forall₂ (fun real preview =>
    real.Fulfils (t.isLocked (placeOf root real).parent) preview)

/-- The run from `u` to `v` does to the files what the previews say. -/
structure Fulfilled (root : Path) (t u v : Tree) (ps : List Path) (reals previews : List Report) :
    Prop where
  agree : Agree root t reals previews
  kept : ∀ q e, u.get? q = some e → (∀ p ∈ ps, q ≠ root ++ p) → v.get? q = some e
  reported : ∀ r ∈ reals, ∃ p ∈ ps, Settled root t u v p r
  settled : ∀ p ∈ ps, ∃ r ∈ reals, Settled root t u v p r
  backups : (reals.filterMap (fun r => r.effect.backup)).Nodup

theorem Fulfilled.nil (root : Path) (t u : Tree) : Fulfilled root t u u [] [] [] where
  agree := .nil
  kept := fun _ _ h _ => h
  reported := by simp
  settled := by simp
  backups := by simp

section Cons
variable {root : Path} {t u u' v : Tree} {p : Path} {ps : List Path} {real preview : Report}
  {reals previews : List Report} {bytes : List UInt8}

theorem Settled.of_absent {r : Report} (h : Settled root t u' v p r)
    (habsent : ∀ q, u'.get? q = none → u.get? q = none) : Settled root t u v p r := by
  obtain ⟨hpath,hsame | ⟨bytes,now,text,b,hverdict,hcanonical,hnow,heffect,hb,hnamed,hold,hnew,hfree,
    hbackup⟩⟩ := h
  · exact ⟨hpath,.inl hsame⟩
  · exact ⟨hpath,.inr ⟨bytes,now,text,b,hverdict,hcanonical,hnow,heffect,hb,hnamed,hold,hnew,
      habsent _ hfree,hbackup⟩⟩

theorem Fulfilled.cons (h : Fulfilled root t u' v ps reals previews)
    (hagree : real.Fulfils (t.isLocked (placeOf root real).parent) preview)
    (hhead : Settled root t u v p real) (habsent : ∀ q, u'.get? q = none → u.get? q = none)
    (hkept : ∀ q e, u.get? q = some e → q ≠ root ++ p → u'.get? q = some e)
    (hbackup : ∀ name, real.effect.backup = some name →
      name ∉ reals.filterMap (fun r => r.effect.backup)) :
    Fulfilled root t u v (p :: ps) (real :: reals) (preview :: previews) where
  agree := .cons hagree h.agree
  kept := by
    intro q e hq hne
    obtain ⟨hp,hps⟩ := List.forall_mem_cons.mp hne
    exact h.kept q e (hkept q e hq hp) hps
  reported := by
    intro r hr
    rcases List.mem_cons.mp hr with rfl | hr
    · exact ⟨p,List.mem_cons_self,hhead⟩
    · obtain ⟨p',hp',hsettled⟩ := h.reported r hr
      exact ⟨p',List.mem_cons_of_mem p hp',hsettled.of_absent habsent⟩
  settled := by
    intro p' hp'
    rcases List.mem_cons.mp hp' with rfl | hp'
    · exact ⟨real,List.mem_cons_self,hhead⟩
    · obtain ⟨r,hr,hsettled⟩ := h.settled p' hp'
      exact ⟨r,List.mem_cons_of_mem real hr,hsettled.of_absent habsent⟩
  backups := by
    cases hname : real.effect.backup with
    | none =>
      simp only [List.filterMap_cons,hname]
      exact h.backups
    | some name =>
      simp only [List.filterMap_cons,hname]
      exact List.nodup_cons.mpr ⟨hbackup name hname,h.backups⟩

/-- No later file has a backup at a path with an entry. -/
theorem Fulfilled.not_mem_backups (h : Fulfilled root t u' v ps reals previews) {b : Path}
    (hb : b ≠ []) (hnamed : ∀ name ∈ b, IsName name) {e : Entry}
    (he : u'.get? (root ++ b) = some e) :
    Path.relative b ∉ reals.filterMap (fun r => r.effect.backup) := by
  intro hmem
  obtain ⟨r,hr,hname⟩ := List.mem_filterMap.mp hmem
  obtain ⟨p,-,-,⟨hleft,-⟩ | ⟨_,_,_,b',-,-,-,heffect,hb',hnamed',-,-,hfree,-⟩⟩ := h.reported r hr
  · rw [hleft.backup] at hname
    contradiction
  · rw [heffect] at hname
    have hsame := Path.relative_inj hb' hb (fun name hname => (hnamed' name hname).noSlash)
      (fun name hname => (hnamed name hname).noSlash) (Option.some.inj hname)
    rw [hsame,he] at hfree
    contradiction

/-- A file that is left as it is comes before the others. -/
theorem Fulfilled.cons_kept (h : Fulfilled root t u v ps reals previews)
    (hagree : real.Fulfils (t.isLocked (placeOf root real).parent) preview)
    (hpath : real.path = Path.relative p) (hleft : Leaves root t p real) {e : Entry}
    (hold : t.get? (root ++ p) = some e) (hnow : u.get? (root ++ p) = some e) (hnotlater : p ∉ ps) :
    Fulfilled root t u v (p :: ps) (real :: reals) (preview :: previews) := by
  have hlater : v.get? (root ++ p) = some e := h.kept _ _ hnow (fun p' hp' heq =>
    hnotlater (List.append_cancel_left heq ▸ hp'))
  refine h.cons hagree ⟨hpath,.inl ⟨hleft,by rw [hlater,hold]⟩⟩ (fun _ => id)
    (fun _ _ hq _ => hq) (fun name hname => ?_)
  rw [hleft.backup] at hname
  contradiction

/-- A file that is replaced comes before the others, none of which lies at the place of its backup. -/
theorem Fulfilled.cons_replaced {b : Path} {bytes now : List UInt8} {text : Text}
    (h : Fulfilled root t u' v ps reals previews)
    (hagree : real.Fulfils (t.isLocked (placeOf root real).parent) preview)
    (hpath : real.path = Path.relative p) (hr : Replaces root u u' p b bytes now text real)
    (hold : t.get? (root ++ p) = some (.file bytes)) (hnow : u.get? (root ++ p) = some (.file bytes))
    (hnotlater : p ∉ ps) (hapart : ∀ p' ∈ ps, ∀ k, root ++ p' ≠ backupPlace (root ++ p) k) :
    Fulfilled root t u v (p :: ps) (real :: reals) (preview :: previews) := by
  have hplaced : u'.get? (root ++ b) = some (.file bytes) := by
    rw [hr.get?,if_neg,if_pos rfl]
    intro heq
    rw [← heq] at hnow
    simp [hr.spare.free] at hnow
  have hkept : ∀ q e, u.get? q = some e → q ≠ root ++ p → u'.get? q = some e := by
    intro q e hq hne
    rw [hr.get?,if_neg hne,if_neg]
    · exact hq
    · rintro rfl
      simp [hr.spare.free] at hq
  have hwritten : v.get? (root ++ p) = some (.file now) :=
    h.kept _ _ (by rw [hr.get?,if_pos rfl]) (fun p' hp' heq =>
      hnotlater (List.append_cancel_left heq ▸ hp'))
  have hbackup : v.get? (root ++ b) = some (.file bytes) := h.kept _ _ hplaced (fun p' hp' heq => by
    obtain ⟨k,hk⟩ := hr.spare.number
    exact hapart p' hp' k (heq ▸ hk))
  refine h.cons hagree ⟨hpath,.inr ⟨bytes,now,text,b,hr.verdict,hr.canonical,hr.encoded,hr.effect,
    hr.ne_nil,hr.named,hold,hwritten,hr.spare.free,hbackup⟩⟩ (fun _ => hr.absent) hkept
    (fun name hname => ?_)
  rw [hr.effect] at hname
  cases hname
  exact h.not_mem_backups hr.ne_nil hr.named hplaced

end Cons

theorem processAll_cons {x : Workspace} {t u v : Tree} {dryRun : Bool} {p : Path} {ps : List Path}
    {r : Report} {rs : List Report} (h : x.process t (Path.relative p) dryRun = (u,.ok r))
    (hrest : (processAll dryRun (x.after r) u ps).2 = (v,.ok rs)) :
    (processAll dryRun x t (p :: ps)).2 = (v,.ok (r :: rs)) := by
  rw [processAll,h]
  simp only [hrest,Except.map]

theorem processAll_of_error {x : Workspace} {t : Tree} {dryRun : Bool} {p : Path} {ps : List Path}
    {m : Mishap} (h : (x.process t (Path.relative p) dryRun).2 = .error m) :
    (processAll dryRun x t (p :: ps)).2.2 = .error m := by
  rw [processAll]
  rcases hprocess : x.process t (Path.relative p) dryRun with ⟨u,m' | r⟩
  · rw [hprocess] at h
    cases h
    rfl
  · rw [hprocess] at h
    cases h

theorem processAll_cons_error {x : Workspace} {t u : Tree} {dryRun : Bool} {p : Path}
    {ps : List Path} {r : Report} {m : Mishap}
    (h : x.process t (Path.relative p) dryRun = (u,.ok r))
    (hrest : (processAll dryRun (x.after r) u ps).2.2 = .error m) :
    (processAll dryRun x t (p :: ps)).2.2 = .error m := by
  rw [processAll,h]
  simp only [hrest,Except.map]

/-- Whether all texts can be written that a scan announces. -/
def AreWritable (root : Path) (t : Tree) (previews : List Report) : Prop :=
  ∀ r ∈ previews, r.IsWritable t (placeOf root r)

/-- Each file that both runs come to has reports that agree, whatever was replaced before it, until a
text comes that has no bytes. -/
theorem processAll_fulfils (w : Workspace) {t : Tree} (ht : t.IsSound) {extension : String}
    (hroom : w.HasRoomFor t extension) {x : Workspace} (hx : x.root = w.root) {u : Tree}
    {done ps : List Path} (hprogress : Progress w.root t u done) (hnodup : (done ++ ps).Nodup)
    (hmatches : ∀ p ∈ done ++ ps, w.Matches t extension p) :
    ∃ previews, (processAll true x t ps).2 = (t,.ok previews) ∧
      ((AreWritable w.root t previews ∧ ∃ reals v,
          (processAll false x u ps).2 = (v,.ok reals) ∧ Fulfilled w.root t u v ps reals previews) ∨
        ¬ AreWritable w.root t previews ∧ x.writer.format = .json ∧
          (processAll false x u ps).2.2 = .error .unencodable) := by
  induction ps generalizing x u done with
  | nil => exact ⟨[],rfl,.inl ⟨fun r hr => absurd hr List.not_mem_nil,[],u,rfl,.nil _ _ _⟩⟩
  | cons p ps ih =>
    have hp := hmatches p (List.mem_append_right _ List.mem_cons_self)
    obtain ⟨bytes,hfile⟩ := hp.file
    have hdone : ∀ q ∈ done, w.Matches t extension q :=
      fun q hq => hmatches q (List.mem_append_left _ hq)
    have hnotmem : p ∉ done := fun hmem =>
      (List.nodup_append.mp hnodup).2.2 p hmem p List.mem_cons_self rfl
    have hnotlater : p ∉ ps := (List.nodup_cons.mp (List.nodup_append.mp hnodup).2.1).1
    -- The files to come hold what they held at first.
    have huntouched : ∀ q, q ∉ done → ∀ e, t.get? (w.root ++ q) = some e →
        u.get? (w.root ++ q) = some e := by
      intro q hq e he
      exact hprogress.kept _ e he (fun p' hp' heq => hq (List.append_cancel_left heq ▸ hp'))
    have hfile' := huntouched p hnotmem _ hfile
    have hplace : t.IsPlace (x.root ++ p) := hx ▸ ht.isPlace hfile rfl
    have hspace : HasRoom u (x.root ++ p) :=
      hx ▸ hprogress.hasRoom hroom hdone hp hnotmem ⟨bytes,hfile'⟩
    have hnames : Path.names (Path.relative p) = p :=
      Path.names_relative hp.ne_nil (fun name hname =>
        (ht.named _ _ hfile name (List.mem_append_right _ hname)).noSlash)
    have hplaceOf {r : Report} (hpath : r.path = Path.relative p) :
        placeOf w.root r = w.root ++ p := by
      rw [placeOf,hpath,hnames]
    obtain ⟨preview,hpreview,hcases⟩ := x.process_fulfils hp.ne_nil hplace hprogress.clean
      hprogress.locked (hx ▸ hfile) (hx ▸ hfile') hspace
    have hpreviewed := hplaceOf (path_of_process (congrArg Prod.snd hpreview))
    rw [hx] at hcases
    rcases hcases with ⟨hwritable,real,u',hreal,hagree,hafter,hcases⟩ | ⟨hunwritable,hjson,hreal⟩
    · have hpath : real.path = Path.relative p := path_of_process (congrArg Prod.snd hreal)
      rw [← hplaceOf hpath] at hagree
      rw [← hpreviewed] at hwritable
      have hothers (hstep : Progress w.root t u' (done ++ [p])) :=
        ih (x := x.after real) ((root_after x real).trans hx) hstep (by simpa using hnodup)
          (by simpa using hmatches)
      rcases hcases with ⟨hleft,rfl⟩ | ⟨b,now,text,hr⟩
      · obtain ⟨previews,hpreviews,hrest⟩ := hothers (hprogress.append p)
        refine ⟨_,processAll_cons hpreview (hafter ▸ hpreviews),?_⟩
        rw [AreWritable,List.forall_mem_cons]
        rcases hrest with ⟨hall,reals,v,hreals,hrest⟩ | ⟨hsome,hjson,hbroken⟩
        · exact .inl ⟨⟨hwritable,hall⟩,_,v,processAll_cons hreal hreals,
            hrest.cons_kept hagree hpath hleft hfile hfile' hnotlater⟩
        · exact .inr ⟨fun h => hsome h.2,(format_after x real).symm.trans hjson,
            processAll_cons_error hreal hbroken⟩
      · have hstep := hprogress.replace hnotmem hfile hfile' hr
        obtain ⟨previews,hpreviews,hrest⟩ := hothers hstep
        have hapart : ∀ p' ∈ ps, ∀ k, w.root ++ p' ≠ backupPlace (w.root ++ p) k := fun p' hp' k =>
          (hmatches p' (List.mem_append_right _ (List.mem_cons_of_mem p hp'))).ne_backupPlace _ k
        refine ⟨_,processAll_cons hpreview (hafter ▸ hpreviews),?_⟩
        rw [AreWritable,List.forall_mem_cons]
        rcases hrest with ⟨hall,reals,v,hreals,hrest⟩ | ⟨hsome,hjson,hbroken⟩
        · exact .inl ⟨⟨hwritable,hall⟩,_,v,processAll_cons hreal hreals,
            hrest.cons_replaced hagree hpath hr hfile hfile' hnotlater hapart⟩
        · exact .inr ⟨fun h => hsome h.2,(format_after x real).symm.trans hjson,
            processAll_cons_error hreal hbroken⟩
    · obtain ⟨previews,hpreviews,-⟩ := ih (x := x.after preview) ((root_after x preview).trans hx)
        (hprogress.append p) (by simpa using hnodup) (by simpa using hmatches)
      refine ⟨_,processAll_cons hpreview hpreviews,.inr ⟨fun h => ?_,hjson,
        processAll_of_error hreal⟩⟩
      have hhead := h preview List.mem_cons_self
      rw [hpreviewed] at hhead
      exact hunwritable hhead

/-- A scan does what its dry run says, if all texts have bytes that the dry run announces for
directories that are not locked, as texts in YAML have; otherwise it ends without reports. In a file
system without links and without temporary files, with room for the backups, both report each matching
file once and agree on it, but that the one announces what the other one does, and that nothing can be
written to locked directories. Each file that is reported as written then holds the canonical text that
was announced, and its former bytes are in a backup of its own, where nothing was. All other files are as
they were. -/
theorem scan_fulfils_preview (w : Workspace) {t : Tree} (hclean : t.IsClean) (hsound : t.IsSound)
    {extension : String} (hext : Glob.IsLiteral extension) (hroom : w.HasRoomFor t extension) :
    ∃ (files : List Path) (preview : Scan),
      (w.scan t extension true).2 = (t,.ok preview) ∧ files.Nodup ∧
      (∀ p, p ∈ files ↔ w.Matches t extension p) ∧
      preview.reports.map Report.path = files.map Path.relative ∧
      (¬ AreWritable w.root t preview.reports → w.writer.format = .json ∧
        (w.scan t extension false).2.2 = .error .unencodable) ∧
      (AreWritable w.root t preview.reports →
        ∃ (real : Scan) (u : Tree), (w.scan t extension false).2 = (u,.ok real) ∧
          Agree w.root t real.reports preview.reports ∧
          (∀ r ∈ real.reports,
            ((r.verdict = .replaced → t.isLocked (placeOf w.root r).parent = true) ∧
                r.effect.written = false ∧ r.effect.backup = none) ∨
              ∃ bytes now text backup, r.verdict = .replaced ∧ r.canonical? = some text ∧
                Text.Utf8.bytes? text = some now ∧ r.effect = ⟨true,some backup,none,none⟩ ∧
                t.get? (placeOf w.root r) = some (.file bytes) ∧
                u.get? (placeOf w.root r) = some (.file now) ∧
                t.get? (w.root ++ Path.names backup) = none ∧
                u.get? (w.root ++ Path.names backup) = some (.file bytes)) ∧
          (real.reports.filterMap (fun r => r.effect.backup)).Nodup ∧
          ∀ q bytes, t.get? q = some (.file bytes) →
            (∀ r ∈ real.reports, r.effect.written = true → q ≠ placeOf w.root r) →
              u.get? q = some (.file bytes)) := by
  obtain ⟨files,hmatching⟩ := (exists_matching hsound w hext).mpr (fun p hp => by
    obtain ⟨e,he⟩ := hp.entry
    exact (hsound.isPlace he (hclean.noLink _ _ he)).exists_stat)
  obtain ⟨hnodup,hmem⟩ := mem_matching hsound w hext hmatching
  obtain ⟨previews,hpreviews,hcases⟩ := w.processAll_fulfils hsound hroom rfl
    (.refl w.root hclean) (show ([] ++ files).Nodup from hnodup) (fun p hp => (hmem p).mp hp)
  have hplaceOf : ∀ p ∈ files, ∀ r : Report, r.path = Path.relative p →
      placeOf w.root r = w.root ++ p := by
    intro p hp r hpath
    obtain ⟨bytes,hfile⟩ := ((hmem p).mp hp).file
    rw [placeOf,hpath,Path.names_relative ((hmem p).mp hp).ne_nil (fun name hname =>
      (hsound.named _ _ hfile name (List.mem_append_right _ hname)).noSlash)]
  refine ⟨files,_,by simp only [scan,hmatching,hpreviews]; rfl,hnodup,hmem,
    paths_of_processAll (congrArg Prod.snd hpreviews),?_⟩
  rcases hcases with ⟨hwritable,reals,u,hreals,hfulfilled⟩ | ⟨hunwritable,hjson,hbroken⟩
  · refine ⟨fun h => absurd hwritable h,fun _ => ⟨_,u,by simp only [scan,hmatching,hreals]; rfl,
      hfulfilled.agree,?_,hfulfilled.backups,?_⟩⟩
    · intro r hr
      obtain ⟨p,hp,hpath,⟨hleft,-⟩ | hreplaced⟩ := hfulfilled.reported r hr
      · rw [hplaceOf p hp r hpath]
        exact .inl ⟨hleft.locked,hleft.written,hleft.backup⟩
      · obtain ⟨bytes,now,text,b,hverdict,hcanonical,hnow,heffect,hb,hnamed,hold,hnew,hfree,hbackup⟩ :=
          hreplaced
        rw [hplaceOf p hp r hpath]
        refine .inr ⟨bytes,now,text,_,hverdict,hcanonical,hnow,heffect,hold,hnew,?_⟩
        rw [Path.names_relative hb (fun name hname => (hnamed name hname).noSlash)]
        exact ⟨hfree,hbackup⟩
    · intro q bytes hq hother
      by_cases hfile : ∃ p ∈ files, q = w.root ++ p
      · obtain ⟨p,hp,rfl⟩ := hfile
        obtain ⟨r,hr,hpath,hsame | ⟨_,_,_,_,-,-,-,heffect,-⟩⟩ := hfulfilled.settled p hp
        · rw [hsame.2]
          exact hq
        · exact absurd (hplaceOf p hp r hpath).symm (hother r hr (by rw [heffect]))
      · exact hfulfilled.kept q _ hq (fun p hp heq => hfile ⟨p,hp,heq⟩)
  · refine ⟨fun _ => ⟨hjson,?_⟩,fun h => absurd h hunwritable⟩
    simp only [scan,hmatching,hbroken]
    rfl

end Workspace

/-- There is room if no name is too long with as many numbers as there are entries. -/
theorem Workspace.hasRoomFor_of_entries (w : Workspace) {t : Tree} (extension : String)
    (h : ∀ e ∈ t.entries, ∀ k < t.entries.length,
      isTooLong (backupName (Path.name e.1) k) = false) : w.HasRoomFor t extension := by
  intro p hp k hk
  obtain ⟨bytes,hfile⟩ := hp.file
  have hmem := Tree.mem_entries_of_get? (Tree.ne_nil_of_file hfile) hfile
  have hlength : (t.entries.map Prod.fst).length = t.entries.length := List.length_map _
  have hcrowd : k < t.entries.length :=
    Nat.lt_of_lt_of_le hk (hlength ▸ List.length_filter_le _ _)
  have hshort := h _ hmem k hcrowd
  rwa [Path.name_append _ hp.ne_nil] at hshort

theorem Workspace.previews_sharedNames :
    sharedNames.IsClean ∧ sharedNames.IsSound ∧ Glob.IsLiteral ".yaml" ∧
      settling.HasRoomFor sharedNames ".yaml" ∧
      ∃ (preview real : Scan) (u : Tree),
        (settling.scan sharedNames ".yaml" true).2 = (sharedNames,.ok preview) ∧
        (settling.scan sharedNames ".yaml" false).2 = (u,.ok real) ∧
        Workspace.Agree settling.root sharedNames real.reports preview.reports ∧
        real.reports.map Report.verdict = [.replaced] := by
  have hclean : sharedNames.IsClean := Tree.isClean_of_entries (by decide) (by decide)
  have hsound : sharedNames.IsSound := Tree.isSound_of_entries (by decide)
  have hliteral : Glob.IsLiteral ".yaml" := by decide
  have hroom : settling.HasRoomFor sharedNames ".yaml" :=
    settling.hasRoomFor_of_entries _ (by decide +kernel)
  obtain ⟨files,preview,hpreview,-,-,-,hbroken,hfulfilled⟩ :=
    scan_fulfils_preview settling hclean hsound hliteral hroom
  have hwritable : AreWritable settling.root sharedNames preview.reports := by
    by_contra hsome
    exact absurd (hbroken hsome).1 (by decide)
  obtain ⟨real,u,hreal,hagree,-⟩ := hfulfilled hwritable
  have hverdicts : (settling.scan sharedNames ".yaml" false).2.2.toOption.map
      (fun s => s.reports.map Report.verdict) = some [.replaced] := by decide +kernel
  refine ⟨hclean,hsound,hliteral,hroom,preview,real,u,hpreview,hreal,hagree,?_⟩
  rw [hreal] at hverdicts
  exact Option.some.inj hverdicts

/-- A file with half of a pair is announced in JSON, and ends the run. -/
theorem Workspace.scan_halvedFile :
    halvedFile.IsClean ∧ halvedFile.IsSound ∧ Glob.IsLiteral ".yaml" ∧
      settlingJson.HasRoomFor halvedFile ".yaml" ∧
      (settlingJson.scan halvedFile ".yaml" true).2.2.toOption.map
        (fun s => s.reports.map (fun r => (r.verdict,r.success))) = some [(.preview,true)] ∧
      ¬ ∃ s, (settlingJson.scan halvedFile ".yaml" false).2.2 = .ok s := by
  have hnone : (settlingJson.scan halvedFile ".yaml" false).2.2.toOption.isSome = false := by
    decide +kernel
  refine ⟨Tree.isClean_of_entries (by decide) (by decide),Tree.isSound_of_entries (by decide),
    by decide,settlingJson.hasRoomFor_of_entries _ (by decide +kernel),by decide +kernel,?_⟩
  rintro ⟨s,hs⟩
  rw [hs] at hnone
  contradiction

end ShortVolume
