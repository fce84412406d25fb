import ShortVolume.Proofs.Workspace.Naming
import ShortVolume.Proofs.Workspace.Reports
set_option autoImplicit false

/-!
The generations of a file.

In a file system without links each rewrite of a file leaves what it replaces in a backup of its own,
and neither later rewrites nor what is written to the file between them touch it.
-/

namespace ShortVolume

/-! ### One rewrite -/

/-- The file holds other bytes, and what else there was is still there, but for a temporary file. -/
structure Changes (t u : Tree) (target : Path) : Prop where
  plain : u.IsPlain
  file : ∃ now, u.get? target = some (.file now)
  kept : ∀ p e, t.get? p = some e → p ≠ target → p ≠ temporaryPlace target → u.get? p = some e

theorem Changes.trans {t u v : Tree} {target : Path} (h : Changes t u target)
    (h' : Changes u v target) : Changes t v target where
  plain := h'.plain
  file := h'.file
  kept := fun p e he hp htemporary => h'.kept p e (h.kept p e he hp htemporary) hp htemporary

theorem changes_write {t u : Tree} (ht : t.IsPlain) {target : Path} {bytes now : List UInt8}
    (htarget : t.get? target = some (.file bytes)) (h : t.write target now = .ok u) :
    Changes t u target := by
  obtain ⟨q,hfollow,-,rfl⟩ := Tree.write_eq_ok h
  have hself : t.follow target = some target := Tree.follow_direct ht (ht.direct _ _ htarget)
  obtain rfl : target = q := Option.some.inj (hself.symm.trans hfollow)
  have hne := Tree.ne_nil_of_file htarget
  refine ⟨Tree.IsPlain.update ht (Tree.isUpdate_put t now hne) (ht.direct _ _ htarget)
    (ht.parent _ _ htarget) (by simp [htarget]),⟨now,Tree.get?_put_self _ _ _ hne⟩,?_⟩
  intro p e he hp _
  rw [Tree.get?_put_of_ne _ _ hp,he]

/-- What can be written has taken the place of the file. -/
theorem changes_replaceFile {t u : Tree} (ht : t.IsPlain) {target : Path} {bytes : List UInt8}
    (htarget : t.get? target = some (.file bytes)) (hopen : t.isLocked target.parent = false)
    (hshort : isTooLong (temporaryPlace target).name = false) {text : Text}
    (h : replaceFile t target text = (u,.ok none)) : Changes t u target := by
  by_cases hplace : t.get? (temporaryPlace target) = some .directory
  · rw [replaceFile_of_directory ht hopen hplace] at h
    simp at h
  · cases hbytes : Text.Utf8.bytes? text with
    | none =>
      rw [replaceFile_of_unencodable ht htarget hopen hplace hshort hbytes] at h
      simp at h
    | some now =>
      obtain ⟨u',hu',-,hrenewal⟩ := replaceFile_isRenewal ht htarget hopen hplace hshort hbytes
      obtain ⟨rfl,-⟩ := Prod.mk.inj (h.symm.trans hu')
      refine ⟨hrenewal.isPlain htarget ht hplace,⟨now,(hrenewal _).trans (if_pos rfl)⟩,
        fun p e he hp htemporary => ?_⟩
      rw [hrenewal,if_neg hp,if_neg htemporary,he]

/-- The bytes of a file that has been replaced are in a backup where nothing was. -/
theorem Workspace.changes_of_replace (w : Workspace) {t u : Tree} (ht : t.IsPlain) {target : Path}
    {bytes : List UInt8} (hfile : t.get? target = some (.file bytes)) {text : Text} {e : Effect}
    (h : w.replace t target bytes text = (u,.ok e)) (hwritten : e.written = true) :
    Changes t u target ∧ ∃ k, t.get? (backupPlace target k) = none ∧
      u.get? (backupPlace target k) = some (.file bytes) := by
  cases hsearch : freeBackup t target (t.entries.length + 1) 0 with
  | error m =>
    simp only [replace,hsearch] at h
    cases h
  | ok place =>
    cases hlocked : t.isLocked target.parent with
    | true =>
      rw [w.replace_of_locked ht hfile hlocked text hsearch] at h
      cases h
      contradiction
    | false =>
      obtain ⟨hspare,hplain,hreplace⟩ := w.replace_of_freeBackup ht hfile hlocked text hsearch
      rw [hreplace] at h
      split at h
      · obtain ⟨htree,hreport⟩ := Prod.mk.inj h
        obtain ⟨failure,hfailure,rfl⟩ := Except.map_eq_ok_iff.mp hreport
        obtain rfl : failure = none := Option.isNone_iff_eq_none.mp hwritten
        have hkept {p : Path} {e : Entry} (hp : t.get? p = some e) :=
          Tree.get?_put_of_free hspare.free hp (.file bytes)
        have hchanges := changes_replaceFile hplain (hkept hfile) hlocked
          hspare.isTooLong_temporaryPlace (Prod.ext htree hfailure)
        obtain ⟨k,rfl⟩ := hspare.number
        refine ⟨⟨hchanges.plain,hchanges.file,fun p e he => hchanges.kept p e (hkept he)⟩,k,
          hspare.free,hchanges.kept _ _ (Tree.get?_put_self _ _ _ hspare.ne_nil)
            (backupPlace_ne target k) (backupPlace_ne_temporaryPlace target k)⟩
      · cases h

/-- So are those of a file whose report says that it was written. -/
theorem Workspace.changes_of_process (w : Workspace) {t u : Tree} (ht : t.IsPlain) {path : String}
    {target : Path} {bytes : List UInt8} {r : Report}
    (hresolved : t.resolve w.root path = some target) (hfile : t.get? target = some (.file bytes))
    (h : w.process t path false = (u,.ok r)) (hwritten : r.effect.written = true) :
    Changes t u target ∧ ∃ k, t.get? (backupPlace target k) = none ∧
      u.get? (backupPlace target k) = some (.file bytes) := by
  rcases Workspace.process_eq_ok h with ⟨-,heffect,-⟩ |
    ⟨target',bytes',vs,present,canonical,e,hwants,hreplaced,rfl⟩
  · rw [heffect] at hwritten
    cases hwritten
  · obtain rfl : target = target' := Option.some.inj (hresolved.symm.trans hwants.resolved)
    obtain rfl : bytes = bytes' := by simpa [hfile] using hwants.file
    exact w.changes_of_replace ht hfile hreplaced hwritten

/-! ### Many rewrites -/

/-- A file is written and rewritten, step by step, from the first tree to the second, in any workspaces
and under any paths that lead to it. The list has what the rewrites have replaced, the latest first. -/
inductive Renewals (target : Path) (t : Tree) : List (List UInt8) → Tree → Prop where
  | start : Renewals target t [] t
  | write {replaced : List (List UInt8)} {u v : Tree} {now : List UInt8}
      (before : Renewals target t replaced u) (h : u.write target now = .ok v) :
      Renewals target t replaced v
  | rewrite {replaced : List (List UInt8)} {u v : Tree} {bytes : List UInt8} {w : Workspace}
      {path : String} {r : Report} (before : Renewals target t replaced u)
      (hresolved : u.resolve w.root path = some target) (hfile : u.get? target = some (.file bytes))
      (h : w.process u path false = (v,.ok r)) (hwritten : r.effect.written = true) :
      Renewals target t (bytes :: replaced) v

section Renewals
variable {target : Path} {t u : Tree} {replaced : List (List UInt8)}
  (before : Renewals target t replaced u)
include before

theorem Renewals.put (old now : List UInt8) (hself : u.follow target = some target)
    (hfile : u.get? target = some (.file old)) :
    Renewals target t replaced (u.put target (.file now)) := by
  have hwrite : u.write target now = .ok (u.put target (.file now)) := by
    simp [Tree.write,hself,hfile]
  exact .write before hwrite

theorem Renewals.process {w : Workspace} {path : String} {bytes : List UInt8}
    (hresolved : u.resolve w.root path = some target) (hfile : u.get? target = some (.file bytes))
    (hwritten : (w.process u path false).2.toOption.map (fun r => r.effect.written) = some true) :
    Renewals target t (bytes :: replaced) (w.process u path false).1 := by
  obtain ⟨r,hr,hdone⟩ := Option.map_eq_some_iff.mp hwritten
  exact .rewrite before hresolved hfile (Prod.ext rfl (Except.toOption_eq_some_iff.mp hr)) hdone

end Renewals

/-- A backup of the file that was not there in the first tree. -/
structure IsNewBackup (target : Path) (t u : Tree) (place : Path) (bytes : List UInt8) : Prop where
  number : ∃ k, place = backupPlace target k
  new : t.get? place = none
  saved : u.get? place = some (.file bytes)

theorem IsNewBackup.changes {target : Path} {t u v : Tree} {place : Path} {bytes : List UInt8}
    (h : IsNewBackup target t u place bytes) (hchanges : Changes u v target) :
    IsNewBackup target t v place bytes := by
  obtain ⟨⟨k,rfl⟩,hnew,hsaved⟩ := h
  exact ⟨⟨k,rfl⟩,hnew,hchanges.kept _ _ hsaved (backupPlace_ne target k)
    (backupPlace_ne_temporaryPlace target k)⟩

theorem Renewals.exists_backups {target : Path} {t u : Tree} {replaced : List (List UInt8)}
    (ht : t.IsPlain) {bytes : List UInt8} (hfile : t.get? target = some (.file bytes))
    (h : Renewals target t replaced u) :
    Changes t u target ∧ ∃ backups : List (Path × List UInt8), backups.map Prod.snd = replaced ∧
      (backups.map Prod.fst).Nodup ∧ ∀ b ∈ backups, IsNewBackup target t u b.1 b.2 := by
  induction h with
  | start => exact ⟨⟨ht,⟨bytes,hfile⟩,fun _ _ h _ _ => h⟩,[],rfl,List.nodup_nil,by simp⟩
  | write before h ih =>
    obtain ⟨hbefore,backups,hreplaced,hnodup,hbackups⟩ := ih
    obtain ⟨now,hnow⟩ := hbefore.file
    have hstep := changes_write hbefore.plain hnow h
    exact ⟨hbefore.trans hstep,backups,hreplaced,hnodup,fun b hb => (hbackups b hb).changes hstep⟩
  | rewrite before hresolved hnow h hwritten ih =>
    obtain ⟨hbefore,backups,rfl,hnodup,hbackups⟩ := ih
    obtain ⟨hstep,k,hfree,hsaved⟩ := Workspace.changes_of_process _ hbefore.plain hresolved hnow h hwritten
    refine ⟨hbefore.trans hstep,(backupPlace target k,_) :: backups,rfl,?_,?_⟩
    · -- The place of the new backup was free, and those of the others were not.
      refine List.nodup_cons.mpr ⟨fun hmem => ?_,hnodup⟩
      obtain ⟨b,hb,hplace⟩ := List.mem_map.mp hmem
      have hsaved' := (hbackups b hb).saved
      rw [hplace,hfree] at hsaved'
      cases hsaved'
    · refine List.forall_mem_cons.mpr ⟨⟨⟨k,rfl⟩,?_,hsaved⟩,fun b hb => (hbackups b hb).changes hstep⟩
      cases he : t.get? (backupPlace target k) with
      | none => rfl
      | some e =>
        have hkept := hbefore.kept _ e he (backupPlace_ne target k)
          (backupPlace_ne_temporaryPlace target k)
        simp [hfree] at hkept

/-- Other bytes of a file whose keys are out of order. -/
def unsettledAgain : List UInt8 := Text.Utf8.encode "vol_id: e\nvol_type: gce_pd\n".toList

theorem isPlain_sharedNames : sharedNames.IsPlain :=
  Tree.isPlain_of_entries (by decide)

theorem exists_renewals :
    ∃ u, Renewals ["ws","a.yaml"] sharedNames [unsettledAgain,unsettled] u := by
  have hfirst : Renewals ["ws","a.yaml"] sharedNames [unsettled]
      (settling.process sharedNames "a.yaml" false).1 :=
    Renewals.start.process (by decide +kernel) rfl (by decide +kernel)
  obtain ⟨⟨hplain,⟨old,hold⟩,-⟩,-⟩ := hfirst.exists_backups isPlain_sharedNames rfl
  have hsecond := hfirst.put old unsettledAgain
    (Tree.follow_direct hplain (hplain.direct _ _ hold)) hold
  have hthird : Renewals ["ws","a.yaml"] sharedNames [unsettledAgain,unsettled] (settling.process
      ((settling.process sharedNames "a.yaml" false).1.put ["ws","a.yaml"] (.file unsettledAgain))
      "a.yaml" false).1 :=
    hsecond.process (by decide +kernel) (Tree.get?_put_self _ _ _ (by decide)) (by decide +kernel)
  exact ⟨_,hthird⟩

/-- A file, and a link to a name of `n + 5` bytes where its first backup comes. -/
def strayBackup (n : Nat) : Tree where
  entries := [(["ws"],.directory), (["ws","a.yaml"],.file unsettled),
    (["ws","a.kubeshort.backup"],.link (stretchedName n))]

theorem isSound_strayBackup (n : Nat) : (strayBackup n).IsSound := by
  have hws : IsName "ws" := by decide
  have ha : IsName "a.yaml" := by decide
  have hb : IsName "a.kubeshort.backup" := by decide
  refine Tree.isSound_of_entries (fun e he => ?_)
  simp only [strayBackup,List.mem_cons,List.not_mem_nil,or_false] at he
  rcases he with rfl | rfl | rfl <;> simp [strayBackup,Tree.get?,Path.parent,hws,ha,hb]

end ShortVolume
