import ShortVolume.Proofs.Tree.Writing
import ShortVolume.Proofs.Workspace.Refusal
set_option autoImplicit false

/-!
Where there is room for its backup, a file in the workspace is backed up.

A backup has a name that the system allows, unless it is too long. So in a file system without links
the search for a place succeeds if no name that it comes to is too long.
-/

namespace ShortVolume

/-! ### Names of backups -/

theorem FileName.mem_of_mem_stem {name : String} {c : Char} (h : c ∈ (stem name).toList) :
    c ∈ name.toList := by
  unfold stem at h
  dsimp only at h
  split at h
  · rw [String.toList_ofList] at h
    exact List.mem_of_mem_take h
  · exact h

theorem isDigit_of_mem_toString {k : Nat} {c : Char} (h : c ∈ (toString k).toList) :
    c.isDigit = true := by
  rw [Nat.toString_eq_repr,Nat.repr,String.toList_ofList] at h
  exact Nat.isDigit_of_mem_toDigits (by omega) (by omega) h

theorem not_mem_backupName {name : String} {c : Char} (hname : c ∉ name.toList)
    (hdigit : c.isDigit = false) (hhyphen : c ≠ '-') (hsuffix : c ∉ backupSuffix.toList) (k : Nat) :
    c ∉ (backupName name k).toList := by
  intro hc
  rw [backupName,String.toList_append,String.toList_append,List.mem_append,List.mem_append] at hc
  rcases hc with (hstem | hnumber) | hend
  · exact hname (FileName.mem_of_mem_stem hstem)
  · split at hnumber
    · simp at hnumber
    · rw [String.toList_append,List.mem_append] at hnumber
      rcases hnumber with hmark | hdigits
      · exact hhyphen (List.mem_singleton.mp hmark)
      · simp [isDigit_of_mem_toString hdigits] at hdigit
  · exact hsuffix hend

theorem isName_backupName {name : String} (h : IsName name) {k : Nat}
    (hshort : isTooLong (backupName name k) = false) : IsName (backupName name k) where
  leadsOn := Path.leadsOn_append (by decide)
  noSlash := not_mem_backupName h.noSlash (by decide) (by decide) (by decide) k
  noNul := not_mem_backupName h.noNul (by decide) (by decide) (by decide) k
  short := hshort

namespace Path

theorem prefix_parent {p q : Path} (h : q <+: p) (hne : q ≠ p) : q <+: p.parent := by
  induction p using List.reverseRecOn with
  | nil => exact absurd (List.prefix_nil.mp h) hne
  | append_singleton p name _ =>
    rw [parent_concat]
    exact (List.prefix_concat_iff.mp h).resolve_left hne

theorem append_beside (root : Path) {p : Path} (h : p ≠ []) (name : String) :
    (root ++ p).beside name = root ++ p.beside name := by
  rw [beside,beside,parent,parent,List.dropLast_append_of_ne_nil h,List.append_assoc]

theorem name_append (root : Path) {p : Path} (h : p ≠ []) : (root ++ p).name = p.name := by
  rw [name,name,List.getLastD_eq_getLast?,List.getLastD_eq_getLast?,List.getLast?_append_of_ne_nil _ h]

theorem named_beside {p : Path} (h : ∀ name ∈ p, IsName name) {other : String}
    (hother : IsName other) : ∀ name ∈ p.beside other, IsName name := by
  intro name hname
  rcases List.mem_append.mp hname with hparent | hlast
  · exact h name (List.dropLast_subset p hparent)
  · rw [List.mem_singleton.mp hlast]
    exact hother

end Path

theorem Tree.IsPlain.isPlace {t : Tree} (ht : t.IsPlain) {p : Path}
    (hnames : ∀ name ∈ p, IsName name) (hparent : t.get? p.parent = some .directory) :
    t.IsPlace p where
  named := hnames
  directory := by
    intro q hq hne
    have hprefix := Path.prefix_parent hq hne
    by_cases heq : q = p.parent
    · rw [heq]
      exact hparent
    · exact directory_above ht.parent hparent hprefix heq
  unlinked := fun e he => ht.noLink p e he

/-! ### Room -/

/-- No name is too long that the search for a place comes to. -/
def HasRoom (t : Tree) (target : Path) : Prop :=
  ∀ k, (∀ j < k, IsTaken t target j) → isTooLong (backupName target.name k) = false

/-- The search goes no further than to a place that is free. -/
theorem hasRoom_of_free {t : Tree} {target : Path} {n : Nat}
    (hfree : t.stat (backupPlace target n) = .ok none)
    (hshort : ∀ k < n + 1, isTooLong (backupName target.name k) = false) : HasRoom t target := by
  intro k hk
  refine hshort k (Nat.lt_of_not_le (fun hle => ?_))
  exact Workspace.not_isTaken_of_none hfree (hk n hle)

theorem exists_freeBackup {t : Tree} (ht : t.IsPlain) {target : Path} {bytes : List UInt8}
    (htarget : t.get? target = some (.file bytes)) (hnames : ∀ name ∈ target, IsName name)
    (hroom : HasRoom t target) :
    ∃ place, freeBackup t target (t.entries.length + 1) 0 = .ok place ∧
      ∀ name ∈ place, IsName name := by
  have hne := Tree.ne_nil_of_file htarget
  have hbackup {k : Nat} (hk : ∀ j < k, IsTaken t target j) :
      ∀ name ∈ backupPlace target k, IsName name :=
    Path.named_beside hnames (isName_backupName (hnames _ (Path.name_mem hne)) (hroom k hk))
  rcases freeBackup_cases t target (t.entries.length + 1) 0 with ⟨i,hi,hbefore,hend⟩ | hall
  · simp only [Nat.zero_add] at hbefore hend
    rcases hend with ⟨e,hstat,-⟩ | ⟨-,hsearch⟩
    · have hplace := ht.isPlace (hbackup hbefore)
        (Tree.parent_beside ht htarget _)
      obtain ⟨f,hf⟩ := hplace.exists_stat
      simp [hf] at hstat
    · exact ⟨_,hsearch,hbackup hbefore⟩
  · obtain ⟨i,hi,hfree⟩ := exists_not_isTaken
      (ht.isPlace hnames (ht.parent _ _ htarget)).isReal
    have := hall i hi
    rw [Nat.zero_add] at this
    exact absurd this hfree

section HasRoom
variable (w : Workspace) {t : Tree} (ht : t.IsPlain) {p : Path} {bytes : List UInt8}
  (hfile : t.get? (w.root ++ p) = some (.file bytes)) (hnames : ∀ name ∈ w.root ++ p, IsName name)
  (hroom : HasRoom t (w.root ++ p)) (text : Text)
include ht hfile hnames hroom

/-- Where there is room for its backup, a file in the workspace is backed up beside it, and what follows
is up to the temporary file. -/
theorem Workspace.replace_of_hasRoom (hne : p ≠ [])
    (hopen : t.isLocked (w.root ++ p).parent = false) :
    ∃ b : Path, b ≠ [] ∧ (∀ name ∈ b, IsName name) ∧ IsSpare t (w.root ++ p) (w.root ++ b) ∧
      (t.put (w.root ++ b) (.file bytes)).IsPlain ∧
      w.replace t (w.root ++ p) bytes text =
        ((replaceFile (t.put (w.root ++ b) (.file bytes)) (w.root ++ p) text).1,
          (replaceFile (t.put (w.root ++ b) (.file bytes)) (w.root ++ p) text).2.map (fun failure =>
            ⟨failure.isNone,some b.relative,none,failure⟩)) := by
  obtain ⟨place,hsearch,hplace⟩ := exists_freeBackup ht hfile hnames hroom
  obtain ⟨hspare,hplain,hreplace⟩ := w.replace_of_freeBackup ht hfile hopen text hsearch
  obtain ⟨k,rfl⟩ := hspare.number
  rw [backupPlace,Path.append_beside _ hne] at hspare hplain hreplace hplace
  rw [if_pos (List.prefix_append _ _),List.drop_left] at hreplace
  exact ⟨_,Path.beside_ne_nil _ _,fun name hname => hplace name (List.mem_append_right _ hname),
    hspare,hplain,hreplace⟩

/-- In a locked directory the report says that nothing could be done. -/
theorem Workspace.replace_of_hasRoom_locked
    (hlocked : t.isLocked (w.root ++ p).parent = true) :
    ∃ warning message,
      w.replace t (w.root ++ p) bytes text = (t,.ok ⟨false,none,some warning,some message⟩) := by
  obtain ⟨place,hsearch,-⟩ := exists_freeBackup ht hfile hnames hroom
  exact ⟨_,_,w.replace_of_locked ht hfile hlocked text hsearch⟩

end HasRoom

end ShortVolume
