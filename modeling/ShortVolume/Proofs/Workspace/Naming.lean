import Mathlib.Data.Nat.Find
import ShortVolume.Proofs.Tree.Walking
import ShortVolume.Proofs.Workspace.Frame
import ShortVolume.Proofs.Workspace.Room
set_option autoImplicit false

/-!
Where the search for a backup ends, whatever links there are.

The numbered names beside a file are distinct, and each that is taken is a name in the directory of the
file. So the search looks at one place more than that directory has names, at most, and ends at the
first that nothing is at, unless a link stands there at which the system refuses to look.
-/

namespace ShortVolume

/-- A name that the system allows may come into a directory. -/
theorem Tree.IsSound.isPlace_concat {t : Tree} (ht : t.IsSound) {d : Path}
    (hd : t.get? d = some .directory) {name : String} (hname : IsName name)
    (hlink : t.IsUnlinked (d ++ [name])) : t.IsPlace (d ++ [name]) where
  named := by
    intro other hother
    rcases List.mem_append.mp hother with hmem | hlast
    · exact ht.named _ _ hd other hmem
    · rw [List.mem_singleton.mp hlast]
      exact hname
  directory := by
    intro q hq hne
    have hprefix := (List.prefix_concat_iff.mp hq).resolve_left hne
    by_cases heq : q = d
    · rw [heq]
      exact hd
    · exact Tree.directory_above ht.parent hd hprefix heq
  unlinked := hlink

theorem backupPlace_injective (target : Path) : Function.Injective (backupPlace target) :=
  fun _ _ h => backupName_inj (Path.beside_inj h)

/-- The search looks at the places in turn, and ends at the first that is not taken. -/
theorem freeBackup_of_first {t : Tree} {target : Path} {k : Nat} (hk : ∀ j < k, IsTaken t target j)
    (hk' : ¬ IsTaken t target k) {n : Nat} (hn : k < n) :
    freeBackup t target n 0 =
      ((t.stat (backupPlace target k)).map (fun _ => backupPlace target k)).mapError
        (fun e => .system e (backupPlace target k)) := by
  rcases freeBackup_cases t target n 0 with ⟨i,-,hbefore,hend⟩ | hall
  · simp only [Nat.zero_add] at hbefore hend
    rcases hend with ⟨e,hstat,hsearch⟩ | ⟨hstat,hsearch⟩
    · obtain rfl := Workspace.eq_of_first hbefore hk (Workspace.not_isTaken_of_error hstat) hk'
      rw [hsearch,hstat]
      rfl
    · obtain rfl := Workspace.eq_of_first hbefore hk (Workspace.not_isTaken_of_none hstat) hk'
      rw [hsearch,hstat]
      rfl
  · have htaken := hall k hn
    rw [Nat.zero_add] at htaken
    exact absurd htaken hk'

section Directory
variable {t : Tree} {target d : Path} (hd : t.follow target.parent = some d)
include hd

theorem follow_backupPlace {k : Nat} (hlink : t.IsUnlinked (d ++ [backupName target.name k])) :
    t.follow (backupPlace target k) = some (d ++ [backupName target.name k]) :=
  Tree.follow_concat hd (Path.leadsOn_append (by decide)) hlink

/-- What takes the place of a backup is a name in the directory of the file. -/
theorem IsTaken.exists_entry {k : Nat} (h : IsTaken t target k) :
    ∃ e, t.get? (d ++ [backupName target.name k]) = some e := by
  obtain ⟨e,hstat⟩ := h
  obtain ⟨d',f,hd',hf⟩ := Tree.exists_follow_of_stat (Path.leadsOn_append (by decide)) hstat
  obtain rfl : d = d' := Option.some.inj (hd.symm.trans hd')
  exact ⟨f,hf⟩

theorem exists_first_place :
    ∃ k ≤ (t.namesIn d).length, (∀ j < k, IsTaken t target j) ∧ ¬ IsTaken t target k := by
  classical
  obtain ⟨i,hi,hnone⟩ := t.exists_not_mem_namesIn d (f := backupName target.name)
    (fun i j => backupName_inj)
  have hi' : ¬ IsTaken t target i := by
    intro htaken
    obtain ⟨e,he⟩ := htaken.exists_entry hd
    simp [hnone] at he
  have hfree : ∃ k, ¬ IsTaken t target k := ⟨i,hi'⟩
  exact ⟨Nat.find hfree,Nat.le_trans (Nat.find_min' hfree hi') hi,
    fun j hj => not_not.mp (Nat.find_min hfree hj),Nat.find_spec hfree⟩

/-- The system refuses to look at a place that is not taken only if a link is there. -/
theorem exists_link_of_error (ht : t.IsSound) (hdirectory : t.get? d = some .directory) {k : Nat}
    (hname : IsName (backupName target.name k)) {e : SystemError}
    (h : t.stat (backupPlace target k) = .error e) :
    ∃ s, t.get? (d ++ [backupName target.name k]) = some (.link s) := by
  refine (t.isUnlinked_or_link _).resolve_left (fun hlink => ?_)
  have hplace := ht.isPlace_concat hdirectory hname hlink
  obtain ⟨found,hfound⟩ := hplace.exists_stat
  have hsame : t.follow (backupPlace target k) = t.follow (d ++ [backupName target.name k]) :=
    (follow_backupPlace hd hlink).trans hplace.isReal.follow_eq.symm
  rw [Tree.stat_eq_of_follow hsame,hfound] at h
  contradiction

end Directory

/-- What is there lies in the directory that the path before it leads to, under a name that the system
allows. -/
theorem exists_directory {t : Tree} (ht : t.IsSound) {target : Path}
    (hname : Path.LeadsOn target.name) {e : Entry} (hexists : t.stat target = .ok (some e)) :
    ∃ d, t.follow target.parent = some d ∧ t.get? d = some .directory ∧ IsName target.name := by
  have hsplit : target.parent ++ [target.name] = target := by
    cases target using List.reverseRecOn with
    | nil => exact absurd rfl hname.1
    | append_singleton p name => rw [Path.parent_concat,Path.name,List.getLastD_concat]
  obtain ⟨d,f,hd,hf⟩ := Tree.exists_follow_of_stat hname (hsplit.symm ▸ hexists)
  have hdirectory : t.get? d = some .directory := by
    have hparent := ht.parent _ _ hf
    rwa [Path.parent_concat] at hparent
  exact ⟨d,hd,hdirectory,ht.named _ _ hf _ (List.mem_append_right _ List.mem_cons_self)⟩

end ShortVolume
