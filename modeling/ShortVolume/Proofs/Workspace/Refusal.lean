import ShortVolume.Proofs.Tree.Writing
import ShortVolume.Proofs.Workspace.Calls
set_option autoImplicit false

/-!
What keeps a file from its report.

A file that cannot be read, has no canonical text or cannot be written is reported as such. A call ends
without a report only when the file is to be replaced: where the system refuses to look at the name of
a backup that is too long, where the backup of a file outside of the workspace has no name in it, and
where the new text has no bytes.
-/

namespace ShortVolume

/-! ### The search for a place -/

/-- Something is at the place of the `k`-th backup. -/
def IsTaken (t : Tree) (target : Path) (k : Nat) : Prop :=
  ∃ e, t.stat (backupPlace target k) = .ok (some e)

/-- The search stops at the first place that is not taken, or has looked at all places. -/
theorem freeBackup_cases (t : Tree) (target : Path) (n k : Nat) :
    (∃ i < n, (∀ j < i, IsTaken t target (k + j)) ∧
      ((∃ e, t.stat (backupPlace target (k + i)) = .error e ∧
          freeBackup t target n k = .error (.system e (backupPlace target (k + i)))) ∨
        t.stat (backupPlace target (k + i)) = .ok none ∧
          freeBackup t target n k = .ok (backupPlace target (k + i)))) ∨
      ∀ i < n, IsTaken t target (k + i) := by
  induction n generalizing k with
  | zero => exact .inr (fun i hi => absurd hi (Nat.not_lt_zero i))
  | succ n ih =>
    rcases hstat : t.stat (backupPlace target k) with e | none | e
    · refine .inl ⟨0,Nat.succ_pos n,fun j hj => absurd hj (Nat.not_lt_zero j),.inl ⟨e,hstat,?_⟩⟩
      rw [backupPlace] at hstat
      simp only [freeBackup,hstat]
      rfl
    · refine .inl ⟨0,Nat.succ_pos n,fun j hj => absurd hj (Nat.not_lt_zero j),.inr ⟨hstat,?_⟩⟩
      rw [backupPlace] at hstat
      simp only [freeBackup,hstat]
      rfl
    · have htaken : IsTaken t target k := ⟨e,hstat⟩
      have hnext : freeBackup t target (n + 1) k = freeBackup t target n (k + 1) := by
        rw [backupPlace] at hstat
        simp only [freeBackup,hstat]
      have hfirst {i : Nat} (h : ∀ j < i, IsTaken t target (k + 1 + j)) :
          ∀ j < i + 1, IsTaken t target (k + j) := by
        intro j hj
        cases j with
        | zero => exact htaken
        | succ j =>
          have := h j (by omega)
          rwa [Nat.add_right_comm,Nat.add_assoc] at this
      rw [hnext]
      rcases ih (k + 1) with ⟨i,hi,hbefore,hend⟩ | hall
      · rw [Nat.add_right_comm,Nat.add_assoc] at hend
        exact .inl ⟨i + 1,by omega,hfirst hbefore,hend⟩
      · exact .inr (hfirst hall)

/-- Beside a real path there is a place that is not taken, and the search comes to it. -/
theorem exists_not_isTaken {t : Tree} {target : Path} (h : t.IsReal target) :
    ∃ i < t.entries.length + 1, ¬ IsTaken t target i := by
  obtain ⟨i,hi,hfree⟩ := exists_backupPlace_free t target
  refine ⟨i,hi,?_⟩
  rintro ⟨e,hstat⟩
  have hreal : t.IsReal (backupPlace target i) := h.beside (Path.leadsOn_append (by decide)) hfree
  rw [hreal.stat_of_none hfree] at hstat
  split at hstat <;> simp at hstat

namespace Workspace

/-- No backup of the file is made in the workspace: the system refuses to look at the first place that
is not taken, or the bytes are written there, but it lies elsewhere. -/
def RefusesBackup (w : Workspace) (t : Tree) (target : Path) (bytes : List UInt8) : Prop :=
  ∃ k, (∀ j < k, IsTaken t target j) ∧
    ((∃ e, t.stat (backupPlace target k) = .error e) ∨
      t.stat (backupPlace target k) = .ok none ∧
        (∃ u, t.write (backupPlace target k) bytes = .ok u) ∧
          ¬ w.root <+: backupPlace target k)

/-- What is refused or free comes first among the places that are not taken. -/
theorem eq_of_first {t : Tree} {target : Path} {i k : Nat} (hi : ∀ j < i, IsTaken t target j)
    (hk : ∀ j < k, IsTaken t target j) (hi' : ¬ IsTaken t target i) (hk' : ¬ IsTaken t target k) :
    i = k := by
  rcases Nat.lt_trichotomy i k with hlt | heq | hgt
  · exact absurd (hk i hlt) hi'
  · exact heq
  · exact absurd (hi k hgt) hk'

theorem not_isTaken_of_error {t : Tree} {target : Path} {k : Nat} {e : SystemError}
    (h : t.stat (backupPlace target k) = .error e) : ¬ IsTaken t target k := by
  rintro ⟨f,hf⟩
  simp [h] at hf

theorem not_isTaken_of_none {t : Tree} {target : Path} {k : Nat}
    (h : t.stat (backupPlace target k) = .ok none) : ¬ IsTaken t target k := by
  rintro ⟨f,hf⟩
  simp [h] at hf

/-- A text that cannot be written ends the call, if there is a temporary file to write it to. -/
theorem replaceFile_reports_iff (t : Tree) (target : Path) (text : Text) :
    (∃ failure, (replaceFile t target text).2 = .ok failure) ↔
      ¬ (t.TakesTemporary target ∧ Text.Utf8.bytes? text = none) := by
  cases hlocked : t.isLocked target.parent with
  | true => simp [replaceFile_of_locked hlocked,Tree.TakesTemporary,hlocked]
  | false =>
    rcases replaceFile_of_open hlocked text with ⟨now,u,hnow,-,hreplaced⟩ |
      ⟨u,hnone,hwrite,hreplaced⟩ | ⟨e,hwrite,hreplaced⟩
    · simp [hreplaced,hnow]
    · simp [hreplaced,hnone,Tree.TakesTemporary,hlocked,hwrite]
    · refine iff_of_true (by simp [hreplaced]) ?_
      rintro ⟨⟨-,u,hu⟩,hnone⟩
      simp [hnone,hu] at hwrite

/-- The backup does not change whether a temporary file can be made. -/
theorem takesTemporary_put_iff {t u : Tree} {target place : Path} {bytes : List UInt8}
    (hstat : t.stat place = .ok none) (hwrite : t.write place bytes = .ok u) :
    u.TakesTemporary target ↔ t.TakesTemporary target := by
  obtain ⟨q,hfollow,-,rfl⟩ := Tree.write_eq_ok hwrite
  have hfree : t.get? q = none := by
    cases he : t.get? q with
    | none => rfl
    | some e => simp [Tree.stat,hfollow,he] at hstat
  unfold Tree.TakesTemporary
  rw [Tree.exists_write_put_iff hfree ⟨place,hfollow,_,hwrite⟩,Tree.isLocked_put]

/-- A file is replaced, or it is reported why not, unless no backup of it is made or the new text has no
bytes. -/
theorem replace_reports_iff (w : Workspace) {t : Tree} {target : Path} (h : t.IsReal target)
    (bytes : List UInt8) (text : Text) :
    (∃ effect, (w.replace t target bytes text).2 = .ok effect) ↔
      ¬ w.RefusesBackup t target bytes ∧
        ¬ (t.TakesTemporary target ∧ Text.Utf8.bytes? text = none) := by
  obtain ⟨i₀,hi₀,hfree₀⟩ := exists_not_isTaken h
  rcases freeBackup_cases t target (t.entries.length + 1) 0 with ⟨i,hi,hbefore,hend⟩ | hall
  · simp only [Nat.zero_add] at hbefore hend
    rcases hend with ⟨e,hstat,hsearch⟩ | ⟨hstat,hsearch⟩
    · have hrefused : w.RefusesBackup t target bytes := ⟨i,hbefore,.inl ⟨e,hstat⟩⟩
      simp [replace,hsearch,hrefused]
    · have hiff : w.RefusesBackup t target bytes ↔
          (∃ u, t.write (backupPlace target i) bytes = .ok u) ∧
            ¬ w.root <+: backupPlace target i := by
        constructor
        · rintro ⟨k,hk,⟨e,hrefused⟩ | ⟨hnone,hwritten⟩⟩
          · have heq := eq_of_first hbefore hk (not_isTaken_of_none hstat)
              (not_isTaken_of_error hrefused)
            simp [← heq,hstat] at hrefused
          · have heq := eq_of_first hbefore hk (not_isTaken_of_none hstat)
              (not_isTaken_of_none hnone)
            exact heq ▸ hwritten
        · exact fun hwritten => ⟨i,hbefore,.inr ⟨hstat,hwritten⟩⟩
      rw [hiff]
      cases hwrite : t.write (backupPlace target i) bytes with
      | error e =>
        have hreports := replaceFile_reports_iff t target text
        simp [replace,hsearch,hwrite,Except.map_eq_ok_iff,← hreports]
      | ok u =>
        by_cases hinside : w.root <+: backupPlace target i
        · have hreports := replaceFile_reports_iff u target text
          rw [takesTemporary_put_iff hstat hwrite] at hreports
          simp [replace,hsearch,hwrite,List.isPrefixOf_iff_prefix,hinside,Except.map_eq_ok_iff,
            ← hreports]
        · simp [replace,hsearch,hwrite,List.isPrefixOf_iff_prefix,hinside]
  · have := hall i₀ hi₀
    rw [Nat.zero_add] at this
    exact absurd this hfree₀

end Workspace

/-! ### One file -/

/-- The call is to replace a file, and no backup of it is made in the workspace. -/
def Call.IsRefused (c : Call) : Prop :=
  ∃ target bytes vs present canonical, c.Wants target bytes vs present canonical ∧
    c.workspace.RefusesBackup c.tree target bytes

/-- What ends a call without a report though the system looks at the file. -/
def Call.IsHindered (c : Call) : Prop := c.IsRefused ∨ ∃ target, c.IsUnencodable target

theorem Call.not_isHindered_of_dry {c : Call} (h : c.dryRun = true) : ¬ c.IsHindered := by
  rintro (⟨_,_,_,_,_,hwants,-⟩ | ⟨_,_,_,_,_,hwants,-⟩) <;> simp [hwants.wanted.1] at h

theorem Call.Wants.isHindered_iff {c : Call} {target : Path} {bytes : List UInt8}
    {vs : List Volume} {present : String} {canonical : Text}
    (h : c.Wants target bytes vs present canonical) :
    c.IsHindered ↔ c.workspace.RefusesBackup c.tree target bytes ∨
      (c.tree.TakesTemporary target ∧ Text.Utf8.bytes? canonical = none) := by
  refine or_congr ⟨?_,fun hrefused => ⟨_,_,_,_,_,h,hrefused⟩⟩
    ⟨?_,fun hnone => ⟨_,_,_,_,_,h,hnone⟩⟩
  · rintro ⟨_,_,_,_,_,h',hrefused⟩
    obtain ⟨rfl,rfl,-⟩ := h.unique h'
    exact hrefused
  · rintro ⟨_,_,_,_,_,h',hnone⟩
    obtain ⟨rfl,-,rfl⟩ := h.unique h'
    exact hnone

/-- A file that the system looks at is reported, unless it is to be replaced and its backup is refused
or the new text has no bytes. -/
theorem Workspace.process_reports_iff {w : Workspace} {t : Tree} {path : String} {dryRun : Bool}
    {target : Path} {found : Option Entry}
    (hlooked : Call.LooksAt ⟨w,t,path,dryRun⟩ target found) (hreal : t.IsReal target) :
    (∃ r, (w.process t path dryRun).2 = .ok r) ↔ ¬ Call.IsHindered ⟨w,t,path,dryRun⟩ := by
  rcases w.process_cases t path dryRun with ⟨m,-,hnone⟩ | ⟨r,hr,-,-,hnone⟩ |
    ⟨target',bytes,vs,present,canonical,hwants,hprocess⟩
  · exact absurd hlooked (hnone target found)
  · refine iff_of_true ⟨r,by rw [hr]⟩ ?_
    rintro (⟨_,_,_,_,_,hwants,-⟩ | ⟨_,_,_,_,_,hwants,-⟩) <;> exact hnone _ _ _ _ _ hwants
  · obtain rfl : target = target' :=
      Option.some.inj (hlooked.resolved.symm.trans hwants.resolved)
    rw [hwants.isHindered_iff,not_or,← w.replace_reports_iff hreal bytes canonical,hprocess]
    simp [Except.map_eq_ok_iff]

end ShortVolume
