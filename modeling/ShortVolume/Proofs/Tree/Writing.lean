import ShortVolume.Proofs.Tree.Real
set_option autoImplicit false

/-!
What writing leaves alone, whatever links there are, and where files can be written.

Files are written, also through links, and moved and taken away, but no directory comes or goes, and
links come only to where a link is moved. So real paths stay real.
-/

namespace ShortVolume

theorem Path.prefix_of_mem_stages {p q : Path} (h : q ∈ p.stages) : q <+: p := by
  induction p generalizing q with
  | nil =>
    rw [stages,List.mem_singleton] at h
    exact h ▸ List.prefix_refl []
  | cons name r ih =>
    rw [stages,List.mem_cons,List.mem_map] at h
    rcases h with rfl | ⟨s,hs,rfl⟩
    · exact List.nil_prefix
    · exact List.cons_prefix_cons.mpr ⟨rfl,ih hs⟩

theorem Path.name_mem {p : Path} (h : p ≠ []) : p.name ∈ p := by
  rw [name,List.getLastD_eq_getLast?,List.getLast?_eq_some_getLast h]
  exact List.getLast_mem h

namespace Tree

/-- No link is at the path. -/
def IsUnlinked (t : Tree) (p : Path) : Prop := ∀ e, t.get? p = some e → e.isLink = false

/-- Both trees have the same directories, and links come to exposed paths only. -/
structure Spares (t u : Tree) (Exposed : Path → Prop) : Prop where
  directory : ∀ p, u.get? p = some .directory ↔ t.get? p = some .directory
  unlinked : ∀ p, ¬ Exposed p → t.IsUnlinked p → u.IsUnlinked p

theorem Spares.refl (t : Tree) (Exposed : Path → Prop) : t.Spares t Exposed where
  directory := fun _ => Iff.rfl
  unlinked := fun _ _ h => h

theorem Spares.trans {t u v : Tree} {Exposed : Path → Prop} (h : t.Spares u Exposed)
    (h' : u.Spares v Exposed) : t.Spares v Exposed where
  directory := fun p => (h'.directory p).trans (h.directory p)
  unlinked := fun p hp hunlinked => h'.unlinked p hp (h.unlinked p hp hunlinked)

/-- An entry may be at the path: it lies in a directory, under a name that the system allows, and no
link is there. -/
structure IsPlace (t : Tree) (p : Path) : Prop where
  named : ∀ name ∈ p, IsName name
  directory : ∀ q, q <+: p → q ≠ p → t.get? q = some .directory
  unlinked : t.IsUnlinked p

theorem IsPlace.isReal {t : Tree} {p : Path} (h : t.IsPlace p) : t.IsReal p where
  direct := fun name hname => (h.named name hname).leadsOn
  noLink := by
    intro q e hq he
    by_cases heq : q = p
    · exact h.unlinked e (heq ▸ he)
    · rw [h.directory q hq heq] at he
      cases he
      rfl

theorem IsSound.isPlace {t : Tree} (ht : t.IsSound) {p : Path} {e : Entry}
    (h : t.get? p = some e) (he : e.isLink = false) : t.IsPlace p where
  named := ht.named p e h
  directory := fun _ hq hne => directory_above ht.parent h hq hne
  unlinked := by
    intro f hf
    rw [h] at hf
    cases hf
    exact he

theorem Spares.isPlace {t u : Tree} {Exposed : Path → Prop} (h : t.Spares u Exposed) {p : Path}
    (hp : t.IsPlace p) (hexposed : ¬ Exposed p) : u.IsPlace p where
  named := hp.named
  directory := fun q hq hne => (h.directory q).mpr (hp.directory q hq hne)
  unlinked := h.unlinked p hexposed hp.unlinked

theorem IsPlace.exists_stat {t : Tree} {p : Path} (h : t.IsPlace p) : ∃ e, t.stat p = .ok e := by
  cases he : t.get? p with
  | some e => exact ⟨some e,h.isReal.stat_of_get? he⟩
  | none =>
    have hshort : t.meetsLongName p = false := by
      refine List.any_eq_false.mpr (fun q hq => ?_)
      by_cases hne : q = []
      · simp [hne]
      · have hname : q.name ∈ p := (Path.prefix_of_mem_stages hq).subset (Path.name_mem hne)
        simp [(h.named _ hname).short]
    exact ⟨none,by rw [h.isReal.stat_of_none he,hshort]; rfl⟩

theorem Spares.isReal {t u : Tree} {Exposed : Path → Prop} (h : t.Spares u Exposed) {p : Path}
    (hp : t.IsReal p) (hexposed : ∀ q, q <+: p → ¬ Exposed q) : u.IsReal p where
  direct := hp.direct
  noLink := fun q e hq he =>
    h.unlinked q (hexposed q hq) (fun f hf => hp.noLink q f hq hf) e he

theorem ne_nil_of_not_directory {t : Tree} {p : Path} (h : t.get? p ≠ some .directory) :
    p ≠ [] := by
  rintro rfl
  exact h (get?_nil t)

theorem spares_put {t : Tree} {p : Path} (hp : t.get? p ≠ some .directory) (bytes : List UInt8)
    (Exposed : Path → Prop) : t.Spares (t.put p (.file bytes)) Exposed := by
  have hput := get?_put t (.file bytes) (ne_nil_of_not_directory hp)
  constructor
  · intro q
    rw [hput q]
    split
    · next heq =>
      rw [heq]
      simp [hp]
    · exact Iff.rfl
  · intro q _ hunlinked e he
    rw [hput q] at he
    split at he
    · cases he
      rfl
    · exact hunlinked e he

theorem spares_erase {t : Tree} {p : Path} (hp : t.get? p ≠ some .directory)
    (Exposed : Path → Prop) : t.Spares (t.erase p) Exposed := by
  have herase := get?_erase t (ne_nil_of_not_directory hp)
  constructor
  · intro q
    rw [herase q]
    split
    · next heq =>
      rw [heq]
      simp [hp]
    · exact Iff.rfl
  · intro q _ hunlinked e he
    rw [herase q] at he
    split at he
    · contradiction
    · exact hunlinked e he

theorem spares_move {t : Tree} {source target : Path} (hsource : t.get? source ≠ some .directory)
    (htarget : t.get? target ≠ some .directory) : t.Spares (t.move source target) (· = target) := by
  cases hs : t.get? source with
  | none =>
    simp only [move,hs]
    exact .refl t _
  | some e =>
    have he : e ≠ .directory := by
      rintro rfl
      exact hsource hs
    have hmove := get?_move t hs (ne_nil_of_not_directory hsource) (ne_nil_of_not_directory htarget)
    constructor
    · intro q
      rw [hmove q]
      split
      · next heq =>
        rw [heq]
        simp [he,htarget]
      · split
        · next heq =>
          rw [heq]
          simp [hsource]
        · exact Iff.rfl
    · intro q hq hunlinked f hf
      rw [hmove q,if_neg hq] at hf
      split at hf
      · contradiction
      · exact hunlinked f hf

/-- Writing puts a file where the path leads, and no directory is there. -/
theorem write_eq_ok {t u : Tree} {p : Path} {bytes : List UInt8} (h : t.write p bytes = .ok u) :
    ∃ q, t.follow p = some q ∧ t.get? q ≠ some .directory ∧ u = t.put q (.file bytes) := by
  unfold write at h
  split at h
  · contradiction
  · next q hfollow =>
    refine ⟨q,hfollow,?_⟩
    split at h
    · contradiction
    · next e hdirectory he =>
      cases h
      rw [he]
      exact ⟨fun hd => hdirectory (Option.some.inj hd),rfl⟩
    · next hfree =>
      rw [hfree]
      split at h
      · split at h
        · contradiction
        · split at h
          · contradiction
          · cases h
            exact ⟨by simp,rfl⟩
      · contradiction
      · contradiction

theorem spares_write {t u : Tree} {p : Path} {bytes : List UInt8} (h : t.write p bytes = .ok u)
    (Exposed : Path → Prop) : t.Spares u Exposed := by
  obtain ⟨q,-,hq,rfl⟩ := write_eq_ok h
  exact spares_put hq bytes Exposed

/-- No directory is where a file was written, beside a real path. -/
theorem not_directory_of_write {t u : Tree} {p : Path} (hp : t.IsReal p) {name : String}
    (hname : Path.LeadsOn name) {bytes : List UInt8} (h : t.write (p.beside name) bytes = .ok u) :
    u.get? (p.beside name) ≠ some .directory := by
  rw [ne_eq,(spares_write h (fun _ => False)).directory]
  intro hdirectory
  -- A directory leads to itself, and nothing is written over it.
  have hreal : t.IsReal (p.beside name) := by
    refine (hp.of_prefix p.parent_prefix).concat hname (fun e he => ?_)
    have : t.get? (p.beside name) = some e := he
    rw [hdirectory] at this
    cases this
    rfl
  obtain ⟨q,hfollow,hq,-⟩ := write_eq_ok h
  rw [hreal.follow_eq,Option.some.injEq] at hfollow
  exact hq (hfollow ▸ hdirectory)

/-- A file can be written where the path leads to a file or a link, or to a free place in a directory
that is not locked, under a name that is not too long. -/
theorem exists_write_iff {t : Tree} {p : Path} {bytes : List UInt8} :
    (∃ u, t.write p bytes = .ok u) ↔ ∃ q, t.follow p = some q ∧ t.get? q ≠ some .directory ∧
      (t.get? q = none → t.get? q.parent = some .directory ∧ isTooLong q.name = false ∧
        t.isLocked q.parent = false) := by
  unfold write
  cases t.follow p with
  | none => simp
  | some q =>
    simp only [Option.some.injEq,exists_eq_left']
    cases t.get? q with
    | some e => cases e <;> simp
    | none =>
      simp only [ne_eq,reduceCtorEq,not_false_eq_true,forall_const,true_and]
      cases t.get? q.parent with
      | none => simp
      | some e =>
        cases e with
        | directory => cases isTooLong q.name <;> cases t.isLocked q.parent <;> simp
        | file _ => simp
        | link _ => simp

/-! ### Where links lead to -/

def SameLinks (t u : Tree) : Prop :=
  ∀ p target, u.get? p = some (.link target) ↔ t.get? p = some (.link target)

theorem sameLinks_put {t : Tree} {p : Path} (hp : t.get? p = none) (bytes : List UInt8) :
    t.SameLinks (t.put p (.file bytes)) := by
  have hne : p ≠ [] := by
    rintro rfl
    simp at hp
  intro q target
  rw [get?_put t _ hne]
  split
  · next heq =>
    rw [heq,hp]
    simp
  · exact Iff.rfl

/-- Where names lead to depends on the links only. -/
theorem SameLinks.walk_eq {t u : Tree} (h : t.SameLinks u) (n : Nat) (place : Path)
    (names : List String) : u.walk n place names = t.walk n place names := by
  induction n generalizing place names with
  | zero => cases names <;> rfl
  | succ n ih =>
    cases names with
    | nil => rfl
    | cons name rest =>
      rw [walk,walk]
      split
      · exact ih _ _
      · split
        · exact ih _ _
        · split
          · next target hlink =>
            rw [(h _ target).mp hlink]
            exact ih _ _
          · next hlink =>
            rw [ih]
            split
            · next target hlink' => exact absurd ((h _ target).mpr hlink') (hlink target)
            · rfl

theorem SameLinks.follow_eq {t u : Tree} (h : t.SameLinks u) (p : Path) :
    u.follow p = t.follow p :=
  h.walk_eq _ _ _

/-- A file in a free place does not change where files can be written. -/
theorem exists_write_put_iff {t : Tree} {place p : Path} {bytes now : List UInt8}
    (hfree : t.get? place = none) (hwritten : ∃ q, t.follow q = some place ∧
      ∃ u, t.write q bytes = .ok u) :
    (∃ u, (t.put place (.file bytes)).write p now = .ok u) ↔ ∃ u, t.write p now = .ok u := by
  have hne : place ≠ [] := by
    rintro rfl
    simp at hfree
  obtain ⟨q,hq,hwrite⟩ := hwritten
  obtain ⟨q',hq',-,hroom⟩ := exists_write_iff.mp hwrite
  obtain rfl : place = q' := Option.some.inj (hq.symm.trans hq')
  have hroom := hroom hfree
  simp only [exists_write_iff,(sameLinks_put hfree bytes).follow_eq,isLocked_put]
  refine exists_congr (fun r => and_congr_right (fun _ => ?_))
  rw [get?_put t _ hne,get?_put t _ hne]
  by_cases hr : r = place
  · simp [hr,hfree,hroom]
  · by_cases hparent : r.parent = place
    · simp [hr,hparent,hfree]
    · simp [hr,hparent]

end Tree

end ShortVolume
