import ShortVolume.Tree
set_option autoImplicit false

/-!
File systems without links.

Each entry lies in a directory, under a name that leads on. Where there are no links a path leads to
itself, so looking at a path and writing to it come down to `get?` and `put`.
-/

namespace ShortVolume

namespace Path

/-- The name leads from a directory to an entry in it. -/
def LeadsOn (name : String) : Prop := name ≠ "" ∧ name ≠ "." ∧ name ≠ ".."

instance (name : String) : Decidable (LeadsOn name) := inferInstanceAs (Decidable (_ ∧ _))

def IsDirect (p : Path) : Prop := ∀ name ∈ p, LeadsOn name

instance (p : Path) : Decidable (IsDirect p) := inferInstanceAs (Decidable (∀ name ∈ p, LeadsOn name))

@[simp] theorem parent_beside (p : Path) (name : String) : (p.beside name).parent = p.parent :=
  List.dropLast_concat

@[simp] theorem name_beside (p : Path) (name : String) : (p.beside name).name = name :=
  List.getLastD_concat

theorem beside_ne_nil (p : Path) (name : String) : p.beside name ≠ [] := by
  simp [beside]

theorem beside_inj {p : Path} {a b : String} (h : p.beside a = p.beside b) : a = b := by
  rw [← name_beside p a,h,name_beside]

theorem IsDirect.beside {p : Path} (h : p.IsDirect) {name : String} (hn : LeadsOn name) :
    (p.beside name).IsDirect := by
  intro other hother
  rcases List.mem_append.mp hother with hparent | hname
  · exact h other (List.dropLast_subset p hparent)
  · rw [List.mem_singleton.mp hname]
    exact hn

/-- The last stage of a path is the path. -/
theorem self_mem_stages (p : Path) : p ∈ p.stages := by
  induction p with
  | nil => simp [stages]
  | cons name r ih => simp [stages,ih]

end Path

def Entry.isLink : Entry → Bool
  | link _ => true
  | _ => false

namespace Tree

/-! ### Looking up -/

@[simp] theorem get?_nil (t : Tree) : t.get? [] = some .directory := by
  simp [get?]

theorem get?_put (t : Tree) {p : Path} (e : Entry) (h : p ≠ []) (q : Path) :
    (t.put p e).get? q = if q = p then some e else t.get? q := by
  by_cases hq : q = p
  · rw [if_pos hq,hq,get?_put_self t p e h]
  · rw [if_neg hq,get?_put_of_ne t e hq]

/-- What is put where nothing was hides nothing. -/
theorem get?_put_of_free {t : Tree} {p q : Path} {e : Entry} (hfree : t.get? p = none)
    (hq : t.get? q = some e) (e' : Entry) : (t.put p e').get? q = some e := by
  rw [get?_put_of_ne,hq]
  rintro rfl
  simp [hfree] at hq

theorem get?_erase (t : Tree) {p : Path} (h : p ≠ []) (q : Path) :
    (t.erase p).get? q = if q = p then none else t.get? q := by
  unfold get? erase
  by_cases hroot : q = []
  · rw [if_pos hroot,if_pos hroot,if_neg (fun hq => h (hq.symm.trans hroot))]
  · rw [if_neg hroot,if_neg hroot,List.find?_filter]
    by_cases hq : q = p
    · subst hq
      simp
    · rw [if_neg hq]
      congr 2
      funext x
      by_cases hx : x.1 = q
      · simp [hx,hq]
      · simp [hx]

theorem get?_move (t : Tree) {source target : Path} {e : Entry} (h : t.get? source = some e)
    (hsource : source ≠ []) (htarget : target ≠ []) (q : Path) :
    (t.move source target).get? q =
      if q = target then some e else if q = source then none else t.get? q := by
  simp only [move,h,get?_put _ _ htarget,get?_erase _ hsource]

theorem mem_entries_of_get? {t : Tree} {p : Path} {e : Entry} (hp : p ≠ [])
    (h : t.get? p = some e) : (p,e) ∈ t.entries := by
  rw [get?,if_neg hp,Option.map_eq_some_iff] at h
  obtain ⟨⟨q,e⟩,hfind,rfl⟩ := h
  have hq := List.find?_some hfind
  rw [beq_iff_eq] at hq
  rw [← hq]
  exact List.mem_of_find?_eq_some hfind

@[simp] theorem isLocked_put (t : Tree) (p : Path) (e : Entry) (q : Path) :
    (t.put p e).isLocked q = t.isLocked q := rfl

/-- The second tree is the first but for the file at a path. -/
def IsUpdate (t u : Tree) (p : Path) (bytes : List UInt8) : Prop :=
  ∀ q, u.get? q = if q = p then some (.file bytes) else t.get? q

theorem isUpdate_put (t : Tree) {p : Path} (bytes : List UInt8) (h : p ≠ []) :
    t.IsUpdate (t.put p (.file bytes)) p bytes :=
  get?_put t _ h

/-! ### Without links -/

/-- A file system without links. -/
structure IsPlain (t : Tree) : Prop where
  direct : ∀ p e, t.get? p = some e → p.IsDirect
  parent : ∀ p e, t.get? p = some e → t.get? p.parent = some .directory
  noLink : ∀ p e, t.get? p = some e → e.isLink = false

/-- A tree is plain if the entries that it lists are, since the root always is. -/
theorem isPlain_of_entries {t : Tree}
    (h : ∀ e ∈ t.entries,
      e.1.IsDirect ∧ t.get? e.1.parent = some .directory ∧ e.2.isLink = false) : t.IsPlain := by
  have hall : ∀ p e, t.get? p = some e →
      p.IsDirect ∧ t.get? p.parent = some .directory ∧ e.isLink = false := by
    intro p e hp
    by_cases hroot : p = []
    · subst hroot
      rw [get?_nil] at hp
      cases hp
      exact ⟨by simp [Path.IsDirect],get?_nil t,rfl⟩
    · exact h (p,e) (mem_entries_of_get? hroot hp)
  exact ⟨fun p e hp => (hall p e hp).1,fun p e hp => (hall p e hp).2.1,
    fun p e hp => (hall p e hp).2.2⟩

section Plain
variable {t : Tree} (ht : t.IsPlain)
include ht

theorem parent_beside {p : Path} {e : Entry} (h : t.get? p = some e) (name : String) :
    t.get? (p.beside name).parent = some .directory := by
  rw [Path.parent_beside]
  exact ht.parent p e h

theorem walk_direct {names : List String} (hn : Path.IsDirect names) {n : Nat}
    (h : names.length ≤ n) (place : Path) : t.walk n place names = some (place ++ names) := by
  induction names generalizing n place with
  | nil => cases n <;> simp [walk]
  | cons name rest ih =>
    cases n with
    | zero => simp at h
    | succ n =>
      obtain ⟨hempty,hself,hparent⟩ := hn name (by simp)
      have hrest := ih (fun other hother => hn other (by simp [hother])) (Nat.le_of_succ_le_succ h)
        (place ++ [name])
      rw [List.append_assoc,List.singleton_append] at hrest
      rw [walk]
      simp only [hempty,hself,hparent,or_self,if_false]
      split
      · next target hlink => exact absurd (ht.noLink _ _ hlink) (by simp [Entry.isLink])
      · exact hrest

theorem follow_direct {p : Path} (hp : p.IsDirect) : t.follow p = some p := by
  rw [follow,walk_direct ht hp (by omega)]
  rfl

theorem stat_direct {p : Path} (hp : p.IsDirect) :
    t.stat p = match t.get? p with
      | some e => .ok (some e)
      | none => if t.meetsLongName p then .error .nameTooLong else .ok none := by
  cases h : t.get? p <;> simp [stat,follow_direct ht hp,h]

/-- A path that nothing is at, with a name that is not too long if it lies in a directory. -/
theorem stat_eq_none {p : Path} (hp : p.IsDirect) (hne : p ≠ []) (h : t.stat p = .ok none)
    (hd : t.get? p.parent = some .directory) : t.get? p = none ∧ isTooLong p.name = false := by
  rw [stat_direct ht hp] at h
  split at h
  · simp at h
  · next hfree =>
    refine ⟨hfree,?_⟩
    split at h
    · contradiction
    · next hshort =>
      have hlast := List.any_eq_false.mp (Bool.eq_false_iff.mpr hshort) p p.self_mem_stages
      simpa [hne,isDirectory,hd] using hlast

theorem get?_of_stat {p : Path} (hp : p.IsDirect) {e : Entry} (h : t.stat p = .ok (some e)) :
    t.get? p = some e := by
  rw [stat_direct ht hp] at h
  split at h
  · next e' he =>
    rw [he]
    exact Except.ok.inj h
  · split at h <;> simp at h

theorem write_direct {p : Path} (hp : p.IsDirect) (hfree : t.get? p = none)
    (hd : t.get? p.parent = some .directory) (hshort : isTooLong p.name = false)
    (hopen : t.isLocked p.parent = false) (bytes : List UInt8) :
    t.write p bytes = .ok (t.put p (.file bytes)) := by
  simp [write,follow_direct ht hp,hfree,hd,hshort,hopen]

theorem write_locked {p : Path} (hp : p.IsDirect) (hfree : t.get? p = none)
    (hd : t.get? p.parent = some .directory) (hshort : isTooLong p.name = false)
    (hlocked : t.isLocked p.parent = true) (bytes : List UInt8) :
    t.write p bytes = .error .permissionDenied := by
  simp [write,follow_direct ht hp,hfree,hd,hshort,hlocked]

/-- A file may be written over, also in a locked directory. -/
theorem write_over {p : Path} (hp : p.IsDirect) {old : List UInt8}
    (hfile : t.get? p = some (.file old)) (bytes : List UInt8) :
    t.write p bytes = .ok (t.put p (.file bytes)) := by
  simp [write,follow_direct ht hp,hfile]

/-- A file system stays plain if its directories stay and what comes is no link and lies in one of
them. -/
theorem IsPlain.of_directories {u : Tree}
    (hdirectory : ∀ p, t.get? p = some .directory → u.get? p = some .directory)
    (hnew : ∀ p e, u.get? p = some e → t.get? p = some e ∨
      p.IsDirect ∧ t.get? p.parent = some .directory ∧ e.isLink = false) : u.IsPlain where
  direct := fun p e he => (hnew p e he).elim (ht.direct p e) And.left
  parent := fun p e he => hdirectory _ ((hnew p e he).elim (ht.parent p e) (·.2.1))
  noLink := fun p e he => (hnew p e he).elim (ht.noLink p e) (·.2.2)

/-- Files come and change in plain trees. -/
theorem IsPlain.update {u : Tree} {p : Path} {bytes : List UInt8} (h : t.IsUpdate u p bytes)
    (hp : p.IsDirect) (hd : t.get? p.parent = some .directory)
    (hfile : t.get? p ≠ some .directory) : u.IsPlain where
  direct := by
    intro q e hq
    rw [h q] at hq
    split at hq
    · next heq => exact heq ▸ hp
    · exact ht.direct q e hq
  parent := by
    intro q e hq
    have hparent : t.get? q.parent = some .directory := by
      rw [h q] at hq
      split at hq
      · next heq => exact heq ▸ hd
      · exact ht.parent q e hq
    rw [h q.parent,if_neg,hparent]
    intro heq
    exact hfile (heq ▸ hparent)
  noLink := by
    intro q e hq
    rw [h q] at hq
    split at hq
    · cases hq
      rfl
    · exact ht.noLink q e hq

end Plain

end Tree

end ShortVolume
