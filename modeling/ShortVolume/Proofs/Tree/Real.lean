import Mathlib.Data.List.Induction
import ShortVolume.Proofs.Text.Split
import ShortVolume.Proofs.Tree.Plain
set_option autoImplicit false

/-!
File systems with links, and the paths in them that meet none.

A path is real if neither it nor what leads to it is a link. Names lead only to real paths, and a real
path leads to itself. In a sound file system, where every entry lies in a directory under a name that
the system allows, the text of the names below a directory leads back to them.
-/

namespace ShortVolume

/-! ### Names -/

/-- A name that an entry may have. -/
structure IsName (name : String) : Prop where
  leadsOn : Path.LeadsOn name
  noSlash : '/' ∉ name.toList
  noNul : '\x00' ∉ name.toList
  short : isTooLong name = false

instance (name : String) : Decidable (IsName name) :=
  decidable_of_iff (Path.LeadsOn name ∧ '/' ∉ name.toList ∧ '\x00' ∉ name.toList ∧
      isTooLong name = false)
    ⟨fun ⟨hleads,hslash,hnul,hshort⟩ => ⟨hleads,hslash,hnul,hshort⟩,
      fun ⟨hleads,hslash,hnul,hshort⟩ => ⟨hleads,hslash,hnul,hshort⟩⟩

namespace Path

theorem toList_relative (p : Path) :
    (relative p).toList = Text.joinWith '/' (p.map String.toList) := by
  induction p with
  | nil => rfl
  | cons name r ih =>
    cases r with
    | nil => simp [relative,Text.joinWith]
    | cons other r =>
      rw [relative,String.toList_intercalate] at ih ⊢
      simp only [List.map_cons,List.intercalate_cons_cons] at ih ⊢
      rw [ih,Text.joinWith_cons _ _ (List.cons_ne_nil _ _),List.append_assoc]
      rfl

theorem names_relative {p : Path} (hne : p ≠ []) (h : ∀ name ∈ p, '/' ∉ name.toList) :
    names (relative p) = p := by
  have hsplit : Text.splitOn '/' (Text.joinWith '/' (p.map String.toList)) = p.map String.toList := by
    refine Text.splitOn_joinWith (by simpa using hne) ?_
    intro l hl
    obtain ⟨name,hname,rfl⟩ := List.mem_map.mp hl
    exact h name hname
  rw [names,toList_relative,hsplit,List.map_map]
  simp

/-- A text of names without slashes tells the names. -/
theorem relative_inj {p q : Path} (hp : p ≠ []) (hq : q ≠ []) (hps : ∀ name ∈ p, '/' ∉ name.toList)
    (hqs : ∀ name ∈ q, '/' ∉ name.toList) (h : relative p = relative q) : p = q := by
  rw [← names_relative hp hps,h,names_relative hq hqs]

theorem not_isAbsolute_relative {p : Path} (h : ∀ name ∈ p, IsName name) :
    isAbsolute (relative p) = false := by
  cases p with
  | nil => rfl
  | cons name r =>
    obtain ⟨hleads,hslash,-,-⟩ := h name List.mem_cons_self
    cases hchars : name.toList with
    | nil => exact absurd (String.toList_eq_nil_iff.mp hchars) hleads.1
    | cons c cs =>
      have hc : c ≠ '/' := by
        rintro rfl
        exact hslash (hchars ▸ List.mem_cons_self)
      cases r <;> simp [isAbsolute,toList_relative,Text.joinWith,hchars,hc]

theorem not_holdsNul_relative {p : Path} (h : ∀ name ∈ p, IsName name) :
    holdsNul (relative p) = false := by
  rw [holdsNul,Bool.eq_false_iff]
  intro hnul
  rw [List.contains_iff_mem,toList_relative] at hnul
  rcases Text.mem_joinWith hnul with hsep | ⟨l,hl,hc⟩
  · exact absurd hsep (by decide)
  · obtain ⟨name,hname,rfl⟩ := List.mem_map.mp hl
    exact (h name hname).noNul hc

theorem parent_prefix (p : Path) : p.parent <+: p := List.dropLast_prefix p

theorem parent_concat (p : Path) (name : String) : parent (p ++ [name]) = p :=
  List.dropLast_concat

end Path

namespace Tree

/-! ### Real paths -/

/-- Names lead on to the path without a link. -/
structure IsReal (t : Tree) (p : Path) : Prop where
  direct : p.IsDirect
  noLink : ∀ q e, q <+: p → t.get? q = some e → e.isLink = false

theorem isReal_nil (t : Tree) : t.IsReal [] where
  direct := by simp [Path.IsDirect]
  noLink := by
    intro q e hq he
    rw [List.prefix_nil.mp hq,get?_nil] at he
    cases he
    rfl

theorem IsReal.of_prefix {t : Tree} {p q : Path} (h : t.IsReal p) (hq : q <+: p) : t.IsReal q where
  direct := fun name hname => h.direct name (hq.subset hname)
  noLink := fun r e hr he => h.noLink r e (hr.trans hq) he

theorem IsReal.concat {t : Tree} {p : Path} (h : t.IsReal p) {name : String}
    (hname : Path.LeadsOn name) (hlink : ∀ e, t.get? (p ++ [name]) = some e → e.isLink = false) :
    t.IsReal (p ++ [name]) where
  direct := by
    intro other hother
    rcases List.mem_append.mp hother with hp | hlast
    · exact h.direct other hp
    · rw [List.mem_singleton.mp hlast]
      exact hname
  noLink := by
    intro q e hq he
    rcases List.prefix_concat_iff.mp hq with rfl | hp
    · exact hlink e he
    · exact h.noLink q e hp he

theorem isReal_of_walk {t : Tree} {n : Nat} {place q : Path} {names : List String}
    (hplace : t.IsReal place) (h : t.walk n place names = some q) : t.IsReal q := by
  induction n generalizing place names with
  | zero =>
    cases names with
    | nil =>
      rw [walk] at h
      exact Option.some.inj h ▸ hplace
    | cons name rest => simp [walk] at h
  | succ n ih =>
    cases names with
    | nil =>
      rw [walk] at h
      exact Option.some.inj h ▸ hplace
    | cons name rest =>
      rw [walk] at h
      split at h
      · exact ih hplace h
      · next hself =>
        split at h
        · exact ih (hplace.of_prefix place.parent_prefix) h
        · next hup =>
          split at h
          · refine ih ?_ h
            split
            · exact isReal_nil t
            · exact hplace
          · next hlink =>
            -- What the name leads to is no link, so the way goes on from there.
            refine ih (hplace.concat ⟨fun he => hself (.inl he),fun he => hself (.inr he),hup⟩ ?_) h
            intro e he
            cases e with
            | link target => exact absurd he (hlink target)
            | directory => rfl
            | file bytes => rfl

theorem isReal_of_resolve {t : Tree} {directory q : Path} {s : String}
    (hd : t.IsReal directory) (h : t.resolve directory s = some q) : t.IsReal q := by
  refine isReal_of_walk ?_ h
  split
  · exact isReal_nil t
  · exact hd

theorem walk_real {t : Tree} {place : Path} {names : List String} (h : t.IsReal (place ++ names))
    {n : Nat} (hn : names.length ≤ n) : t.walk n place names = some (place ++ names) := by
  induction names generalizing n place with
  | nil => cases n <;> simp [walk]
  | cons name rest ih =>
    cases n with
    | zero => simp at hn
    | succ n =>
      obtain ⟨hempty,hself,hparent⟩ := h.direct name (by simp)
      have hinside : t.IsReal (place ++ [name] ++ rest) := by simpa using h
      have hrest := ih hinside (Nat.le_of_succ_le_succ hn)
      rw [List.append_assoc,List.singleton_append] at hrest
      rw [walk]
      simp only [hempty,hself,hparent,or_self,if_false]
      split
      · next target hlink =>
        have := h.noLink (place ++ [name]) _ ⟨rest,by simp⟩ hlink
        simp [Entry.isLink] at this
      · exact hrest

theorem IsReal.follow_eq {t : Tree} {p : Path} (h : t.IsReal p) : t.follow p = some p := by
  rw [follow,walk_real (by simpa using h) (by omega)]
  rfl

theorem IsReal.stat_of_get? {t : Tree} {p : Path} (h : t.IsReal p) {e : Entry}
    (he : t.get? p = some e) : t.stat p = .ok (some e) := by
  simp [stat,h.follow_eq,he]

theorem IsReal.stat_of_none {t : Tree} {p : Path} (h : t.IsReal p) (hp : t.get? p = none) :
    t.stat p = if t.meetsLongName p then .error .nameTooLong else .ok none := by
  simp [stat,h.follow_eq,hp]

theorem IsReal.get?_of_stat {t : Tree} {p : Path} (h : t.IsReal p) {e : Entry}
    (he : t.stat p = .ok (some e)) : t.get? p = some e := by
  cases hp : t.get? p with
  | none =>
    rw [h.stat_of_none hp] at he
    split at he <;> simp at he
  | some e' =>
    rw [h.stat_of_get? hp] at he
    exact Except.ok.inj he

/-- Where no entry is, beside a real path, a look finds none. -/
theorem IsReal.beside {t : Tree} {p : Path} (h : t.IsReal p) {name : String}
    (hname : Path.LeadsOn name) (hfree : t.get? (p.beside name) = none) :
    t.IsReal (p.beside name) := by
  refine (h.of_prefix p.parent_prefix).concat hname ?_
  intro e he
  have : t.get? (p.beside name) = some e := he
  simp [hfree] at this

/-! ### Sound file systems -/

/-- Each entry is listed once and lies in a directory, under a name that the system allows. -/
structure IsSound (t : Tree) : Prop where
  recorded : ∀ e ∈ t.entries, t.get? e.1 = some e.2
  named : ∀ p e, t.get? p = some e → ∀ name ∈ p, IsName name
  parent : ∀ p e, t.get? p = some e → t.get? p.parent = some .directory

theorem isSound_of_entries {t : Tree}
    (h : ∀ e ∈ t.entries, t.get? e.1 = some e.2 ∧ (∀ name ∈ e.1, IsName name) ∧
      t.get? e.1.parent = some .directory) : t.IsSound where
  recorded := fun e he => (h e he).1
  named := by
    intro p e hp
    by_cases hroot : p = []
    · simp [hroot]
    · exact (h (p,e) (mem_entries_of_get? hroot hp)).2.1
  parent := by
    intro p e hp
    by_cases hroot : p = []
    · subst hroot
      exact get?_nil t
    · exact (h (p,e) (mem_entries_of_get? hroot hp)).2.2

/-- What leads to an entry is a directory, if every entry lies in one. -/
theorem directory_above {t : Tree}
    (hparent : ∀ p e, t.get? p = some e → t.get? p.parent = some .directory) {p q : Path} {e : Entry}
    (h : t.get? p = some e) (hq : q <+: p) (hne : q ≠ p) : t.get? q = some .directory := by
  induction p using List.reverseRecOn generalizing e with
  | nil => exact absurd (List.prefix_nil.mp hq) hne
  | append_singleton p name ih =>
    have hdirectory := hparent _ _ h
    rw [Path.parent_concat] at hdirectory
    rcases List.prefix_concat_iff.mp hq with hself | hp
    · exact absurd hself hne
    · by_cases heq : q = p
      · rw [heq]
        exact hdirectory
      · exact ih hdirectory hp heq

theorem IsSound.isReal {t : Tree} (ht : t.IsSound) {p : Path} {e : Entry} (h : t.get? p = some e)
    (he : e.isLink = false) : t.IsReal p where
  direct := fun name hname => (ht.named p e h name hname).leadsOn
  noLink := by
    intro q f hq hf
    by_cases heq : q = p
    · rw [heq,h] at hf
      cases hf
      exact he
    · rw [directory_above ht.parent h hq heq] at hf
      cases hf
      rfl

/-- The text of names leads from a directory to the entry under them. -/
theorem resolve_relative {t : Tree} {root p : Path} (hnames : ∀ name ∈ p, IsName name)
    (hne : p ≠ []) (h : t.IsReal (root ++ p)) : t.resolve root p.relative = some (root ++ p) := by
  have hsplit := Path.names_relative hne (fun name hname => (hnames name hname).noSlash)
  simp only [resolve,hsplit,Path.not_isAbsolute_relative hnames,Bool.false_eq_true,if_false]
  exact walk_real h (by omega)

end Tree

end ShortVolume
