import ShortVolume.Proofs.Text.Case
import ShortVolume.Proofs.Tree.Pattern
import ShortVolume.Workspace
set_option autoImplicit false

/-!
The files that a scan processes.

For an extension without wildcards they are the files below the workspace whose names end in the
extension, in lower or in upper case, without the backups. Each is processed once. The search for them
fails only where the system refuses to look at a link with such a name.
-/

namespace ShortVolume

/-! ### Lists filtered with refusals -/

section Filter
variable {α : Type} {ε : Type} {f : α → Except ε Bool}

theorem mem_of_filterAuxM {l acc r : List α} (h : List.filterAuxM f l acc = .ok r) {a : α} :
    a ∈ r ↔ a ∈ acc ∨ a ∈ l ∧ f a = .ok true := by
  induction l generalizing acc with
  | nil =>
    rw [List.filterAuxM] at h
    cases h
    simp
  | cons b l ih =>
    rw [List.filterAuxM] at h
    cases hb : f b with
    | error e =>
      rw [hb] at h
      contradiction
    | ok kept =>
      rw [hb] at h
      rw [ih h]
      cases kept with
      | false =>
        simp only [cond_false,List.mem_cons]
        constructor
        · rintro (hacc | ⟨hl,ha⟩)
          · exact .inl hacc
          · exact .inr ⟨.inr hl,ha⟩
        · rintro (hacc | ⟨rfl | hl,ha⟩)
          · exact .inl hacc
          · simp [hb] at ha
          · exact .inr ⟨hl,ha⟩
      | true =>
        simp only [cond_true,List.mem_cons]
        constructor
        · rintro ((rfl | hacc) | ⟨hl,ha⟩)
          · exact .inr ⟨.inl rfl,hb⟩
          · exact .inl hacc
          · exact .inr ⟨.inr hl,ha⟩
        · rintro (hacc | ⟨rfl | hl,ha⟩)
          · exact .inl (.inr hacc)
          · exact .inl (.inl rfl)
          · exact .inr ⟨hl,ha⟩

theorem exists_filterAuxM (l acc : List α) :
    (∃ r, List.filterAuxM f l acc = .ok r) ↔ ∀ a ∈ l, ∃ b, f a = .ok b := by
  induction l generalizing acc with
  | nil => simp [List.filterAuxM,pure,Except.pure]
  | cons a l ih =>
    rw [List.filterAuxM,List.forall_mem_cons]
    cases ha : f a with
    | error e => simp [bind,Except.bind]
    | ok kept => simpa [bind,Except.bind] using ih _

theorem mem_of_filterM {l r : List α} (h : l.filterM f = .ok r) {a : α} :
    a ∈ r ↔ a ∈ l ∧ f a = .ok true := by
  rw [List.filterM] at h
  cases haux : List.filterAuxM f l [] with
  | error e =>
    rw [haux] at h
    contradiction
  | ok s =>
    rw [haux] at h
    cases h
    rw [List.mem_reverse,mem_of_filterAuxM haux]
    simp

theorem exists_filterM (l : List α) :
    (∃ r, l.filterM f = .ok r) ↔ ∀ a ∈ l, ∃ b, f a = .ok b := by
  rw [← exists_filterAuxM l [],List.filterM]
  cases List.filterAuxM f l [] <;> simp [bind,Except.bind,pure,Except.pure]

end Filter

theorem nodup_eraseDups {α : Type} [BEq α] [LawfulBEq α] (l : List α) : l.eraseDups.Nodup := by
  match l with
  | [] => simp
  | a :: l =>
    rw [List.eraseDups_cons]
    refine List.nodup_cons.mpr ⟨?_,nodup_eraseDups _⟩
    rw [List.mem_eraseDups,List.mem_filter]
    simp
termination_by l.length
decreasing_by exact Nat.lt_succ_of_le (List.length_filter_le _ _)

/-! ### Extensions -/

namespace Glob

theorem isSign_of_isWildcard {c : Char} (h : isWildcard c = true) : Text.isSign c = true := by
  simp only [isWildcard,Bool.or_eq_true,beq_iff_eq] at h
  rcases h with (rfl | rfl) | rfl <;> decide

theorem IsLiteral.of_signs {s u : String} (h : IsLiteral s)
    (hsigns : ∀ c ∈ u.toList, Text.isSign c = true → c ∈ s.toList) : IsLiteral u := by
  intro c hc
  constructor
  · rintro rfl
    exact h.slash_not_mem (hsigns _ hc (by decide))
  · refine Bool.eq_false_iff.mpr (fun hwild => ?_)
    have := (h c (hsigns c hc (isSign_of_isWildcard hwild))).2
    simp [hwild] at this

theorem IsLiteral.lower {s : String} (h : IsLiteral s) : IsLiteral (Text.lower s) :=
  h.of_signs (fun _ hc hsign => Text.mem_of_mem_lower hc hsign)

theorem IsLiteral.upper {s : String} (h : IsLiteral s) : IsLiteral (Text.upper s) :=
  h.of_signs (fun _ hc hsign => Text.mem_of_mem_upper hc hsign)

end Glob

/-- The name ends in the extension, in lower or in upper case. -/
def HasExtension (extension name : String) : Prop :=
  (Text.lower extension).toList <:+ name.toList ∨ (Text.upper extension).toList <:+ name.toList

namespace Workspace

/-- The names lead from the workspace to an entry with the extension. -/
structure Finds (w : Workspace) (t : Tree) (extension : String) (p : Path) : Prop where
  ne_nil : p ≠ []
  ending : HasExtension extension p.name
  entry : ∃ e, t.get? (w.root ++ p) = some e

/-- The names lead from the workspace to a file with the extension that is no backup. -/
structure Matches (w : Workspace) (t : Tree) (extension : String) (p : Path) : Prop where
  ne_nil : p ≠ []
  ending : HasExtension extension p.name
  file : ∃ bytes, t.get? (w.root ++ p) = some (.file bytes)
  noBackup : ¬ backupSuffix.toList <:+ p.name.toList

theorem Matches.finds {w : Workspace} {t : Tree} {extension : String} {p : Path}
    (h : w.Matches t extension p) : w.Finds t extension p where
  ne_nil := h.ne_nil
  ending := h.ending
  entry := by
    obtain ⟨bytes,hfile⟩ := h.file
    exact ⟨_,hfile⟩

section Sound
variable {t : Tree} (ht : t.IsSound)
include ht

theorem isFile_eq_true_iff {f : Glob.Found} :
    isFile t f = .ok true ↔ (∃ bytes, t.get? f.path = some (.file bytes)) ∧
      ¬ backupSuffix.toList <:+ f.names.name.toList := by
  constructor
  · intro h
    unfold isFile at h
    split at h
    · contradiction
    · simp only [Except.ok.injEq,Bool.and_eq_true,Bool.not_eq_true',Bool.eq_false_iff,ne_eq,
        List.isSuffixOf_iff_suffix] at h
      obtain ⟨hfile,hbackup⟩ := h
      refine ⟨?_,hbackup⟩
      split at hfile
      · next bytes hget => exact ⟨bytes,hget⟩
      · contradiction
  · rintro ⟨⟨bytes,hget⟩,hbackup⟩
    rw [← List.isSuffixOf_iff_suffix,Bool.not_eq_true] at hbackup
    simp only [isFile,(ht.isReal hget rfl).stat_of_get? hget,hget,hbackup]
    rfl

variable (w : Workspace)

theorem search_star {s : String} (hs : Glob.IsLiteral s) :
    ∃ found, w.search t ("*" ++ s) = .ok found ∧ ∀ g, g ∈ found ↔
      g.path = w.root ++ g.names ∧ g.names ≠ [] ∧ s.toList <:+ g.names.name.toList ∧
        ∃ e, t.get? (w.root ++ g.names) = some e := by
  have hselect := Glob.select_anywhere_like t ("*" ++ s) ⟨[],w.root⟩
  refine ⟨_,by simp only [search,Glob.segments?_star hs,hselect]; rfl,fun g => ?_⟩
  rw [Glob.mem_select ht hselect,Glob.matchesName_star hs]

variable {extension : String} (hext : Glob.IsLiteral extension)
include hext

/-- All that both patterns of an extension find. -/
theorem exists_found :
    ∃ found : List (List Glob.Found), (patterns extension).mapM (w.search t) = .ok found ∧
      ∀ g, g ∈ found.flatten ↔ g.path = w.root ++ g.names ∧ w.Finds t extension g.names := by
  obtain ⟨lower,hlower,hmemlower⟩ := search_star ht w hext.lower
  obtain ⟨upper,hupper,hmemupper⟩ := search_star ht w hext.upper
  refine ⟨[lower,upper],?_,fun g => ?_⟩
  · simp only [patterns,List.mapM_cons,List.mapM_nil,hlower,hupper]
    rfl
  · simp only [List.flatten_cons,List.flatten_nil,List.append_nil,List.mem_append,hmemlower,hmemupper]
    constructor
    · rintro (⟨hpath,hne,hending,hentry⟩ | ⟨hpath,hne,hending,hentry⟩)
      · exact ⟨hpath,hne,.inl hending,hentry⟩
      · exact ⟨hpath,hne,.inr hending,hentry⟩
    · rintro ⟨hpath,hne,hending | hending,hentry⟩
      · exact .inl ⟨hpath,hne,hending,hentry⟩
      · exact .inr ⟨hpath,hne,hending,hentry⟩

/-- A scan processes each matching file once, and nothing else. -/
theorem mem_matching {files : List Path} (h : w.matching t extension = .ok files) :
    files.Nodup ∧ ∀ p, p ∈ files ↔ w.Matches t extension p := by
  obtain ⟨found,hfound,hmem⟩ := exists_found ht w hext
  rw [matching,hfound] at h
  cases hfilter : found.flatten.filterM (isFile t) with
  | error m =>
    simp only [bind,Except.bind,hfilter] at h
    contradiction
  | ok kept =>
    simp only [bind,Except.bind,hfilter,pure,Except.pure,Except.ok.injEq] at h
    subst h
    refine ⟨(List.mergeSort_perm _ _).nodup_iff.mpr (nodup_eraseDups _),fun p => ?_⟩
    rw [(List.mergeSort_perm _ _).mem_iff,List.mem_eraseDups,List.mem_map]
    constructor
    · rintro ⟨g,hg,rfl⟩
      rw [mem_of_filterM hfilter,hmem,isFile_eq_true_iff ht] at hg
      obtain ⟨⟨hpath,hfinds⟩,hfile,hbackup⟩ := hg
      rw [hpath] at hfile
      exact ⟨hfinds.ne_nil,hfinds.ending,hfile,hbackup⟩
    · intro hp
      refine ⟨⟨p,w.root ++ p⟩,?_,rfl⟩
      rw [mem_of_filterM hfilter,hmem,isFile_eq_true_iff ht]
      exact ⟨⟨rfl,hp.finds⟩,hp.file,hp.noBackup⟩

/-- The search fails exactly if the system refuses to look at something with the extension. -/
theorem exists_matching :
    (∃ files, w.matching t extension = .ok files) ↔
      ∀ p, w.Finds t extension p → ∃ e, t.stat (w.root ++ p) = .ok e := by
  obtain ⟨found,hfound,hmem⟩ := exists_found ht w hext
  have hfilter : (∃ files, w.matching t extension = .ok files) ↔
      ∃ kept, found.flatten.filterM (isFile t) = .ok kept := by
    rw [matching,hfound]
    cases hkept : found.flatten.filterM (isFile t) <;>
      simp [bind,Except.bind,pure,Except.pure,hkept]
  have hlook : ∀ g, (∃ b, isFile t g = .ok b) ↔ ∃ e, t.stat g.path = .ok e := by
    intro g
    unfold isFile
    cases t.stat g.path <;> simp
  rw [hfilter,exists_filterM]
  constructor
  · intro h p hp
    exact (hlook _).mp (h ⟨p,w.root ++ p⟩ ((hmem _).mpr ⟨rfl,hp⟩))
  · intro h g hg
    obtain ⟨hpath,hp⟩ := (hmem g).mp hg
    rw [hlook,hpath]
    exact h _ hp

end Sound

end Workspace

end ShortVolume
