import ShortVolume.Proofs.Tree.Real
import ShortVolume.Tree.Pattern
set_option autoImplicit false

/-!
The search for names with an ending.

A star before an ending without wildcards matches the names with that ending. Such a search below a
directory never fails, and in a sound file system it finds each entry with a matching name, under the
names that lead to it from there.
-/

namespace ShortVolume.Glob

/-! ### The pattern -/

/-- The text has no character with a meaning of its own in patterns. -/
def IsLiteral (s : String) : Prop := ∀ c ∈ s.toList, c ≠ '/' ∧ isWildcard c = false

instance (s : String) : Decidable (IsLiteral s) := List.decidableBAll _ s.toList

theorem IsLiteral.star_not_mem {s : String} (h : IsLiteral s) : '*' ∉ s.toList := by
  intro hstar
  exact absurd (h '*' hstar).2 (by decide)

theorem IsLiteral.slash_not_mem {s : String} (h : IsLiteral s) : '/' ∉ s.toList :=
  fun hslash => (h '/' hslash).1 rfl

theorem hasDoubledStar_of_not_mem {l : List Char} (h : '*' ∉ l) : hasDoubledStar l = false := by
  induction l with
  | nil => rfl
  | cons c r ih =>
    obtain ⟨hc,hr⟩ := not_or.mp (mt List.mem_cons.mpr h)
    rw [hasDoubledStar]
    · exact ih hr
    · rintro _ rfl
      contradiction

theorem hasDoubledStar_star_cons {l : List Char} (h : '*' ∉ l) :
    hasDoubledStar ('*' :: l) = false := by
  rw [hasDoubledStar]
  · exact hasDoubledStar_of_not_mem h
  · rintro r - rfl
    simp at h

theorem toList_star (s : String) : ("*" ++ s).toList = '*' :: s.toList := by
  rw [String.toList_append]
  rfl

theorem star_ne {s other : String} (h : other.toList.head? ≠ some '*') : "*" ++ s ≠ other := by
  rintro rfl
  rw [toList_star] at h
  simp at h

/-- A star before a literal text is one name. -/
theorem segments?_star {s : String} (h : IsLiteral s) :
    segments? ("*" ++ s) = some [.like ("*" ++ s)] := by
  have hslash : '/' ∉ ("*" ++ s).toList := by
    rw [toList_star,List.mem_cons,not_or]
    exact ⟨by decide,h.slash_not_mem⟩
  have hnames : Path.names ("*" ++ s) = ["*" ++ s] := by
    rw [Path.names,Text.splitOn_of_not_mem hslash]
    simp
  have hdoubled : hasDoubledStar ("*" ++ s).toList = false := by
    rw [toList_star]
    exact hasDoubledStar_star_cons h.star_not_mem
  have hstars : "*" ++ s ≠ "**" := by
    intro hs
    have := congrArg String.toList hs
    rw [toList_star] at this
    have htail : s.toList = ['*'] := (List.cons.inj this).2
    exact h.star_not_mem (by simp [htail])
  have hlast : ("*" ++ s).toList.getLast? ≠ some '/' := fun hlast =>
    hslash (List.mem_of_getLast? hlast)
  have hlike : Segment.ofText ("*" ++ s) = .like ("*" ++ s) := by
    rw [Segment.ofText,if_neg hstars,if_pos]
    simp [isWildcard]
  have hempty : "*" ++ s ≠ "" := star_ne (by decide)
  have hself : "*" ++ s ≠ "." := star_ne (by decide)
  simp only [segments?,hnames]
  rw [List.filter_cons_of_pos (by simp [hempty,hself]),List.filter_nil]
  rw [toList_star] at hdoubled hlast
  simp [hdoubled,hlast,hlike]

/-! ### The names -/

theorem mem_ends {α : Type} {l s : List α} : s ∈ ends l ↔ s <:+ l := by
  induction l with
  | nil => simp [ends]
  | cons a r ih => rw [ends,List.mem_cons,ih,List.suffix_cons_iff]

theorem pieces_literal {l : List Char} (h : ∀ c ∈ l, isWildcard c = false) {n : Nat}
    (hn : l.length ≤ n) : pieces n l = l.map .exactly := by
  induction l generalizing n with
  | nil => cases n <;> rfl
  | cons c r ih =>
    cases n with
    | zero => simp at hn
    | succ n =>
      have hc := h c List.mem_cons_self
      simp only [isWildcard,Bool.or_eq_false_iff,beq_eq_false_iff_ne] at hc
      obtain ⟨⟨hstar,hmark⟩,hbracket⟩ := hc
      have hrest := ih (fun d hd => h d (List.mem_cons_of_mem c hd)) (Nat.le_of_succ_le_succ hn)
      simp [pieces,hstar,hmark,hbracket,hrest]

theorem accepts_exactly (l s : List Char) : accepts (l.map .exactly) s = true ↔ s = l := by
  induction l generalizing s with
  | nil => simp [accepts]
  | cons c r ih =>
    cases s with
    | nil => simp [accepts]
    | cons d s => simp [accepts,Piece.accepts,ih]

/-- A star before a literal text matches the names that end in the text. -/
theorem matchesName_star {s : String} (h : IsLiteral s) (name : String) :
    matchesName ("*" ++ s) name = true ↔ s.toList <:+ name.toList := by
  have hpieces : pieces (("*" ++ s).length + 1) ("*" ++ s).toList =
      .star :: s.toList.map .exactly := by
    rw [toList_star,pieces,if_pos rfl,pieces_literal (fun c hc => (h c hc).2)]
    rw [String.length_append,String.length_toList]
    exact Nat.le_add_left _ _
  rw [matchesName,hpieces,accepts,List.any_eq_true]
  constructor
  · rintro ⟨l,hl,haccepts⟩
    rw [accepts_exactly] at haccepts
    exact haccepts ▸ mem_ends.mp hl
  · intro hsuffix
    exact ⟨s.toList,mem_ends.mpr hsuffix,(accepts_exactly _ _).mpr rfl⟩

/-! ### The search -/

/-- What matches a pattern right below a directory. -/
def Found.matching (t : Tree) (pattern : String) (f : Found) : List Found :=
  ((f.children t).filter (matchesName pattern)).map
    (fun name => ⟨f.names ++ [name],f.path ++ [name]⟩)

theorem select_like (t : Tree) (pattern : String) (f : Found) :
    select t [.like pattern] f = .ok (f.matching t pattern) := by
  rw [select]
  rfl

theorem select_anywhere_like (t : Tree) (pattern : String) (f : Found) :
    select t [.anywhere,.like pattern] f =
      .ok ((f.directories t).map (Found.matching t pattern)).flatten := by
  have hall : (f.directories t).mapM (select t [.like pattern]) =
      .ok ((f.directories t).map (Found.matching t pattern)) := by
    rw [funext (select_like t pattern)]
    exact List.mapM_pure
  rw [select,hall]
  rfl

section Sound
variable {t : Tree} (ht : t.IsSound)
include ht

theorem mem_below {p q : Path} {e : Entry} :
    (q,e) ∈ t.below p ↔ q ≠ [] ∧ t.get? (p ++ q) = some e := by
  rw [Tree.below,List.mem_filterMap]
  constructor
  · rintro ⟨⟨r,f⟩,hmem,hr⟩
    have hrecorded := ht.recorded _ hmem
    split at hr
    · next hbelow =>
      simp only [Bool.and_eq_true,List.isPrefixOf_iff_prefix,bne_iff_ne] at hbelow
      obtain ⟨⟨s,rfl⟩,hne⟩ := hbelow
      simp only [List.drop_left,Option.some.injEq,Prod.mk.injEq] at hr
      obtain ⟨rfl,rfl⟩ := hr
      exact ⟨fun hs => hne (by simp [hs]),hrecorded⟩
    · contradiction
  · rintro ⟨hne,hget⟩
    refine ⟨(p ++ q,e),Tree.mem_entries_of_get? (by simp [hne]) hget,?_⟩
    simp [List.isPrefixOf_iff_prefix,hne]

theorem mem_children {f : Found} {name : String} :
    name ∈ f.children t ↔ ∃ e, t.get? (f.path ++ [name]) = some e := by
  rw [Found.children,List.mem_filterMap]
  constructor
  · rintro ⟨⟨q,e⟩,hmem,hq⟩
    obtain ⟨-,hget⟩ := (mem_below ht).mp hmem
    split at hq
    · next name' heq =>
      simp only [Option.some.injEq] at hq
      subst hq
      simp only at heq
      exact ⟨e,heq ▸ hget⟩
    · contradiction
  · rintro ⟨e,hget⟩
    exact ⟨([name],e),(mem_below ht).mpr ⟨by simp,hget⟩,rfl⟩

theorem mem_matching {f g : Found} {pattern : String} :
    g ∈ f.matching t pattern ↔ ∃ name, g = ⟨f.names ++ [name],f.path ++ [name]⟩ ∧
      matchesName pattern name = true ∧ ∃ e, t.get? (f.path ++ [name]) = some e := by
  rw [Found.matching,List.mem_map]
  constructor
  · rintro ⟨name,hname,rfl⟩
    obtain ⟨hchild,hmatches⟩ := List.mem_filter.mp hname
    exact ⟨name,rfl,hmatches,(mem_children ht).mp hchild⟩
  · rintro ⟨name,rfl,hmatches,hget⟩
    exact ⟨name,List.mem_filter.mpr ⟨(mem_children ht).mpr hget,hmatches⟩,rfl⟩

theorem mem_directories {root : Path} {f : Found} :
    f ∈ Found.directories t ⟨[],root⟩ ↔ f.path = root ++ f.names ∧
      (f.names = [] ∨ t.get? (root ++ f.names) = some .directory) := by
  rw [Found.directories,List.mem_cons,List.mem_filterMap]
  constructor
  · rintro (rfl | ⟨⟨q,e⟩,hmem,hq⟩)
    · exact ⟨by simp,.inl rfl⟩
    · split at hq
      · next hdirectory =>
        simp only at hdirectory
        cases hq
        exact ⟨rfl,.inr (hdirectory ▸ ((mem_below ht).mp hmem).2)⟩
      · contradiction
  · obtain ⟨names,path⟩ := f
    rintro ⟨hpath,hnames⟩
    simp only at hpath hnames
    subst hpath
    by_cases hne : names = []
    · subst hne
      exact .inl (by simp)
    · rcases hnames with hempty | hdirectory
      · exact absurd hempty hne
      · exact .inr ⟨(names,.directory),(mem_below ht).mpr ⟨hne,hdirectory⟩,by simp⟩

/-- A search through all directories finds the entries below the first one whose names match. -/
theorem mem_select {root : Path} {pattern : String} {found : List Found}
    (h : select t [.anywhere,.like pattern] ⟨[],root⟩ = .ok found) {g : Found} :
    g ∈ found ↔ g.path = root ++ g.names ∧ g.names ≠ [] ∧
      matchesName pattern g.names.name = true ∧ ∃ e, t.get? (root ++ g.names) = some e := by
  rw [select_anywhere_like,Except.ok.injEq] at h
  subst h
  simp only [List.mem_flatten,List.mem_map]
  constructor
  · rintro ⟨_,⟨f,hf,rfl⟩,hg⟩
    obtain ⟨hpath,-⟩ := (mem_directories ht).mp hf
    obtain ⟨name,rfl,hmatches,hget⟩ := (mem_matching ht).mp hg
    rw [hpath] at hget ⊢
    refine ⟨by simp,by simp,?_,by simpa using hget⟩
    simpa [Path.name] using hmatches
  · obtain ⟨names,path⟩ := g
    rintro ⟨hpath,hne,hmatches,e,hget⟩
    simp only at hpath hne hmatches hget
    subst hpath
    -- The entry lies right below one of the directories.
    obtain ⟨parent,name,rfl⟩ : ∃ parent name, names = parent ++ [name] :=
      ⟨_,_,(List.dropLast_concat_getLast hne).symm⟩
    rw [← List.append_assoc] at hget
    have hdirectory := ht.parent _ _ hget
    rw [Path.parent_concat] at hdirectory
    refine ⟨_,⟨⟨parent,root ++ parent⟩,(mem_directories ht).mpr ⟨rfl,.inr hdirectory⟩,rfl⟩,?_⟩
    refine (mem_matching ht).mpr ⟨name,by simp,?_,e,hget⟩
    simpa [Path.name] using hmatches

end Sound

end ShortVolume.Glob
