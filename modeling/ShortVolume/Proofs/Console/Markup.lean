import Mathlib.Data.List.Induction
import Mathlib.Data.List.TakeWhile
import ShortVolume.Console.Markup
set_option autoImplicit false

/-!
When a text is styled text.

Only the tags of a text decide whether it can be shown: they are applied one after the other to the
styles that are open. So what stands between two tags does not matter, a text whose brackets open no tag
is always styled text, and one whose first tag closes a style never is.
-/

namespace ShortVolume.Console.Markup

/-- The text can be shown. -/
def IsStyled (s : String) : Prop := ∃ cs, plain s = .ok cs

/-! ### Tags -/

theorem tag?_eq_some {s content rest : List Char} (h : tag? s = some (content,rest)) :
    s = '[' :: (content ++ ']' :: rest) := by
  unfold tag? at h
  split at h
  · next c r =>
    dsimp only at h
    split at h
    · next tail hdrop =>
      split at h
      · cases h
        rw [List.cons_append,← hdrop,List.takeWhile_append_dropWhile]
      · contradiction
    · contradiction
  · contradiction

theorem length_escapedTag? {s content rest : List Char} {slashes : Nat}
    (h : escapedTag? s = some (slashes,content,rest)) : rest.length < s.length := by
  obtain ⟨⟨content,rest⟩,htag,heq⟩ := Option.map_eq_some_iff.mp h
  have hlength := congrArg List.length (tag?_eq_some htag)
  simp only [List.length_drop,List.length_cons,List.length_append,Prod.mk.injEq] at hlength heq
  obtain ⟨-,-,rfl⟩ := heq
  omega

/-- The tags among pieces. -/
def tagsOf (ps : List Piece) : List Tag :=
  ps.filterMap (fun p => match p with
    | .tag t => some t
    | .text _ => none)

@[simp] theorem tagsOf_nil : tagsOf [] = [] := rfl

@[simp] theorem tagsOf_text (s : List Char) (ps : List Piece) : tagsOf (.text s :: ps) = tagsOf ps := rfl

@[simp] theorem tagsOf_tag (t : Tag) (ps : List Piece) : tagsOf (.tag t :: ps) = t :: tagsOf ps := rfl

@[simp] theorem tagsOf_append (ps qs : List Piece) : tagsOf (ps ++ qs) = tagsOf ps ++ tagsOf qs :=
  List.filterMap_append

/-- Neither the bound nor the text before matters to the tags. -/
theorem tagsOf_pieces {n m : Nat} {s : List Char} (hn : s.length ≤ n) (hm : s.length ≤ m)
    (before before' : List Char) : tagsOf (pieces n s before) = tagsOf (pieces m s before') := by
  induction n generalizing m s before before' with
  | zero =>
    obtain rfl := List.eq_nil_of_length_eq_zero (Nat.le_zero.mp hn)
    cases m <;> rfl
  | succ n ih =>
    cases s with
    | nil => cases m <;> rfl
    | cons c r =>
      cases m with
      | zero => simp at hm
      | succ m =>
        rw [pieces,pieces]
        cases hescaped : escapedTag? (c :: r) with
        | none => exact ih (Nat.le_of_succ_le_succ hn) (Nat.le_of_succ_le_succ hm) _ _
        | some found =>
          obtain ⟨slashes,content,rest⟩ := found
          have hlength := length_escapedTag? hescaped
          simp only [List.length_cons] at hlength hn hm
          simp only [tagsOf_text,tagsOf_append]
          rw [ih (m := m) (s := rest) (by omega) (by omega) [] []]

/-- The styles that are open after a text, if they were open before it. -/
def opened (styles : List Open) (s : List Char) : Except MarkupFault (List Open) :=
  (tagsOf (pieces s.length s [])).foldlM apply styles

theorem shown_tags (styles : List Open) (ps : List Piece) :
    (shown styles ps).map (fun _ => ()) = ((tagsOf ps).foldlM apply styles).map (fun _ => ()) := by
  induction ps generalizing styles with
  | nil => rfl
  | cons p ps ih =>
    cases p with
    | text s =>
      rw [tagsOf_text,← ih,shown]
      cases shown styles ps <;> rfl
    | tag t =>
      rw [tagsOf_tag,shown,List.foldlM_cons]
      cases apply styles t with
      | error f => rfl
      | ok styles => exact ih styles

theorem isStyled_iff (s : String) : IsStyled s ↔ ∃ styles, opened [] s.toList = .ok styles := by
  have hshown := shown_tags [] (pieces (s.toList.length + 1) s.toList [])
  rw [tagsOf_pieces (m := s.toList.length) (by omega) (Nat.le_refl _) [] []] at hshown
  unfold IsStyled plain opened
  dsimp only
  revert hshown
  generalize shown [] (pieces (s.toList.length + 1) s.toList []) = x
  generalize (tagsOf (pieces s.toList.length s.toList [])).foldlM apply [] = y
  intro hshown
  cases x <;> cases y <;> simp_all [Except.map,bind,Except.bind,pure,Except.pure]

/-! ### Between the tags -/

@[simp] theorem opened_nil (styles : List Open) : opened styles [] = .ok styles := rfl

theorem opened_cons {c : Char} {r : List Char} (h : escapedTag? (c :: r) = none)
    (styles : List Open) : opened styles (c :: r) = opened styles r := by
  rw [opened,List.length_cons,pieces,h]
  simp only
  rw [tagsOf_pieces (Nat.le_refl _) (Nat.le_refl _) [c] [],opened]

/-- No bracket is followed by what may start a tag. -/
def opensNoTag : List Char → Bool
  | [] => true
  | c :: r => !(c == '[' && r.head?.any canStartTag) && opensNoTag r

theorem tag?_eq_none {c : Char} {r : List Char}
    (h : (c == '[' && r.head?.any canStartTag) = false) : tag? (c :: r) = none := by
  unfold tag?
  split
  · next heq =>
    cases heq
    dsimp only
    split
    · rw [if_neg (by simpa using h)]
    · rfl
  · rfl

theorem escapedTag?_eq_none {s : List Char} :
    escapedTag? s = none ↔ tag? (s.dropWhile (· == '\\')) = none := by
  have hsplit := List.takeWhile_append_dropWhile (p := (· == '\\')) (l := s)
  have hdrop : s.drop (s.takeWhile (· == '\\')).length = s.dropWhile (· == '\\') :=
    (congrArg (List.drop _) hsplit.symm).trans List.drop_left
  simp [escapedTag?,hdrop]

/-- No tag starts in the text, or between it and what follows. -/
theorem escapedTag?_append {a b : List Char} (ha : opensNoTag (a ++ b.take 1) = true)
    (hb : escapedTag? b = none) : escapedTag? (a ++ b) = none := by
  rw [escapedTag?_eq_none] at hb ⊢
  induction a with
  | nil => exact hb
  | cons c a ih =>
    rw [List.cons_append,opensNoTag,Bool.and_eq_true,Bool.not_eq_true'] at ha
    rw [List.cons_append,List.dropWhile_cons]
    split
    · exact ih ha.2
    · refine tag?_eq_none ?_
      have hhead : (a ++ b).head? = (a ++ b.take 1).head? := by
        cases a <;> cases b <;> rfl
      rw [hhead]
      exact ha.1

theorem opened_append {a b : List Char} (ha : opensNoTag (a ++ b.take 1) = true)
    (hb : escapedTag? b = none) (styles : List Open) : opened styles (a ++ b) = opened styles b := by
  induction a with
  | nil => rfl
  | cons c a ih =>
    have hnone : escapedTag? (c :: (a ++ b)) = none := escapedTag?_append (a := c :: a) ha hb
    rw [List.cons_append,opensNoTag,Bool.and_eq_true] at ha
    rw [List.cons_append,opened_cons hnone]
    exact ih ha.2

theorem opened_of_opensNoTag {s : List Char} (h : opensNoTag s = true) (styles : List Open) :
    opened styles s = .ok styles := by
  have hall := opened_append (a := s) (b := []) (by simpa using h) rfl styles
  rwa [List.append_nil] at hall

theorem isStyled_of_opensNoTag {s : String} (h : opensNoTag s.toList = true) : IsStyled s :=
  (isStyled_iff s).mpr ⟨[],opened_of_opensNoTag h []⟩

theorem opensNoTag_append {a b : List Char} (ha : opensNoTag a = true) (hb : opensNoTag b = true)
    (hhead : b.head?.any canStartTag = false) : opensNoTag (a ++ b) = true := by
  induction a with
  | nil => exact hb
  | cons c a ih =>
    rw [opensNoTag,Bool.and_eq_true] at ha
    have hnext : (a ++ b).head?.any canStartTag = a.head?.any canStartTag := by
      cases a with
      | nil => exact hhead
      | cons d a => rfl
    rw [List.cons_append,opensNoTag,hnext,ha.1,ih ha.2]
    rfl

/-- No tag starts in the text, and its last character does not change what follows. -/
def isPassage (s : List Char) : Bool :=
  opensNoTag s && s.getLast?.any (fun c => c != '[' && c != '\\')

theorem opened_passage {a : List Char} (ha : isPassage a = true) (b : List Char)
    (styles : List Open) : opened styles (a ++ b) = opened styles b := by
  rw [isPassage,Bool.and_eq_true] at ha
  induction a using List.reverseRecOn with
  | nil => simp at ha
  | append_singleton a c _ =>
    obtain ⟨hopens,hlast⟩ := ha
    obtain ⟨hbracket,hslash⟩ : c ≠ '[' ∧ c ≠ '\\' := by simpa using hlast
    have hc : escapedTag? (c :: b) = none := by
      rw [escapedTag?_eq_none,List.dropWhile_cons_of_neg (by simpa using hslash)]
      exact tag?_eq_none (by simp [hbracket])
    rw [List.append_assoc,List.singleton_append,opened_append (by simpa using hopens) hc,
      opened_cons hc]

/-! ### Styles -/

theorem opened_of_tag? {s content rest : List Char} (h : tag? s = some (content,rest))
    (styles : List Open) :
    opened styles s = apply styles (tagOf content) >>= fun styles => opened styles rest := by
  have hs := tag?_eq_some h
  have hescaped : escapedTag? s = some (0,content,rest) := by
    rw [hs] at h
    simp [hs,escapedTag?,h]
  have hfuel := tagsOf_pieces (n := (content ++ ']' :: rest).length) (m := rest.length) (s := rest)
    (by simp; omega) (Nat.le_refl _) [] []
  subst hs
  rw [opened,List.length_cons,pieces,hescaped]
  simp only [tagPieces,Nat.zero_mod,Nat.zero_ne_one,if_false,List.cons_append,List.nil_append,
    tagsOf_text,tagsOf_tag,List.foldlM_cons] at hfuel ⊢
  rw [hfuel]
  rfl

theorem opened_tag {content rest : List Char} (hstart : content.head?.any canStartTag = true)
    (hinside : content.all (fun c => c != '[' && c != ']') = true) (styles : List Open) :
    opened styles ('[' :: (content ++ ']' :: rest)) =
      apply styles (tagOf content) >>= fun styles => opened styles rest := by
  obtain ⟨c,r,rfl⟩ : ∃ c r, content = c :: r := by
    cases content with
    | nil => contradiction
    | cons c r => exact ⟨c,r,rfl⟩
  rw [List.all_cons,Bool.and_eq_true] at hinside
  have htake : (r ++ ']' :: rest).takeWhile (fun d => d != '[' && d != ']') = r := by
    rw [List.takeWhile_append_of_pos (List.all_eq_true.mp hinside.2)]
    simp
  have hdrop : (r ++ ']' :: rest).dropWhile (fun d => d != '[' && d != ']') = ']' :: rest := by
    rw [List.dropWhile_append_of_pos (List.all_eq_true.mp hinside.2)]
    simp
  have hc : canStartTag c = true := by simpa using hstart
  exact opened_of_tag? (by simp [tag?,htake,hdrop,hc]) styles

theorem exists_fault_of_close (name : List Char) : ∃ f, close name [] = .error f := by
  unfold close
  split
  · exact ⟨_,rfl⟩
  · cases styleOf name with
    | error f => exact ⟨f,rfl⟩
    | ok style => exact ⟨.unmatched style,rfl⟩

/-- Whether a text has a tag, and the first of them closes a style. What stands before it has no
backslash, which might show the tag as it is. -/
def closesFirst : List Char → Bool
  | [] => false
  | c :: r =>
    match tag? (c :: r) with
    | some (content,_) => content.head? == some '/'
    | none => c != '\\' && closesFirst r

/-- No style is open that the first tag could close. -/
theorem exists_fault_of_closesFirst {s : List Char} (h : closesFirst s = true) :
    ∃ f, opened [] s = .error f := by
  induction s with
  | nil => contradiction
  | cons c r ih =>
    rw [closesFirst] at h
    split at h
    · next content rest htag =>
      obtain ⟨name,rfl⟩ : ∃ name, content = '/' :: name := by
        cases content with
        | nil => contradiction
        | cons d name => exact ⟨name,by simpa using h⟩
      obtain ⟨f,hf⟩ := exists_fault_of_close (name.takeWhile (· != '='))
      refine ⟨f,?_⟩
      rw [opened_of_tag? htag]
      simp [tagOf,apply,hf,bind,Except.bind]
    · next htag =>
      rw [Bool.and_eq_true,bne_iff_ne] at h
      have hnone : escapedTag? (c :: r) = none := by
        rw [escapedTag?_eq_none,List.dropWhile_cons_of_neg (by simpa using h.1)]
        exact htag
      rw [opened_cons hnone]
      exact ih h.2

theorem not_isStyled_of_closesFirst {s : String} (h : closesFirst s.toList = true) :
    ¬ IsStyled s := by
  intro hstyled
  obtain ⟨styles,hopened⟩ := (isStyled_iff s).mp hstyled
  obtain ⟨f,hf⟩ := exists_fault_of_closesFirst h
  cases hopened.symm.trans hf

theorem tagOf_of_not_mem {content : List Char} (h : '=' ∉ content) :
    tagOf content = ⟨content,[]⟩ := by
  have hall : ∀ c ∈ content, (c != '=') = true := fun c hc => bne_iff_ne.mpr (fun heq => h (heq ▸ hc))
  have htake : content.takeWhile (· != '=') = content := List.takeWhile_eq_self_iff.mpr hall
  have hdrop : content.dropWhile (· != '=') = [] := List.dropWhile_eq_nil_iff.mpr hall
  rw [tagOf,htake,hdrop]
  rfl

/-- A style that may be opened by its name and closed again. -/
structure IsStyle (style : List Char) : Prop where
  start : style.head?.any (fun c => canStartTag c && c != '/') = true
  inside : style.all (fun c => c != '[' && c != ']' && c != '=') = true
  canonical : (styleOf style).toOption.any (fun s => !isHandler s) = true
  visible : (Text.trim style).isEmpty = false

instance (style : List Char) : Decidable (IsStyle style) :=
  decidable_of_iff (style.head?.any (fun c => canStartTag c && c != '/') = true ∧
      style.all (fun c => c != '[' && c != ']' && c != '=') = true ∧
      (styleOf style).toOption.any (fun s => !isHandler s) = true ∧
      (Text.trim style).isEmpty = false)
    ⟨fun ⟨hstart,hinside,hcanonical,hvisible⟩ => ⟨hstart,hinside,hcanonical,hvisible⟩,
      fun ⟨hstart,hinside,hcanonical,hvisible⟩ => ⟨hstart,hinside,hcanonical,hvisible⟩⟩

/-- A text in a style. -/
def styled (style inner : List Char) : List Char :=
  '[' :: (style ++ ']' :: (inner ++ '[' :: ('/' :: style ++ [']'])))

section Style
variable {style : List Char} (h : IsStyle style)
include h

theorem IsStyle.exists_canonical : ∃ s, styleOf style = .ok s ∧ isHandler s = false := by
  have hcanonical := h.canonical
  cases hstyle : styleOf style with
  | error f => simp [hstyle,Except.toOption] at hcanonical
  | ok s => exact ⟨s,rfl,by simpa [hstyle,Except.toOption] using hcanonical⟩

theorem IsStyle.noEquals : '=' ∉ style := by
  intro hmem
  have := List.all_eq_true.mp h.inside _ hmem
  simp at this

theorem IsStyle.noBracket : style.all (fun c => c != '[' && c != ']') = true := by
  refine List.all_eq_true.mpr (fun c hc => ?_)
  have := List.all_eq_true.mp h.inside c hc
  exact (Bool.and_eq_true_iff.mp this).1

theorem IsStyle.apply_opening {s : String} (hs : styleOf style = .ok s) (styles : List Open) :
    apply styles ⟨style,[]⟩ = .ok (⟨s,[]⟩ :: styles) := by
  have hstart := h.start
  unfold apply
  split
  · next heq =>
    obtain rfl : style = '/' :: _ := heq
    simp at hstart
  · rw [hs]
    rfl

theorem IsStyle.apply_closing {s : String} (hs : styleOf style = .ok s) (hhandler : isHandler s = false)
    (styles : List Open) : apply (⟨s,[]⟩ :: styles) ⟨'/' :: style,[]⟩ = .ok styles := by
  simp [apply,close,h.visible,hs,take?,closed,hhandler,bind,Except.bind]

theorem opened_opening {s : String} (hs : styleOf style = .ok s) (rest : List Char)
    (styles : List Open) :
    opened styles ('[' :: (style ++ ']' :: rest)) = opened (⟨s,[]⟩ :: styles) rest := by
  have hstart : style.head?.any canStartTag = true := by
    have := h.start
    cases hc : style.head? <;> simp_all
  rw [opened_tag hstart h.noBracket,tagOf_of_not_mem h.noEquals,h.apply_opening hs]
  rfl

theorem opened_closing {s : String} (hs : styleOf style = .ok s) (hhandler : isHandler s = false)
    (rest : List Char) (styles : List Open) :
    opened (⟨s,[]⟩ :: styles) ('[' :: ('/' :: style ++ ']' :: rest)) = opened styles rest := by
  have hinside : ('/' :: style).all (fun c => c != '[' && c != ']') = true := by
    simpa using h.noBracket
  have hequals : '=' ∉ '/' :: style := by simpa using h.noEquals
  rw [opened_tag rfl hinside,tagOf_of_not_mem hequals,h.apply_closing hs hhandler]
  rfl

/-- A style that is opened and closed around a text leaves the open styles as they were. -/
theorem opened_styled {inner : List Char} (hinner : isPassage inner = true) (rest : List Char)
    (styles : List Open) : opened styles (styled style inner ++ rest) = opened styles rest := by
  obtain ⟨s,hs,hhandler⟩ := h.exists_canonical
  simp only [styled,List.cons_append,List.append_assoc,List.nil_append]
  rw [opened_opening h hs,opened_passage hinner]
  exact opened_closing h hs hhandler rest styles

end Style

end ShortVolume.Console.Markup
