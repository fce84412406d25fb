import ShortVolume.Text
import ShortVolume.Text.Blank
set_option autoImplicit false

/-!
Splitting a text and joining its segments undo each other.

Joining what was split gives the text back (`joinWith_splitOn`); here is the other direction, for
segments without the separator, and that splitting yields no others.
-/

namespace ShortVolume.Text
variable {α : Type} [DecidableEq α]

/-- Up to its first separator a text is one segment. -/
theorem splitOn_append_cons {sep : α} {l : List α} (r : List α) (h : sep ∉ l) :
    splitOn sep (l ++ sep :: r) = l :: splitOn sep r := by
  induction l with
  | nil => simp [splitOn]
  | cons c l ih =>
    obtain ⟨hc,hl⟩ := not_or.mp (mt List.mem_cons.mpr h)
    simp [splitOn,Ne.symm hc,ih hl]

theorem splitOn_of_not_mem {sep : α} {l : List α} (h : sep ∉ l) : splitOn sep l = [l] := by
  induction l with
  | nil => rfl
  | cons c l ih =>
    obtain ⟨hc,hl⟩ := not_or.mp (mt List.mem_cons.mpr h)
    simp [splitOn,Ne.symm hc,ih hl]

theorem splitOn_joinWith {sep : α} {ls : List (List α)} (hne : ls ≠ [])
    (h : ∀ l ∈ ls, sep ∉ l) : splitOn sep (joinWith sep ls) = ls := by
  induction ls with
  | nil => contradiction
  | cons l rest ih =>
    have hl := h l List.mem_cons_self
    cases rest with
    | nil => exact splitOn_of_not_mem hl
    | cons m rest =>
      have hrest := ih (List.cons_ne_nil m rest) (fun x hx => h x (List.mem_cons_of_mem l hx))
      rw [joinWith,splitOn_append_cons _ hl,hrest]
      exact List.cons_ne_nil m rest

theorem not_mem_of_mem_splitOn {sep : α} {s l : List α} (h : l ∈ splitOn sep s) :
    sep ∉ l := by
  induction s generalizing l with
  | nil => simp_all [splitOn]
  | cons c s ih =>
    cases hs : splitOn sep s with
    | nil => exact absurd hs (splitOn_ne_nil sep s)
    | cons m rest =>
      rw [hs] at ih
      by_cases hc : c = sep
      · simp only [splitOn,hc,if_true,hs,List.mem_cons] at h
        rcases h with rfl | rfl | hmem
        · exact List.not_mem_nil
        · exact ih List.mem_cons_self
        · exact ih (List.mem_cons_of_mem m hmem)
      · simp only [splitOn,hc,if_false,hs,List.mem_cons] at h
        rcases h with rfl | hmem
        · have hm : sep ∉ m := ih List.mem_cons_self
          simp [Ne.symm hc,hm]
        · exact ih (List.mem_cons_of_mem m hmem)

theorem joinWith_cons {α : Type} (sep : α) (l : List α) {rest : List (List α)} (h : rest ≠ []) :
    joinWith sep (l :: rest) = l ++ sep :: joinWith sep rest := by
  cases rest with
  | nil => contradiction
  | cons m rest => rfl

theorem mem_joinWith {α : Type} {sep c : α} {ls : List (List α)} (h : c ∈ joinWith sep ls) :
    c = sep ∨ ∃ l ∈ ls, c ∈ l := by
  induction ls with
  | nil => simp [joinWith] at h
  | cons l rest ih =>
    cases rest with
    | nil => exact .inr ⟨l,List.mem_cons_self,h⟩
    | cons m rest =>
      rw [joinWith_cons _ _ (List.cons_ne_nil m rest),List.mem_append,List.mem_cons] at h
      rcases h with hl | hsep | hrest
      · exact .inr ⟨l,List.mem_cons_self,hl⟩
      · exact .inl hsep
      · rcases ih hrest with hsep | ⟨k,hk,hc⟩
        · exact .inl hsep
        · exact .inr ⟨k,List.mem_cons_of_mem l hk,hc⟩

theorem letters_joinWith (sep : Char) (ls : List (List Char)) :
    letters (joinWith sep ls) = joinWith (.char sep) (ls.map letters) := by
  induction ls with
  | nil => rfl
  | cons l rest ih =>
    cases rest with
    | nil => rfl
    | cons m rest =>
      rw [joinWith_cons sep l (List.cons_ne_nil m rest),letters_append,letters_cons,ih]
      rfl

end ShortVolume.Text
