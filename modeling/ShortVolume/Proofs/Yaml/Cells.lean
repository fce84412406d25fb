import Mathlib.Data.List.Forall2
import Mathlib.Data.List.Perm.Subperm
import ShortVolume.Yaml.Build.Cell
import ShortVolume.Proofs.Yaml.Values
set_option autoImplicit false

/-!
The values of cells.

No record is a part of itself, so the way to a value passes through every cell at most once, and the
cells around a value are the records that have more nodes.
-/

namespace ShortVolume

open Yaml

namespace Yaml

/-! ### Parts -/

/-- What a part stands for, if the cells stand for `vals`. -/
inductive Denotes (vals : List Value) : Part → Value → Prop where
  | whole (v : Value) : (∀ es, v ≠ .map es) → Denotes vals (.whole v) v
  | cell {c : Nat} {es : Entries} : vals[c]? = some (.map es) → Denotes vals (.cell c) (.map es)

theorem getElem?_append_of_eq_some {α : Type} {xs : List α} {i : Nat} {x : α} (h : xs[i]? = some x)
    (ys : List α) : (xs ++ ys)[i]? = some x := by
  rw [List.getElem?_append_left (List.getElem?_eq_some_iff.mp h).1,h]

theorem Denotes.append {vals : List Value} {p : Part} {v : Value} (h : Denotes vals p v)
    (new : List Value) : Denotes (vals ++ new) p v := by
  cases h with
  | whole _ hv => exact .whole v hv
  | cell hc => exact .cell (getElem?_append_of_eq_some hc new)

/-- The parts of a record, under its names. -/
def PartsDenote (vals : List Value) (ps : List (Value × Part)) (es : Entries) : Prop :=
  List.Forall₂ (fun p e => p.1 = e.1 ∧ Denotes vals p.2 e.2) ps es

theorem PartsDenote.append {vals : List Value} {ps : List (Value × Part)} {es : Entries}
    (h : PartsDenote vals ps es) (new : List Value) : PartsDenote (vals ++ new) ps es :=
  h.imp (fun _ _ hp => ⟨hp.1,hp.2.append new⟩)

theorem PartsDenote.names {vals : List Value} {ps : List (Value × Part)} {es : Entries}
    (h : PartsDenote vals ps es) : ps.map Prod.fst = es.map Prod.fst := by
  induction h with
  | nil => rfl
  | cons hp _ ih => rw [List.map_cons,List.map_cons,hp.1,ih]

/-- Whether a cell has its parts. -/
def IsFilled (vals : List Value) (cells : Array Cell) (c : Nat) : Prop :=
  ∃ es ps, vals[c]? = some (.map es) ∧ cells[c]? = some (.map ps) ∧ PartsDenote vals ps es

theorem IsFilled.append {vals : List Value} {cells : Array Cell} {c : Nat}
    (h : IsFilled vals cells c) (new : List Value) : IsFilled (vals ++ new) cells c := by
  obtain ⟨es,ps,hc,hcell,hparts⟩ := h
  exact ⟨es,ps,getElem?_append_of_eq_some hc new,hcell,hparts.append new⟩

/-! ### Unfolding -/

/-- Being inside of the cells `around`, all of which have more than `count` nodes, where `n` more
levels can be unfolded. -/
structure Inside (vals : List Value) (around : List Nat) (count n : Nat) : Prop where
  nodup : around.Nodup
  larger : ∀ c ∈ around, ∃ v, vals[c]? = some v ∧ count < v.nodeCount
  fuel : around.length + n = vals.length + 1

variable {vals : List Value} {around : List Nat} {count n : Nat}

theorem Inside.mono (h : Inside vals around count n) {count' : Nat} (hle : count' ≤ count) :
    Inside vals around count' n := by
  refine { h with larger := fun c hc => ?_ }
  obtain ⟨v,hv,hcount⟩ := h.larger c hc
  exact ⟨v,hv,by omega⟩

theorem Inside.exists_succ (h : Inside vals around count n) : ∃ m, n = m + 1 := by
  have hsubset : around ⊆ List.range vals.length := by
    intro c hc
    obtain ⟨v,hv,-⟩ := h.larger c hc
    exact List.mem_range.mpr (List.getElem?_eq_some_iff.mp hv).1
  have hlength := (List.Nodup.subperm h.nodup hsubset).length_le
  rw [List.length_range] at hlength
  have := h.fuel
  exact ⟨n - 1,by omega⟩

theorem Inside.notMem {c : Nat} {v : Value} (h : Inside vals around v.nodeCount n)
    (hc : vals[c]? = some v) : c ∉ around := by
  intro hmem
  obtain ⟨w,hw,hcount⟩ := h.larger c hmem
  rw [hc] at hw
  cases hw
  omega

theorem Inside.cons {c : Nat} {es : Entries}
    (h : Inside vals around (Value.map es).nodeCount (n + 1)) (hc : vals[c]? = some (.map es)) :
    Inside vals (c :: around) (Value.entriesCount es) n := by
  have hcount : Value.entriesCount es < (Value.map es).nodeCount := by
    rw [Value.nodeCount]
    omega
  refine ⟨List.nodup_cons.mpr ⟨h.notMem hc,h.nodup⟩,?_,?_⟩
  · intro c' hc'
    rcases List.mem_cons.mp hc' with rfl | hc'
    · exact ⟨_,hc,hcount⟩
    · obtain ⟨w,hw,hlarger⟩ := h.larger c' hc'
      exact ⟨w,hw,by omega⟩
  · have := h.fuel
    rw [List.length_cons]
    omega

theorem unfold_whole (cells : Array Cell) (n : Nat) (around : List Nat) (v : Value) :
    unfold cells n around (.whole v) = ⟨v,[]⟩ := by
  cases n <;> rfl

theorem Unfolded.all_whole (es : Entries) :
    Unfolded.all (es.map (fun e => ⟨e.2,[]⟩)) = (es.map Prod.snd,[]) := by
  simp only [Unfolded.all,List.map_map,List.flatMap_map,Function.comp_def,Prod.mk.injEq,true_and]
  exact List.flatMap_eq_nil_iff.mpr (fun _ _ => rfl)

/-- Where all cells have their parts, what a part stands for is what it is unfolded to. -/
theorem covers_unfold {cells : Array Cell}
    (hfilled : ∀ c < vals.length, IsFilled vals cells c) : Value.Covers
    (fun v => ∀ (n : Nat) (around : List Nat) (p : Part), Denotes vals p v →
      Inside vals around v.nodeCount n → unfold cells n around p = ⟨v,[]⟩)
    (fun es => ∀ (n : Nat) (around : List Nat) (ps : List (Value × Part)), PartsDenote vals ps es →
      Inside vals around (Value.entriesCount es) n →
        ps.map (fun p => unfold cells n around p.2) = es.map (fun e => ⟨e.2,[]⟩)) where
  text s _ n around p hp _ := by
    cases hp with
    | whole => exact unfold_whole cells n around _
  int i _ n around p hp _ := by
    cases hp with
    | whole => exact unfold_whole cells n around _
  bool b n around p hp _ := by
    cases hp with
    | whole => exact unfold_whole cells n around _
  map es hes n around p hp hinside := by
    cases hp with
    | whole _ hmap => exact absurd rfl (hmap es)
    | @cell c _ hc =>
      obtain ⟨m,rfl⟩ := hinside.exists_succ
      obtain ⟨es',ps,hc',hcell,hps⟩ := hfilled c (List.getElem?_eq_some_iff.mp hc).1
      rw [hc] at hc'
      cases hc'
      have hparts := hes m (c :: around) ps hps (hinside.cons hc)
      have hout : around.contains c = false := by simpa using hinside.notMem hc
      simp only [unfold,hout,hcell,List.map_map,Function.comp_def,hparts,hps.names,
        Unfolded.all_whole]
      rw [if_neg (by decide),← List.unzip_fst,← List.unzip_snd,List.zip_unzip]
      rfl
  nil n around ps hps _ := by
    cases hps
    rfl
  cons k v es _ hv hes _ n around ps hps hinside := by
    cases hps with
    | cons hp hps =>
      rw [Value.entriesCount] at hinside
      rw [List.map_cons,List.map_cons,hv n around _ hp.2 (hinside.mono (by omega)),
        hes n around _ hps (hinside.mono (by omega))]

end Yaml

end ShortVolume
