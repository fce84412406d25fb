import Mathlib.Data.List.Dedup
import Mathlib.Data.List.Nodup
import Mathlib.Data.List.Perm.Basic
import ShortVolume.Tree
set_option autoImplicit false

/-!
The names in a directory.

They are no more than the file system has entries, so of any more names one is free.
-/

namespace ShortVolume

namespace Tree

/-- The names in a directory, each of them once. -/
def namesIn (t : Tree) (d : Path) : List String :=
  (t.entries.filterMap (fun e =>
    if e.1 = d ++ [Path.name e.1] then some (Path.name e.1) else none)).dedup

theorem mem_namesIn {t : Tree} {d : Path} {name : String} :
    name ∈ t.namesIn d ↔ ∃ e, t.get? (d ++ [name]) = some e := by
  have hname : Path.name (d ++ [name]) = name := List.getLastD_concat
  rw [namesIn,List.mem_dedup,List.mem_filterMap,← Option.isSome_iff_exists,get?,
    if_neg (List.append_ne_nil_of_right_ne_nil _ (List.cons_ne_nil _ _)),Option.isSome_map,
    List.find?_isSome]
  simp only [beq_iff_eq,Option.ite_none_right_eq_some,Option.some.injEq]
  refine exists_congr (fun e => and_congr_right (fun _ => ?_))
  constructor
  · rintro ⟨hplace,rfl⟩
    exact hplace
  · intro hplace
    rw [hplace,hname]
    exact ⟨rfl,rfl⟩

theorem length_namesIn_le (t : Tree) (d : Path) : (t.namesIn d).length ≤ t.entries.length :=
  Nat.le_trans (List.dedup_sublist _).length_le (List.length_filterMap_le _ _)

/-- Of more names than a directory has some are not in it. -/
theorem exists_not_mem_namesIn (t : Tree) (d : Path) {f : Nat → String} (hf : Function.Injective f) :
    ∃ k ≤ (t.namesIn d).length, t.get? (d ++ [f k]) = none := by
  by_contra hall
  have hsubset : (List.range ((t.namesIn d).length + 1)).map f ⊆ t.namesIn d := by
    intro name hname
    obtain ⟨k,hk,rfl⟩ := List.mem_map.mp hname
    rw [mem_namesIn,← Option.isSome_iff_exists,Option.isSome_iff_ne_none]
    exact fun hnone => hall ⟨k,Nat.le_of_lt_succ (List.mem_range.mp hk),hnone⟩
  have hlength := (List.subperm_of_subset (List.nodup_range.map hf) hsubset).length_le
  simp only [List.length_map,List.length_range] at hlength
  omega

end Tree

end ShortVolume
