import ShortVolume.Proofs.Value.Keys
set_option autoImplicit false

/-!
Putting one map into another.

The union of two maps has the keys of the first in their places, and after them the keys that only the
second has; what the second has under a key is what the union has. A map is determined by its keys, in
their order, and by what it has under each of them, and so the laws of the union are those of its keys
and of looking them up.
-/

namespace ShortVolume.Entries

def keys (es : Entries) : List Value := es.map Prod.fst

theorem keys_cons (e : Value × Value) (es : Entries) : keys (e :: es) = e.1 :: es.keys := rfl

/-- Entries as a map holds them: each key can be one, and none is there twice. -/
structure IsDictionary (es : Entries) : Prop where
  areKeys : ∀ k ∈ es.keys, k.isKey = true
  isKeyed : es.IsKeyed

instance (es : Entries) : Decidable es.IsDictionary :=
  decidable_of_iff ((∀ k ∈ es.keys, k.isKey = true) ∧ es.IsKeyed)
    ⟨fun h => ⟨h.1,h.2⟩,fun h => ⟨h.areKeys,h.isKeyed⟩⟩

theorem isKeyed_iff (es : Entries) :
    es.IsKeyed ↔ es.keys.Pairwise (fun k l => k.same l = false) := by
  rw [keys,List.pairwise_map]
  rfl

/-! ### Looking up -/

theorem get?_congr {k l : Value} (h : k.same l = true) (es : Entries) : es.get? k = es.get? l := by
  induction es with
  | nil => rfl
  | cons e es ih =>
    have hkey : e.1.same k = e.1.same l := by
      rw [Bool.eq_iff_iff]
      exact ⟨fun hk => Value.same_trans hk h,fun hl => Value.same_trans hl (Value.same_symm h)⟩
    rw [get?,get?,hkey,ih]

theorem get?_eq_none_iff {k : Value} {es : Entries} :
    es.get? k = none ↔ ∀ l ∈ es.keys, l.same k = false := by
  induction es with
  | nil => simp [get?,keys]
  | cons e es ih =>
    rw [get?,keys_cons,List.forall_mem_cons,← ih]
    cases e.1.same k <;> simp

theorem hasKey_eq_false_iff {k : Value} {es : Entries} :
    es.hasKey k = false ↔ ∀ l ∈ es.keys, l.same k = false := by
  rw [← get?_eq_none_iff,hasKey,Option.isSome_eq_false_iff,Option.isNone_iff_eq_none]

theorem get?_of_mem {es : Entries} (h : es.IsDictionary) {e : Value × Value} (he : e ∈ es) :
    es.get? e.1 = some e.2 := by
  obtain ⟨hkeys,hkeyed⟩ := h
  induction es with
  | nil => contradiction
  | cons f es ih =>
    obtain ⟨hfirst,hrest⟩ := List.pairwise_cons.mp hkeyed
    obtain ⟨hkey,hkeys⟩ := List.forall_mem_cons.mp hkeys
    rw [get?]
    rcases List.mem_cons.mp he with rfl | hmem
    · rw [if_pos (Value.same_refl hkey)]
    · rw [if_neg (by simp [hfirst e hmem])]
      exact ih hmem hkeys hrest

theorem hasKey_of_mem {es : Entries} (h : es.IsDictionary) {k : Value} (hk : k ∈ es.keys) :
    es.hasKey k = true := by
  obtain ⟨e,he,rfl⟩ := List.mem_map.mp hk
  rw [hasKey,get?_of_mem h he]
  rfl

/-- A map is determined by its keys and by what it has under them. -/
theorem eq_map_keys {es : Entries} (h : es.IsDictionary) :
    es = es.keys.map (fun k => (k,(es.get? k).getD .null)) := by
  rw [keys,List.map_map]
  conv_lhs => rw [← List.map_id es]
  refine List.map_congr_left (fun e he => ?_)
  simp [get?_of_mem h he]

theorem eq_of_keys {es fs : Entries} (hes : es.IsDictionary) (hfs : fs.IsDictionary)
    (hkeys : es.keys = fs.keys) (hget : ∀ k, es.get? k = fs.get? k) : es = fs := by
  rw [eq_map_keys hes,eq_map_keys hfs,hkeys]
  simp only [hget]

/-! ### Putting one entry -/

theorem get?_put (k v : Value) (es : Entries) (l : Value) :
    (put k v es).get? l = if k.same l then some v else es.get? l := by
  induction es with
  | nil => rfl
  | cons e es ih =>
    rw [put]
    by_cases hk : e.1.same k
    · rw [if_pos hk,get?,get?,Value.same_congr_left hk]
      split <;> rfl
    · rw [if_neg hk,get?,get?,ih]
      by_cases hl : e.1.same l
      · have hkl : ¬k.same l = true := fun h => hk (Value.same_trans hl (Value.same_symm h))
        rw [if_pos hl,if_neg hkl,if_pos hl]
      · rw [if_neg hl,if_neg hl]

theorem hasKey_put (k v : Value) (es : Entries) (l : Value) :
    (put k v es).hasKey l = (k.same l || es.hasKey l) := by
  rw [hasKey,get?_put]
  cases k.same l <;> rfl

/-- A key that is there keeps its place, another comes last. -/
theorem keys_put (k v : Value) (es : Entries) :
    (put k v es).keys = if es.hasKey k then es.keys else es.keys ++ [k] := by
  induction es with
  | nil => rfl
  | cons e es ih =>
    rw [put,hasKey,get?]
    by_cases hk : e.1.same k
    · rw [if_pos hk,if_pos hk]
      rfl
    · rw [if_neg hk,if_neg hk,keys_cons,ih,hasKey]
      split <;> rfl

/-! ### Union -/

@[simp] theorem union_nil (s : Entries) : union s [] = s := rfl

theorem union_cons (s : Entries) (e : Value × Value) (m : Entries) :
    union s (e :: m) = union (put e.1 e.2 s) m := rfl

/-- What the second has under a key wins. -/
theorem get?_union {m : Entries} (hm : m.IsKeyed) (s : Entries) (k : Value) :
    (union s m).get? k = (m.get? k).or (s.get? k) := by
  induction m generalizing s with
  | nil => rfl
  | cons e m ih =>
    obtain ⟨hfirst,hrest⟩ := List.pairwise_cons.mp hm
    rw [union_cons,ih hrest,get?_put,get?]
    by_cases hk : e.1.same k
    · -- The key comes once in the second, so nothing after it has it.
      have hnone : get? k m = none := by
        rw [← get?_congr hk,get?_eq_none_iff]
        intro l hl
        obtain ⟨f,hf,rfl⟩ := List.mem_map.mp hl
        refine Bool.eq_false_iff.mpr (fun h => ?_)
        simpa [hfirst f hf] using Value.same_symm h
      rw [if_pos hk,if_pos hk,hnone]
      rfl
    · rw [if_neg hk,if_neg hk]

theorem hasKey_union {m : Entries} (hm : m.IsKeyed) (s : Entries) (k : Value) :
    (union s m).hasKey k = (m.hasKey k || s.hasKey k) := by
  rw [hasKey,get?_union hm,Option.isSome_or]
  rfl

theorem keys_union {m : Entries} (hm : m.IsKeyed) (s : Entries) :
    (union s m).keys = s.keys ++ m.keys.filter (fun k => !s.hasKey k) := by
  induction m generalizing s with
  | nil => simp [keys]
  | cons e m ih =>
    obtain ⟨hfirst,hrest⟩ := List.pairwise_cons.mp hm
    have hothers : (keys m).filter (fun k => !(put e.1 e.2 s).hasKey k) =
        (keys m).filter (fun k => !s.hasKey k) := by
      refine List.filter_congr (fun l hl => ?_)
      obtain ⟨f,hf,rfl⟩ := List.mem_map.mp hl
      rw [hasKey_put,hfirst f hf,Bool.false_or]
    rw [union_cons,ih hrest,hothers,keys_put,keys_cons,List.filter_cons]
    cases s.hasKey e.1 <;> simp

theorem isDictionary_union {s m : Entries} (hs : s.IsDictionary) (hm : m.IsDictionary) :
    (union s m).IsDictionary := by
  have hkeys := keys_union hm.isKeyed s
  constructor
  · rw [hkeys,List.forall_mem_append]
    exact ⟨hs.areKeys,fun k hk => hm.areKeys k (List.mem_filter.mp hk).1⟩
  · rw [isKeyed_iff,hkeys,List.pairwise_append]
    refine ⟨(isKeyed_iff s).mp hs.isKeyed,((isKeyed_iff m).mp hm.isKeyed).filter _,?_⟩
    intro k hk l hl
    have habsent := (List.mem_filter.mp hl).2
    rw [Bool.not_eq_true',hasKey_eq_false_iff] at habsent
    exact habsent k hk

theorem union_assoc {s m t : Entries} (hs : s.IsDictionary) (hm : m.IsDictionary)
    (ht : t.IsDictionary) : union (union s m) t = union s (union m t) := by
  have hsm := isDictionary_union hs hm
  have hmt := isDictionary_union hm ht
  refine eq_of_keys (isDictionary_union hsm ht) (isDictionary_union hs hmt) ?_ (fun k => ?_)
  · rw [keys_union ht.isKeyed,keys_union hm.isKeyed,keys_union hmt.isKeyed,keys_union ht.isKeyed,
      List.filter_append,List.filter_filter,List.append_assoc]
    simp only [hasKey_union hm.isKeyed,Bool.not_or,Bool.and_comm]
  · rw [get?_union ht.isKeyed,get?_union hm.isKeyed,get?_union hmt.isKeyed,get?_union ht.isKeyed,
      Option.or_assoc]

theorem nil_union {m : Entries} (hm : m.IsDictionary) : union [] m = m := by
  have hnil : IsDictionary [] := by decide
  refine eq_of_keys (isDictionary_union hnil hm) hm ?_ (fun k => ?_)
  · rw [keys_union hm.isKeyed]
    simp [keys,hasKey,get?]
  · rw [get?_union hm.isKeyed]
    simp [get?]

theorem union_self {s : Entries} (hs : s.IsDictionary) : union s s = s := by
  refine eq_of_keys (isDictionary_union hs hs) hs ?_ (fun k => ?_)
  · rw [keys_union hs.isKeyed,List.filter_eq_nil_iff.mpr (fun k hk => by simp [hasKey_of_mem hs hk]),
      List.append_nil]
  · rw [get?_union hs.isKeyed,Option.or_self]

/-- `u` has what the second map has under each key of it, and else what the first has. Its keys are those
of the first in their places, and then those that only the second has in theirs. -/
structure IsUnion (s m u : Entries) : Prop where
  isDictionary : u.IsDictionary
  second : ∀ k v, m.get? k = some v → u.get? k = some v
  first : ∀ k, m.get? k = none → u.get? k = s.get? k
  keys : u.keys = s.keys ++ m.keys.filter (fun k => !s.hasKey k)

theorem isUnion_union {s m : Entries} (hs : s.IsDictionary) (hm : m.IsDictionary) :
    IsUnion s m (union s m) where
  isDictionary := isDictionary_union hs hm
  second k v h := by
    rw [get?_union hm.isKeyed,h]
    rfl
  first k h := by
    rw [get?_union hm.isKeyed,h]
    rfl
  keys := keys_union hm.isKeyed s

/-- There is no other union of two maps. -/
theorem isUnion_iff {s m : Entries} (hs : s.IsDictionary) (hm : m.IsDictionary) (u : Entries) :
    IsUnion s m u ↔ u = union s m := by
  constructor
  · intro h
    have hkeys := h.keys.trans (keys_union hm.isKeyed s).symm
    refine eq_of_keys h.isDictionary (isDictionary_union hs hm) hkeys (fun k => ?_)
    rw [get?_union hm.isKeyed]
    cases hk : m.get? k with
    | some v => exact h.second k v hk
    | none => exact h.first k hk
  · rintro rfl
    exact isUnion_union hs hm

end ShortVolume.Entries
