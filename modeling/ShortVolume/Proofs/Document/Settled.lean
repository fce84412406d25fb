import ShortVolume.Proofs.Document.Order
set_option autoImplicit false

/-!
Documents that are in order.

What a document in order is can be said without ordering one. It is made of the same maps, lists and other
values (`Value.Alike`). And wherever a map is reached through maps, or as an item of a list that such a map
holds, its leading keys come first, in their order, and then the others as they came (`Value.InOrder`).
Ordering a document gives this, and changes a document in order no more.
-/

namespace ShortVolume

namespace Entries

/-- The place of a key among the leading ones, and behind them for any other key. -/
def rank (k : Value) : Nat :=
  leading.findIdx (fun (name : String) => k.text? == some (name : Text))

/-- The second entries are the first, those with leading keys in front and all others as they came. -/
structure Settle (es fs : Entries) : Prop where
  perm : fs.Perm es
  sorted : fs.Pairwise (fun e f => rank e.1 ≤ rank f.1)
  others : fs.filter (fun e => rank e.1 == leading.length) =
    es.filter (fun e => rank e.1 == leading.length)

theorem rank_le (k : Value) : rank k ≤ leading.length := List.findIdx_le_length

theorem rank_of_isNamed {name : String} {e : Value × Value} (h : isNamed name e = true) :
    rank e.1 = leading.idxOf name := by
  have hsame (w : String) : (some (name : Text) == some (w : Text)) = (w == name) := by
    rw [Bool.eq_iff_iff,beq_iff_eq,beq_iff_eq,Option.some_inj,Text.ofString_inj]
    exact eq_comm
  rw [rank,(isNamed_iff name e).mp h,List.idxOf]
  simp only [hsame]

theorem rank_beq_length (e : Value × Value) :
    (rank e.1 == leading.length) = !leading.any (fun name => isNamed name e) := by
  rw [Bool.eq_iff_iff,beq_iff_eq,Bool.not_eq_true',List.any_eq_false]
  constructor
  · intro h name hname hn
    rw [rank_of_isNamed hn] at h
    exact absurd (List.idxOf_lt_length_of_mem hname) (by omega)
  · intro h
    refine List.findIdx_eq_length.mpr (fun name hname => ?_)
    rw [Bool.eq_false_iff,Ne,beq_iff_eq,← isNamed_iff]
    exact h name hname

theorem filter_rank (es : Entries) :
    es.filter (fun e => rank e.1 == leading.length) = ungrouped leading es :=
  List.filter_congr (fun e _ => rank_beq_length e)

theorem sorted_of_rank {n : Nat} {es : Entries} (h : ∀ e ∈ es, rank e.1 = n) :
    es.Pairwise (fun e f => rank e.1 ≤ rank f.1) :=
  List.pairwise_of_forall_mem_list
    (fun e he f hf => Nat.le_of_eq ((h e he).trans (h f hf).symm))

theorem grouped_sorted (es : Entries) :
    (grouped leading es).Pairwise (fun e f => rank e.1 ≤ rank f.1) := by
  have hnamed (name : String) (e : Value × Value) (he : e ∈ es.filter (isNamed name)) :
      rank e.1 = leading.idxOf name := rank_of_isNamed (List.mem_filter.mp he).2
  have hleading : leading.Pairwise (fun a b => leading.idxOf a ≤ leading.idxOf b) := by decide
  rw [grouped,List.pairwise_flatMap]
  refine ⟨fun name _ => sorted_of_rank (hnamed name),hleading.imp (fun hab e he f hf => ?_)⟩
  rwa [hnamed _ e he,hnamed _ f hf]

theorem settle_leadingFirst (es : Entries) : Settle es (leadingFirst es) where
  perm := leadingFirst_perm es
  sorted := by
    have hlast (f : Value × Value) (hf : f ∈ ungrouped leading es) : rank f.1 = leading.length := by
      have hother := (List.mem_filter.mp hf).2
      rw [← rank_beq_length] at hother
      exact beq_iff_eq.mp hother
    rw [leadingFirst_eq,List.pairwise_append]
    refine ⟨grouped_sorted es,sorted_of_rank hlast,fun e _ f hf => ?_⟩
    rw [hlast f hf]
    exact rank_le e.1
  others := by rw [filter_rank,filter_rank,ungrouped_leadingFirst]

theorem leadingFirst_singleton (e : Value × Value) : leadingFirst [e] = [e] :=
  List.perm_singleton.mp (leadingFirst_perm [e])

end Entries

/-- No word is taken for the wrapper's key. -/
theorem Term.text_ne_wrapperKey (t : Term) : t.text ≠ wrapperKey := by
  cases t with
  | mode m => cases m <;> decide
  | policy p => cases p <;> decide
  | pathType t => cases t <;> decide

namespace Value

/-- The entries of a map of either kind, in sight. -/
def fields? : Value → Option Entries
  | map es | orderedMap es => some es
  | _ => none

/-- Equality as nested maps and lists: the entries of a map may stand in any order. -/
inductive Alike : Value → Value → Prop
  | same (v : Value) : Alike v v
  | list {xs ys : List Value} (h : List.Forall₂ Alike xs ys) : Alike (.list xs) (.list ys)
  | map {v w : Value} {es gs fs : Entries} (hv : v.fields? = some es) (hw : w.fields? = some fs)
      (hkeys : gs.map Prod.fst = es.map Prod.fst)
      (hvalues : List.Forall₂ Alike (es.map Prod.snd) (gs.map Prod.snd)) (hperm : fs.Perm gs) :
      Alike v w

mutual

/-- The second value is the first with its keys in order. What is no map is as it was, so a list is too. -/
inductive InOrder : Value → Value → Prop
  | map {v : Value} {es gs fs : Entries} (hv : v.fields? = some es)
      (hkeys : gs.map Prod.fst = es.map Prod.fst)
      (hvalues : List.Forall₂ FieldInOrder (es.map Prod.snd) (gs.map Prod.snd))
      (hsettle : Entries.Settle gs fs) : InOrder v (.map fs)
  | other {v : Value} (hv : v.fields? = none) : InOrder v v

/-- The same under a key, where of a list each item is in order. -/
inductive FieldInOrder : Value → Value → Prop
  | list {xs ys : List Value} (h : List.Forall₂ InOrder xs ys) : FieldInOrder (.list xs) (.list ys)
  | value {v w : Value} (hv : ∀ xs, v ≠ .list xs) (h : InOrder v w) : FieldInOrder v w

end

/-! ### Ordering -/

theorem keys_orderedEntries (es : Entries) :
    (orderedEntries es).map Prod.fst = es.map Prod.fst := by
  simp [orderedEntries_eq_map,Function.comp_def]

mutual

theorem alike_ordered (v : Value) : Alike v v.ordered := by
  cases v with
  | map es =>
    exact .map rfl rfl (keys_orderedEntries es) (alike_orderedEntries es)
      (Entries.leadingFirst_perm _)
  | orderedMap es =>
    exact .map rfl rfl (keys_orderedEntries es) (alike_orderedEntries es)
      (Entries.leadingFirst_perm _)
  | _ => exact .same _

theorem alike_orderedEntries (es : List (Value × Value)) :
    List.Forall₂ Alike (es.map Prod.snd) ((orderedEntries es).map Prod.snd) := by
  match es with
  | [] => exact .nil
  | (k, v) :: es =>
    cases v with
    | list xs => exact .cons (.list (alike_orderedItems xs)) (alike_orderedEntries es)
    | _ => exact .cons (alike_ordered _) (alike_orderedEntries es)

theorem alike_orderedItems (xs : List Value) : List.Forall₂ Alike xs (orderedItems xs) := by
  cases xs with
  | nil => exact .nil
  | cons x xs => exact .cons (alike_ordered x) (alike_orderedItems xs)

end

mutual

theorem inOrder_ordered (v : Value) : InOrder v v.ordered := by
  cases v with
  | map es =>
    exact .map rfl (keys_orderedEntries es) (inOrder_orderedEntries es)
      (Entries.settle_leadingFirst _)
  | orderedMap es =>
    exact .map rfl (keys_orderedEntries es) (inOrder_orderedEntries es)
      (Entries.settle_leadingFirst _)
  | _ => exact .other rfl

theorem inOrder_orderedEntries (es : List (Value × Value)) :
    List.Forall₂ FieldInOrder (es.map Prod.snd) ((orderedEntries es).map Prod.snd) := by
  match es with
  | [] => exact .nil
  | (k, v) :: es =>
    cases v with
    | list xs => exact .cons (.list (inOrder_orderedItems xs)) (inOrder_orderedEntries es)
    | _ => exact .cons (.value nofun (inOrder_ordered _)) (inOrder_orderedEntries es)

theorem inOrder_orderedItems (xs : List Value) : List.Forall₂ InOrder xs (orderedItems xs) := by
  cases xs with
  | nil => exact .nil
  | cons x xs => exact .cons (inOrder_ordered x) (inOrder_orderedItems xs)

end

theorem orderedEntries_cons (k v : Value) (es : Entries) :
    orderedEntries ((k,v) :: es) = (k,v.orderedField) :: orderedEntries es := by
  rw [orderedEntries_eq_map,orderedEntries_eq_map,List.map_cons]

/-- Entries are put in place before or after their values are. -/
theorem orderedEntries_leadingFirst (es : Entries) :
    orderedEntries (Entries.leadingFirst es) = Entries.leadingFirst (orderedEntries es) := by
  rw [orderedEntries_eq_map,orderedEntries_eq_map,Entries.leadingFirst_map]

mutual

theorem ordered_ordered (v : Value) : v.ordered.ordered = v.ordered := by
  cases v with
  | map es =>
    rw [ordered,ordered,orderedEntries_leadingFirst,orderedEntries_orderedEntries es,
      Entries.leadingFirst_idem]
  | orderedMap es =>
    rw [ordered,ordered,orderedEntries_leadingFirst,orderedEntries_orderedEntries es,
      Entries.leadingFirst_idem]
  | _ => rfl

theorem orderedEntries_orderedEntries (es : List (Value × Value)) :
    orderedEntries (orderedEntries es) = orderedEntries es := by
  match es with
  | [] => rfl
  | (k, v) :: es =>
    rw [orderedEntries_cons,orderedEntries_cons,orderedEntries_orderedEntries es]
    cases v with
    | list xs => rw [orderedField,orderedField,orderedItems_orderedItems xs]
    | map fs => exact congrArg (fun w => (k,w) :: orderedEntries es) (ordered_ordered (.map fs))
    | orderedMap fs =>
      exact congrArg (fun w => (k,w) :: orderedEntries es) (ordered_ordered (.orderedMap fs))
    | _ => rfl

theorem orderedItems_orderedItems (xs : List Value) :
    orderedItems (orderedItems xs) = orderedItems xs := by
  cases xs with
  | nil => rfl
  | cons x xs => rw [orderedItems,orderedItems,ordered_ordered x,orderedItems_orderedItems xs]

end

/-! ### Documents -/

/-- A document with nothing but the wrapper's key, and a list under it. The maps in this list are not
reached. -/
def WrapsList (v : Value) : Prop := ∃ xs, v.fields? = some [(.text wrapperKey,.list xs)]

theorem text_of_same_wrapperKey {k : Value} (h : k.same (.text wrapperKey) = true) :
    k = .text wrapperKey := by
  rw [same_text,beq_iff_eq] at h
  cases k with
  | text s => exact congrArg Value.text (Option.some.inj h)
  | term t => exact absurd (Text.ofString_inj.mp (Option.some.inj h)) t.text_ne_wrapperKey
  | _ => contradiction

/-- An entry that is alone is in place. -/
theorem ordered_wrapper {record : Value} (h : ∀ xs, record ≠ .list xs) :
    (Value.map [(.text wrapperKey,record)]).ordered = .map [(.text wrapperKey,record.ordered)] := by
  rw [ordered,orderedEntries_eq_map,List.map_singleton,Entries.leadingFirst_singleton]
  cases record with
  | list xs => exact absurd rfl (h xs)
  | _ => rfl

theorem orderedDocument_eq_ordered {doc : Value} (h : ¬ doc.WrapsList) :
    doc.orderedDocument = doc.ordered := by
  have hone (k record : Value) (hlist : ∀ xs, (k,record) ≠ (.text wrapperKey,.list xs)) :
      (if k.same (.text wrapperKey) then .map [(.text wrapperKey,record.ordered)]
        else (Value.map [(k,record)]).ordered) = (Value.map [(k,record)]).ordered := by
    split
    · next hk =>
      obtain rfl := text_of_same_wrapperKey hk
      exact (ordered_wrapper (fun xs hxs => hlist xs (congrArg _ hxs))).symm
    · rfl
  unfold orderedDocument
  split
  · next k record => exact hone k record (fun xs hxs => h ⟨xs,congrArg (some [·]) hxs⟩)
  · next k record => exact hone k record (fun xs hxs => h ⟨xs,congrArg (some [·]) hxs⟩)
  · rfl

theorem orderedField_eq_list {v : Value} {xs : List Value} (h : v.orderedField = .list xs) :
    ∃ ys, v = .list ys := by
  cases v with
  | list ys => exact ⟨ys,rfl⟩
  | _ => contradiction

theorem fields?_ordered {v : Value} {fs : Entries} (h : v.ordered.fields? = some fs) :
    ∃ es, v.fields? = some es ∧ fs = Entries.leadingFirst (orderedEntries es) := by
  cases v with
  | map es => exact ⟨es,rfl,(Option.some.inj h).symm⟩
  | orderedMap es => exact ⟨es,rfl,(Option.some.inj h).symm⟩
  | _ => contradiction

/-- A document in order wraps a list only if it did before. -/
theorem WrapsList.of_ordered {v : Value} (h : v.ordered.WrapsList) : v.WrapsList := by
  obtain ⟨xs,hxs⟩ := h
  obtain ⟨es,hes,hordered⟩ := fields?_ordered hxs
  have hperm := Entries.leadingFirst_perm (orderedEntries es)
  rw [← hordered,List.singleton_perm,orderedEntries_eq_map,eq_comm,List.map_eq_singleton_iff] at hperm
  obtain ⟨⟨k,record⟩,rfl,he⟩ := hperm
  obtain ⟨rfl,hrecord⟩ := Prod.mk.inj he
  obtain ⟨ys,rfl⟩ := orderedField_eq_list hrecord
  exact ⟨ys,hes⟩

/-- Ordering a document loses, adds and changes nothing, puts the leading keys first in each map that it
reaches, and is done once. -/
theorem orderedDocument_settles {doc : Value} (hlist : ¬ doc.WrapsList) :
    doc.Alike doc.orderedDocument ∧ doc.InOrder doc.orderedDocument ∧
      doc.orderedDocument.orderedDocument = doc.orderedDocument := by
  rw [orderedDocument_eq_ordered hlist]
  refine ⟨alike_ordered doc,inOrder_ordered doc,?_⟩
  rw [orderedDocument_eq_ordered (mt WrapsList.of_ordered hlist),ordered_ordered]

/-- Keys out of order at each depth, one of them a number. -/
def scattered : Value :=
  .map [
    (.text "zone",.list [.map [(.text "b",.null),(.text "name",.text "x")],
      .list [.map [(.text "b",.null),(.text "name",.text "x")]]]),
    (.int 7,.orderedMap [(.text "a",.bool true),(.text "vol_id",.text "y"),
      (.text "cluster",.text "z")]),
    (.text "version",.text "v"),
    (.text "name",.text "n")]

/-- The same in order. The map of the list in a list is as it was. -/
def gathered : Value :=
  .map [
    (.text "name",.text "n"),
    (.text "version",.text "v"),
    (.text "zone",.list [.map [(.text "name",.text "x"),(.text "b",.null)],
      .list [.map [(.text "b",.null),(.text "name",.text "x")]]]),
    (.int 7,.map [(.text "cluster",.text "z"),(.text "vol_id",.text "y"),
      (.text "a",.bool true)])]

theorem orderedDocument_scattered :
    ¬ scattered.WrapsList ∧ scattered.Alike gathered ∧ scattered.InOrder gathered ∧
      gathered.orderedDocument = gathered := by
  have hlist : ¬ scattered.WrapsList := by simp [WrapsList,scattered,fields?]
  have hgathered : scattered.orderedDocument = gathered := rfl
  exact ⟨hlist,hgathered ▸ orderedDocument_settles hlist⟩

end Value

end ShortVolume
