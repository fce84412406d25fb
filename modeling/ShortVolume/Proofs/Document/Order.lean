import Mathlib.Data.List.Nodup
import Mathlib.Data.List.Perm.Basic
import ShortVolume.Document.Order
import ShortVolume.Proofs.Record.Fields
set_option autoImplicit false

/-!
Putting keys in order.

Ordering moves entries and adds or drops none. Looking a key up is not affected, and entries that
are in order stay where they are.
-/

namespace ShortVolume

namespace Entries

theorem isNamed_iff (name : String) (e : Value × Value) :
    isNamed name e = true ↔ e.1.text? = some (name : Text) := by
  simp [isNamed,Value.same_text]

/-- An entry has one name. -/
theorem isNamed_unique {a b : String} {e : Value × Value} (ha : isNamed a e = true)
    (hb : isNamed b e = true) : a = b := by
  rw [isNamed_iff] at ha hb
  exact Text.ofString_inj.mp (Option.some.inj (ha.symm.trans hb))

/-- The entries with the given names, name by name. -/
def grouped (names : List String) (es : Entries) : Entries :=
  names.flatMap (fun name => es.filter (isNamed name))

/-- The entries with none of the given names. -/
def ungrouped (names : List String) (es : Entries) : Entries :=
  es.filter (fun e => !names.any (fun name => isNamed name e))

theorem leadingFirst_eq (es : Entries) :
    leadingFirst es = grouped leading es ++ ungrouped leading es := rfl

theorem leading_nodup : leading.Nodup := by decide

/-! ### Looking up -/

theorem lookup?_filter_self (key : String) (es : Entries) :
    lookup? (es.filter (isNamed key)) key = es.lookup? key := by
  induction es with
  | nil => rfl
  | cons e es ih =>
    obtain ⟨k,v⟩ := e
    by_cases h : k.text? = some (key : Text)
    · have hn : isNamed key (k,v) = true := (isNamed_iff _ _).mpr h
      simp [hn,lookup?_cons,h]
    · have hn : isNamed key (k,v) = false := Bool.eq_false_iff.mpr (mt (isNamed_iff _ _).mp h)
      simp [hn,lookup?_cons,h,ih]

/-- A part of the entries in which the key does not occur. -/
theorem lookup?_filter_none {key : String} {p : Value × Value → Bool} {es : Entries}
    (h : ∀ e, isNamed key e = true → p e = false) : lookup? (es.filter p) key = none := by
  induction es with
  | nil => rfl
  | cons e es ih =>
    obtain ⟨k,v⟩ := e
    cases hp : p (k,v) with
    | false => simpa [hp] using ih
    | true =>
      have hk : k.text? ≠ some (key : Text) := by
        intro hk
        have := h (k,v) ((isNamed_iff _ _).mpr hk)
        simp [hp] at this
      simpa [hp,lookup?_cons,hk] using ih

/-- A part of the entries that has all of those with the key. -/
theorem lookup?_filter_all {key : String} {p : Value × Value → Bool} {es : Entries}
    (h : ∀ e, isNamed key e = true → p e = true) :
    lookup? (es.filter p) key = es.lookup? key := by
  have hp : (es.filter p).filter (isNamed key) = es.filter (isNamed key) := by
    rw [List.filter_filter]
    congr 1
    funext e
    cases he : isNamed key e <;> simp [he,h e]
  rw [← lookup?_filter_self,hp,lookup?_filter_self]

theorem lookup?_grouped (names : List String) (es : Entries) (key : String) :
    lookup? (grouped names es) key = if key ∈ names then es.lookup? key else none := by
  induction names with
  | nil => rfl
  | cons name names ih =>
    rw [grouped,List.flatMap_cons,lookup?_append,← grouped,ih]
    by_cases hname : key = name
    · subst hname
      rw [lookup?_filter_self]
      cases es.lookup? key <;> simp
    · rw [lookup?_filter_none]
      · simp [hname]
      · intro e he
        cases hn : isNamed name e with
        | false => rfl
        | true => exact absurd (isNamed_unique he hn) hname

theorem lookup?_leadingFirst (es : Entries) (key : String) :
    (leadingFirst es).lookup? key = es.lookup? key := by
  rw [leadingFirst_eq,lookup?_append,lookup?_grouped]
  by_cases hkey : key ∈ leading
  · rw [if_pos hkey,ungrouped,lookup?_filter_none]
    · cases es.lookup? key <;> rfl
    · intro e he
      simpa using ⟨key,hkey,he⟩
  · rw [if_neg hkey,ungrouped,lookup?_filter_all]
    · rfl
    · intro e he
      simp only [Bool.not_eq_true',List.any_eq_false]
      intro name hname hn
      exact hkey (isNamed_unique he hn ▸ hname)

/-! ### The same entries -/

theorem grouped_append_ungrouped_perm {names : List String} (hn : names.Nodup) (es : Entries) :
    (grouped names es ++ ungrouped names es).Perm es := by
  induction names generalizing es with
  | nil => simp [grouped,ungrouped]
  | cons name names ih =>
    obtain ⟨hname,hnames⟩ := List.nodup_cons.mp hn
    -- The other names find the same entries when those with this name are taken out.
    let others := es.filter (fun e => !isNamed name e)
    have hgrouped : grouped names es = grouped names others := by
      refine List.flatMap_congr (fun other hother => ?_)
      rw [List.filter_filter]
      congr 1
      funext e
      cases he : isNamed other e with
      | false => rfl
      | true =>
        cases hn' : isNamed name e with
        | false => rfl
        | true => exact absurd (isNamed_unique hn' he ▸ hother) hname
    have hungrouped : ungrouped (name :: names) es = ungrouped names others := by
      rw [ungrouped,ungrouped,List.filter_filter]
      congr 1
      funext e
      simp [Bool.and_comm]
    rw [hungrouped,grouped,List.flatMap_cons,← grouped,hgrouped,List.append_assoc]
    exact ((ih hnames others).append_left _).trans (List.filter_append_perm _ es)

theorem leadingFirst_perm (es : Entries) : (leadingFirst es).Perm es :=
  grouped_append_ungrouped_perm leading_nodup es

/-! ### A second time -/

theorem mem_grouped {names : List String} {es : Entries} {e : Value × Value} :
    e ∈ grouped names es ↔ e ∈ es ∧ ∃ name ∈ names, isNamed name e = true := by
  simp only [grouped,List.mem_flatMap,List.mem_filter]
  constructor
  · rintro ⟨name,hname,he,hn⟩
    exact ⟨he,name,hname,hn⟩
  · rintro ⟨he,name,hname,hn⟩
    exact ⟨name,hname,he,hn⟩

theorem filter_grouped_of_not_mem {names : List String} {es : Entries} {name : String}
    (h : name ∉ names) : (grouped names es).filter (isNamed name) = [] := by
  rw [List.filter_eq_nil_iff]
  intro e he hn
  obtain ⟨-,other,hother,hn'⟩ := mem_grouped.mp he
  exact h (isNamed_unique hn hn' ▸ hother)

theorem filter_grouped {names : List String} (hn : names.Nodup) (es : Entries) {name : String}
    (h : name ∈ names) : (grouped names es).filter (isNamed name) = es.filter (isNamed name) := by
  induction names with
  | nil => contradiction
  | cons other names ih =>
    obtain ⟨hother,hnames⟩ := List.nodup_cons.mp hn
    rw [grouped,List.flatMap_cons,List.filter_append,← grouped]
    by_cases heq : name = other
    · subst heq
      rw [filter_grouped_of_not_mem hother,List.filter_filter]
      simp
    · have hfirst : (es.filter (isNamed other)).filter (isNamed name) = [] := by
        rw [List.filter_eq_nil_iff]
        intro e he hname
        exact heq (isNamed_unique hname (List.mem_filter.mp he).2)
      rw [hfirst,ih hnames ((List.mem_cons.mp h).resolve_left heq),List.nil_append]

theorem filter_ungrouped {names : List String} {es : Entries} {name : String} (h : name ∈ names) :
    (ungrouped names es).filter (isNamed name) = [] := by
  rw [List.filter_eq_nil_iff]
  intro e he hn
  have hnone := (List.mem_filter.mp he).2
  simp only [Bool.not_eq_true',List.any_eq_false] at hnone
  exact hnone name h hn

theorem ungrouped_grouped (names : List String) (es : Entries) :
    ungrouped names (grouped names es) = [] := by
  rw [ungrouped,List.filter_eq_nil_iff]
  intro e he
  obtain ⟨-,name,hname,hn⟩ := mem_grouped.mp he
  simpa using ⟨name,hname,hn⟩

theorem ungrouped_leadingFirst (es : Entries) :
    ungrouped leading (leadingFirst es) = ungrouped leading es := by
  rw [ungrouped,leadingFirst_eq,List.filter_append,← ungrouped,ungrouped_grouped,
    List.nil_append,ungrouped,List.filter_filter]
  simp

theorem leadingFirst_idem (es : Entries) : leadingFirst (leadingFirst es) = leadingFirst es := by
  have hgrouped : grouped leading (leadingFirst es) = grouped leading es := by
    refine List.flatMap_congr (fun name hname => ?_)
    rw [leadingFirst_eq,List.filter_append,filter_grouped leading_nodup es hname,
      filter_ungrouped hname,List.append_nil]
  rw [leadingFirst_eq (leadingFirst es),hgrouped,ungrouped_leadingFirst,← leadingFirst_eq]

end Entries

/-! ### Values -/

/-- A value under a key, in order: of a list each item. -/
def Value.orderedField : Value → Value
  | .list xs => .list (Value.orderedItems xs)
  | v => v.ordered

theorem Value.orderedEntries_eq_map (es : Entries) :
    Value.orderedEntries es = es.map (fun e => (e.1,e.2.orderedField)) := by
  induction es with
  | nil => rfl
  | cons e es ih =>
    obtain ⟨k,v⟩ := e
    cases v <;> simp [Value.orderedEntries,Value.orderedField,ih]

namespace Entries

def ordered (es : Entries) : Entries := leadingFirst (Value.orderedEntries es)

theorem lookup?_map (f : Value → Value) (es : Entries) (key : String) :
    lookup? (es.map (fun e => (e.1,f e.2))) key = (es.lookup? key).map f := by
  induction es with
  | nil => rfl
  | cons e es ih =>
    obtain ⟨k,v⟩ := e
    by_cases h : k.text? = some (key : Text) <;> simp [lookup?_cons,h,ih]

theorem leadingFirst_map (f : Value → Value) (es : Entries) :
    leadingFirst (es.map (fun e => (e.1,f e.2))) =
      (leadingFirst es).map (fun e => (e.1,f e.2)) := by
  simp [leadingFirst,List.filter_map,List.map_flatMap,isNamed,Function.comp_def]
  rfl

theorem field_ordered (es : Entries) (key : String) :
    es.ordered.field key = (es.field key).orderedField := by
  rw [field,ordered,lookup?_leadingFirst,Value.orderedEntries_eq_map,lookup?_map,field]
  cases es.lookup? key <;> rfl

theorem length_ordered (es : Entries) : es.ordered.length = es.length := by
  rw [ordered,(leadingFirst_perm _).length_eq,Value.orderedEntries_eq_map,List.length_map]

end Entries

end ShortVolume
