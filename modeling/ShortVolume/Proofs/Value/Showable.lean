import ShortVolume.Volume.Field
set_option autoImplicit false

/-!
Values whose integers all have a decimal text.

Such a value has such values in all its fields, also where it contains itself.
-/

namespace ShortVolume

namespace Value

mutual

/-- Opening a loop brings no other integers in. -/
theorem isShowable_unroll {id : Nat} {w : Value} (hw : w.isShowable = true) {v : Value}
    (hv : v.isShowable = true) : (unroll id w v).isShowable = true := by
  cases v with
  | again i =>
    rw [unroll]
    split
    · exact hw
    · rfl
  | loop i body =>
    rw [unroll]
    split
    · exact hv
    · exact isShowable_unroll hw (show body.isShowable = true from hv)
  | list xs => exact areShowable_unrollAll hw (show areShowable xs = true from hv)
  | tuple xs => exact areShowable_unrollAll hw (show areShowable xs = true from hv)
  | map es => exact entriesShowable_unrollEntries hw (show entriesShowable es = true from hv)
  | orderedMap es =>
    exact entriesShowable_unrollEntries hw (show entriesShowable es = true from hv)
  | _ => exact hv

theorem areShowable_unrollAll {id : Nat} {w : Value} (hw : w.isShowable = true) {xs : List Value}
    (hxs : areShowable xs = true) : areShowable (unrollAll id w xs) = true := by
  cases xs with
  | nil => rfl
  | cons x r =>
    simp only [areShowable,Bool.and_eq_true] at hxs
    simp only [unrollAll,areShowable,Bool.and_eq_true]
    exact ⟨isShowable_unroll hw hxs.1,areShowable_unrollAll hw hxs.2⟩

theorem entriesShowable_unrollEntries {id : Nat} {w : Value} (hw : w.isShowable = true)
    {es : Entries} (hes : entriesShowable es = true) :
    entriesShowable (unrollEntries id w es) = true := by
  cases es with
  | nil => rfl
  | cons e r =>
    obtain ⟨k,v⟩ := e
    simp only [entriesShowable,Bool.and_eq_true] at hes
    simp only [unrollEntries,entriesShowable,Bool.and_eq_true]
    exact ⟨⟨hes.1.1,isShowable_unroll hw hes.1.2⟩,entriesShowable_unrollEntries hw hes.2⟩

end

theorem isShowable_view {v : Value} (h : v.isShowable = true) : v.view.isShowable = true := by
  cases v with
  | loop id body => exact isShowable_unroll h h
  | _ => exact h

theorem entriesShowable_of_entries? {v : Value} {es : Entries} (h : v.isShowable = true)
    (hes : v.entries? = some es) : entriesShowable es = true := by
  have hview := isShowable_view h
  unfold entries? at hes
  split at hes
  · next hm =>
    cases hes
    rwa [hm] at hview
  · next hm =>
    cases hes
    rwa [hm] at hview
  · contradiction

theorem areShowable_iff {xs : List Value} :
    areShowable xs = true ↔ ∀ x ∈ xs, x.isShowable = true := by
  induction xs with
  | nil => simp [areShowable]
  | cons x r ih => simp [areShowable,ih]

theorem entriesShowable_iff {es : Entries} :
    entriesShowable es = true ↔ ∀ e ∈ es, e.1.isShowable = true ∧ e.2.isShowable = true := by
  induction es with
  | nil => simp [entriesShowable]
  | cons e r ih => simp [entriesShowable,ih]

end Value

theorem Entries.isShowable_field {es : Entries} (h : Value.entriesShowable es = true)
    (key : String) : (es.field key).isShowable = true := by
  unfold field lookup?
  induction es with
  | nil => rfl
  | cons e r ih =>
    obtain ⟨k,v⟩ := e
    simp only [Value.entriesShowable,Bool.and_eq_true] at h
    rw [get?]
    split
    · exact h.1.2
    · exact ih h.2

/-- The parts of a field are showable too. -/
theorem Entries.entriesShowable_part {es : Entries} (h : Value.entriesShowable es = true)
    (key : String) : Value.entriesShowable ((es.field key).entries?.getD []) = true := by
  cases hm : (es.field key).entries? with
  | none => rfl
  | some m => exact Value.entriesShowable_of_entries? (isShowable_field h key) hm

end ShortVolume
