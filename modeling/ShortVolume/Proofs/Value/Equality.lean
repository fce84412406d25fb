import ShortVolume.Volume
set_option autoImplicit false

/-!
Equality of values can be decided, and with it equality of volumes.

This is equality of the values themselves, kind by kind and part by part. It tells `1` and `true`
apart, which are one key (`Value.same`).
-/

namespace ShortVolume

namespace Value

mutual

/-- Whether two values are equal, part by part. -/
def equal : Value → Value → Bool
  | null, null => true
  | bool a, bool b => a == b
  | int i, int j => i == j
  | float x, float y => x == y
  | text s, text t => s == t
  | term s, term t => s == t
  | bytes s, bytes t => s == t
  | date s, date t => s == t
  | time s, time t => s == t
  | list xs, list ys => equalAll xs ys
  | tuple xs, tuple ys => equalAll xs ys
  | set xs, set ys => equalAll xs ys
  | map es, map fs => equalEntries es fs
  | orderedMap es, orderedMap fs => equalEntries es fs
  | loop i v, loop j w => i == j && equal v w
  | again i, again j => i == j
  | _, _ => false

def equalAll : List Value → List Value → Bool
  | [], [] => true
  | x :: xs, y :: ys => equal x y && equalAll xs ys
  | _, _ => false

def equalEntries : List (Value × Value) → List (Value × Value) → Bool
  | [], [] => true
  | (k, v) :: es, (l, w) :: fs => equal k l && equal v w && equalEntries es fs
  | _, _ => false

end

mutual

theorem eq_of_equal {a b : Value} (h : equal a b = true) : a = b := by
  cases a with
  | list xs =>
    cases b with
    | list ys => rw [eq_of_equalAll (show equalAll xs ys = true from h)]
    | _ => simp [equal] at h
  | tuple xs =>
    cases b with
    | tuple ys => rw [eq_of_equalAll (show equalAll xs ys = true from h)]
    | _ => simp [equal] at h
  | set xs =>
    cases b with
    | set ys => rw [eq_of_equalAll (show equalAll xs ys = true from h)]
    | _ => simp [equal] at h
  | map es =>
    cases b with
    | map fs => rw [eq_of_equalEntries (show equalEntries es fs = true from h)]
    | _ => simp [equal] at h
  | orderedMap es =>
    cases b with
    | orderedMap fs => rw [eq_of_equalEntries (show equalEntries es fs = true from h)]
    | _ => simp [equal] at h
  | loop i v =>
    cases b with
    | loop j w =>
      simp only [equal,Bool.and_eq_true,beq_iff_eq] at h
      rw [h.1,eq_of_equal h.2]
    | _ => simp [equal] at h
  | _ => cases b <;> simp_all [equal]

theorem eq_of_equalAll {xs ys : List Value} (h : equalAll xs ys = true) : xs = ys := by
  match xs, ys with
  | [], [] => rfl
  | x :: xs, y :: ys =>
    simp only [equalAll,Bool.and_eq_true] at h
    rw [eq_of_equal h.1,eq_of_equalAll h.2]

theorem eq_of_equalEntries {es fs : List (Value × Value)} (h : equalEntries es fs = true) :
    es = fs := by
  match es, fs with
  | [], [] => rfl
  | (k, v) :: es, (l, w) :: fs =>
    simp only [equalEntries,Bool.and_eq_true] at h
    rw [eq_of_equal h.1.1,eq_of_equal h.1.2,eq_of_equalEntries h.2]

end

mutual

theorem equal_self (a : Value) : equal a a = true := by
  cases a with
  | list xs => exact equalAll_self xs
  | tuple xs => exact equalAll_self xs
  | set xs => exact equalAll_self xs
  | map es => exact equalEntries_self es
  | orderedMap es => exact equalEntries_self es
  | loop i v => simp [equal,equal_self v]
  | _ => simp [equal]

theorem equalAll_self (xs : List Value) : equalAll xs xs = true := by
  cases xs with
  | nil => rfl
  | cons x xs => simp [equalAll,equal_self x,equalAll_self xs]

theorem equalEntries_self (es : List (Value × Value)) : equalEntries es es = true := by
  match es with
  | [] => rfl
  | (k, v) :: es => simp [equalEntries,equal_self k,equal_self v,equalEntries_self es]

end

instance : DecidableEq Value := fun a b =>
  decidable_of_iff (equal a b = true) ⟨eq_of_equal,fun h => h ▸ equal_self a⟩

end Value

deriving instance DecidableEq for Meta
deriving instance DecidableEq for Volume

end ShortVolume
