import ShortVolume.Value
import ShortVolume.Proofs.Number.Units
set_option autoImplicit false

/-!
Keys of maps fall into classes.

What a scalar is as a key is its form: numbers of one value have one form, whatever their kind, and so
have a text and a word that is spelled like it. Two scalars are the same key when they have one form, so
being the same is an equivalence, for tuples of keys as for keys.
-/

namespace ShortVolume

/-- What a scalar is as a key. A time counts by its instant. -/
inductive KeyForm where
  | null
  /-- By the value, or for a number without a value by the number. -/
  | number (amount : ℚ ⊕ Binary64)
  | text (s : Text)
  | bytes (bs : List UInt8)
  | date (d : Date)
  | time (zoned : Bool) (instant : Int) (micro : Nat)
  deriving DecidableEq

namespace Binary64

def amount (x : Binary64) : ℚ ⊕ Binary64 := if x.isFinite then .inl x.value else .inr x

theorem isInt_iff_amount (x : Binary64) (i : Int) : x.isInt i = true ↔ x.amount = .inl i := by
  rw [isInt_iff,amount]
  cases x.isFinite <;> simp

theorem same_iff_amount (x y : Binary64) : x = y ∨ x.same y = true ↔ x.amount = y.amount := by
  unfold amount
  cases hx : x.isFinite <;> cases hy : y.isFinite
  · simp [same_iff_eq (.inl hx)]
  · rw [same_iff_eq (.inl hx)]
    exact iff_of_false (fun h => by simp [h,hy] at hx) (by simp)
  · rw [same_iff_eq (.inr hy)]
    exact iff_of_false (fun h => by simp [h,hy] at hx) (by simp)
  · simp [same_iff_value hx hy]

end Binary64

theorem Timestamp.same_iff (s t : Timestamp) :
    s.same t = true ↔
      s.zone.isSome = t.zone.isSome ∧ s.instant = t.instant ∧ s.micro = t.micro := by
  simp [same,and_assoc]

namespace Value

/-- The form of a scalar; collections have none. -/
def keyForm? : Value → Option KeyForm
  | null => some .null
  | bool b => some (.number (.inl (if b then 1 else 0 : Int)))
  | int i => some (.number (.inl i))
  | float x => some (.number x.amount)
  | text s => some (.text s)
  | term t => some (.text t.text)
  | bytes bs => some (.bytes bs)
  | date d => some (.date d)
  | time t => some (.time t.zone.isSome t.instant t.micro)
  | _ => none

theorem keyForm?_of_int? {v : Value} {i : Int} (h : v.int? = some i) :
    v.keyForm? = some (.number (.inl i)) := by
  cases v <;> simp [int?] at h <;> rw [← h] <;> rfl

/-- Only a number is the same key as an integer. -/
theorem sameScalar_of_int? {a : Value} {i : Int} (ha : a.int? = some i) (b : Value) :
    sameScalar a b = true ↔ b.keyForm? = some (.number (.inl i)) := by
  unfold sameScalar
  rw [ha]
  cases hb : b.int? with
  | some j =>
    rw [keyForm?_of_int? hb]
    simp only [beq_iff_eq,Option.some.injEq,KeyForm.number.injEq,Sum.inl.injEq,Int.cast_inj]
    exact eq_comm
  | none =>
    cases b <;> simp [int?] at hb <;> simp [keyForm?,Binary64.isInt_iff_amount]

theorem sameScalar_iff (a b : Value) :
    sameScalar a b = true ↔ a.keyForm?.isSome = true ∧ a.keyForm? = b.keyForm? := by
  cases a with
  | bool x =>
    rw [sameScalar_of_int? rfl]
    exact ⟨fun h => ⟨rfl,h.symm⟩,fun h => h.2.symm⟩
  | int i =>
    rw [sameScalar_of_int? rfl]
    exact ⟨fun h => ⟨rfl,h.symm⟩,fun h => h.2.symm⟩
  | _ =>
    cases b <;>
      simp [sameScalar,int?,text?,keyForm?,Binary64.isInt_iff_amount,Binary64.same_iff_amount,
        Timestamp.same_iff]

theorem sameScalar_symm {a b : Value} (h : sameScalar a b = true) : sameScalar b a = true := by
  rw [sameScalar_iff] at h ⊢
  exact ⟨h.2 ▸ h.1,h.2.symm⟩

theorem sameScalar_trans {a b c : Value} (h : sameScalar a b = true) (h' : sameScalar b c = true) :
    sameScalar a c = true := by
  rw [sameScalar_iff] at h h' ⊢
  exact ⟨h.1,h.2.trans h'.2⟩

theorem sameScalar_refl {a : Value} (h : a.keyForm?.isSome = true) : sameScalar a a = true :=
  (sameScalar_iff a a).mpr ⟨h,rfl⟩

/-! ### Keys -/

/-- A scalar is the same key as another scalar only. -/
theorem same_eq_sameScalar {a : Value} (h : a.keyForm?.isSome = true) (b : Value) :
    a.same b = sameScalar a b := by
  cases a with
  | list xs => contradiction
  | tuple xs => contradiction
  | _ => rfl

theorem same_of_sameScalar {a b : Value} (h : sameScalar a b = true) : a.same b = true := by
  rw [same_eq_sameScalar ((sameScalar_iff a b).mp h).1,h]

theorem same_list_iff {xs : List Value} {b : Value} :
    (list xs).same b = true ↔ ∃ ys, b = list ys ∧ sameAll xs ys = true := by
  cases b <;> simp [same,sameScalar,int?,text?]

theorem same_tuple_iff {xs : List Value} {b : Value} :
    (tuple xs).same b = true ↔ ∃ ys, b = tuple ys ∧ sameAll xs ys = true := by
  cases b <;> simp [same,sameScalar,int?,text?]

mutual

theorem same_refl {a : Value} (h : a.isKey = true) : a.same a = true := by
  cases a with
  | tuple xs => exact same_tuple_iff.mpr ⟨xs,rfl,sameAll_refl h⟩
  | list xs => contradiction
  | set xs => contradiction
  | map es => contradiction
  | orderedMap es => contradiction
  | loop id body => contradiction
  | again id => contradiction
  | _ => exact same_of_sameScalar (sameScalar_refl rfl)

theorem sameAll_refl {xs : List Value} (h : areKeys xs = true) : sameAll xs xs = true := by
  cases xs with
  | nil => rfl
  | cons x xs =>
    simp only [areKeys,Bool.and_eq_true] at h
    simp [sameAll,same_refl h.1,sameAll_refl h.2]

end

mutual

theorem same_symm {a b : Value} (h : a.same b = true) : b.same a = true := by
  cases a with
  | list xs =>
    obtain ⟨ys,rfl,hall⟩ := same_list_iff.mp h
    exact same_list_iff.mpr ⟨xs,rfl,sameAll_symm hall⟩
  | tuple xs =>
    obtain ⟨ys,rfl,hall⟩ := same_tuple_iff.mp h
    exact same_tuple_iff.mpr ⟨xs,rfl,sameAll_symm hall⟩
  | _ => exact same_of_sameScalar (sameScalar_symm h)

theorem sameAll_symm {xs ys : List Value} (h : sameAll xs ys = true) : sameAll ys xs = true := by
  match xs, ys with
  | [], [] => rfl
  | x :: xs, y :: ys =>
    simp only [sameAll,Bool.and_eq_true] at h
    simp [sameAll,same_symm h.1,sameAll_symm h.2]

end

mutual

theorem same_trans {a b c : Value} (h : a.same b = true) (h' : b.same c = true) :
    a.same c = true := by
  cases a with
  | list xs =>
    obtain ⟨ys,rfl,hall⟩ := same_list_iff.mp h
    obtain ⟨zs,rfl,hall'⟩ := same_list_iff.mp h'
    exact same_list_iff.mpr ⟨zs,rfl,sameAll_trans hall hall'⟩
  | tuple xs =>
    obtain ⟨ys,rfl,hall⟩ := same_tuple_iff.mp h
    obtain ⟨zs,rfl,hall'⟩ := same_tuple_iff.mp h'
    exact same_tuple_iff.mpr ⟨zs,rfl,sameAll_trans hall hall'⟩
  | _ =>
    have hb := ((sameScalar_iff _ _).mp (sameScalar_symm h)).1
    rw [same_eq_sameScalar hb] at h'
    exact same_of_sameScalar (sameScalar_trans h h')

theorem sameAll_trans {xs ys zs : List Value} (h : sameAll xs ys = true)
    (h' : sameAll ys zs = true) : sameAll xs zs = true := by
  match xs, ys, zs with
  | [], [], [] => rfl
  | x :: xs, y :: ys, z :: zs =>
    simp only [sameAll,Bool.and_eq_true] at h h'
    simp [sameAll,same_trans h.1 h'.1,sameAll_trans h.2 h'.2]

end

/-- The same keys are the same as the same keys. -/
theorem same_congr_left {a b : Value} (h : a.same b = true) (c : Value) : a.same c = b.same c := by
  rw [Bool.eq_iff_iff]
  exact ⟨same_trans (same_symm h),same_trans h⟩

end Value

/-- No key is there twice, as keys go. -/
def Entries.IsKeyed (es : Entries) : Prop := es.Pairwise (fun e f => e.1.same f.1 = false)

instance (es : Entries) : Decidable es.IsKeyed := inferInstanceAs (Decidable (List.Pairwise _ es))

end ShortVolume
