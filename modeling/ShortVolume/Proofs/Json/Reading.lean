import ShortVolume.Json.Parse
import ShortVolume.Proofs.Value.Showable
set_option autoImplicit false

/-!
What reading JSON gives.

A document has values of seven kinds. Its keys are texts at every level, and its integers have a decimal
text, since longer ones are refused. Only a run of as many digits is refused as an integer.
-/

namespace ShortVolume.Json

/-- The values that a document may hold. -/
inductive IsHeld : Value → Prop
  | null : IsHeld .null
  | bool (b : Bool) : IsHeld (.bool b)
  | int {i : Int} (h : hasDigits i = true) : IsHeld (.int i)
  | float (x : Binary64) : IsHeld (.float x)
  | text (s : Text) : IsHeld (.text s)
  | list {xs : List Value} (h : ∀ x ∈ xs, IsHeld x) : IsHeld (.list xs)
  | map {es : Entries} (hkeys : ∀ e ∈ es, ∃ s, e.1 = .text s) (h : ∀ e ∈ es, IsHeld e.2) :
    IsHeld (.map es)

theorem IsHeld.isShowable {v : Value} (h : IsHeld v) : v.isShowable = true := by
  induction h with
  | int h => exact h
  | list _ ih => exact Value.areShowable_iff.mpr ih
  | map hkeys _ ih =>
    refine Value.entriesShowable_iff.mpr (fun e he => ⟨?_,ih e he⟩)
    obtain ⟨s,hs⟩ := hkeys e he
    rw [hs]
    rfl
  | _ => rfl

/-- More digits in a row than an integer may have. -/
def HasLongInteger (s : List Letter) : Prop :=
  ∃ ds, ds <:+: s ∧ (∀ d ∈ ds, isDigit d = true) ∧ 4300 < ds.length

theorem HasLongInteger.of_suffix {r s : List Letter} (h : HasLongInteger r) (hr : r <:+ s) :
    HasLongInteger s := by
  obtain ⟨ds,hds,hdigits,hlong⟩ := h
  exact ⟨ds,hds.trans hr.isInfix,hdigits,hlong⟩

/-! ### Strings -/

/-- A reader goes on in its text, or finds what is against the grammar. -/
def GoesOn {α : Type} (c : Cursor) : Except Error (α × Cursor) → Prop
  | .ok (_, c') => c'.rest <:+ c.rest
  | .error e => e ≠ .longInteger

theorem GoesOn.of_suffix {α : Type} {c d : Cursor} {r : Except Error (α × Cursor)}
    (h : GoesOn c r) (hc : c.rest <:+ d.rest) : GoesOn d r := by
  rcases r with e | ⟨a,c'⟩
  · exact h
  · exact List.IsSuffix.trans h hc

theorem secondHalf?_ne {place : Nat} {r : List Letter} {e : Error} (h : secondHalf? place r = .error e) :
    e ≠ .longInteger := by
  unfold secondHalf? at h
  split at h
  · split at h
    · contradiction
    · split at h
      · cases h
        simp
      · contradiction
  · contradiction

theorem goesOn_stringFrom (start fuel : Nat) (c : Cursor) (done : List Letter) :
    GoesOn c (stringFrom start fuel c done) := by
  induction fuel generalizing c done with
  | zero => simp [stringFrom,GoesOn]
  | succ fuel ih =>
    obtain ⟨place,rest⟩ := c
    -- A step reads a part of the rest, and the rest of the string is read after that.
    have hstep (p : Nat) {r : List Letter} (hr : r <:+ rest) (done : List Letter) :
        GoesOn ⟨place,rest⟩ (stringFrom start fuel ⟨p,r⟩ done) := (ih ⟨p,r⟩ done).of_suffix hr
    unfold stringFrom
    split
    · simp [GoesOn]
    · exact List.suffix_cons _ _
    · next r =>
      split
      · simp [GoesOn]
      · next r' =>
        have hr : r' <:+ .char '\\' :: .char 'u' :: r' := ⟨['\\','u'],rfl⟩
        split
        · simp [GoesOn]
        · split
          · simp [GoesOn]
          · split
            · split
              · next h => exact secondHalf?_ne h
              · exact hstep _ ((List.drop_suffix _ _).trans hr) _
              · exact hstep _ ((List.drop_suffix _ _).trans hr) _
            · exact hstep _ ((List.drop_suffix _ _).trans hr) _
      · next e r' _ =>
        split
        · exact hstep _ ⟨[.char '\\',e],rfl⟩ _
        · simp [GoesOn]
    · split
      · simp [GoesOn]
      · exact hstep _ (List.suffix_cons _ _) _

theorem goesOn_string (c : Cursor) : GoesOn c (string c) := by
  have h := goesOn_stringFrom (c.place - 1) (c.rest.length + 1) c []
  unfold string
  cases hs : stringFrom (c.place - 1) (c.rest.length + 1) c [] <;> rwa [hs] at h

/-! ### Numbers -/

theorem fractionPart_suffix (r : List Letter) : (fractionPart r).2 <:+ r := by
  unfold fractionPart
  split
  · next d r' =>
    split
    · exact (List.dropWhile_suffix _).trans ⟨[.char '.',d],rfl⟩
    · exact List.suffix_refl _
  · exact List.suffix_refl _

theorem exponentPart_suffix (r : List Letter) : (exponentPart r).2 <:+ r := by
  unfold exponentPart
  split
  · next m r' =>
    split
    · split
      next negative r'' hsign =>
      have hr : r'' <:+ m :: r' := by
        split at hsign <;> cases hsign
        · exact ⟨[m,.char '-'],rfl⟩
        · exact ⟨[m,.char '+'],rfl⟩
        · exact List.suffix_cons _ _
      by_cases hds : (r''.takeWhile isDigit).isEmpty = true
      · simp only [hds,if_true]
        exact List.suffix_refl _
      · simp only [hds]
        exact (List.dropWhile_suffix _).trans hr
    · exact List.suffix_refl _
  · exact List.suffix_refl _

theorem numeral?_parts {s rest : List Letter} {n : Numeral} (h : numeral? s = some (n,rest)) :
    ∃ tail, n.whole ++ tail <:+ s ∧ rest <:+ tail ∧ ∀ d ∈ n.whole, isDigit d = true := by
  have hsuffix (after : List Letter) :
      (exponentPart (fractionPart after).2).2 <:+ after :=
    (exponentPart_suffix _).trans (fractionPart_suffix _)
  unfold numeral? at h
  split at h
  next negative unsigned hsign =>
  have hunsigned : unsigned <:+ s := by
    split at hsign <;> cases hsign
    · exact List.suffix_cons _ _
    · exact List.suffix_refl _
  split at h
  · contradiction
  · next d r =>
    by_cases hd : isDigit d = true
    · simp only [hd,if_true,Option.some.injEq,Prod.mk.injEq] at h
      obtain ⟨rfl,rfl⟩ := h
      by_cases hzero : d = '0'
      · subst hzero
        exact ⟨r,hunsigned,hsuffix r,List.forall_mem_singleton.mpr hd⟩
      · simp only [if_neg hzero]
        refine ⟨r.dropWhile isDigit,?_,hsuffix _,?_⟩
        · rwa [List.cons_append,List.takeWhile_append_dropWhile]
        · intro c hc
          rcases List.mem_cons.mp hc with rfl | hc
          · exact hd
          · exact List.all_eq_true.mp List.all_takeWhile c hc
    · simp [hd] at h

theorem foldl_digits_lt (ds : List Letter) (h : ∀ d ∈ ds, isDigit d = true) (n : Nat) :
    ds.foldl (fun n d => n * 10 + (d.toNat - '0'.toNat)) n < (n + 1) * tenTo ds.length := by
  induction ds generalizing n with
  | nil => simp [tenTo]
  | cons d r ih =>
    have hd : d.toNat - '0'.toNat ≤ 9 := by
      have hle : d.toNat ≤ 57 := by
        have hdigit := h d List.mem_cons_self
        cases d with
        | char c =>
          simpa [Char.isDigit,UInt32.le_iff_toNat_le] using
            And.right (Bool.and_eq_true_iff.mp hdigit)
        | half _ => contradiction
      exact Nat.sub_le_sub_right hle 48
    have htimes : tenTo (d :: r).length = 10 * tenTo r.length := Nat.mul_comm _ 10
    calc r.foldl (fun n d => n * 10 + (d.toNat - '0'.toNat)) (n * 10 + (d.toNat - '0'.toNat))
      _ < (n * 10 + (d.toNat - '0'.toNat) + 1) * tenTo r.length :=
        ih (fun c hc => h c (List.mem_cons_of_mem d hc)) _
      _ ≤ (n + 1) * 10 * tenTo r.length := Nat.mul_le_mul_right _ (by omega)
      _ = (n + 1) * tenTo (d :: r).length := by rw [htimes,Nat.mul_assoc]

theorem digitsValue_lt {ds : List Letter} (h : ∀ d ∈ ds, isDigit d = true) {k : Nat}
    (hk : ds.length ≤ k) : digitsValue ds < tenTo k := by
  have hlt := foldl_digits_lt ds h 0
  rw [Nat.zero_add,Nat.one_mul] at hlt
  exact Nat.lt_of_lt_of_le hlt (Nat.pow_le_pow_right (by decide) hk)

/-- An integer is refused for its digits only. -/
theorem Numeral.value_cases (n : Numeral) (hdigits : ∀ d ∈ n.whole, isDigit d = true) :
    (∃ v, n.value = .ok v ∧ IsHeld v) ∨ n.value = .error .longInteger ∧ 4300 < n.whole.length := by
  unfold Numeral.value
  split
  · split
    · next hlength =>
      refine .inl ⟨_,rfl,.int ?_⟩
      have hbound : digitsValue n.whole < digitBound := digitsValue_lt hdigits hlength
      split <;> simpa [hasDigits] using hbound
    · next hlength => exact .inr ⟨rfl,Nat.lt_of_not_le hlength⟩
  · exact .inl ⟨_,rfl,.float _⟩

/-! ### Values -/

/-- A reader goes on in its text with a value that a document may hold, or finds a fault: what is
against the grammar, or an integer of too many digits. -/
def Holds (c : Cursor) : Except Error (Value × Cursor) → Prop
  | .ok (v, c') => IsHeld v ∧ c'.rest <:+ c.rest
  | .error e => e = .longInteger → HasLongInteger c.rest

theorem Holds.of_suffix {c d : Cursor} {r : Except Error (Value × Cursor)} (h : Holds c r)
    (hc : c.rest <:+ d.rest) : Holds d r := by
  rcases r with e | ⟨v,c'⟩
  · exact fun he => (h he).of_suffix hc
  · exact ⟨h.1,h.2.trans hc⟩

theorem holds_grammar (c : Cursor) (cause : Cause) (place : Nat) :
    Holds c (.error (.grammar cause place)) := nofun

theorem skipSpaces_suffix (c : Cursor) : c.skipSpaces.rest <:+ c.rest := List.dropWhile_suffix _

theorem isHeld_of_mem_words : ∀ w ∈ words, IsHeld w.2 := by
  simp only [words,List.forall_mem_cons]
  exact ⟨.null,.bool _,.bool _,.float _,.float _,.float _,nofun⟩

theorem holds_atom (c : Cursor) : Holds c (atom c) := by
  unfold atom
  split
  · next w v hw =>
    exact ⟨isHeld_of_mem_words _ (List.mem_of_find?_eq_some hw),List.drop_suffix _ _⟩
  · split
    · next n rest hn =>
      obtain ⟨tail,htail,hrest,hdigits⟩ := numeral?_parts hn
      rcases n.value_cases hdigits with ⟨v,hv,hheld⟩ | ⟨hv,hlong⟩
      · rw [hv]
        exact ⟨hheld,(hrest.trans (List.suffix_append _ _)).trans htail⟩
      · rw [hv]
        exact fun _ => ⟨n.whole,(List.prefix_append _ _).isInfix.trans htail.isInfix,hdigits,hlong⟩
    · exact holds_grammar c _ _

/-- Names that come again take the values that come with them. -/
theorem forall_mem_put {P Q : Value → Prop} {k v : Value} {es : Entries} (hk : P k)
    (hv : Q v) (h : ∀ e ∈ es, P e.1 ∧ Q e.2) : ∀ e ∈ Entries.put k v es, P e.1 ∧ Q e.2 := by
  induction es with
  | nil => simpa [Entries.put] using ⟨hk,hv⟩
  | cons e r ih =>
    obtain ⟨hfirst,hrest⟩ := List.forall_mem_cons.mp h
    rw [Entries.put]
    split
    · exact List.forall_mem_cons.mpr ⟨⟨hfirst.1,hv⟩,hrest⟩
    · exact List.forall_mem_cons.mpr ⟨hfirst,ih hrest⟩

theorem forall_mem_union {P Q : Value → Prop} {es ms : Entries}
    (hes : ∀ e ∈ es, P e.1 ∧ Q e.2) (hms : ∀ e ∈ ms, P e.1 ∧ Q e.2) :
    ∀ e ∈ Entries.union es ms, P e.1 ∧ Q e.2 := by
  induction ms generalizing es with
  | nil => exact hes
  | cons m ms ih =>
    obtain ⟨hfirst,hrest⟩ := List.forall_mem_cons.mp hms
    exact ih (forall_mem_put hfirst.1 hfirst.2 hes) hrest

theorem isHeld_ofPairs {es : Entries} (h : ∀ e ∈ es, (∃ s, e.1 = .text s) ∧ IsHeld e.2) :
    IsHeld (.map (Entries.ofPairs es)) := by
  have hall : ∀ e ∈ Entries.ofPairs es, (∃ s, e.1 = .text s) ∧ IsHeld e.2 :=
    forall_mem_union (P := fun k => ∃ s, k = .text s) nofun h
  exact .map (fun e he => (hall e he).1) (fun e he => (hall e he).2)

/-! ### One step deeper -/

section Steps
variable {fuel : Nat} (hvalue : ∀ c, Holds c (value fuel c))
  (hitems : ∀ c done, (∀ x ∈ done, IsHeld x) → Holds c (items fuel c done))
  (hmembers : ∀ c done, (∀ e ∈ done, (∃ s, e.1 = .text s) ∧ IsHeld e.2) →
    Holds c (members fuel c done))

include hitems hmembers in
theorem holds_value_succ (c : Cursor) : Holds c (value (fuel + 1) c) := by
  unfold value
  split
  · next r hrest =>
    have hr : r <:+ c.rest := hrest ▸ List.suffix_cons _ _
    have hstring := goesOn_string ⟨c.place + 1,r⟩
    generalize string ⟨c.place + 1,r⟩ = read at hstring ⊢
    rcases read with e | ⟨s,c'⟩
    · exact fun he => absurd he hstring
    · exact ⟨.text s,List.IsSuffix.trans hstring hr⟩
  · next r hrest =>
    have hr : (Cursor.skipSpaces ⟨c.place + 1,r⟩).rest <:+ c.rest :=
      (skipSpaces_suffix _).trans (hrest ▸ List.suffix_cons _ _)
    simp only
    split
    · next r' hr' =>
      rw [hr'] at hr
      exact ⟨.list nofun,(List.suffix_cons _ _).trans hr⟩
    · exact (hitems _ [] nofun).of_suffix hr
  · next r hrest =>
    have hr : (Cursor.skipSpaces ⟨c.place + 1,r⟩).rest <:+ c.rest :=
      (skipSpaces_suffix _).trans (hrest ▸ List.suffix_cons _ _)
    simp only
    split
    · next r' hr' =>
      rw [hr'] at hr
      exact ⟨.map nofun nofun,(List.suffix_cons _ _).trans hr⟩
    · exact (hmembers _ [] nofun).of_suffix hr
  · exact holds_atom c

include hvalue hitems in
theorem holds_items_succ (c : Cursor) {done : List Value} (hdone : ∀ x ∈ done, IsHeld x) :
    Holds c (items (fuel + 1) c done) := by
  have hfirst := hvalue c
  unfold items
  generalize value fuel c = read at hfirst ⊢
  rcases read with e | ⟨v,c'⟩
  · exact hfirst
  · obtain ⟨hv,hc'⟩ := hfirst
    have hall : ∀ x ∈ v :: done, IsHeld x := List.forall_mem_cons.mpr ⟨hv,hdone⟩
    have hrest : c'.skipSpaces.rest <:+ c.rest := (skipSpaces_suffix c').trans hc'
    simp only
    split
    · next r hr =>
      rw [hr] at hrest
      exact ⟨.list (fun x hx => hall x (List.mem_reverse.mp hx)),(List.suffix_cons _ _).trans hrest⟩
    · next r hr =>
      rw [hr] at hrest
      refine (hitems _ _ hall).of_suffix ((skipSpaces_suffix _).trans ?_)
      exact (List.suffix_cons _ _).trans hrest
    · exact holds_grammar c _ _

include hvalue hmembers in
theorem holds_members_succ (c : Cursor) {done : Entries}
    (hdone : ∀ e ∈ done, (∃ s, e.1 = .text s) ∧ IsHeld e.2) :
    Holds c (members (fuel + 1) c done) := by
  unfold members
  split
  · next r hrest =>
    have hr : r <:+ c.rest := hrest ▸ List.suffix_cons _ _
    have hstring := goesOn_string ⟨c.place + 1,r⟩
    generalize string ⟨c.place + 1,r⟩ = read at hstring ⊢
    rcases read with e | ⟨name,c₁⟩
    · exact fun he => absurd he hstring
    · have hname : c₁.skipSpaces.rest <:+ c.rest :=
        (skipSpaces_suffix c₁).trans (List.IsSuffix.trans hstring hr)
      simp only
      split
      · next r₁ hr₁ =>
        rw [hr₁] at hname
        have hitem := (hvalue (Cursor.skipSpaces ⟨c₁.skipSpaces.place + 1,r₁⟩)).of_suffix
          ((skipSpaces_suffix _).trans ((List.suffix_cons _ _).trans hname))
        generalize value fuel (Cursor.skipSpaces ⟨c₁.skipSpaces.place + 1,r₁⟩) = read at hitem ⊢
        rcases read with e | ⟨v,c₂⟩
        · exact hitem
        · obtain ⟨hv,hc₂⟩ := hitem
          have hall : ∀ e ∈ (Value.text name,v) :: done, (∃ s, e.1 = .text s) ∧ IsHeld e.2 :=
            List.forall_mem_cons.mpr ⟨⟨⟨name,rfl⟩,hv⟩,hdone⟩
          have hnext : c₂.skipSpaces.rest <:+ c.rest := (skipSpaces_suffix c₂).trans hc₂
          simp only
          split
          · next r₂ hr₂ =>
            rw [hr₂] at hnext
            exact ⟨isHeld_ofPairs (fun e he => hall e (List.mem_reverse.mp he)),
              (List.suffix_cons _ _).trans hnext⟩
          · next r₂ hr₂ =>
            rw [hr₂] at hnext
            refine (hmembers _ _ hall).of_suffix ((skipSpaces_suffix _).trans ?_)
            exact (List.suffix_cons _ _).trans hnext
          · exact holds_grammar c _ _
      · exact holds_grammar c _ _
  · exact holds_grammar c _ _

end Steps

theorem holds_value (fuel : Nat) :
    (∀ c, Holds c (value fuel c)) ∧
      (∀ c done, (∀ x ∈ done, IsHeld x) → Holds c (items fuel c done)) ∧
      ∀ c done, (∀ e ∈ done, (∃ s, e.1 = .text s) ∧ IsHeld e.2) → Holds c (members fuel c done) := by
  -- The three readers call each other with one fuel less, so they go together.
  induction fuel with
  | zero =>
    refine ⟨fun c => ?_,fun c done _ => ?_,fun c done _ => ?_⟩
    · rw [value]
      exact holds_grammar c _ _
    · rw [items]
      exact holds_grammar c _ _
    · rw [members]
      exact holds_grammar c _ _
  | succ fuel ih =>
    obtain ⟨hvalue,hitems,hmembers⟩ := ih
    exact ⟨holds_value_succ hitems hmembers,fun c _ => holds_items_succ hvalue hitems c,
      fun c _ => holds_members_succ hvalue hmembers c⟩

/-- A document holds a value of one of the kinds, or is refused: for its grammar, or for a run of
digits. -/
theorem document_holds (s : List Letter) :
    (∃ v, document s = .ok v ∧ IsHeld v) ∨ (∃ cause place, document s = .error (.grammar cause place)) ∨
      document s = .error .longInteger ∧ HasLongInteger s := by
  have h := ((holds_value (2 * s.length + 2)).1 (Cursor.skipSpaces ⟨0,s⟩)).of_suffix
    (skipSpaces_suffix ⟨0,s⟩)
  unfold document
  generalize value (2 * s.length + 2) (Cursor.skipSpaces ⟨0,s⟩) = read at h ⊢
  rcases read with e | ⟨v,c⟩
  · cases e with
    | grammar cause place => exact .inr (.inl ⟨cause,place,rfl⟩)
    | longInteger => exact .inr (.inr ⟨rfl,h rfl⟩)
  · simp only
    split
    · exact .inl ⟨v,rfl,h.1⟩
    · exact .inr (.inl ⟨_,_,rfl⟩)

theorem ofText_holds (s : List Letter) :
    (∃ v, ofText s = .ok v ∧ IsHeld v) ∨ (∃ cause place, ofText s = .error (.grammar cause place)) ∨
      ofText s = .error .longInteger ∧ HasLongInteger s := by
  unfold ofText
  split
  · exact .inr (.inl ⟨_,_,rfl⟩)
  · exact document_holds s

end ShortVolume.Json
