import ShortVolume.Yaml.Scalar
import ShortVolume.Value.Literal
import ShortVolume.Proofs.Yaml.Word
set_option autoImplicit false

/-!
Integers and truth values as plain scalars.

The decimal text of an integer is one word, its form is that of an integer, and it is read as the
integer. The same goes for the names of the truth values.
-/

namespace ShortVolume.Yaml

/-! ### Digits -/

theorem mem_digits {c : Char} (h : c.isDigit = true) : c ∈ "0123456789".toList := by
  have hbound : 48 ≤ c.toNat ∧ c.toNat ≤ 57 := by
    simp only [Char.isDigit,Bool.and_eq_true,decide_eq_true_eq] at h
    exact h
  have hall : ∀ n : Fin 58, 48 ≤ n.val → Char.ofNat n.val ∈ "0123456789".toList := by decide
  have := hall ⟨c.toNat,by omega⟩ hbound.1
  rwa [Char.ofNat_toNat] at this

/-- What a digit is to the readers of words, of numbers and of their forms. -/
structure IsDigit (c : Char) : Prop where
  tame : Plain.isTame c = true
  digit : isDigit c = true
  padding : Numeral.isPadding c = false
  plain : Text.plainDigit c = c
  value : Numeral.digit? 10 c = some (c.toNat - '0'.toNat)
  sign : c ≠ '-' ∧ c ≠ '+'
  letter : c ≠ 'b' ∧ c ≠ 'x' ∧ c ≠ 'o'
  mark : c ≠ '_' ∧ c ≠ '.' ∧ c ≠ '\n'

theorem isDigit_of_mem {n : Nat} {c : Char} (h : c ∈ Nat.toDigits 10 n) : IsDigit c := by
  have hmem := mem_digits (Nat.isDigit_of_mem_toDigits (by decide) (by decide) h)
  have hall : "0123456789".toList.all (fun c => decide (Plain.isTame c = true ∧ isDigit c = true ∧
      Numeral.isPadding c = false ∧ Text.plainDigit c = c ∧
      Numeral.digit? 10 c = some (c.toNat - '0'.toNat) ∧ (c ≠ '-' ∧ c ≠ '+') ∧
      (c ≠ 'b' ∧ c ≠ 'x' ∧ c ≠ 'o') ∧ c ≠ '_' ∧ c ≠ '.' ∧ c ≠ '\n')) = true := by
    decide +kernel
  obtain ⟨ht,hd,hp,hplain,hv,hs,hl,hm⟩ := of_decide_eq_true (List.all_eq_true.mp hall c hmem)
  exact ⟨ht,hd,hp,hplain,hv,hs,hl,hm⟩

theorem toList_toString (i : Int) :
    (toString i).toList = (if i < 0 then ['-'] else []) ++ Nat.toDigits 10 i.natAbs := by
  cases i <;> simp [Int.toString_eq_repr,Int.repr_eq_if]

theorem exists_toDigits (n : Nat) : ∃ c ds, Nat.toDigits 10 n = c :: ds ∧ IsDigit c := by
  obtain ⟨c,ds,h⟩ := List.exists_cons_of_ne_nil (Nat.toDigits_ne_nil (n := n) (b := 10))
  exact ⟨c,ds,h,isDigit_of_mem (h ▸ List.mem_cons_self)⟩

theorem isTame_toString (i : Int) : Plain.IsTame (toString i).toList := by
  obtain ⟨c,ds,hds,hc⟩ := exists_toDigits i.natAbs
  rw [toList_toString]
  refine ⟨?_,?_,?_⟩
  · intro d hd
    rcases List.mem_append.mp hd with hd | hd
    · split at hd
      · rw [List.mem_singleton.mp hd]
        decide
      · simp at hd
    · exact (isDigit_of_mem hd).tame
  · intro d r h hd
    rw [hds] at h
    split at h
    · simp only [List.cons_append,List.nil_append,List.cons.injEq] at h
      rw [← h.2]
      simp
    · simp only [List.nil_append,List.cons.injEq] at h
      exact absurd (h.1.trans hd) hc.sign.1
  · simp [hds]

/-! ### Reading integers -/

theorem digitsValue?_eq {ds : List Char} (h : ∀ c ∈ ds, IsDigit c) :
    Numeral.digitsValue? 10 ds = some (Nat.ofDigitChars 10 ds 0) := by
  have hfold (n : Nat) : ds.foldl (fun n c => n.bind (fun n =>
      (Numeral.digit? 10 c).map (n * 10 + ·))) (some n) = some (Nat.ofDigitChars 10 ds n) := by
    induction ds generalizing n with
    | nil => rfl
    | cons c ds ih =>
      have hc := (h c List.mem_cons_self).value
      rw [List.foldl_cons,Option.bind_some,hc,Option.map_some,
        ih (fun d hd => h d (List.mem_cons_of_mem _ hd)),Nat.ofDigitChars_cons,Nat.mul_comm]
  exact hfold 0

theorem signed_toDigits (n : Nat) :
    Numeral.signed (Nat.toDigits 10 n) = (false,Nat.toDigits 10 n) := by
  obtain ⟨c,ds,hds,hc⟩ := exists_toDigits n
  rw [hds,Numeral.signed]
  · exact fun r h => hc.sign.1 (List.cons.inj h).1
  · exact fun r h => hc.sign.2 (List.cons.inj h).1

theorem plain_toDigits (n : Nat) : Numeral.plain (Nat.toDigits 10 n) = Nat.toDigits 10 n := by
  have hdrop {ds : List Char} (h : ∀ c ∈ ds, IsDigit c) : ds.dropWhile Numeral.isPadding = ds := by
    cases ds with
    | nil => rfl
    | cons c ds => rw [List.dropWhile_cons_of_neg (by simp [(h c List.mem_cons_self).padding])]
  have hall : ∀ c ∈ Nat.toDigits 10 n, IsDigit c := fun c hc => isDigit_of_mem hc
  rw [Numeral.plain,hdrop hall,hdrop (fun c hc => hall c (List.mem_reverse.mp hc)),
    List.reverse_reverse,List.map_congr_left (fun c hc => (hall c hc).plain),List.map_id']

theorem length_toDigits_le {n k : Nat} (hk : 0 < k) (h : n < tenTo k) :
    (Nat.toDigits 10 n).length ≤ k :=
  (Nat.length_toDigits_le_iff (by decide) hk).mpr h

theorem integer_toDigits {n : Nat} (h : n < digitBound) :
    Scalar.integer 10 (Nat.toDigits 10 n) = .ok (n : Int) := by
  have hlength : (Nat.toDigits 10 n).length ≤ 4300 := length_toDigits_le (by decide) h
  have hbase : Numeral.withoutBase 10 (Nat.toDigits 10 n) = Nat.toDigits 10 n := by
    unfold Numeral.withoutBase
    split
    · next hds => simp [Numeral.baseLetters,hds]
    · rfl
  have hempty : (Nat.toDigits 10 n).isEmpty = false := by simp [Nat.toDigits_ne_nil]
  have hvalue : Numeral.digitsValue? 10 (Nat.toDigits 10 n) = some n := by
    rw [digitsValue?_eq (fun c hc => isDigit_of_mem hc),
      Nat.ofDigitChars_toDigits (by decide) (by decide)]
  have hlimit : ¬ Numeral.digitLimit < (Nat.toDigits 10 n).length := Nat.not_lt.mpr hlength
  simp [Scalar.integer,Numeral.integer?,plain_toDigits,signed_toDigits,hbase,hempty,hlimit,hvalue,
    Numeral.withSign]

theorem magnitude_toDigits {n : Nat} (h : n < digitBound) :
    Scalar.magnitude .v1_2 (Nat.toDigits 10 n) = .ok (n : Int) := by
  have hinteger := integer_toDigits h
  have hletter {c d : Char} {r : List Char} (hds : Nat.toDigits 10 n = c :: d :: r) :
      IsDigit d := by
    have hd : d ∈ Nat.toDigits 10 n := by simp [hds]
    exact isDigit_of_mem hd
  unfold Scalar.magnitude
  split
  · next hzero =>
    rw [hzero] at hinteger
    exact hinteger
  · next hds => exact absurd rfl (hletter hds).letter.1
  · next hds => exact absurd rfl (hletter hds).letter.2.1
  · next hds => exact absurd rfl (hletter hds).letter.2.2
  · rw [if_pos (by decide)]
    exact hinteger

theorem signed_toString (i : Int) :
    Numeral.signed (toString i).toList = (decide (i < 0),Nat.toDigits 10 i.natAbs) := by
  rw [toList_toString]
  by_cases hi : i < 0
  · simp [hi,Numeral.signed]
  · simp [hi,signed_toDigits]

theorem characters_ofString (wrong : Cause) (s : String) :
    Scalar.characters wrong s = .ok s.toList := by
  simp [Scalar.characters,Text.toList_ofString]

/-- The text of an integer is read as the integer. -/
theorem int_toString {i : Int} (h : hasDigits i = true) :
    Scalar.int .v1_2 (toString i) = .ok i := by
  have hgroups : Scalar.ungrouped (toString i).toList = (toString i).toList := by
    rw [Scalar.ungrouped,List.filter_eq_self]
    intro c hc
    have hne := Plain.ne_of_isTame ((isTame_toString i).all c hc) (d := '_') (by decide)
    simp [hne]
  have hempty : (toString i).toList.isEmpty = false := by
    simpa using (isTame_toString i).nonempty
  have hsign : Numeral.withSign (decide (i < 0)) (i.natAbs : Int) = i := by
    by_cases hi : i < 0
    · rw [decide_eq_true hi]
      show -(i.natAbs : Int) = i
      omega
    · rw [decide_eq_false hi]
      show (i.natAbs : Int) = i
      omega
  simp only [Scalar.int,characters_ofString,bind,Except.bind,hgroups,hempty,signed_toString,
    magnitude_toDigits (of_decide_eq_true h)]
  exact congrArg Except.ok hsign

/-! ### Forms -/

theorem unsigned_toString (i : Int) :
    Form.unsigned (toString i).toList = Nat.toDigits 10 i.natAbs := by
  obtain ⟨c,ds,hds,hc⟩ := exists_toDigits i.natAbs
  rw [toList_toString]
  by_cases hi : i < 0
  · simp [hi,Form.unsigned]
  · simp [hi,Form.unsigned,hds,hc.sign]

theorem isOneOf_eq_false {words : List String} {c : Char} {r : List Char}
    (h : ∀ w ∈ words, w.toList.head? ≠ some c) : Form.isOneOf words (c :: r) = false := by
  rw [Form.isOneOf,List.contains_eq_mem,decide_eq_false_iff_not]
  intro hmem
  exact h _ hmem (by simp)

theorem isFloat_eq_false {s : List Char} {n : Nat} (h : Form.unsigned s = Nat.toDigits 10 n)
    (hs : ∀ c ∈ s, Plain.isTame c = true) : Form.isFloat .v1_2 s = false := by
  obtain ⟨c,ds,hds,hc⟩ := exists_toDigits n
  have hdigits : ∀ d ∈ Nat.toDigits 10 n, Form.isDigitOr_ d = true := fun d hd => by
    simp [Form.isDigitOr_,(isDigit_of_mem hd).digit]
  have hdot : c ≠ '.' := hc.mark.2.1
  have hpointed : Form.isPointed (Nat.toDigits 10 n) = false := by
    have hdrop : (Nat.toDigits 10 n).dropWhile Form.isDigitOr_ = [] := by
      rw [← List.append_nil (Nat.toDigits 10 n),List.dropWhile_append_of_pos hdigits]
      rfl
    simp [Form.isPointed,hdrop,Form.isExponent]
  have hbare : Form.isBarePointed (Nat.toDigits 10 n) = false := by
    rw [hds]
    unfold Form.isBarePointed
    split
    · next heq => exact absurd (List.cons.inj heq).1 hdot
    · rfl
  have hinfinite : Form.isInfinite s = false := by
    rw [Form.isInfinite,h,hds]
    exact isOneOf_eq_false (by simpa using hdot.symm)
  have hnan : Form.isNaN s = false := by
    cases s with
    | nil => rfl
    | cons d r =>
      have hd := Plain.ne_of_isTame (hs d List.mem_cons_self) (d := '.') (by decide)
      exact isOneOf_eq_false (by simpa using hd.symm)
  have hversion : ¬ Version.v1_2 = Version.v1_1 := by decide
  simp [Form.isFloat,h,hpointed,hbare,hinfinite,hnan,hversion]

theorem isInt_eq_true {s : List Char} {n : Nat} (h : Form.unsigned s = Nat.toDigits 10 n)
    (hs : ∀ c ∈ s, Plain.isTame c = true) : Form.isInt .v1_2 s = true := by
  have hhead : (s.head? != some '_') = true := by
    cases s with
    | nil => rfl
    | cons d r => simp [Plain.ne_of_isTame (hs d List.mem_cons_self) (d := '_') (by decide)]
  have hrun : Form.isRun Form.isDigitOr_ (Nat.toDigits 10 n) = true := by
    simp only [Form.isRun,Bool.and_eq_true,List.all_eq_true]
    exact ⟨by simp [Nat.toDigits_ne_nil],
      fun d hd => by simp [Form.isDigitOr_,(isDigit_of_mem hd).digit]⟩
  have hversion : ¬ Version.v1_2 = Version.v1_1 := by decide
  simp [Form.isInt,hhead,h,hversion,hrun]

theorem core_of_isTame {s : List Char} (hs : ∀ c ∈ s, Plain.isTame c = true) :
    Form.core s = s := by
  have hlast : s.getLast? ≠ some '\n' := fun h =>
    Plain.ne_of_isTame (hs _ (List.mem_of_getLast? h)) (d := '\n') (by decide) rfl
  simp [Form.core,hlast]

/-- The form of an integer is that of no other scalar. -/
theorem ofPlain_toString (i : Int) : Tag.ofPlain .v1_2 (toString i) = .ok .int := by
  have hu := unsigned_toString i
  have hs := (isTame_toString i).all
  have hruled : Version.v1_2.isRuled = true := rfl
  have hbool : Form.isBool .v1_2 (toString i).toList = false := by
    have hversion : ¬ Version.v1_2 = Version.v1_1 := by decide
    obtain ⟨c,ds,hds,hc⟩ := exists_toDigits i.natAbs
    have hwords : Form.isOneOf ["true","True","TRUE","false","False","FALSE"]
        (toString i).toList = false := by
      have hletter : ∀ d ∈ "tTfF".toList, c ≠ d := fun d hd hcd => by
        have hall : "tTfF".toList.all (fun d => !isDigit d) = true := by decide
        have := List.all_eq_true.mp hall d hd
        simp [← hcd,hc.digit] at this
      rw [toList_toString,hds]
      split
      · exact isOneOf_eq_false (by decide)
      · refine isOneOf_eq_false ?_
        simp at hletter ⊢
        simp [Ne.symm hletter.1,Ne.symm hletter.2.1,Ne.symm hletter.2.2.1,Ne.symm hletter.2.2.2]
    rw [Form.isBool,hwords]
    simp [hversion]
  simp only [Tag.ofPlain,Text.toList_ofString,Text.chars?_letters,core_of_isTame hs,hruled,hbool,
    isFloat_eq_false hu hs,isInt_eq_true hu hs]
  rfl

theorem isTame_bool (b : Bool) : Plain.IsTame (if b then "true" else "false").toList := by
  have hsign {w : List Char} (hw : w.head? ≠ some '-') (c : Char) (r : List Char) (h : w = c :: r)
      (hc : c = '-') : r ≠ [] := absurd (by rw [h,hc]; rfl) hw
  cases b with
  | true => exact ⟨List.all_eq_true.mp (by decide),hsign (by decide),by decide⟩
  | false => exact ⟨List.all_eq_true.mp (by decide),hsign (by decide),by decide⟩

theorem ofPlain_bool (b : Bool) :
    Tag.ofPlain .v1_2 (if b then "true" else "false" : String) = .ok .bool := by
  cases b <;> rfl

theorem bool_name (b : Bool) :
    Scalar.bool (if b then "true" else "false" : String) = .ok b := by
  cases b <;> rfl

end ShortVolume.Yaml
