import ShortVolume.Text.Utf8
set_option autoImplicit false

/-!
Bytes of a text in UTF-8.

Every text is read back from its bytes, and what begins with two characters of ASCII is taken for
UTF-8.
-/

namespace ShortVolume.Text

namespace Utf8

theorem toNat_byte {n : Nat} (h : n < 0x100) : (UInt8.ofNat n).toNat = n :=
  UInt8.toNat_ofNat_of_lt h

theorem isContinuation_byte {n : Nat} (h : n < 0x40) :
    isContinuation (.ofNat (0x80 + n)) = true := by
  rw [isContinuation,toNat_byte (by omega)]
  simp
  omega

/-! ### One character -/

theorem step_one {a : Nat} (ha : a < 0x80) (r : List UInt8) :
    step (.ofNat a :: r) = .ok (Char.ofNat a,1) := by
  have hbyte : (UInt8.ofNat a).toNat = a := toNat_byte (by omega)
  simp only [step,hbyte,if_pos ha]

theorem step_two {a b : Nat} (ha : 2 ≤ a) (ha' : a < 0x20) (hb : b < 0x40) (r : List UInt8) :
    step (.ofNat (0xC0 + a) :: .ofNat (0x80 + b) :: r) = .ok (Char.ofNat (a * 0x40 + b),2) := by
  have hfirst : (UInt8.ofNat (0xC0 + a)).toNat = 0xC0 + a := toNat_byte (by omega)
  have hsecond : (UInt8.ofNat (0x80 + b)).toNat = 0x80 + b := toNat_byte (by omega)
  simp only [step,hfirst,hsecond,isContinuation_byte hb]
  rw [if_neg (by omega),if_neg (by omega),if_pos (by omega)]
  simp only [Nat.add_sub_cancel_left,if_true]

/-- The second byte keeps the first away from what has fewer bytes, and from half a pair. -/
theorem step_three {a b d : Nat} (ha : a < 0x10) (hb : b < 0x40) (hd : d < 0x40)
    (hlow : a = 0 → 0x20 ≤ b) (hhigh : a = 0xD → b < 0x20) (r : List UInt8) :
    step (.ofNat (0xE0 + a) :: .ofNat (0x80 + b) :: .ofNat (0x80 + d) :: r) =
      .ok (Char.ofNat ((a * 0x40 + b) * 0x40 + d),3) := by
  have hfirst : (UInt8.ofNat (0xE0 + a)).toNat = 0xE0 + a := toNat_byte (by omega)
  have hsecond : (UInt8.ofNat (0x80 + b)).toNat = 0x80 + b := toNat_byte (by omega)
  have hthird : (UInt8.ofNat (0x80 + d)).toNat = 0x80 + d := toNat_byte (by omega)
  have hkept : (!true || (0xE0 + a == 0xE0 && decide (0x80 + b < 0xA0)) ||
      (0xE0 + a == 0xED && decide (0xA0 ≤ 0x80 + b))) = false := by
    simp
    omega
  simp only [step,hfirst,hsecond,hthird,isContinuation_byte hb,isContinuation_byte hd,hkept]
  rw [if_neg (by omega),if_neg (by omega),if_neg (by omega),if_pos (by omega)]
  simp only [Nat.add_sub_cancel_left,if_true]
  rfl

theorem step_four {a b d e : Nat} (ha : a < 5) (hb : b < 0x40) (hd : d < 0x40) (he : e < 0x40)
    (hlow : a = 0 → 0x10 ≤ b) (hhigh : a = 4 → b < 0x10) (r : List UInt8) :
    step (.ofNat (0xF0 + a) :: .ofNat (0x80 + b) :: .ofNat (0x80 + d) :: .ofNat (0x80 + e) :: r) =
      .ok (Char.ofNat (((a * 0x40 + b) * 0x40 + d) * 0x40 + e),4) := by
  have hfirst : (UInt8.ofNat (0xF0 + a)).toNat = 0xF0 + a := toNat_byte (by omega)
  have hsecond : (UInt8.ofNat (0x80 + b)).toNat = 0x80 + b := toNat_byte (by omega)
  have hthird : (UInt8.ofNat (0x80 + d)).toNat = 0x80 + d := toNat_byte (by omega)
  have hfourth : (UInt8.ofNat (0x80 + e)).toNat = 0x80 + e := toNat_byte (by omega)
  have hkept : (!true || (0xF0 + a == 0xF0 && decide (0x80 + b < 0x90)) ||
      (0xF0 + a == 0xF4 && decide (0x90 ≤ 0x80 + b))) = false := by
    simp
    omega
  simp only [step,hfirst,hsecond,hthird,hfourth,isContinuation_byte hb,isContinuation_byte hd,
    isContinuation_byte he,hkept]
  rw [if_neg (by omega),if_neg (by omega),if_neg (by omega),if_neg (by omega)]
  simp only [Nat.add_sub_cancel_left,if_true]
  rfl

/-- The bytes of a character begin with that character. -/
theorem step_encodeChar (c : Char) (r : List UInt8) :
    step (encodeChar c ++ r) = .ok (c,(encodeChar c).length) := by
  have hvalid : c.toNat < 0xD800 ∨ 0xDFFF < c.toNat ∧ c.toNat < 0x110000 := c.valid
  have hchar {n : Nat} (h : n = c.toNat) : Char.ofNat n = c := by rw [h,Char.ofNat_toNat]
  unfold encodeChar
  simp only
  split
  · rw [List.singleton_append,step_one (by assumption),hchar rfl]
    rfl
  · split
    · rw [List.cons_append,List.cons_append,step_two (by omega) (by omega) (by omega),
        hchar (by omega)]
      rfl
    · split
      · rw [List.cons_append,List.cons_append,List.cons_append,step_three (by omega) (by omega)
          (by omega) (by omega) (by omega),hchar (by omega)]
        rfl
      · rw [List.cons_append,List.cons_append,List.cons_append,List.cons_append,step_four (by omega)
          (by omega) (by omega) (by omega) (by omega) (by omega),hchar (by omega)]
        rfl

theorem encodeChar_ne_nil (c : Char) : encodeChar c ≠ [] := by
  unfold encodeChar
  simp only
  split
  · simp
  · split
    · simp
    · split <;> simp

/-! ### Texts -/

/-- A step that finds each character in its bytes finds all of a text. -/
theorem decodeFrom_encode {α : Type} {step : List UInt8 → Except (Defect × Nat) (α × Nat)}
    {f : Char → α}
    (hstep : ∀ c r, step (encodeChar c ++ r) = .ok (f c,(encodeChar c).length))
    (s : List Char) (fuel place : Nat) (hfuel : (encode s).length ≤ fuel) (done : List α) :
    decodeFrom step fuel place (encode s) done = .ok (done.reverse ++ s.map f) := by
  induction s generalizing fuel place done with
  | nil =>
    rw [List.map_nil,List.append_nil]
    cases fuel <;> rfl
  | cons c r ih =>
    obtain ⟨b,bs,hbytes⟩ := List.exists_cons_of_ne_nil (encodeChar_ne_nil c)
    have hencode : encode (c :: r) = b :: (bs ++ encode r) := by
      rw [encode,List.flatMap_cons,hbytes]
      rfl
    have hfound := hstep c (encode r)
    rw [hbytes,List.cons_append] at hfound
    rw [hencode,List.length_cons,List.length_append] at hfuel
    cases fuel with
    | zero => omega
    | succ fuel =>
      have hdrop : (b :: bs ++ encode r).drop (b :: bs).length = encode r := List.drop_left
      rw [hencode,decodeFrom,hfound]
      simp only
      rw [← List.cons_append,hdrop,ih fuel _ (by omega),List.reverse_cons,List.append_assoc]
      rfl

theorem decode_encode (s : List Char) : decode (encode s) = .ok s := by
  have h := decodeFrom_encode (f := id) step_encodeChar s _ 0 (Nat.le_refl _) []
  rwa [List.map_id] at h

/-- A text has bytes if it is whole. -/
theorem isSome_bytes? (t : Text) : (bytes? t).isSome = t.isWhole := by
  rw [bytes?,Option.isSome_map,Text.isWhole,Text.string?,Option.isSome_map]

theorem isWhole_of_bytes? {t : Text} {bs : List UInt8} (h : bytes? t = some bs) :
    t.isWhole = true := by
  rw [← isSome_bytes?,h]
  rfl

theorem not_isWhole_of_bytes? {t : Text} (h : bytes? t = none) : t.isWhole = false := by
  rw [← isSome_bytes?,h]
  rfl

@[simp] theorem bytes?_ofString (s : String) : bytes? s = some (encode s.toList) := by
  rw [bytes?,Text.toList_ofString,chars?_letters,Option.map_some]

theorem half?_of_ne {n : Nat} (hn : n < 0x100) (hne : n ≠ 0xED) (r : List UInt8) :
    half? (.ofNat n :: r) = none := by
  have hbyte : UInt8.ofNat n ≠ 0xED := fun h => hne (by simpa [toNat_byte hn] using congrArg UInt8.toNat h)
  rcases r with _ | ⟨b,_ | ⟨d,r⟩⟩
  · rfl
  · rfl
  · simp [half?,hbyte]

/-- No character has the bytes of half a pair: of three bytes the first two tell it apart. -/
theorem half?_encodeChar (c : Char) (r : List UInt8) : half? (encodeChar c ++ r) = none := by
  have hvalid : c.toNat < 0xD800 ∨ 0xDFFF < c.toNat ∧ c.toNat < 0x110000 := c.valid
  unfold encodeChar
  simp only
  split
  · exact half?_of_ne (by omega) (by omega) _
  · split
    · exact half?_of_ne (by omega) (by omega) _
    · split
      · by_cases hfirst : c.toNat / 0x1000 = 0xD
        · have hsecond : (UInt8.ofNat (0x80 + c.toNat / 0x40 % 0x40)).toNat =
              0x80 + c.toNat / 0x40 % 0x40 := toNat_byte (by omega)
          refine if_neg ?_
          rw [hsecond]
          omega
        · exact half?_of_ne (by omega) (by omega) _
      · exact half?_of_ne (by omega) (by omega) _

theorem passingStep_encodeChar (c : Char) (r : List UInt8) :
    passingStep (encodeChar c ++ r) = .ok (.char c,(encodeChar c).length) := by
  rw [passingStep,half?_encodeChar,step_encodeChar]
  rfl

theorem decodePassing_encode (s : List Char) : decodePassing (encode s) = .ok (letters s) :=
  decodeFrom_encode passingStep_encodeChar s _ 0 (Nat.le_refl _) []

end Utf8

namespace Encoding

theorem mark_head {m : List UInt8 × Encoding} (hm : m ∈ marks) :
    ∃ x xs, m.1 = x :: xs ∧ (x.toNat = 0 ∨ 0x80 ≤ x.toNat) := by
  simp only [marks,List.mem_cons,List.not_mem_nil,or_false] at hm
  rcases hm with rfl | rfl | rfl | rfl | rfl <;> exact ⟨_,_,rfl,by decide⟩

/-- Bytes that begin with two of ASCII are in UTF-8, unless these are nothing. -/
theorem detect_ascii {a b : UInt8} (ha : 0 < a.toNat ∧ a.toNat < 0x80)
    (hb : 0 < b.toNat ∧ b.toNat < 0x80) (bs : List UInt8) :
    detect (a :: b :: bs) = .utf8 0 := by
  have hne {x y : UInt8} (hx : 0 < x.toNat ∧ x.toNat < 0x80)
      (hy : y.toNat = 0 ∨ 0x80 ≤ y.toNat) : x ≠ y := by
    rintro rfl
    omega
  -- No mark begins with a byte of ASCII.
  have hunmarked : marks.find? (·.1.isPrefixOf (a :: b :: bs)) = none := by
    rw [List.find?_eq_none]
    intro m hm
    obtain ⟨x,xs,hxs,hx⟩ := mark_head hm
    rw [hxs,List.isPrefixOf_cons_cons,beq_false_of_ne (hne ha hx).symm]
    exact Bool.false_ne_true
  have ha0 : a ≠ 0 := hne ha (.inl rfl)
  have hb0 : b ≠ 0 := hne hb (.inl rfl)
  rw [detect,hunmarked]
  rcases bs with _ | ⟨c,_ | ⟨d,r⟩⟩ <;> simp only [ofZeros,ha0,hb0,if_false]

end Encoding

theorem decodeDetected_encode {c d : Char} (hc : 0 < c.toNat ∧ c.toNat < 0x80)
    (hd : 0 < d.toNat ∧ d.toNat < 0x80) (r : List Char) :
    decodeDetected (Utf8.encode (c :: d :: r)) = .ok (letters (c :: d :: r)) := by
  have hbytes : Utf8.encode (c :: d :: r) = .ofNat c.toNat :: .ofNat d.toNat :: Utf8.encode r := by
    simp [Utf8.encode,Utf8.encodeChar,hc.2,hd.2]
  have hdetect : Encoding.detect (Utf8.encode (c :: d :: r)) = .utf8 0 := by
    rw [hbytes]
    refine Encoding.detect_ascii ?_ ?_ _
    · rwa [Utf8.toNat_byte (by omega)]
    · rwa [Utf8.toNat_byte (by omega)]
  rw [decodeDetected,hdetect]
  exact Utf8.decodePassing_encode _

end ShortVolume.Text
