import ShortVolume.Text.Case
set_option autoImplicit false

/-!
Signs in lower and upper case.

No letter has a sign in its lower or its upper case, and a sign stays as it is. So changing the case of
a text brings no sign into it.
-/

namespace ShortVolume.Text

/-- A character of one byte that is no letter. -/
def isSign (c : Char) : Bool := decide (c.toNat < 0x80) && !c.isAlpha

/-- A property of all characters of one byte, checked one by one. -/
theorem forall_ascii {P : Char → Prop} (h : ∀ n < 0x80, P (Char.ofNat n)) {c : Char}
    (hc : c.toNat < 0x80) : P c := by
  have := h c.toNat hc
  rwa [Char.ofNat_toNat] at this

theorem isSign_lt {c : Char} (h : isSign c = true) : c.toNat < 0x80 := by
  rw [isSign,Bool.and_eq_true] at h
  exact of_decide_eq_true h.1

theorem toNat_ofNat {n : Nat} (h : n.isValidChar) : (Char.ofNat n).toNat = n := by
  rw [Char.ofNat,dif_pos h]
  rfl

/-- No character that the run covers becomes a sign: the run lies among the letters of one byte, or
leads to characters of more bytes, or is one character. -/
def CaseRun.AvoidsSigns (r : CaseRun) : Prop :=
  r.last < 0x80 ∨
    (0x80 ≤ r.first + r.shift ∧
      (r.last + r.shift < 0xD800 ∨ 0xE000 ≤ r.first + r.shift ∧ r.last + r.shift < 0x110000)) ∨
    (r.first = r.last ∧ isSign (Char.ofNat (r.first + r.shift).toNat) = false)

instance (r : CaseRun) : Decidable r.AvoidsSigns := inferInstanceAs (Decidable (_ ∨ _))

theorem CaseRun.AvoidsSigns.image {r : CaseRun} (h : r.AvoidsSigns) {n : Nat} (hn : 0x80 ≤ n)
    (hcovers : r.covers n) : isSign (Char.ofNat (n + r.shift).toNat) = false := by
  simp only [covers,Bool.and_eq_true,decide_eq_true_eq] at hcovers
  obtain ⟨⟨hfirst,hlast⟩,-⟩ := hcovers
  rcases h with hsmall | ⟨hlarge,hvalid⟩ | ⟨hsingle,himage⟩
  · omega
  · have hchar : (n + r.shift).toNat.isValidChar := by
      simp only [Nat.isValidChar]
      omega
    refine Bool.eq_false_iff.mpr (fun hsign => ?_)
    have := isSign_lt hsign
    rw [toNat_ofNat hchar] at this
    omega
  · rwa [show n = r.first by omega]

section Tables
variable {special : List (Nat × List Nat)} {runs : List CaseRun}

theorem not_isSign_of_mem_changeCase
    (hspecial : ∀ e ∈ special, ∀ n ∈ e.2, isSign (Char.ofNat n) = false)
    (hruns : ∀ r ∈ runs, r.AvoidsSigns) {c d : Char} (hc : 0x80 ≤ c.toNat)
    (h : d ∈ changeCase special runs c) : isSign d = false := by
  unfold changeCase at h
  split at h
  · next e hfound =>
    obtain ⟨n,hn,rfl⟩ := List.mem_map.mp h
    exact hspecial e (List.mem_of_find?_eq_some hfound) n hn
  · split at h
    · next r hfound =>
      rw [List.mem_singleton.mp h]
      have hcovers := List.find?_some hfound
      exact (hruns r (List.mem_of_find?_eq_some hfound)).image hc hcovers
    · rw [List.mem_singleton.mp h]
      refine Bool.eq_false_iff.mpr (fun hsign => ?_)
      have := isSign_lt hsign
      omega

end Tables

theorem toLower_of_isSign {c : Char} (hc : c.toNat < 0x80) (h : isSign c.toLower = true) :
    c.toLower = c :=
  forall_ascii (P := fun c => isSign c.toLower = true → c.toLower = c) (by decide +kernel) hc h

theorem toUpper_of_isSign {c : Char} (hc : c.toNat < 0x80) (h : isSign c.toUpper = true) :
    c.toUpper = c :=
  forall_ascii (P := fun c => isSign c.toUpper = true → c.toUpper = c) (by decide +kernel) hc h

theorem eq_of_mem_lowerChar {c d : Char} (h : d ∈ lowerChar c) (hd : isSign d = true) : d = c := by
  unfold lowerChar at h
  split at h
  · next hc =>
    rw [List.mem_singleton] at h
    rw [h] at hd ⊢
    exact toLower_of_isSign hc hd
  · next hc =>
    have := not_isSign_of_mem_changeCase (by decide +kernel) (by decide +kernel) (by omega) h
    simp [hd] at this

theorem eq_of_mem_upperChar {c d : Char} (h : d ∈ upperChar c) (hd : isSign d = true) : d = c := by
  unfold upperChar at h
  split at h
  · next hc =>
    rw [List.mem_singleton] at h
    rw [h] at hd ⊢
    exact toUpper_of_isSign hc hd
  · next hc =>
    have := not_isSign_of_mem_changeCase (by decide +kernel) (by decide +kernel) (by omega) h
    simp [hd] at this

theorem mem_of_mem_lowerFrom {before s : List Char} {d : Char} (h : d ∈ lowerFrom before s)
    (hd : isSign d = true) : d ∈ s := by
  induction s generalizing before with
  | nil => simp [lowerFrom] at h
  | cons c r ih =>
    rw [lowerFrom,List.mem_append] at h
    rcases h with hhere | hrest
    · split at hhere
      · -- Neither form of a small sigma is a sign.
        rw [List.mem_singleton] at hhere
        rw [hhere] at hd
        split at hd <;> exact absurd hd (by decide)
      · rw [eq_of_mem_lowerChar hhere hd]
        exact List.mem_cons_self
    · exact List.mem_cons_of_mem c (ih hrest)

/-- A sign in the lower case of a text is in the text. -/
theorem mem_of_mem_lower {s : String} {d : Char} (h : d ∈ (lower s).toList)
    (hd : isSign d = true) : d ∈ s.toList := by
  rw [lower,String.toList_ofList] at h
  exact mem_of_mem_lowerFrom h hd

/-- A sign in the upper case of a text is in the text. -/
theorem mem_of_mem_upper {s : String} {d : Char} (h : d ∈ (upper s).toList)
    (hd : isSign d = true) : d ∈ s.toList := by
  rw [upper,String.toList_ofList] at h
  obtain ⟨c,hc,hmem⟩ := List.mem_flatMap.mp h
  rw [eq_of_mem_upperChar hmem hd]
  exact hc

end ShortVolume.Text
