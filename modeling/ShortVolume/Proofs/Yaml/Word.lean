import ShortVolume.Yaml.Token.Plain
import ShortVolume.Proofs.Yaml.Place
set_option autoImplicit false

/-!
Integers and truth values as plain scalars of a flow collection.
-/

namespace ShortVolume.Yaml.Plain

/-- Characters of integers and of the names of truth values. -/
def isTame (c : Char) : Bool := isAsciiLetter c || isDigit c || c == '-'

/-- A word of such characters. A sign in front has a character after it. -/
structure IsTame (w : List Char) : Prop where
  all : ∀ c ∈ w, isTame c = true
  sign : ∀ c r, w = c :: r → c = '-' → r ≠ []
  nonempty : w ≠ []

theorem ne_of_isTame {c d : Char} (hc : isTame c = true) (hd : isTame d = false) : c ≠ d := by
  rintro rfl
  rw [hc] at hd
  cases hd

theorem isGap_of_isTame {c : Char} (hc : isTame c = true) : isGap c = false := by
  have hne {d : Char} (hd : isTame d = false) : (c == d) = false :=
    beq_eq_false_iff_ne.mpr (ne_of_isTame hc hd)
  simp only [isGap,isStop,isBreak,theEnd]
  rw [hne (by decide),hne (by decide),hne (by decide),hne (by decide),hne (by decide),
    hne (by decide),hne (by decide),hne (by decide)]
  rfl

theorem isFlowIndicator_of_isTame {c : Char} (hc : isTame c = true) : isFlowIndicator c = false := by
  rw [isFlowIndicator,List.contains_eq_mem,decide_eq_false_iff_not]
  intro hmem
  have hall : ",[]\x7b\x7d".toList.all (fun d => !isTame d) = true := by decide
  have := List.all_eq_true.mp hall c hmem
  simp [hc] at this

theorem endsLine_of_isTame {c : Char} (hc : isTame c = true) : Place.endsLine c = false := by
  simp [Place.endsLine,ne_of_isTame hc (d := '\n') (by decide),
    ne_of_isTame hc (d := '\r') (by decide)]

theorem isAllowed_of_isTame {c : Char} (hc : isTame c = true) : isAllowed c = true := by
  have hbound : 0x20 ≤ c.toNat ∧ c.toNat ≤ 0x7E := by
    simp only [isTame,isAsciiLetter,isDigit,Bool.or_eq_true,Bool.and_eq_true,decide_eq_true_eq,
      Char.le_def,UInt32.le_iff_toNat_le,beq_iff_eq] at hc
    rcases hc with ((⟨hlow,hhigh⟩ | ⟨hlow,hhigh⟩) | ⟨hlow,hhigh⟩) | rfl
    · change 97 ≤ c.toNat at hlow
      change c.toNat ≤ 122 at hhigh
      omega
    · change 65 ≤ c.toNat at hlow
      change c.toNat ≤ 90 at hhigh
      omega
    · change 48 ≤ c.toNat at hlow
      change c.toNat ≤ 57 at hhigh
      omega
    · decide
  simp [isAllowed,hbound]

/-- A word ends where an entry of a flow collection does. -/
theorem wordLength_eq {s : Setting} (hs : s.flow = true) {w : List Char}
    (hw : ∀ c ∈ w, isTame c = true) {d : Char} (hd : d = ',' ∨ d = '\x7d') (r : List Char) :
    wordLength s (w ++ d :: r) = w.length := by
  induction w with
  | nil =>
    rcases hd with rfl | rfl <;> simp [wordLength,hs,isGap,isStop,isBreak,isFlowIndicator,theEnd]
  | cons c w ih =>
    have hc := hw c List.mem_cons_self
    have hcolon := beq_eq_false_iff_ne.mpr (ne_of_isTame hc (d := ':') (by decide))
    have hquestion := beq_eq_false_iff_ne.mpr (ne_of_isTame hc (d := '?') (by decide))
    rw [List.cons_append,wordLength]
    simp [hcolon,hquestion,isGap_of_isTame hc,isFlowIndicator_of_isTame hc,
      ih (fun e he => hw e (List.mem_cons_of_mem _ he))]

theorem scan_eq {s : Setting} (hs : s.flow = true) {w : List Char} (hw : IsTame w) {d : Char}
    (hd : d = ',' ∨ d = '\x7d') {r : List Char} {p : Place} (hp : p.rest = w ++ d :: r) :
    scan s p = (⟨w,false⟩,p.advance w.length) := by
  have hlength := wordLength_eq hs hw.all hd r
  have hpos := List.length_pos_iff.mpr hw.nonempty
  have hchar : p.char ≠ '#' := by
    obtain ⟨c,v,rfl⟩ := List.exists_cons_of_ne_nil hw.nonempty
    rw [Place.char_of_rest hp]
    exact ne_of_isTame (hw.all c List.mem_cons_self) (by decide)
  obtain ⟨-,hrest⟩ := Place.over_advance hp (fun c hc => endsLine_of_isTame (hw.all c hc))
  have hdspace : d ≠ ' ' ∧ isBreak d = false := by
    rcases hd with rfl | rfl <;> decide
  have hspaces : (p.advance w.length).span (· == ' ') = [] :=
    Place.span_eq_nil hrest (by simp [hdspace.1])
  have hgap : gap (p.advance w.length) = (⟨[],false⟩,p.advance w.length) := by
    simp only [gap,hspaces,List.length_nil,Place.advance,
      Place.lineBreak?_eq_none hrest hdspace.2]
  rw [scan,words]
  simp only [hp,if_neg hchar,hlength,if_neg (Nat.pos_iff_ne_zero.mp hpos),hgap,List.nil_append,
    List.take_left' rfl]
  rfl

theorem canStart_of_isTame {s : Setting} {c d : Char} (hc : isTame c = true)
    (hd : c = '-' → isTame d = true) : canStart s c d = true := by
  by_cases hsign : c = '-'
  · subst hsign
    simp [canStart,isIndicator,isGap_of_isTame (hd rfl)]
  · have hblank : isBlankOrBreak c = false := by
      have hgap := isGap_of_isTame hc
      simp only [isGap,isStop,Bool.or_eq_false_iff] at hgap
      simp [isBlankOrBreak,hgap.1.1.1,hgap.1.1.2,hgap.1.2]
    have hindicator : isIndicator c = false := by
      rw [isIndicator,List.contains_eq_mem,decide_eq_false_iff_not]
      intro hmem
      have hall : "-?:,[]\x7b\x7d#&*!|>'\"%@`".toList.all (fun d => d == '-' || !isTame d) = true := by
        decide
      have := List.all_eq_true.mp hall c hmem
      simp [hc,hsign] at this
    simp [canStart,hblank,hindicator,ne_of_isTame hc (d := '\t') (by decide)]

end ShortVolume.Yaml.Plain
