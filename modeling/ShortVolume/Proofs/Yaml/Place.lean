import ShortVolume.Yaml.Charset
set_option autoImplicit false

/-!
Places on one line of a text.

Going over characters that do not end a line changes neither the line nor, but for its width, the
column.
-/

namespace ShortVolume.Yaml.Place

/-- The characters between two places of one line. -/
structure Over (p : Place) (cs : List Char) (q : Place) : Prop where
  rest : p.rest = cs ++ q.rest
  index : q.index = p.index + cs.length
  line : q.line = p.line
  column : p.column ≤ q.column

theorem Over.refl (p : Place) : p.Over [] p := ⟨rfl,rfl,rfl,Nat.le_refl _⟩

theorem Over.trans {p q r : Place} {cs ds : List Char} (h : p.Over cs q) (h' : q.Over ds r) :
    p.Over (cs ++ ds) r := by
  refine ⟨?_,?_,h'.line.trans h.line,Nat.le_trans h.column h'.column⟩
  · rw [h.rest,h'.rest,List.append_assoc]
  · rw [h'.index,h.index,List.length_append,Nat.add_assoc]

theorem Over.length_lt {p q : Place} {cs : List Char} (h : p.Over cs q) (hcs : cs ≠ []) :
    q.rest.length < p.rest.length := by
  have := List.length_pos_iff.mpr hcs
  rw [h.rest,List.length_append]
  omega

/-- Whether a character may end a line. -/
def endsLine (c : Char) : Bool := c == '\n' || c == '\r'

theorem char_of_rest {p : Place} {c : Char} {r : List Char} (h : p.rest = c :: r) : p.char = c := by
  simp [char,h]

theorem charAt_one_of_rest {p : Place} {c d : Char} {r : List Char} (h : p.rest = c :: d :: r) :
    p.charAt 1 = d := by
  simp [charAt,h]

theorem next_of_rest {p : Place} {c : Char} {r : List Char} (h : p.rest = c :: r)
    (hc : endsLine c = false) :
    p.next = ⟨r,p.index + 1,p.line,if c = byteOrderMark then p.column else p.column + 1⟩ := by
  simp only [endsLine,Bool.or_eq_false_iff,beq_eq_false_iff_ne] at hc
  simp [next,h,hc]

theorem over_next {p : Place} {c : Char} {r : List Char} (h : p.rest = c :: r)
    (hc : endsLine c = false) : p.Over [c] p.next ∧ p.next.rest = r := by
  rw [next_of_rest h hc]
  refine ⟨⟨h,rfl,rfl,?_⟩,rfl⟩
  dsimp only
  split <;> omega

theorem over_advance {p : Place} {cs r : List Char} (h : p.rest = cs ++ r)
    (hcs : ∀ c ∈ cs, endsLine c = false) :
    p.Over cs (p.advance cs.length) ∧ (p.advance cs.length).rest = r := by
  induction cs generalizing p with
  | nil => exact ⟨.refl p,h⟩
  | cons c cs ih =>
    obtain ⟨hover,hrest⟩ := over_next h (hcs c List.mem_cons_self)
    obtain ⟨hovers,hrests⟩ := ih hrest (fun d hd => hcs d (List.mem_cons_of_mem _ hd))
    exact ⟨hover.trans hovers,hrests⟩

theorem span_eq {p : Place} {inClass : Char → Bool} {cs : List Char} {d : Char} {r : List Char}
    (h : p.rest = cs ++ d :: r) (hcs : ∀ c ∈ cs, inClass c = true) (hd : inClass d = false) :
    p.span inClass = cs := by
  rw [span,h,List.takeWhile_append_of_pos hcs,List.takeWhile_cons_of_neg (by simp [hd]),
    List.append_nil]

theorem span_eq_nil {p : Place} {inClass : Char → Bool} {d : Char} {r : List Char}
    (h : p.rest = d :: r) (hd : inClass d = false) : p.span inClass = [] := by
  rw [span,h,List.takeWhile_cons_of_neg (by simp [hd])]

theorem lineBreak?_eq_none {p : Place} {c : Char} {r : List Char} (h : p.rest = c :: r)
    (hc : isBreak c = false) : p.lineBreak? = none := by
  simp only [isBreak,Bool.or_eq_false_iff,beq_eq_false_iff_ne] at hc
  obtain ⟨⟨⟨⟨hn,hr⟩,h85⟩,h2028⟩,h2029⟩ := hc
  have hbreak : isBreak c = false := by simp [isBreak,hn,hr,h85,h2028,h2029]
  unfold lineBreak?
  rw [h]
  split
  · next heq =>
    cases heq
    exact absurd rfl hr
  · next heq =>
    cases heq
    simp [h2028,h2029,hbreak]
  · next heq => cases heq

end ShortVolume.Yaml.Place
