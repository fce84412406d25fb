import ShortVolume.Proofs.Json.Reading
import ShortVolume.Proofs.Json.Strings
import ShortVolume.Proofs.Record.Fields
import ShortVolume.Proofs.Record.Union
import ShortVolume.Proofs.Yaml.Plain
set_option autoImplicit false

/-!
Records that are written as JSON and read.

A record holds texts, integers, truth values and records, under distinct names. In every layout that
leaves halves as they are it has a text, and the text is read as the record, whatever follows it.
-/

namespace ShortVolume

/-- Values under their names, in order. -/
def Entries.named (ms : List (Text × Value)) : Entries := ms.map (fun m => (.text m.1,m.2))

theorem Value.exists_texts {α : Type} {es : List (Value × α)} (h : ∀ e ∈ es, ∃ s, e.1 = .text s) :
    ∃ ms : List (Text × α), es = ms.map (fun m => (.text m.1,m.2)) := by
  induction es with
  | nil => exact ⟨[],rfl⟩
  | cons e es ih =>
    obtain ⟨⟨k,hk⟩,hrest⟩ := List.forall_mem_cons.mp h
    obtain ⟨ms,rfl⟩ := ih hrest
    exact ⟨(k,e.2) :: ms,by rw [List.map_cons,← hk]⟩

theorem Entries.isDictionary_named {ms : List (Text × Value)} (h : (ms.map Prod.fst).Nodup) :
    (named ms).IsDictionary := by
  have hkeys : (named ms).keys = (ms.map Prod.fst).map .text := by
    simp [keys,named,Function.comp_def]
  refine ⟨hkeys ▸ List.forall_mem_map.mpr (fun _ _ => rfl),?_⟩
  rw [isKeyed_iff,hkeys,List.pairwise_map]
  exact h.imp (fun hne => by simpa [Value.same_text,Value.text?] using hne)

theorem Entries.ofPairs_named {ms : List (Text × Value)} (h : (ms.map Prod.fst).Nodup) :
    ofPairs (named ms) = named ms := nil_union (isDictionary_named h)

namespace Json

/-- Texts of a class, integers with a decimal text, truth values, and maps of them under distinct texts
of the class. -/
inductive IsRecord (inClass : Text → Prop) : Value → Prop
  | text {s : Text} (h : inClass s) : IsRecord inClass (.text s)
  | int {i : Int} (h : hasDigits i = true) : IsRecord inClass (.int i)
  | bool (b : Bool) : IsRecord inClass (.bool b)
  | map {ms : List (Text × Value)} (hnames : (ms.map Prod.fst).Nodup) (hclass : ∀ m ∈ ms, inClass m.1)
    (h : ∀ m ∈ ms, IsRecord inClass m.2) : IsRecord inClass (.map (Entries.named ms))

/-! ### White space -/

def IsGap (cs : List Letter) : Prop := ∀ c ∈ cs, Cursor.isSpace c = true

theorem skipSpaces_gap (gap : List Letter) (h : IsGap gap) (place : Nat) (c : Letter) (r : List Letter)
    (hc : Cursor.isSpace c = false) :
    ∃ p, Cursor.skipSpaces ⟨place,gap ++ c :: r⟩ = ⟨p,c :: r⟩ := by
  have hdrop : (gap ++ c :: r).dropWhile Cursor.isSpace = c :: r := by
    rw [List.dropWhile_append_of_pos h,List.dropWhile_cons_of_neg (by simp [hc])]
  exact ⟨_,congrArg (Cursor.mk _) hdrop⟩

theorem isSpace_cases {c : Letter} (h : Cursor.isSpace c = true) :
    c = ' ' ∨ c = '\t' ∨ c = '\n' ∨ c = '\r' := by
  simpa only [Cursor.isSpace,Bool.or_eq_true,beq_iff_eq,or_assoc] using h

theorem isAscii_of_isSpace {c : Letter} (h : Cursor.isSpace c = true) :
    0 < c.toNat ∧ c.toNat < 0x80 := by
  rcases isSpace_cases h with rfl | rfl | rfl | rfl <;> decide

theorem isGap_breakAt (l : Layout) (depth : Nat) : IsGap (l.breakAt depth) := by
  unfold Layout.breakAt IsGap
  split
  · exact nofun
  · intro c hc
    rcases List.mem_cons.mp hc with rfl | hc
    · rfl
    · rw [List.eq_of_mem_replicate hc]
      rfl

theorem separator_eq (l : Layout) (depth : Nat) : ∃ gap, IsGap gap ∧ l.separator depth = .char ',' :: gap := by
  unfold Layout.separator
  split
  · exact ⟨[' '],by simp [IsGap,Cursor.isSpace],rfl⟩
  · exact ⟨_,isGap_breakAt l depth,rfl⟩

/-! ### Texts of values -/

/-- What goes on with a number. -/
def goesOnNumber (c : Letter) : Bool := isDigit c || c == '.' || c == 'e' || c == 'E'

/-- Reading takes the text for the value, if no number goes on after it. -/
structure Spells (cs : List Letter) (v : Value) : Prop where
  start : ∃ c r, cs = c :: r ∧ Cursor.isSpace c = false ∧ c ≠ '\ufeff'
  read : ∀ fuel place tail, cs.length ≤ fuel → (∀ c ∈ tail.head?, goesOnNumber c = false) →
    ∃ p, value fuel ⟨place,cs ++ tail⟩ = .ok (v,⟨p,tail⟩)

theorem spells_text {ascii : Bool} {s : Text} (hs : ascii = false ∨ s.isWhole = true) :
    Spells (quoted ascii s) (.text s) where
  start := ⟨_,_,rfl,rfl,by decide⟩
  read := by
    intro fuel place tail hfuel _
    obtain ⟨p,hp⟩ := string_quoted hs (place + 1) tail
    cases fuel with
    | zero => simp [quoted] at hfuel
    | succ fuel =>
      refine ⟨p,?_⟩
      rw [quoted,List.cons_append,List.append_assoc,List.singleton_append,value]
      simp only [hp]

theorem spells_bool (b : Bool) :
    Spells (Text.letters (if b then "true" else "false").toList) (.bool b) where
  start := by cases b <;> exact ⟨_,_,rfl,rfl,by decide⟩
  read := by
    intro fuel place tail hfuel _
    cases fuel with
    | zero => cases b <;> contradiction
    | succ fuel => cases b <;> exact ⟨_,rfl⟩

/-! ### Integers -/

/-- The digits of a number. -/
def digits (n : Nat) : List Letter := Text.letters (Nat.toDigits 10 n)

theorem digitsValue_digits (n : Nat) : digitsValue (digits n) = n := by
  have hfold (ds : List Char) (m : Nat) :
      (Text.letters ds).foldl (fun n d => n * 10 + (d.toNat - '0'.toNat)) m =
        Nat.ofDigitChars 10 ds m := by
    simp only [Text.letters,List.foldl_map,Letter.toNat_char,Nat.ofDigitChars,Nat.mul_comm]
  rw [digitsValue,digits,hfold,Nat.ofDigitChars_toDigits (by decide) (by decide)]

theorem isDigit_of_mem_digits {n : Nat} {c : Letter} (h : c ∈ digits n) : isDigit c = true := by
  obtain ⟨d,hd,rfl⟩ := List.mem_map.mp h
  exact Nat.isDigit_of_mem_toDigits (by decide) (by decide) hd

theorem digits_eq_cons (n : Nat) : ∃ c ds, digits n = c :: ds ∧ isDigit c = true := by
  obtain ⟨c,ds,hds⟩ := List.exists_cons_of_ne_nil (Nat.toDigits_ne_nil (n := n) (b := 10))
  have hdigits : digits n = .char c :: Text.letters ds := by rw [digits,hds,Text.letters_cons]
  exact ⟨_,_,hdigits,isDigit_of_mem_digits (hdigits ▸ List.mem_cons_self)⟩

theorem digits_of_zero {n : Nat} {r : List Letter} (h : digits n = .char '0' :: r) : r = [] := by
  by_contra hr
  have hdigits : ∀ d ∈ r, isDigit d = true := fun d hd =>
    isDigit_of_mem_digits (n := n) (h ▸ List.mem_cons_of_mem _ hd)
  have hvalue : digitsValue r = n := by
    rw [← digitsValue_digits n,h]
    rfl
  have hlength : (digits n).length ≤ r.length := by
    rw [digits,Text.length_letters]
    refine Yaml.length_toDigits_le (List.length_pos_iff.mpr hr) ?_
    rw [← hvalue]
    exact digitsValue_lt hdigits (Nat.le_refl _)
  rw [h,List.length_cons] at hlength
  omega

/-- The sign of a number. -/
def sign (negative : Bool) : List Letter := if negative then ['-'] else []

section Tail
variable {tail : List Letter} (h : ∀ c ∈ tail.head?, goesOnNumber c = false)
include h

theorem fractionPart_tail : fractionPart tail = ([],tail) := by
  unfold fractionPart
  split
  · exact absurd (h '.' rfl) (by decide)
  · rfl

theorem exponentPart_tail : exponentPart tail = (none,tail) := by
  unfold exponentPart
  split
  · next m r =>
    have hm : ¬ (m = 'e' ∨ m = 'E') := by
      rintro (rfl | rfl)
      · exact absurd (h 'e' rfl) (by decide)
      · exact absurd (h 'E' rfl) (by decide)
    rw [if_neg hm]
  · rfl

theorem span_digits {ds : List Letter} (hds : ∀ d ∈ ds, isDigit d = true) :
    (ds ++ tail).takeWhile isDigit = ds ∧ (ds ++ tail).dropWhile isDigit = tail := by
  rw [List.takeWhile_append_of_pos hds,List.dropWhile_append_of_pos hds]
  cases tail with
  | nil => simp
  | cons c r =>
    have hc : ¬ isDigit c = true := by
      have := h c rfl
      simp only [goesOnNumber,Bool.or_eq_false_iff] at this
      simp [this.1.1.1]
    simp [List.takeWhile_cons_of_neg hc,List.dropWhile_cons_of_neg hc]

theorem numeral?_digits (negative : Bool) (n : Nat) :
    numeral? (sign negative ++ (digits n ++ tail)) = some (⟨negative,digits n,[],0,true⟩,tail) := by
  obtain ⟨c,ds,hds,hc⟩ := digits_eq_cons n
  have hdigit : ∀ d ∈ ds, isDigit d = true := fun d hd =>
    isDigit_of_mem_digits (n := n) (hds ▸ List.mem_cons_of_mem c hd)
  obtain ⟨htake,hdrop⟩ := span_digits h hdigit
  rw [hds]
  unfold numeral?
  split
  next isNegative unsigned hs =>
  have hsigned : negative = isNegative ∧ c :: (ds ++ tail) = unsigned := by
    cases negative with
    | true => exact Prod.mk.inj hs
    | false =>
      simp only [sign,Bool.false_eq_true,if_false,List.nil_append,List.cons_append] at hs
      split at hs
      · next r hr => exact absurd ((List.cons.inj hr).1 ▸ hc) (by decide)
      · exact Prod.mk.inj hs
  obtain ⟨rfl,rfl⟩ := hsigned
  -- After a zero no more digits are taken.
  by_cases hzero : c = .char '0'
  · subst hzero
    obtain rfl := digits_of_zero hds
    simp [hc,fractionPart_tail h,exponentPart_tail h]
  · simp [hc,hzero,htake,hdrop,fractionPart_tail h,exponentPart_tail h]

end Tail

theorem ne_of_isDigit {c d : Letter} (hc : isDigit c = true) (hd : isDigit d = false) : d ≠ c := by
  rintro rfl
  simp [hd] at hc

/-- A number is no word, and no other value begins as it does. -/
theorem value_digits (negative : Bool) {c : Letter} (hc : isDigit c = true) (fuel place : Nat)
    (r : List Letter) :
    value (fuel + 1) ⟨place,sign negative ++ c :: r⟩ = atom ⟨place,sign negative ++ c :: r⟩ ∧
      words.find? (fun w => w.1.toList.isPrefixOf (sign negative ++ c :: r)) = none := by
  have hne {d : Char} (hd : d.isDigit = false) : .char d ≠ c := ne_of_isDigit hc hd
  constructor
  · cases negative with
    | true => rfl
    | false =>
      simp only [sign,Bool.false_eq_true,if_false,List.nil_append]
      unfold value
      split
      · next h => exact absurd (List.cons.inj h).1.symm (hne (by decide))
      · next h => exact absurd (List.cons.inj h).1.symm (hne (by decide))
      · next h => exact absurd (List.cons.inj h).1.symm (hne (by decide))
      · rfl
  · rw [List.find?_eq_none]
    simp only [words,List.forall_mem_cons]
    cases negative <;> simp [sign,Text.toList_ofString,hne]

theorem letters_toString (i : Int) :
    Text.letters (toString i).toList = sign (decide (i < 0)) ++ digits i.natAbs := by
  rw [Yaml.toList_toString,Text.letters_append,digits,sign]
  by_cases hi : i < 0 <;> simp [hi]

theorem spells_int {i : Int} (h : hasDigits i = true) :
    Spells (Text.letters (toString i).toList) (.int i) := by
  obtain ⟨c,ds,hds,hc⟩ := digits_eq_cons i.natAbs
  have hlength : (digits i.natAbs).length ≤ 4300 := by
    rw [digits,Text.length_letters]
    exact Yaml.length_toDigits_le (by decide) (of_decide_eq_true h)
  have hvalue : (if decide (i < 0) then -(i.natAbs : Int) else i.natAbs) = i := by
    simp only [decide_eq_true_eq]
    split <;> omega
  rw [letters_toString]
  constructor
  · by_cases hi : i < 0
    · exact ⟨.char '-',digits i.natAbs,by simp [sign,hi],by decide,by decide⟩
    · refine ⟨c,ds,by simp [sign,hi,hds],?_,(ne_of_isDigit hc (by decide)).symm⟩
      have hne {d : Char} (hd : d.isDigit = false) : c ≠ .char d :=
        (ne_of_isDigit hc (d := .char d) hd).symm
      simp [Cursor.isSpace,hne]
  · intro fuel place tail hfuel htail
    cases fuel with
    | zero => simp [hds] at hfuel
    | succ fuel =>
      have hnumeral := numeral?_digits htail (decide (i < 0)) i.natAbs
      have hcons : digits i.natAbs ++ tail = c :: (ds ++ tail) := by
        rw [hds]
        rfl
      obtain ⟨hatom,hword⟩ := value_digits (decide (i < 0)) hc fuel place (ds ++ tail)
      rw [List.append_assoc,hcons,hatom,atom,hword,← hcons]
      simp only [hnumeral,Numeral.value,if_true,if_pos hlength,digitsValue_digits,hvalue]
      exact ⟨_,rfl⟩

/-! ### Members -/

/-- What is read after a member, the last of those that were read. -/
def afterMember (fuel : Nat) (c : Cursor) (done : Entries) : Except Error (Value × Cursor) :=
  let c := c.skipSpaces
  match c.rest with
  | .char '\x7d' :: r => .ok (.map (Entries.ofPairs done.reverse),⟨c.place + 1,r⟩)
  | .char ',' :: r => members fuel (Cursor.skipSpaces ⟨c.place + 1,r⟩) done
  | _ => .error (.grammar .expectedComma c.place)

theorem members_member {cs : List Letter} {v : Value} (h : Spells cs v) (name : Text) {fuel : Nat} (hfuel : cs.length ≤ fuel) (place : Nat) {tail : List Letter}
    (htail : ∀ c ∈ tail.head?, goesOnNumber c = false) (done : Entries) :
    ∃ p, members (fuel + 1) ⟨place,quoted false name ++ .char ':' :: .char ' ' :: (cs ++ tail)⟩ done =
      afterMember fuel ⟨p,tail⟩ ((.text name,v) :: done) := by
  obtain ⟨c,r,hcs,hspace,-⟩ := h.start
  obtain ⟨p₁,hname⟩ := string_quoted (s := name) (.inl rfl) (place + 1)
    (.char ':' :: .char ' ' :: (cs ++ tail))
  obtain ⟨p₂,hcolon⟩ := skipSpaces_gap [] nofun p₁ (.char ':') (.char ' ' :: (cs ++ tail)) rfl
  obtain ⟨p₃,hvalue⟩ := skipSpaces_gap [.char ' '] (by simp [IsGap,Cursor.isSpace]) (p₂ + 1) c
    (r ++ tail) hspace
  obtain ⟨p₄,hread⟩ := h.read fuel p₃ tail hfuel htail
  have hcons : c :: (r ++ tail) = cs ++ tail := by rw [hcs,List.cons_append]
  rw [hcons] at hvalue
  rw [List.nil_append] at hcolon
  rw [List.singleton_append] at hvalue
  refine ⟨p₄,?_⟩
  rw [quoted,List.cons_append,List.append_assoc,List.singleton_append,members]
  simp only [hname,hcolon,hvalue,hread]
  rfl

theorem afterMember_last {gap : List Letter} (hgap : IsGap gap) (fuel place : Nat) (tail : List Letter)
    (done : Entries) :
    ∃ p, afterMember fuel ⟨place,gap ++ .char '\x7d' :: tail⟩ done =
      .ok (.map (Entries.ofPairs done.reverse),⟨p,tail⟩) := by
  obtain ⟨p,hp⟩ := skipSpaces_gap gap hgap place (.char '\x7d') tail rfl
  exact ⟨p + 1,by rw [afterMember,hp]; rfl⟩

theorem afterMember_more {gap : List Letter} (hgap : IsGap gap) (fuel place : Nat) (r : List Letter)
    (done : Entries) :
    ∃ p, afterMember fuel ⟨place,.char ',' :: (gap ++ .char '"' :: r)⟩ done =
      members fuel ⟨p,.char '"' :: r⟩ done := by
  obtain ⟨p,hp⟩ := skipSpaces_gap [] nofun place (.char ',') (gap ++ .char '"' :: r) rfl
  obtain ⟨q,hq⟩ := skipSpaces_gap gap hgap (p + 1) (.char '"') r rfl
  rw [List.nil_append] at hp
  exact ⟨q,by rw [afterMember,hp]; simp only [hq]⟩

/-- Reading takes the text for the members of an object, up to its end. -/
structure SpellsMembers (cs : List Letter) (ms : List (Text × Value)) : Prop where
  start : ∃ r, cs = .char '"' :: r
  read : ∀ fuel place gap tail done, cs.length ≤ fuel → IsGap gap →
    ∃ p, members fuel ⟨place,cs ++ (gap ++ .char '\x7d' :: tail)⟩ done =
      .ok (.map (Entries.ofPairs (done.reverse ++ Entries.named ms)),⟨p,tail⟩)

theorem goesOnNumber_gap {gap : List Letter} (hgap : IsGap gap) {c : Letter} (hc : goesOnNumber c = false)
    (r : List Letter) : ∀ d ∈ (gap ++ c :: r).head?, goesOnNumber d = false := by
  cases gap with
  | nil => simpa using hc
  | cons d gap =>
    rcases isSpace_cases (hgap d List.mem_cons_self) with rfl | rfl | rfl | rfl <;>
      simp [goesOnNumber]

theorem spellsMembers_single {cs : List Letter} {v : Value} (h : Spells cs v)
    (name : Text) : SpellsMembers (quoted false name ++ .char ':' :: .char ' ' :: cs) [(name,v)] where
  start := ⟨_,rfl⟩
  read := by
    intro fuel place gap tail done hfuel hgap
    cases fuel with
    | zero => simp [quoted] at hfuel
    | succ fuel =>
      have hlength : cs.length ≤ fuel := by
        simp only [List.length_append,List.length_cons] at hfuel
        omega
      obtain ⟨p,hp⟩ := members_member h name hlength place
        (goesOnNumber_gap hgap (c := .char '\x7d') rfl tail) done
      obtain ⟨q,hq⟩ := afterMember_last hgap fuel p tail ((.text name,v) :: done)
      refine ⟨q,?_⟩
      rw [List.append_assoc,List.cons_append,List.cons_append,hp,hq,List.reverse_cons]
      rfl

theorem SpellsMembers.cons {cs others gap : List Letter} {v : Value} {ms : List (Text × Value)}
    (hothers : SpellsMembers others ms) (h : Spells cs v) (hgap : IsGap gap)
    (name : Text) :
    SpellsMembers (quoted false name ++ .char ':' :: .char ' ' :: (cs ++ .char ',' :: gap ++ others))
      ((name,v) :: ms) where
  start := ⟨_,rfl⟩
  read := by
    intro fuel place gap' tail done hfuel hgap'
    cases fuel with
    | zero => simp [quoted] at hfuel
    | succ fuel =>
      simp only [List.length_append,List.length_cons] at hfuel
      obtain ⟨r,rfl⟩ := hothers.start
      have htail : ∀ c ∈ (.char ',' :: (gap ++ .char '"' :: (r ++ (gap' ++ .char '\x7d' :: tail)))).head?,
          goesOnNumber c = false := by
        simp [goesOnNumber]
      obtain ⟨p,hp⟩ := members_member h name (show cs.length ≤ fuel by omega) place htail done
      obtain ⟨q,hq⟩ := afterMember_more hgap fuel p (r ++ (gap' ++ .char '\x7d' :: tail))
        ((.text name,v) :: done)
      obtain ⟨p',hp'⟩ := hothers.read fuel q gap' tail ((.text name,v) :: done)
        (show (.char '"' :: r).length ≤ fuel by omega) hgap'
      refine ⟨p',?_⟩
      have hlist : quoted false name ++ .char ':' :: .char ' ' :: (cs ++ .char ',' :: gap ++ .char '"' :: r) ++
          (gap' ++ .char '\x7d' :: tail) = quoted false name ++ .char ':' :: .char ' ' :: (cs ++
            .char ',' :: (gap ++ .char '"' :: (r ++ (gap' ++ .char '\x7d' :: tail)))) := by
        simp
      have hnamed : done.reverse ++ Entries.named ((name,v) :: ms) =
          ((.text name,v) :: done).reverse ++ Entries.named ms := by
        simp [Entries.named]
      rw [hlist,hp,hq,hnamed,← hp']
      rfl

/-! ### Records -/

theorem spells_empty : Spells [.char '\x7b',.char '\x7d'] (.map []) where
  start := ⟨_,_,rfl,rfl,by decide⟩
  read := by
    intro fuel place tail hfuel _
    cases fuel with
    | zero => simp at hfuel
    | succ fuel => exact ⟨_,rfl⟩

theorem SpellsMembers.spells {cs before after : List Letter} {ms : List (Text × Value)}
    (h : SpellsMembers cs ms) (hnames : (ms.map Prod.fst).Nodup) (hbefore : IsGap before)
    (hafter : IsGap after) :
    Spells (.char '\x7b' :: (before ++ cs ++ after ++ [.char '\x7d'])) (.map (Entries.named ms)) where
  start := ⟨_,_,rfl,rfl,by decide⟩
  read := by
    intro fuel place tail hfuel _
    cases fuel with
    | zero => simp at hfuel
    | succ fuel =>
      simp only [List.length_append,List.length_cons] at hfuel
      obtain ⟨r,hr⟩ := h.start
      obtain ⟨p,hp⟩ := skipSpaces_gap before hbefore (place + 1) (.char '"')
        (r ++ (after ++ .char '\x7d' :: tail)) rfl
      obtain ⟨q,hq⟩ := h.read fuel p after tail [] (by omega) hafter
      have hlist : before ++ cs ++ after ++ [.char '\x7d'] ++ tail =
          before ++ .char '"' :: (r ++ (after ++ .char '\x7d' :: tail)) := by
        simp [hr]
      rw [List.reverse_nil,List.nil_append,Entries.ofPairs_named hnames,hr,List.cons_append] at hq
      refine ⟨q,?_⟩
      rw [List.cons_append,hlist,value]
      simp only [hp,hq]
      rfl

section Layout
variable {l : Layout} (hl : l.ascii = false)
include hl

theorem printMembers_spells (depth : Nat) {ms : List (Text × Value)} (hne : ms ≠ [])
    (h : ∀ m ∈ ms, ∃ cs, print l depth m.2 = .ok cs ∧ Spells cs m.2) :
    ∃ cs, printMembers l depth (Entries.named ms) = .ok cs ∧ SpellsMembers cs ms := by
  induction ms with
  | nil => exact absurd rfl hne
  | cons m ms ih =>
    obtain ⟨name,v⟩ := m
    obtain ⟨⟨item,hitem,hspells⟩,hrest⟩ := List.forall_mem_cons.mp h
    cases ms with
    | nil =>
      refine ⟨_,?_,spellsMembers_single hspells name⟩
      simp only [Entries.named,List.map_cons,List.map_nil,printMembers,Json.name,hl,hitem,
        bind,Except.bind,pure,Except.pure]
    | cons m ms =>
      obtain ⟨others,hothers,hmembers⟩ := ih (List.cons_ne_nil _ _) hrest
      obtain ⟨gap,hgap,hseparator⟩ := separator_eq l depth
      refine ⟨_,?_,hmembers.cons hspells hgap name⟩
      simp only [Entries.named,List.map_cons] at hothers ⊢
      simp only [printMembers,Json.name,hl,hitem,hothers,hseparator,bind,Except.bind,pure,
        Except.pure]

/-- An object is read as it was. Its text begins with two characters of ASCII. -/
theorem print_named (depth : Nat) {ms : List (Text × Value)}
    (hnames : (ms.map Prod.fst).Nodup)
    (h : ∀ m ∈ ms, ∀ depth, ∃ cs, print l depth m.2 = .ok cs ∧ Spells cs m.2) :
    ∃ c r, print l depth (.map (Entries.named ms)) = .ok (.char '\x7b' :: c :: r) ∧
      Spells (.char '\x7b' :: c :: r) (.map (Entries.named ms)) ∧ 0 < c.toNat ∧ c.toNat < 0x80 := by
  cases ms with
  | nil => exact ⟨.char '\x7d',[],rfl,spells_empty,by decide,by decide⟩
  | cons m ms =>
    obtain ⟨cs,hcs,hmembers⟩ := printMembers_spells hl (depth + 1) (List.cons_ne_nil m ms)
      (fun m hm => h m hm (depth + 1))
    have hspells := hmembers.spells hnames (isGap_breakAt l (depth + 1)) (isGap_breakAt l depth)
    have hprint : print l depth (.map (Entries.named (m :: ms))) = .ok (.char '\x7b' ::
        (l.breakAt (depth + 1) ++ cs ++ l.breakAt depth ++ [.char '\x7d'])) := by
      simp only [Entries.named,List.map_cons] at hcs ⊢
      simp only [print,hcs,bind,Except.bind,pure,Except.pure]
    obtain ⟨r,rfl⟩ := hmembers.start
    have hgap := isGap_breakAt l (depth + 1)
    generalize l.breakAt (depth + 1) = before at hprint hspells hgap
    cases before with
    | nil => exact ⟨.char '"',_,hprint,hspells,by decide,by decide⟩
    | cons c before =>
      exact ⟨c,_,hprint,hspells,isAscii_of_isSpace (hgap c List.mem_cons_self)⟩

theorem IsRecord.print_spells {inClass : Text → Prop} {v : Value} (h : IsRecord inClass v)
    (depth : Nat) :
    ∃ cs, print l depth v = .ok cs ∧ Spells cs v := by
  -- What is inside a record is printed one deeper, so the depth is general.
  induction h generalizing depth with
  | text _ => exact ⟨_,by rw [print],spells_text (.inl hl)⟩
  | int hi => exact ⟨_,by rw [print,integer,if_pos hi],spells_int hi⟩
  | bool b => exact ⟨_,by rw [print],spells_bool b⟩
  | map hnames _ _ ih =>
    obtain ⟨c,r,hprint,hspells,-⟩ := print_named hl depth hnames ih
    exact ⟨_,hprint,hspells⟩

theorem IsRecord.print_map {inClass : Text → Prop} {es : Entries} (h : IsRecord inClass (.map es))
    (depth : Nat) :
    ∃ c r, print l depth (.map es) = .ok (.char '\x7b' :: c :: r) ∧ Spells (.char '\x7b' :: c :: r) (.map es) ∧
      0 < c.toNat ∧ c.toNat < 0x80 := by
  cases h with
  | map hnames _ h => exact print_named hl depth hnames (fun m hm => (h m hm).print_spells hl)

end Layout

/-! ### Documents -/

theorem Spells.document {cs : List Letter} {v : Value} (h : Spells cs v) : document cs = .ok v := by
  obtain ⟨c,r,rfl,hc,-⟩ := h.start
  obtain ⟨p,hp⟩ := skipSpaces_gap [] nofun 0 c r hc
  obtain ⟨q,hq⟩ := h.read (2 * (c :: r).length + 2) p [] (by omega) nofun
  rw [List.append_nil] at hq
  rw [List.nil_append] at hp
  rw [Json.document,hp,hq]
  rfl

theorem Spells.ofText {cs : List Letter} {v : Value} (h : Spells cs v) : ofText cs = .ok v := by
  obtain ⟨c,r,rfl,-,hmark⟩ := h.start
  rw [Json.ofText]
  · exact h.document
  · exact fun _ hc => hmark (List.cons.inj hc).1

end Json

end ShortVolume
