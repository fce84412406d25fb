import ShortVolume.Json.Print
import ShortVolume.Yaml.Token.Quoted
import ShortVolume.Proofs.Yaml.Place
set_option autoImplicit false

/-!
Quoted texts of JSON as quoted scalars.

A text whose characters are all legible is read back from between its quotes: what JSON escapes has
an escape of the same meaning, and all other characters stand for themselves.
-/

namespace ShortVolume.Yaml

/-- Characters that a quoted text may hold: those that JSON escapes, and those that a text may hold
and that break no line. -/
def isLegible (c : Char) : Bool := c.toNat < 0x20 || (isAllowed c && !isBreak c)

/-- A text of legible characters; half of a pair is not legible. -/
def isLegibleText (t : Text) : Bool := t.toList.all (Letter.is isLegible)

theorem isLegibleText_iff {t : Text} :
    isLegibleText t = true ↔ ∃ s : String, t = s ∧ ∀ c ∈ s.toList, isLegible c = true := by
  constructor
  · intro h
    have hwhole : t.isWhole = true := by
      rw [Text.isWhole,Text.isSome_string?_iff]
      intro l hl
      have hl := List.all_eq_true.mp h l hl
      cases l with
      | char c => exact ⟨c,rfl⟩
      | half x => contradiction
    obtain ⟨s,rfl⟩ := Text.isWhole_iff.mp hwhole
    refine ⟨s,rfl,fun c hc => ?_⟩
    exact List.all_eq_true.mp h (.char c) (Text.char_mem_letters.mpr hc)
  · rintro ⟨s,rfl,hs⟩
    simpa [isLegibleText,Text.toList_ofString,Text.letters] using hs

namespace Quoted

/-! ### One character -/

/-- What a character becomes between quotes: itself, or an escape that stands for it. -/
inductive Escaped (c : Char) : List Char → Prop where
  | word : isWordChar c = true → isAllowed c = true → Escaped c [c]
  | quote : c = '\'' → Escaped c [c]
  | space : c = ' ' → Escaped c [c]
  | code {cs : List Char} : (∀ d ∈ cs, Place.endsLine d = false ∧ isAllowed d = true) →
      (∀ p r, p.rest = cs ++ r → escape p = .ok ([.char c],p.advance cs.length)) → Escaped c ('\\' :: cs)

theorem escape_letter {c x : Char} (h : escape? x = some c) {p : Place} {r : List Char}
    (hp : p.rest = x :: r) : escape p = .ok ([.char c],p.next) := by
  rw [escape,Place.char_of_rest hp,h]

theorem hexNumber_hex {n : Nat} (h : n < 0x20) :
    (Text.hex 4 n).length = 4 ∧ (Text.hex 4 n).all isHexDigit = true ∧
      (∀ c ∈ Text.hex 4 n, Place.endsLine c = false ∧ isAllowed c = true) ∧
      hexNumber (Text.hex 4 n) = n := by
  have hall : ∀ m : Fin 0x20, (Text.hex 4 m).length = 4 ∧ (Text.hex 4 m).all isHexDigit = true ∧
      (Text.hex 4 m).all (fun c => !Place.endsLine c && isAllowed c) = true ∧
      hexNumber (Text.hex 4 m) = m := by
    decide +kernel
  obtain ⟨hlength,hdigits,hplain,hnumber⟩ := hall ⟨n,h⟩
  exact ⟨hlength,hdigits,fun c hc => by simpa using List.all_eq_true.mp hplain c hc,hnumber⟩

theorem letterOf_toNat (c : Char) : letterOf c.toNat = .ok (.char c) := by
  have hvalid : c.toNat < 0xD800 ∨ 0xDFFF < c.toNat ∧ c.toNat < 0x110000 := c.valid
  rw [letterOf,if_neg (by omega),if_neg (by omega),Letter.ofNat_toNat_char]

theorem escape_code {c : Char} (h : c.toNat < 0x20) {p : Place} {r : List Char}
    (hp : p.rest = 'u' :: (Text.hex 4 c.toNat ++ r)) :
    escape p = .ok ([.char c],p.next.advance 4) := by
  obtain ⟨hlength,hdigits,-,hnumber⟩ := hexNumber_hex h
  have hnext : p.next.rest = Text.hex 4 c.toNat ++ r := (Place.over_next hp (by decide)).2
  have htake : p.next.rest.take 4 = Text.hex 4 c.toNat := by rw [hnext,List.take_left' hlength]
  have hletter : escape? 'u' = none ∧ escapeWidth? 'u' = some 4 := ⟨rfl,rfl⟩
  rw [escape,Place.char_of_rest hp,hletter.1,hletter.2]
  simp only [htake,hlength,hdigits,hnumber,letterOf_toNat]
  rfl

theorem escaped_escapeChar {c : Char} (h : isLegible c = true) :
    Escaped c (Json.escapeChar false c) := by
  have hletter {x : Char} (hx : escape? x = some c)
      (hclass : Place.endsLine x = false ∧ isAllowed x = true) : Escaped c ['\\',x] :=
    .code (by simpa using hclass) (fun p r hp => escape_letter hx hp)
  unfold Json.escapeChar
  split
  · exact hletter rfl (by decide)
  · exact hletter rfl (by decide)
  · exact hletter rfl (by decide)
  · exact hletter rfl (by decide)
  · exact hletter rfl (by decide)
  · exact hletter rfl (by decide)
  · exact hletter rfl (by decide)
  · next hquote hslash _ _ htab _ _ =>
    by_cases hcontrol : c.toNat < 0x20
    · obtain ⟨hlength,-,hclasses,-⟩ := hexNumber_hex hcontrol
      rw [if_pos hcontrol]
      show Escaped c ('\\' :: ('u' :: Text.hex 4 c.toNat))
      refine .code ?_ (fun p r hp => ?_)
      · intro d hd
        rcases List.mem_cons.mp hd with rfl | hd
        · decide
        · exact hclasses d hd
      · rw [escape_code hcontrol hp,List.length_cons,hlength]
        rfl
    · rw [if_neg hcontrol,Bool.false_and,if_neg Bool.false_ne_true]
      by_cases hspace : c = ' '
      · exact .space hspace
      by_cases happ : c = '\''
      · exact .quote happ
      simp only [isLegible,hcontrol,decide_false,Bool.false_or,Bool.and_eq_true,
        Bool.not_eq_true'] at h
      refine .word ?_ h.1
      have hend : c ≠ theEnd := by
        rintro rfl
        exact hcontrol (by decide)
      simp only [isWordChar,isBlankOrBreak,h.2,beq_eq_false_iff_ne.mpr hend,
        beq_eq_false_iff_ne.mpr hspace]
      simpa [happ] using ⟨htab,hquote,hslash⟩

/-! ### A text -/

/-- The characters between the quotes of a text. -/
def inner (s : List Char) : List Char := s.flatMap (Json.escapeChar false)

/-- Whether a character of a text stands for itself in a word. -/
def inWord (c : Char) : Bool := Json.escapeChar false c == [c] && isWordChar c

theorem inner_cons (c : Char) (s : List Char) :
    inner (c :: s) = Json.escapeChar false c ++ inner s := rfl

theorem inner_append (s t : List Char) : inner (s ++ t) = inner s ++ inner t :=
  List.flatMap_append

theorem length_le_inner {s : List Char} (hs : ∀ c ∈ s, isLegible c = true) :
    s.length ≤ (inner s).length := by
  induction s with
  | nil => simp
  | cons c s ih =>
    have hle := ih (fun d hd => hs d (List.mem_cons_of_mem _ hd))
    have hpos : 0 < (Json.escapeChar false c).length := by
      have hescaped := escaped_escapeChar (hs c List.mem_cons_self)
      generalize Json.escapeChar false c = cs at hescaped
      cases hescaped <;> exact Nat.succ_pos _
    rw [inner_cons,List.length_append,List.length_cons]
    omega

theorem isAllowed_of_mem_inner {s : List Char} (hs : ∀ c ∈ s, isLegible c = true) :
    ∀ d ∈ inner s, isAllowed d = true := by
  intro d hd
  obtain ⟨c,hc,hd⟩ := List.mem_flatMap.mp hd
  have hescaped := escaped_escapeChar (hs c hc)
  generalize Json.escapeChar false c = cs at hescaped hd
  cases hescaped with
  | word _ hallowed =>
    rw [List.mem_singleton.mp hd]
    exact hallowed
  | quote happ =>
    rw [List.mem_singleton.mp hd,happ]
    decide
  | space hspace =>
    rw [List.mem_singleton.mp hd,hspace]
    decide
  | code hclasses =>
    rcases List.mem_cons.mp hd with rfl | hd
    · decide
    · exact (hclasses d hd).2

theorem inner_of_self {s : List Char} (h : ∀ c ∈ s, Json.escapeChar false c = [c]) :
    inner s = s := by
  induction s with
  | nil => rfl
  | cons c s ih =>
    rw [inner_cons,h c List.mem_cons_self,ih (fun d hd => h d (List.mem_cons_of_mem _ hd))]
    rfl

/-- A character that may stand where a word or a run of spaces ends. -/
structure IsLead (c : Option Char) (d : Char) : Prop where
  unbroken : isBreak d = false
  inside : d ≠ theEnd
  tab : d ≠ '\t'
  word : (∀ e ∈ c, inWord e = false) → isWordChar d = false
  space : (∀ e ∈ c, e ≠ ' ') → d ≠ ' '

/-- What follows inside the quotes starts with a character of which the first one of the text tells
what it is. -/
theorem exists_lead {s : List Char} (hs : ∀ c ∈ s, isLegible c = true) (r : List Char) :
    ∃ d t, inner s ++ '"' :: r = d :: t ∧ IsLead s.head? d := by
  cases s with
  | nil =>
    exact ⟨'"',r,rfl,by decide,by decide,by decide,fun _ => by decide,fun _ => by decide⟩
  | cons c s =>
    have hescaped := escaped_escapeChar (hs c List.mem_cons_self)
    rw [inner_cons]
    generalize hcs : Json.escapeChar false c = cs at hescaped
    cases hescaped with
    | word hword _ =>
      have hin : inWord c = true := by simp [inWord,hcs,hword]
      have hclasses := hword
      simp only [isWordChar,isBlankOrBreak,Bool.not_eq_true',Bool.or_eq_false_iff,
        beq_eq_false_iff_ne] at hclasses
      refine ⟨c,_,rfl,hclasses.1.2,hclasses.1.1.1,?_,?_,fun _ => hclasses.1.1.2⟩
      · rintro rfl
        exact absurd hclasses.2 (by decide)
      · intro h
        rw [h c rfl] at hin
        cases hin
    | quote happ =>
      subst happ
      exact ⟨_,_,rfl,by decide,by decide,by decide,fun _ => by decide,fun _ => by decide⟩
    | space hspace =>
      subst hspace
      exact ⟨_,_,rfl,by decide,by decide,by decide,fun _ => by decide,fun h => absurd rfl (h _ rfl)⟩
    | code =>
      exact ⟨_,_,rfl,by decide,by decide,by decide,fun _ => by decide,fun _ => by decide⟩

theorem not_endsLine_of_isWordChar {c : Char} (h : isWordChar c = true) :
    Place.endsLine c = false := by
  simp only [isWordChar,isBlankOrBreak,isBreak,Bool.not_eq_true',Bool.or_eq_false_iff] at h
  simp only [Place.endsLine,Bool.or_eq_false_iff]
  exact ⟨h.1.2.1.1.1.1,h.1.2.1.1.1.2⟩

/-- The characters of a class with which a text goes on after one of them, and the others, of which
the first is not in the class. -/
theorem exists_split (inClass : Char → Bool) {c : Char} (hc : inClass c = true) (s : List Char) :
    ∃ w v, c :: s = (c :: w) ++ v ∧ (∀ d ∈ c :: w, inClass d = true) ∧
      ∀ d ∈ v.head?, inClass d = false := by
  refine ⟨s.takeWhile inClass,s.dropWhile inClass,?_,?_,?_⟩
  · rw [List.cons_append,List.takeWhile_append_dropWhile]
  · exact List.forall_mem_cons.mpr ⟨hc,List.all_eq_true.mp List.all_takeWhile⟩
  · intro d hd
    have := List.head?_dropWhile_not inClass s
    rw [Option.mem_def.mp hd] at this
    simpa using this

theorem piece?_escape {p q : Place} {cs : List Letter} (hspan : p.span isWordChar = [])
    (hchar : p.char = '\\') (h : escape p.next = .ok (cs,q)) :
    piece? true p = .ok (some (cs,q)) := by
  simp only [piece?,hspan,hchar,h]
  rfl

theorem gap_eq {p : Place} {w : List Char} (hspan : p.span (fun c => c == ' ' || c == '\t') = w)
    (hbreak : (p.advance w.length).lineBreak? = none) (hchar : (p.advance w.length).char ≠ theEnd) :
    gap p = .ok (w,p.advance w.length) := by
  simp only [gap,hspan,hbreak,if_neg hchar]

/-! ### One round of reading -/

/-- A round at the place `p` takes the characters `w` and goes on at the place `m`. -/
def Takes (p : Place) (w : List Char) (m : Place) : Prop :=
  piece? true p = .ok (some (Text.letters w,m)) ∨
    (piece? true p = .ok none ∧ p.char ≠ '"' ∧ gap p = .ok (w,m))

theorem Takes.content_eq {n : Nat} {p m q : Place} {w v : List Char} (h : Takes p w m)
    (hrest : content true n m = .ok (Text.letters v,q)) :
    content true (n + 1) p = .ok (Text.letters (w ++ v),q) := by
  rcases h with hpiece | ⟨hnone,hchar,hgap⟩
  · simp [content,hpiece,hrest,bind,Except.bind,pure,Except.pure]
  · simp [content,hnone,hchar,hgap,hrest,bind,Except.bind,pure,Except.pure]

/-- A round takes a part of the text `s`, and what is left of the text is what comes next. -/
def TakesPart (r s : List Char) (p : Place) : Prop :=
  ∃ w v m, s = w ++ v ∧ w ≠ [] ∧ Takes p w m ∧ p.Over (inner w) m ∧ m.rest = inner v ++ '"' :: r

variable {c : Char} {s r : List Char} {p : Place}

theorem takesPart_word (hs : ∀ d ∈ c :: s, isLegible d = true)
    (hp : p.rest = inner (c :: s) ++ '"' :: r) (hc : inWord c = true) :
    TakesPart r (c :: s) p := by
  obtain ⟨w,v,hsplit,hin,hout⟩ := exists_split inWord hc s
  have hv : ∀ d ∈ v, isLegible d = true :=
    fun d hd => hs d (hsplit ▸ List.mem_append_right _ hd)
  have hself : inner (c :: w) = c :: w := inner_of_self (fun d hd => by
    have := hin d hd
    simp only [inWord,Bool.and_eq_true,beq_iff_eq] at this
    exact this.1)
  have hclass : ∀ d ∈ c :: w, isWordChar d = true := fun d hd => by
    have := hin d hd
    simp only [inWord,Bool.and_eq_true] at this
    exact this.2
  obtain ⟨d,t,hlead,hd⟩ := exists_lead hv r
  have hstart : p.rest = (c :: w) ++ (inner v ++ '"' :: r) := by
    rw [hp,hsplit,inner_append,hself,List.append_assoc]
  have hspan : p.span isWordChar = c :: w := by
    rw [hlead] at hstart
    exact Place.span_eq hstart hclass (hd.word hout)
  obtain ⟨hover,hm⟩ := Place.over_advance hstart
    (fun d hd => not_endsLine_of_isWordChar (hclass d hd))
  refine ⟨c :: w,v,_,hsplit,by simp,.inl ?_,hself.symm ▸ hover,hm⟩
  simp [piece?,Place.skip,hspan]

theorem takesPart_quote (hp : p.rest = inner ('\'' :: s) ++ '"' :: r) :
    TakesPart r ('\'' :: s) p := by
  have hrest : p.rest = '\'' :: (inner s ++ '"' :: r) := hp
  obtain ⟨hover,hm⟩ := Place.over_next hrest (by decide)
  have hspan : p.span isWordChar = [] := Place.span_eq_nil hrest (by decide)
  refine ⟨['\''],s,p.next,rfl,by simp,.inl ?_,hover,hm⟩
  simp [piece?,hspan,Place.char_of_rest hrest]

theorem takesPart_space (hs : ∀ d ∈ ' ' :: s, isLegible d = true)
    (hp : p.rest = inner (' ' :: s) ++ '"' :: r) : TakesPart r (' ' :: s) p := by
  obtain ⟨w,v,hsplit,hin,hout⟩ := exists_split (· == ' ') (beq_self_eq_true ' ') s
  have hv : ∀ d ∈ v, isLegible d = true :=
    fun d hd => hs d (hsplit ▸ List.mem_append_right _ hd)
  have hspaces : ∀ d ∈ ' ' :: w, d = ' ' := fun d hd => by simpa using hin d hd
  have hself : inner (' ' :: w) = ' ' :: w :=
    inner_of_self (fun d hd => by rw [hspaces d hd]; rfl)
  obtain ⟨d,t,hlead,hd⟩ := exists_lead hv r
  have hne : d ≠ ' ' := hd.space (fun e he => by simpa using hout e he)
  have hstart : p.rest = (' ' :: w) ++ (inner v ++ '"' :: r) := by
    rw [hp,hsplit,inner_append,hself,List.append_assoc]
  obtain ⟨hover,hm⟩ := Place.over_advance hstart (fun d hd => by rw [hspaces d hd]; rfl)
  have hspan : p.span (fun c => c == ' ' || c == '\t') = ' ' :: w := by
    rw [hlead] at hstart
    exact Place.span_eq hstart (fun d hd => by simp [hspaces d hd]) (by simp [hne,hd.tab])
  have hmd : (p.advance (' ' :: w).length).rest = d :: t := by rw [hm,hlead]
  have hgap : gap p = .ok (' ' :: w,p.advance (' ' :: w).length) :=
    gap_eq hspan (Place.lineBreak?_eq_none hmd hd.unbroken)
      (by rw [Place.char_of_rest hmd]; exact hd.inside)
  have hrest : p.rest = ' ' :: (inner s ++ '"' :: r) := hp
  have hempty : p.span isWordChar = [] := Place.span_eq_nil hrest (by decide)
  have hnone : piece? true p = .ok none := by simp [piece?,hempty,Place.char_of_rest hrest]
  have hchar : p.char ≠ '"' := by simp [Place.char_of_rest hrest]
  exact ⟨' ' :: w,v,_,hsplit,by simp,.inr ⟨hnone,hchar,hgap⟩,hself.symm ▸ hover,hm⟩

theorem takesPart_code {cs : List Char} (hp : p.rest = inner (c :: s) ++ '"' :: r)
    (hcs : Json.escapeChar false c = '\\' :: cs)
    (hclasses : ∀ d ∈ cs, Place.endsLine d = false ∧ isAllowed d = true)
    (hescape : ∀ p r, p.rest = cs ++ r → escape p = .ok ([.char c],p.advance cs.length)) :
    TakesPart r (c :: s) p := by
  have hrest : p.rest = '\\' :: (cs ++ (inner s ++ '"' :: r)) := by
    rw [hp,inner_cons,hcs,List.cons_append,List.cons_append,List.append_assoc]
  obtain ⟨hslash,hnext⟩ := Place.over_next hrest (by decide)
  obtain ⟨hcode,hm⟩ := Place.over_advance hnext (fun d hd => (hclasses d hd).1)
  have hover : p.Over (inner [c]) (p.next.advance cs.length) := by
    have hinner : inner [c] = ['\\'] ++ cs := by simp [inner,hcs]
    rw [hinner]
    exact hslash.trans hcode
  have hspan : p.span isWordChar = [] := Place.span_eq_nil hrest (by decide)
  exact ⟨[c],s,_,rfl,by simp,
    .inl (piece?_escape hspan (Place.char_of_rest hrest) (hescape _ _ hnext)),hover,hm⟩

theorem takesPart (hs : ∀ d ∈ c :: s, isLegible d = true)
    (hp : p.rest = inner (c :: s) ++ '"' :: r) : TakesPart r (c :: s) p := by
  have hescaped := escaped_escapeChar (hs c List.mem_cons_self)
  generalize hcs : Json.escapeChar false c = cs at hescaped
  cases hescaped with
  | word hword _ => exact takesPart_word hs hp (by simp [inWord,hcs,hword])
  | quote happ =>
    subst happ
    exact takesPart_quote hp
  | space hspace =>
    subst hspace
    exact takesPart_space hs hp
  | code hclasses hescape => exact takesPart_code hp hcs hclasses hescape

/-- A legible text is read from between its quotes. -/
theorem content_inner (hs : ∀ c ∈ s, isLegible c = true) (hp : p.rest = inner s ++ '"' :: r)
    {n : Nat} (hn : s.length < n) :
    ∃ q, content true n p = .ok (Text.letters s,q) ∧ p.Over (inner s ++ ['"']) q ∧ q.rest = r := by
  induction n generalizing s p with
  | zero => omega
  | succ n ih =>
    cases s with
    | nil =>
      have hrest : p.rest = '"' :: r := hp
      obtain ⟨hover,hnext⟩ := Place.over_next hrest (by decide)
      refine ⟨p.next,?_,hover,hnext⟩
      have hspan : p.span isWordChar = [] := Place.span_eq_nil hrest (by decide)
      simp [content,piece?,hspan,Place.char_of_rest hrest,bind,Except.bind,pure,Except.pure]
    | cons c s =>
      obtain ⟨w,v,m,hsplit,hw,htakes,hover,hm⟩ := takesPart hs hp
      have hv : ∀ c ∈ v, isLegible c = true :=
        fun c hc => hs c (hsplit ▸ List.mem_append_right w hc)
      have hshorter : v.length < n := by
        have hpos := List.length_pos_iff.mpr hw
        have hsum := congrArg List.length hsplit
        rw [List.length_append] at hsum
        omega
      obtain ⟨q,hcontent,hq,hr⟩ := ih hv hm hshorter
      rw [hsplit,inner_append,List.append_assoc]
      exact ⟨q,htakes.content_eq hcontent,hover.trans hq,hr⟩

/-- The text of a string between its quotes. -/
def quoted (s : String) : List Char := '"' :: (inner s.toList ++ ['"'])

theorem quoted_ofString (s : String) : Json.quoted false s = Text.letters (quoted s) := by
  have hinner : (Text.letters s.toList).flatMap (Json.escapeLetter false) =
      Text.letters (inner s.toList) := by
    rw [inner,Text.letters,List.flatMap_map,Text.letters,List.map_flatMap]
    rfl
  rw [Json.quoted,quoted,Text.toList_ofString,hinner]
  simp

theorem scan_quoted {s : String} (hs : ∀ c ∈ s.toList, isLegible c = true) {r : List Char}
    {p : Place} (hp : p.rest = quoted s ++ r) :
    ∃ q, scan p = .ok (↑s,q) ∧ p.Over (quoted s) q ∧ q.rest = r := by
  have hrest : p.rest = '"' :: (inner s.toList ++ '"' :: r) := by
    rw [hp,quoted]
    simp
  obtain ⟨hover,hnext⟩ := Place.over_next hrest (by decide)
  have hlong : s.toList.length < p.rest.length + 1 := by
    have hle := length_le_inner hs
    rw [hrest,List.length_cons,List.length_append]
    omega
  obtain ⟨q,hcontent,hq,hr⟩ := content_inner hs hnext hlong
  refine ⟨q,?_,?_,hr⟩
  · have hdouble : (p.char == '"') = true := by rw [Place.char_of_rest hrest]; rfl
    rw [scan,hdouble,hcontent]
    rfl
  · exact hover.trans hq

end Quoted

end ShortVolume.Yaml
