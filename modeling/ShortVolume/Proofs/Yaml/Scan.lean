import ShortVolume.Proofs.Yaml.Line
import ShortVolume.Proofs.Yaml.Word
set_option autoImplicit false

/-!
Reading tokens from known characters.

Each kind of token has a lemma on what its characters make of the state, whatever comes after them;
blanks before it and starts of keys that are no longer possible are dealt with once, in
`Holds.reaches`.
-/

namespace ShortVolume.Yaml.Scanner

/-! ### Reading on -/

/-- Reading a text comes from one state to another. -/
def Reaches (s s' : Scanner) : Prop :=
  ∃ k, k + s'.place.rest.length ≤ s.place.rest.length ∧
    ∀ n, Tokens.run (n + k) s = Tokens.run n s'

theorem Reaches.refl (s : Scanner) : s.Reaches s := ⟨0,by omega,fun _ => rfl⟩

theorem Reaches.trans {s t u : Scanner} (h : s.Reaches t) (h' : t.Reaches u) : s.Reaches u := by
  obtain ⟨k,hk,hrun⟩ := h
  obtain ⟨l,hl,hrun'⟩ := h'
  refine ⟨l + k,by omega,fun n => ?_⟩
  rw [← Nat.add_assoc,hrun,hrun']

/-- What the tokens so far are, and what is left of the text, outside of block collections. No key
has to come. -/
structure Holds (s : Scanner) (ts : List Token) (rest : List Char) (fs : List Flow) : Prop where
  tokens : s.tokens.toList.map Lexeme.token = ts
  rest : s.place.rest = rest
  flows : s.flows = fs
  version : s.version = .v1_2
  versions : ∀ v ∈ s.versions.toList, v = .v1_2
  size : s.versions.size ≤ s.tokens.size
  indent : s.indent = -1
  outer : s.outer = []
  optional : ∀ e ∈ s.keys, e.2.required = false
  column : fs ≠ [] → 0 < s.place.column

variable {s : Scanner} {ts : List Token} {rest r : List Char} {fs : List Flow}

/-! ### Key starts -/

/-- Whether the place has left a key start behind. -/
def isStale (p : Place) (e : Nat × KeyStart) : Bool :=
  e.2.line != p.line || keyLimit < p.index - e.2.index

theorem drop_eq (h : ∀ e ∈ s.keys, e.2.required = false) (inClass : Nat × KeyStart → Bool) :
    s.drop inClass = .ok { s with keys := s.keys.filter (fun e => !inClass e) } := by
  have hnone : s.keys.find? (fun e => inClass e && e.2.required) = none := by
    rw [List.find?_eq_none]
    intro e he
    simp [h e he]
  rw [drop,hnone]

theorem Holds.withKeys (h : s.Holds ts rest fs) {ks : List (Nat × KeyStart)}
    (hks : ∀ e ∈ ks, e.2.required = false) : Holds { s with keys := ks } ts rest fs :=
  { h with optional := hks }

theorem Holds.filterKeys (h : s.Holds ts rest fs) (inClass : Nat × KeyStart → Bool) :
    Holds { s with keys := s.keys.filter inClass } ts rest fs :=
  h.withKeys (fun e he => h.optional e (List.mem_filter.mp he).1)

theorem Holds.dropKey (h : s.Holds ts rest fs) :
    ∃ ks, s.dropKey = .ok { s with keys := ks } ∧ ∀ e ∈ ks, e.2.required = false :=
  ⟨_,drop_eq h.optional _,fun e he => h.optional e (List.mem_filter.mp he).1⟩

/-- A start of a key at the place. -/
def keyStart (s : Scanner) : KeyStart :=
  ⟨s.tokens.size,false,s.place.index,s.place.line,s.place.column⟩

theorem Holds.saveKey (h : s.Holds ts rest fs) :
    ∃ ks, s.saveKey = .ok { s with keys := ks } ∧ (∀ e ∈ ks, e.2.required = false) ∧
      (s.keyAllowed = true → ∃ others, ks = (s.depth,s.keyStart) :: others) := by
  by_cases hallowed : s.keyAllowed = true
  · have hcolumn : (s.indent == (s.place.column : Int)) = false := by
      rw [h.indent,beq_eq_false_iff_ne]
      omega
    refine ⟨(s.depth,s.keyStart) :: s.keys.filter (fun e => !(e.1 == s.depth)),?_,?_,
      fun _ => ⟨_,rfl⟩⟩
    · simp only [Scanner.saveKey,Scanner.dropKey,hallowed,drop_eq h.optional,hcolumn,
        Bool.and_false]
      rfl
    · intro e he
      rcases List.mem_cons.mp he with rfl | he
      · rfl
      · exact h.optional e (List.mem_filter.mp he).1
  · refine ⟨s.keys,?_,h.optional,fun ht => absurd ht hallowed⟩
    rw [Scanner.saveKey,if_pos (by simp [hallowed])]

/-! ### To the next token -/

theorem Holds.unwind (h : s.Holds ts rest fs) (column : Int) : s.unwind column = s := by
  unfold Scanner.unwind
  split
  · rfl
  · rw [h.indent,h.outer]
    simp [leave,← h.indent,← h.outer]

theorem Holds.settle (h : s.Holds ts rest fs) {count : Nat} (hcount : count ≤ s.tokens.size) :
    (s.settle count).Holds ts rest fs := by
  refine { h with versions := ?_, size := ?_ }
  · intro v hv
    simp only [Scanner.settle,Array.toList_append,Array.toList_replicate,List.mem_append,
      List.mem_replicate] at hv
    rcases hv with hv | ⟨-,rfl⟩
    · exact h.versions v hv
    · exact h.version
  · have := h.size
    simp [Scanner.settle]
    omega

theorem certain_le (s : Scanner) : s.certain ≤ s.tokens.size := by
  have hfold (ks : List (Nat × KeyStart)) (n : Nat) :
      ks.foldl (fun n k => min n k.2.token) n ≤ n := by
    induction ks generalizing n with
    | nil => exact Nat.le_refl n
    | cons k ks ih => exact Nat.le_trans (ih _) (Nat.min_le_left _ _)
  exact hfold s.keys _

/-- Characters that a token starts with after blanks: no blanks, breaks or comments. -/
def isHead (c : Char) : Bool := !(isGap c || c == '#')

theorem nextPlace_of_blanks {p : Place} {bs r : List Char} {c : Char} (hp : p.rest = bs ++ c :: r)
    (hbs : ∀ b ∈ bs, b = ' ') (hc : isHead c = true) (inFlow : Bool) (n : Nat) (newLine : Bool) :
    nextPlace inFlow (n + 1) p newLine = (p.advance bs.length,newLine) := by
  simp only [isHead,isGap,isStop,Bool.not_eq_true',Bool.or_eq_false_iff,beq_eq_false_iff_ne] at hc
  obtain ⟨⟨⟨⟨-,hbreak⟩,hspace⟩,htab⟩,hcomment⟩ := hc
  have hspan : p.span (fun c => c == ' ' || (inFlow && c == '\t')) = bs :=
    Place.span_eq hp (fun b hb => by simp [hbs b hb]) (by simp [hspace,htab])
  obtain ⟨-,hrest⟩ := Place.over_advance hp (fun b hb => by rw [hbs b hb]; rfl)
  have hchar : (p.advance bs.length).char ≠ '#' := by
    rw [Place.char_of_rest hrest]
    exact hcomment
  rw [nextPlace]
  simp only [Place.skip,hspan,if_neg hchar,Place.lineBreak?_eq_none hrest hbreak]

theorem nextPlace_of_lineFeed {p : Place} {r : List Char} (hp : p.rest = '\n' :: r)
    (n : Nat) (newLine : Bool) :
    nextPlace false (n + 1) p newLine = nextPlace false n p.next true := by
  have hspan : p.span (fun c => c == ' ' || (false && c == '\t')) = [] :=
    Place.span_eq_nil hp (by decide)
  have hchar : p.char ≠ '#' := by
    rw [Place.char_of_rest hp]
    decide
  have hbreak : p.lineBreak? = some ('\n',p.next) := by
    unfold Place.lineBreak?
    rw [hp]
    rfl
  rw [nextPlace]
  simp only [Place.skip,hspan,List.length_nil,Place.advance,if_neg hchar,hbreak]

/-- Reading on to the end of the next token, which starts at `q`. A key start that `q` has not left
behind is still there. -/
theorem Holds.reaches {P : Scanner → Prop} {cs : List Char} (h : s.Holds ts rest fs) {q : Place} {newLine : Bool}
    (hnext : nextPlace s.inFlow (rest.length + 1) s.place false = (q,newLine)) {c : Char}
    {r : List Char} (hq : q.rest = c :: r) (hc : isHead c = true)
    (hcolumn : fs ≠ [] → 0 < q.column) (hshorter : (c :: r).length ≤ rest.length) (hcs : cs ≠ [])
    (hfetch : ∀ (s₁ : Scanner) (waiting : Bool), s₁.Holds ts (c :: r) fs → s₁.place = q →
      s₁.keyAllowed = (s.keyAllowed || (newLine && !s.inFlow)) →
      (∀ e ks, s.keys = e :: ks → isStale s.place e = false → isStale q e = false →
        ∃ ks', s₁.keys = e :: ks') →
      ∃ s', s₁.fetchHere waiting = .ok s' ∧ s₁.place.Over cs s'.place ∧ P s') :
    ∃ s', s.Reaches s' ∧ P s' := by
  have hend : q.char ≠ theEnd := by
    rw [Place.char_of_rest hq]
    rintro rfl
    exact absurd hc (by decide)
  -- The state as it is when the next token is looked at.
  let a : Scanner := { s with keys := s.keys.filter (fun e => !isStale s.place e) }
  have ha : a.Holds ts rest fs := h.filterKeys _
  have hdrop : s.dropStale = .ok a := drop_eq h.optional _
  let b := a.settle a.certain
  have hb : b.Holds ts rest fs := ha.settle a.certain_le
  let c₁ : Scanner :=
    { b with place := q, keyAllowed := s.keyAllowed || (newLine && !s.inFlow) }
  have hc₁ : c₁.Holds ts (c :: r) fs := { hb with rest := hq, column := hcolumn }
  have htoNext : b.toNext = c₁ := by
    have : nextPlace b.inFlow (b.place.rest.length + 1) b.place false = (q,newLine) := by
      rw [show b.place.rest = rest from h.rest]
      exact hnext
    simp only [toNext,this]
    rfl
  let d : Scanner := { c₁ with keys := c₁.keys.filter (fun e => !isStale q e) }
  have hd : d.Holds ts (c :: r) fs := hc₁.filterKeys _
  have hstale : b.toNext.dropStale = .ok d := by
    rw [htoNext]
    exact drop_eq hc₁.optional _
  have hkept (e : Nat × KeyStart) (ks : List (Nat × KeyStart)) (hks : s.keys = e :: ks)
      (hold : isStale s.place e = false) (hnew : isStale q e = false) : ∃ ks', d.keys = e :: ks' := by
    have hkeys : d.keys =
        (s.keys.filter (fun e => !isStale s.place e)).filter (fun e => !isStale q e) := rfl
    rw [hkeys,hks,List.filter_cons_of_pos (by simp [hold]),List.filter_cons_of_pos (by simp [hnew])]
    exact ⟨_,rfl⟩
  obtain ⟨s',hs',hover,hP⟩ := hfetch d (!b.keys.isEmpty) hd rfl rfl hkept
  refine ⟨s',⟨1,?_,fun n => ?_⟩,hP⟩
  · have hlt : s'.place.rest.length < q.rest.length := hover.length_lt hcs
    rw [hq] at hlt
    rw [h.rest]
    omega
  · have hstep : b.step = .ok (s',false) := by
      have hplace : d.place.char ≠ theEnd := hend
      simp only [step,hstale,bind,Except.bind,hd.unwind,if_neg hplace,hs',pure,Except.pure]
    rw [Tokens.run,hdrop]
    simp only [show a.settle a.certain = b from rfl,hstep]

theorem Holds.reaches_over {P : Scanner → Prop} {bs cs r : List Char} {c : Char}
    (h : s.Holds ts (bs ++ c :: r) fs) (hbs : ∀ b ∈ bs, b = ' ') (hc : isHead c = true)
    (hcs : cs ≠ [])
    (hfetch : ∀ (s₁ : Scanner) (waiting : Bool), s₁.Holds ts (c :: r) fs →
      s.place.Over bs s₁.place → s₁.keyAllowed = s.keyAllowed →
      (∀ e ks, s.keys = e :: ks → isStale s.place e = false → isStale s₁.place e = false →
        ∃ ks', s₁.keys = e :: ks') →
      ∃ s', s₁.fetchHere waiting = .ok s' ∧ s₁.place.Over cs s'.place ∧ P s') :
    ∃ s', s.Reaches s' ∧ P s' := by
  obtain ⟨hover,hrest⟩ := Place.over_advance h.rest (fun b hb => by rw [hbs b hb]; rfl)
  refine h.reaches (nextPlace_of_blanks h.rest hbs hc _ _ _) hrest hc
    (fun hfs => Nat.lt_of_lt_of_le (h.column hfs) hover.column) (by simp) hcs
    (fun s₁ waiting h₁ hplace hallowed hkeys => ?_)
  rw [← hplace] at hover hkeys
  exact hfetch s₁ waiting h₁ hover (by simpa using hallowed) hkeys

/-! ### Tokens -/

theorem Holds.take (h : s.Holds ts rest fs) (t : Token) {q : Place} {cs r : List Char}
    (hover : s.place.Over cs q) (hq : q.rest = r) : (s.take t q).Holds (ts ++ [t]) r fs where
  tokens := by simp [Scanner.take,h.tokens]
  rest := hq
  flows := h.flows
  version := h.version
  versions := h.versions
  size := by
    have := h.size
    simp [Scanner.take]
    omega
  indent := h.indent
  outer := h.outer
  optional := h.optional
  column := fun hfs => Nat.lt_of_lt_of_le (h.column hfs) hover.column

theorem isMarker_of_rest {p : Place} {c d : Char} {r : List Char} (hp : p.rest = c :: r)
    (hc : c ≠ d) : p.isMarker d = false := by
  simp [Place.isMarker,hp,hc]

theorem over_one {p : Place} {c : Char} {r : List Char} (hp : p.rest = c :: r)
    (hc : Place.endsLine c = false) : p.Over [c] (p.advance 1) ∧ (p.advance 1).rest = r :=
  Place.over_advance (show p.rest = [c] ++ r from hp) (by simpa using hc)

/-- Where no marker stands, the character decides which token it is. -/
theorem fetchHere_eq {c : Char} (hp : s.place.rest = c :: r) (waiting : Bool) :
    (c = '\x7b' → s.fetchHere waiting = s.fetchFlowStart .mapping .flowMapping) ∧
      (c = '\x7d' → s.fetchHere waiting = s.fetchFlowEnd .flowMappingEnd) ∧
      (c = ',' → s.fetchHere waiting = s.fetchComma) ∧
      (c = ':' → s.isValueMark waiting = true → s.fetchHere waiting = s.fetchValue) ∧
      (c = '"' → s.fetchHere waiting = s.fetchNode readQuoted) := by
  have hchar := Place.char_of_rest hp
  refine ⟨?_,?_,?_,?_,?_⟩ <;> rintro rfl <;>
    simp +contextual [fetchHere,hchar,isMarker_of_rest hp (d := '-') (by decide),
      isMarker_of_rest hp (d := '.') (by decide)]

theorem Holds.withAllowed (h : s.Holds ts rest fs) (allowed : Bool) :
    Holds { s with keyAllowed := allowed } ts rest fs := { h with }

theorem Holds.withFlows (h : s.Holds ts rest fs) (gs : List Flow) (hcolumn : 0 < s.place.column)
    (allowed : Bool) : Holds { s with flows := gs, keyAllowed := allowed } ts rest gs :=
  { h with flows := rfl, column := fun _ => hcolumn }

theorem Holds.fetch_open (h : s.Holds ts ('\x7b' :: r) fs) (waiting : Bool) :
    ∃ s', s.fetchHere waiting = .ok s' ∧ s.place.Over ['\x7b'] s'.place ∧
      s'.Holds (ts ++ [.flowMapping]) r (.mapping :: fs) ∧ s'.keyAllowed = true := by
  obtain ⟨ks,hsave,hks,-⟩ := h.saveKey
  obtain ⟨hover,hrest⟩ := over_one h.rest (by decide)
  have htaken := (h.withKeys hks).take .flowMapping hover hrest
  have hcolumn : 0 < (s.place.advance 1).column := by
    simp [Place.advance,Place.next_of_rest h.rest (by decide),byteOrderMark]
  have hopened := htaken.withFlows (.mapping :: s.flows) hcolumn true
  rw [h.flows] at hopened
  refine ⟨_,?_,hover,hopened,rfl⟩
  rw [(fetchHere_eq h.rest waiting).1 rfl,fetchFlowStart,hsave,← h.flows]
  rfl

theorem Holds.fetch_close {f : Flow} (h : s.Holds ts ('\x7d' :: r) (f :: fs)) (waiting : Bool) :
    ∃ s', s.fetchHere waiting = .ok s' ∧ s.place.Over ['\x7d'] s'.place ∧
      s'.Holds (ts ++ [.flowMappingEnd]) r fs := by
  obtain ⟨ks,hdrop,hks⟩ := h.dropKey
  obtain ⟨hover,hrest⟩ := over_one h.rest (by decide)
  have htaken := (h.withKeys hks).take .flowMappingEnd hover hrest
  have hcolumn : 0 < (s.place.advance 1).column :=
    Nat.lt_of_lt_of_le (h.column (by simp)) hover.column
  have hclosed := htaken.withFlows (s.flows.drop 1) hcolumn false
  rw [h.flows] at hclosed
  refine ⟨_,?_,hover,hclosed⟩
  rw [(fetchHere_eq h.rest waiting).2.1 rfl,fetchFlowEnd,hdrop]
  simp only [bind,Except.bind,h.flows]
  rfl

theorem Holds.fetch_comma (h : s.Holds ts (',' :: r) fs) (waiting : Bool) :
    ∃ s', s.fetchHere waiting = .ok s' ∧ s.place.Over [','] s'.place ∧
      s'.Holds (ts ++ [.comma]) r fs ∧ s'.keyAllowed = true := by
  obtain ⟨ks,hdrop,hks⟩ := h.dropKey
  obtain ⟨hover,hrest⟩ := over_one h.rest (by decide)
  have htaken := ((h.withKeys hks).take .comma hover hrest).withAllowed true
  refine ⟨_,?_,hover,htaken,rfl⟩
  rw [(fetchHere_eq h.rest waiting).2.2.1 rfl,fetchComma,hdrop]
  rfl

theorem Holds.fetch_quoted {t : String} (ht : ∀ c ∈ t.toList, isLegible c = true)
    (h : s.Holds ts (Quoted.quoted t ++ r) fs) (waiting : Bool) :
    ∃ s', s.fetchHere waiting = .ok s' ∧ s.place.Over (Quoted.quoted t) s'.place ∧
      s'.Holds (ts ++ [.scalar t false]) r fs ∧
      (s.keyAllowed = true → ∃ ks, s'.keys = (s.depth,s.keyStart) :: ks) := by
  obtain ⟨ks,hsave,hks,hkey⟩ := h.saveKey
  obtain ⟨q,hscan,hover,hrest⟩ := Quoted.scan_quoted ht h.rest
  have hstart : s.place.rest = '"' :: (Quoted.inner t.toList ++ ['"'] ++ r) := h.rest
  have htaken := ((h.withKeys hks).take (.scalar t false) hover hrest).withAllowed false
  refine ⟨_,?_,hover,htaken,hkey⟩
  have hread : inside s.place (readQuoted s.place) = .ok (.scalar t false,q) := by
    simp only [inside,readQuoted,hscan]
    rfl
  rw [(fetchHere_eq hstart waiting).2.2.2.2 rfl,fetchNode,hsave]
  simp only [bind,Except.bind,hread]
  rfl

/-! ### Words -/

theorem fetchHere_word {w : List Char} (hw : Plain.IsTame w) (hp : s.place.rest = w ++ r)
    (hcolumn : 0 < s.place.column) (waiting : Bool) :
    s.fetchHere waiting = s.fetchPlain := by
  obtain ⟨c,v,rfl⟩ := List.exists_cons_of_ne_nil hw.nonempty
  have hc := hw.all c List.mem_cons_self
  have hne {d : Char} (hd : Plain.isTame d = false) : (c == d) = false :=
    beq_eq_false_iff_ne.mpr (Plain.ne_of_isTame hc hd)
  have hline : (s.place.column == 0) = false := by
    rw [beq_eq_false_iff_ne]
    omega
  have hsecond : c = '-' → Plain.isTame (s.place.charAt 1) = true := by
    intro hsign
    obtain ⟨d,v,rfl⟩ := List.exists_cons_of_ne_nil (hw.sign c v rfl hsign)
    rw [Place.charAt_one_of_rest hp]
    exact hw.all d (by simp)
  have hitem : (c == '-' && isGap (s.place.charAt 1)) = false := by
    by_cases hsign : c = '-'
    · simp [Plain.isGap_of_isTame (hsecond hsign)]
    · simp [hsign]
  unfold fetchHere
  rw [Place.char_of_rest hp]
  simp only [hline,hitem,hne (d := '%') (by decide),hne (d := '[') (by decide),
    hne (d := '\x7b') (by decide),hne (d := ']') (by decide),hne (d := '\x7d') (by decide),
    hne (d := ',') (by decide),hne (d := '?') (by decide),hne (d := ':') (by decide),
    hne (d := '*') (by decide),hne (d := '&') (by decide),hne (d := '!') (by decide),
    hne (d := '|') (by decide),hne (d := '>') (by decide),hne (d := '\'') (by decide),
    hne (d := '"') (by decide),Plain.canStart_of_isTame hc hsecond]
  rfl

theorem Holds.fetch_word {w : List Char} (hw : Plain.IsTame w) {d : Char}
    (hd : d = ',' ∨ d = '\x7d') {f : Flow} (h : s.Holds ts (w ++ d :: r) (f :: fs))
    (waiting : Bool) :
    ∃ s', s.fetchHere waiting = .ok s' ∧ s.place.Over w s'.place ∧
      s'.Holds (ts ++ [.scalar (String.ofList w) true]) (d :: r) (f :: fs) := by
  obtain ⟨ks,hsave,hks,-⟩ := h.saveKey
  have h₁ := h.withKeys hks
  have hflow : (setting { s with keys := ks }).flow = true := by
    simp [setting,inFlow,h.flows]
  have hscan := Plain.scan_eq hflow hw hd h₁.rest
  obtain ⟨hover,hrest⟩ :=
    Place.over_advance h₁.rest (fun c hc => Plain.endsLine_of_isTame (hw.all c hc))
  have htaken := (h₁.take (.scalar (String.ofList w) true) hover hrest).withAllowed false
  refine ⟨_,?_,hover,htaken⟩
  rw [fetchHere_word hw h.rest (h.column (by simp)),fetchPlain,hsave]
  simp only [bind,Except.bind,hscan]
  rfl

/-! ### Keys -/

/-- A start of a key that is announced when its colon comes. -/
structure HasKey (s : Scanner) (place : Nat) : Prop where
  ofDepth : ∃ k others, s.keys = (s.depth,k) :: others ∧ k.token = place ∧
    isStale s.place (s.depth,k) = false

theorem toList_insertIdxIfInBounds {α : Type} {xs : Array α} {l : List α} {a : α}
    (h : xs.toList = l ++ [a]) (x : α) :
    (xs.insertIdxIfInBounds l.length x).toList = l ++ [x,a] := by
  have hsize : l.length ≤ xs.size := by
    rw [← Array.length_toList,h]
    simp
  have hinsert (l : List α) : (l ++ [a]).insertIdx l.length x = l ++ [x,a] := by
    induction l with
    | nil => rfl
    | cons b l ih => simp [ih]
  rw [Array.insertIdxIfInBounds,dif_pos hsize,Array.toList_insertIdx,h,hinsert]

theorem Holds.isValueMark {f : Flow} (h : s.Holds ts (':' :: ' ' :: r) (f :: fs)) (waiting : Bool) :
    s.isValueMark waiting = true := by
  have hgap : isGap (s.place.charAt 1) = true := by
    rw [Place.charAt_one_of_rest h.rest]
    decide
  rw [Scanner.isValueMark,h.flows]
  cases f <;> simp [hgap]

theorem Holds.fetch_value {t : Token} {f : Flow}
    (h : s.Holds (ts ++ [t]) (':' :: ' ' :: r) (f :: fs)) (hkey : s.HasKey ts.length)
    (waiting : Bool) :
    ∃ s', s.fetchHere waiting = .ok s' ∧ s.place.Over [':'] s'.place ∧
      s'.Holds (ts ++ [.key,t,.value]) (' ' :: r) (f :: fs) := by
  obtain ⟨k,others,hks,htoken,-⟩ := hkey.ofDepth
  have hfind : s.keys.find? (fun e => e.1 == s.depth) = some (s.depth,k) := by
    rw [hks]
    simp
  obtain ⟨l,l',hsplit,hl,hl'⟩ := List.map_eq_append_iff.mp h.tokens
  obtain ⟨a,ha,rfl⟩ := List.map_eq_singleton_iff.mp hl'
  rw [ha] at hsplit
  have hlength : k.token = l.length := by rw [htoken,← hl,List.length_map]
  -- The announcement of the key goes before the token that starts it.
  let s₁ : Scanner :=
    ({ s with keys := s.keys.filter (fun e => e.1 != s.depth) }).insert k .key
  have htokens : s₁.tokens.toList = l ++ [⟨.key,k.index,k.index⟩,a] := by
    show (s.tokens.insertIdxIfInBounds k.token _).toList = _
    rw [hlength,toList_insertIdxIfInBounds hsplit]
  have h₁ : s₁.Holds (ts ++ [.key,a.token]) (':' :: ' ' :: r) (f :: fs) := by
    refine { h with tokens := ?_, size := ?_, optional := ?_ }
    · rw [htokens]
      simp [hl]
    · have hold : s.tokens.size = l.length + 1 := by
        rw [← Array.length_toList,hsplit,List.length_append]
        rfl
      have hnew : s₁.tokens.size = l.length + 2 := by
        rw [← Array.length_toList,htokens,List.length_append]
        rfl
      have hle : s.versions.size ≤ s.tokens.size := h.size
      show s.versions.size ≤ s₁.tokens.size
      omega
    · exact fun e he => h.optional e (List.mem_filter.mp he).1
  obtain ⟨hover,hrest⟩ := over_one h₁.rest (by decide)
  have htaken := (h₁.take .value hover hrest).withAllowed false
  rw [List.append_assoc] at htaken
  refine ⟨{ s₁.takeMark 1 .value with keyAllowed := false },?_,hover,htaken⟩
  rw [(fetchHere_eq h.rest waiting).2.2.2.1 rfl (h.isValueMark waiting),fetchValue,hfind]
  have hflow : s₁.inFlow = true := by simp [inFlow,h₁.flows]
  simp only [show ({ s with keys := s.keys.filter (fun e => e.1 != s.depth) } : Scanner).insert k .key
    = s₁ from rfl,hflow]
  rfl

theorem isStale_keyStart {q : Place} {cs : List Char} (hover : s.place.Over cs q)
    (hcs : cs.length ≤ keyLimit) (depth : Nat) : isStale q (depth,s.keyStart) = false := by
  have hindex := hover.index
  have hlimit : ¬ keyLimit < q.index - s.place.index := by omega
  simp [isStale,keyStart,hover.line,hlimit]

theorem isStale_of_over_nil {p q : Place} (hover : p.Over [] q) (e : Nat × KeyStart) :
    isStale q e = isStale p e := by
  have hindex : q.index = p.index := hover.index
  rw [isStale,isStale,hover.line,hindex]

theorem Holds.size_tokens (h : s.Holds ts rest fs) : s.tokens.size = ts.length := by
  rw [← h.tokens,List.length_map,Array.length_toList]

theorem Holds.depth_eq (h : s.Holds ts rest fs) : s.depth = fs.length := by
  rw [depth,h.flows]

theorem Holds.reaches_name {bs : List Char} {k : String} {f : Flow} (hk : isLegibleName k = true)
    (hbs : ∀ b ∈ bs, b = ' ')
    (h : s.Holds ts (bs ++ (Quoted.quoted k ++ ':' :: ' ' :: r)) (f :: fs))
    (hallowed : s.keyAllowed = true) :
    ∃ s', s.Reaches s' ∧
      s'.Holds (ts ++ [.key,.scalar k false,.value]) (' ' :: r) (f :: fs) := by
  obtain ⟨hlegible,hlength⟩ := isLegibleName_ofString hk
  have hname (s₁ : Scanner) (waiting : Bool)
      (h₁ : s₁.Holds ts (Quoted.quoted k ++ ':' :: ' ' :: r) (f :: fs))
      (hallowed₁ : s₁.keyAllowed = s.keyAllowed) :
      ∃ s', s₁.fetchHere waiting = .ok s' ∧ s₁.place.Over (Quoted.quoted k) s'.place ∧
        s'.Holds (ts ++ [.scalar k false]) (':' :: ' ' :: r) (f :: fs) ∧ s'.HasKey ts.length := by
    obtain ⟨s',hs',hover,h',hstart⟩ := h₁.fetch_quoted hlegible waiting
    obtain ⟨others,hothers⟩ := hstart (hallowed₁.trans hallowed)
    refine ⟨s',hs',hover,h',⟨s₁.keyStart,others,?_,h₁.size_tokens,isStale_keyStart hover hlength _⟩⟩
    rw [hothers,h₁.depth_eq,h'.depth_eq]
  obtain ⟨s₁,hreach,h₁,hkey⟩ := h.reaches_over hbs (c := '"') (by decide) (by simp [Quoted.quoted])
    (fun s₁ waiting h₁ _ hallowed₁ _ => hname s₁ waiting h₁ hallowed₁)
  obtain ⟨k₁,others,hks,htoken,hfresh⟩ := hkey.ofDepth
  have hcolon (s₂ : Scanner) (waiting : Bool)
      (h₂ : s₂.Holds (ts ++ [.scalar k false]) (':' :: ' ' :: r) (f :: fs))
      (hover : s₁.place.Over [] s₂.place)
      (hkept : ∀ e ks, s₁.keys = e :: ks → isStale s₁.place e = false →
        isStale s₂.place e = false → ∃ ks', s₂.keys = e :: ks') : s₂.HasKey ts.length := by
    have hfresh₂ : isStale s₂.place (s₁.depth,k₁) = false := by
      rw [isStale_of_over_nil hover,hfresh]
    obtain ⟨ks',hks'⟩ := hkept _ _ hks hfresh hfresh₂
    have hdepth : s₂.depth = s₁.depth := h₂.depth_eq.trans h₁.depth_eq.symm
    rw [← hdepth] at hks' hfresh₂
    exact ⟨k₁,ks',hks',htoken,hfresh₂⟩
  have h₁' : s₁.Holds (ts ++ [.scalar k false]) ([] ++ ':' :: ' ' :: r) (f :: fs) := h₁
  obtain ⟨s₂,hreach₂,h₂⟩ := h₁'.reaches_over (by simp) (by decide) (by simp)
    (fun s₂ waiting h₂ hover _ hkept => h₂.fetch_value (hcolon s₂ waiting h₂ hover hkept) waiting)
  exact ⟨s₂,hreach.trans hreach₂,h₂⟩

end ShortVolume.Yaml.Scanner
