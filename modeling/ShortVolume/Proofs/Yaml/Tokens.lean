import ShortVolume.Proofs.Yaml.Plain
import ShortVolume.Proofs.Yaml.Scan
set_option autoImplicit false

/-!
The tokens of records on lines of their own.
-/

namespace ShortVolume

open Yaml

namespace Value

mutual

/-- The tokens of the text of a legible value. -/
def tokens : Value → List Token
  | text s => [.scalar s false]
  | int i => [.scalar (toString i) true]
  | bool b => [.scalar (if b then "true" else "false" : String) true]
  | map es => .flowMapping :: openingTokens es
  | _ => []

/-- The tokens of what follows the start of a record. -/
def openingTokens : List (Value × Value) → List Token
  | [] => [.flowMappingEnd]
  | (k,v) :: r =>
    .key :: .scalar (k.text?.getD "") false :: .value :: (v.tokens ++ closingTokens r)

/-- The tokens of what follows an entry of a record. -/
def closingTokens : List (Value × Value) → List Token
  | [] => [.flowMappingEnd]
  | (k,v) :: r =>
    .comma :: .key :: .scalar (k.text?.getD "") false :: .value :: (v.tokens ++ closingTokens r)

end

end Value

namespace Yaml.Scanner

variable {s : Scanner} {ts : List Token} {r : List Char} {fs : List Flow}

/-- Whether an entry of a record ends before a text. -/
def EndsEntry (r : List Char) : Prop := ∃ d t, r = d :: t ∧ (d = ',' ∨ d = '\x7d')

theorem endsEntry_closingLine (es : Entries) (r : List Char) :
    EndsEntry (Value.closingLine es ++ r) := by
  cases es with
  | nil => exact ⟨_,_,rfl,.inr rfl⟩
  | cons e es => exact ⟨_,_,rfl,.inl rfl⟩

theorem Holds.reaches_word {w bs : List Char} (hw : Plain.IsTame w) (hbs : ∀ b ∈ bs, b = ' ')
    (hr : EndsEntry r) {f : Flow} (h : s.Holds ts (bs ++ (w ++ r)) (f :: fs)) :
    ∃ s', s.Reaches s' ∧
      s'.Holds (ts ++ [.scalar (String.ofList w) true]) r (f :: fs) := by
  obtain ⟨d,t,rfl,hd⟩ := hr
  obtain ⟨c,v,rfl⟩ := List.exists_cons_of_ne_nil hw.nonempty
  have hhead : isHead c = true := by
    have hc := hw.all c List.mem_cons_self
    simp [isHead,Plain.isGap_of_isTame hc,Plain.ne_of_isTame hc (d := '#') (by decide)]
  exact h.reaches_over hbs hhead hw.nonempty
    (fun _ waiting h₁ _ _ _ => h₁.fetch_word hw hd waiting)

theorem Holds.reaches_text {t : String} (ht : ∀ c ∈ t.toList, isLegible c = true) {bs : List Char}
    (hbs : ∀ b ∈ bs, b = ' ') (h : s.Holds ts (bs ++ (Quoted.quoted t ++ r)) fs) :
    ∃ s', s.Reaches s' ∧ s'.Holds (ts ++ [.scalar t false]) r fs := by
  have hne : Quoted.quoted t ≠ [] := by simp [Quoted.quoted]
  refine h.reaches_over hbs (c := '"') (by decide) hne (fun s₁ waiting h₁ _ _ _ => ?_)
  obtain ⟨s',hs',hover,h',-⟩ := h₁.fetch_quoted ht waiting
  exact ⟨s',hs',hover,h'⟩

theorem Holds.reaches_open {bs : List Char} (hbs : ∀ b ∈ bs, b = ' ')
    (h : s.Holds ts (bs ++ '\x7b' :: r) fs) :
    ∃ s', s.Reaches s' ∧ s'.Holds (ts ++ [.flowMapping]) r (.mapping :: fs) ∧
      s'.keyAllowed = true :=
  h.reaches_over hbs (by decide) (by simp) (fun _ waiting h₁ _ _ _ => h₁.fetch_open waiting)

theorem Holds.reaches_close {f : Flow} (h : s.Holds ts ('\x7d' :: r) (f :: fs)) :
    ∃ s', s.Reaches s' ∧ s'.Holds (ts ++ [.flowMappingEnd]) r fs := by
  have h' : s.Holds ts ([] ++ '\x7d' :: r) (f :: fs) := h
  exact h'.reaches_over (by simp) (by decide) (by simp) (fun _ waiting h₁ _ _ _ => h₁.fetch_close waiting)

theorem Holds.reaches_comma (h : s.Holds ts (',' :: r) fs) :
    ∃ s', s.Reaches s' ∧ s'.Holds (ts ++ [.comma]) r fs ∧ s'.keyAllowed = true := by
  have h' : s.Holds ts ([] ++ ',' :: r) fs := h
  exact h'.reaches_over (by simp) (by decide) (by simp) (fun _ waiting h₁ _ _ _ => h₁.fetch_comma waiting)

/-- What reading does with a value inside of a record. -/
def ReadsValue (v : Value) : Prop :=
  ∀ {s : Scanner} {ts : List Token} {bs r : List Char} {fs : List Flow}, (∀ b ∈ bs, b = ' ') →
    EndsEntry r → s.Holds ts (bs ++ (v.line ++ r)) (.mapping :: fs) →
      ∃ s', s.Reaches s' ∧ s'.Holds (ts ++ v.tokens) r (.mapping :: fs)

/-- What reading does with the entries of a record that are left. -/
def ReadsClosing (es : Entries) : Prop :=
  ∀ {s : Scanner} {ts : List Token} {r : List Char} {fs : List Flow},
    s.Holds ts (Value.closingLine es ++ r) (.mapping :: fs) →
      ∃ s', s.Reaches s' ∧ s'.Holds (ts ++ Value.closingTokens es) r fs

theorem Holds.reaches_entry {k : String} {v : Value} {es : Entries} {bs : List Char}
    (hk : isLegibleName k = true) (hv : ReadsValue v) (hes : ReadsClosing es)
    (hbs : ∀ b ∈ bs, b = ' ')
    (h : s.Holds ts (bs ++ (Quoted.quoted k ++ ':' :: ' ' ::
      (v.line ++ (Value.closingLine es ++ r)))) (.mapping :: fs))
    (hallowed : s.keyAllowed = true) :
    ∃ s', s.Reaches s' ∧ s'.Holds
      (ts ++ .key :: .scalar k false :: .value :: (v.tokens ++ Value.closingTokens es)) r fs := by
  obtain ⟨s₁,hreach₁,h₁⟩ := h.reaches_name hk hbs hallowed
  have hblank : ∀ b ∈ [' '], b = ' ' := by simp
  obtain ⟨s₂,hreach₂,h₂⟩ := hv hblank (endsEntry_closingLine es r) h₁
  obtain ⟨s₃,hreach₃,h₃⟩ := hes h₂
  refine ⟨s₃,hreach₁.trans (hreach₂.trans hreach₃),?_⟩
  simpa using h₃

/-- What reading does with the entries of a record. -/
def ReadsOpening (es : Entries) : Prop :=
  ∀ {s : Scanner} {ts : List Token} {r : List Char} {fs : List Flow},
    s.Holds ts (Value.openingLine es ++ r) (.mapping :: fs) → s.keyAllowed = true →
      ∃ s', s.Reaches s' ∧ s'.Holds (ts ++ Value.openingTokens es) r fs

theorem covers_reads : Value.Covers ReadsValue (fun es => ReadsOpening es ∧ ReadsClosing es) where
  text t ht _ _ _ _ _ hbs _ h := by
    rw [Value.line_text] at h
    rw [Value.tokens]
    exact h.reaches_text ht hbs
  int i _ _ _ _ _ _ hbs hr h := by
    rw [Value.line] at h
    rw [Value.tokens]
    simpa using h.reaches_word (isTame_toString i) hbs hr
  bool b _ _ _ _ _ hbs hr h := by
    rw [Value.line] at h
    rw [Value.tokens]
    simpa using h.reaches_word (isTame_bool b) hbs hr
  map es hes _ _ _ _ _ hbs _ h := by
    rw [Value.line] at h
    obtain ⟨s₁,hreach₁,h₁,hallowed⟩ := h.reaches_open hbs
    obtain ⟨s₂,hreach₂,h₂⟩ := hes.1 h₁ hallowed
    refine ⟨s₂,hreach₁.trans hreach₂,?_⟩
    simpa [Value.tokens] using h₂
  nil := by
    refine ⟨?_,?_⟩
    · intro _ _ _ _ h _
      exact h.reaches_close
    · intro _ _ _ _ h
      exact h.reaches_close
  cons k v es hk hv hes _ := by
    refine ⟨?_,?_⟩
    · intro s ts r fs h hallowed
      rw [Value.openingLine] at h
      rw [Value.openingTokens]
      have h' : s.Holds ts ([] ++ (Quoted.quoted k ++ ':' :: ' ' ::
          (v.line ++ (Value.closingLine es ++ r)))) (.mapping :: fs) := by
        simpa [Value.nameLine] using h
      exact h'.reaches_entry hk hv hes.2 (by simp) hallowed
    · intro s ts r fs h
      rw [Value.closingLine] at h
      rw [Value.closingTokens]
      obtain ⟨s₁,hreach₁,h₁,hallowed⟩ := h.reaches_comma
      have h' : s₁.Holds (ts ++ [.comma]) ([' '] ++ (Quoted.quoted k ++ ':' :: ' ' ::
          (v.line ++ (Value.closingLine es ++ r)))) (.mapping :: fs) := by
        simpa [Value.nameLine] using h₁
      obtain ⟨s₂,hreach₂,h₂⟩ := h'.reaches_entry hk hv hes.2 (by simp) hallowed
      refine ⟨s₂,hreach₁.trans hreach₂,?_⟩
      simpa [Value.text?] using h₂

/-! ### Texts -/

theorem Holds.reaches_record {es : Entries} (hes : Value.entriesLegible es = true)
    (h : s.Holds ts ((Value.map es).line ++ r) []) :
    ∃ s', s.Reaches s' ∧ s'.Holds (ts ++ (Value.map es).tokens) r [] := by
  obtain ⟨hopening,-⟩ := covers_reads.of_entriesLegible es hes
  rw [Value.line] at h
  have h' : s.Holds ts ([] ++ '\x7b' :: (Value.openingLine es ++ r)) [] := h
  obtain ⟨s₁,hreach₁,h₁,hallowed⟩ := h'.reaches_open (by simp)
  obtain ⟨s₂,hreach₂,h₂⟩ := hopening h₁ hallowed
  refine ⟨s₂,hreach₁.trans hreach₂,?_⟩
  simpa [Value.tokens] using h₂

theorem Holds.reaches_nextRecord {es : Entries} (hes : Value.entriesLegible es = true)
    (h : s.Holds ts ('\n' :: ((Value.map es).line ++ r)) []) :
    ∃ s', s.Reaches s' ∧ s'.Holds (ts ++ (Value.map es).tokens) r [] := by
  obtain ⟨hopening,-⟩ := covers_reads.of_entriesLegible es hes
  rw [Value.line] at h
  have hnext : s.place.next.rest = [] ++ '\x7b' :: (Value.openingLine es ++ r) := by
    simp [Place.next,h.rest]
  have hflow : s.inFlow = false := by simp [inFlow,h.flows]
  have hplace : nextPlace s.inFlow (('\n' :: ('\x7b' :: Value.openingLine es ++ r)).length + 1)
      s.place false = (s.place.next,true) := by
    rw [hflow,nextPlace_of_lineFeed h.rest,List.length_cons,
      nextPlace_of_blanks hnext (by simp) (by decide)]
    rfl
  obtain ⟨s₁,hreach₁,h₁,hallowed⟩ := h.reaches hplace hnext (by decide) (by simp) (by simp)
    (List.cons_ne_nil '\x7b' []) (fun _ waiting h₁ _ _ _ => h₁.fetch_open waiting)
  obtain ⟨s₂,hreach₂,h₂⟩ := hopening h₁ hallowed
  refine ⟨s₂,hreach₁.trans hreach₂,?_⟩
  simpa [Value.tokens] using h₂

end Yaml.Scanner

namespace Value

/-- Whether a value is a record of legible texts. -/
def isLegibleRecord : Value → Bool
  | map es => entriesLegible es
  | _ => false

theorem map_of_isLegibleRecord {v : Value} (h : v.isLegibleRecord = true) :
    ∃ es, v = .map es ∧ entriesLegible es = true := by
  cases v with
  | map es => exact ⟨es,rfl,h⟩
  | _ => cases h

/-- The text of records, each on a line of its own. -/
def lines (vs : List Value) : List Char := vs.flatMap (fun v => v.line ++ ['\n'])

theorem lines_cons (v : Value) (vs : List Value) : lines (v :: vs) = v.line ++ '\n' :: lines vs := by
  simp [lines]

end Value

namespace Yaml.Scanner

variable {s : Scanner} {ts : List Token}

theorem Holds.reaches_lines {vs : List Value} (hvs : ∀ v ∈ vs, v.isLegibleRecord = true)
    (h : s.Holds ts ('\n' :: Value.lines vs) []) :
    ∃ s', s.Reaches s' ∧ s'.Holds (ts ++ vs.flatMap Value.tokens) ['\n'] [] := by
  induction vs generalizing s ts with
  | nil => exact ⟨s,.refl s,by simpa [Value.lines] using h⟩
  | cons v vs ih =>
    have hv := hvs v List.mem_cons_self
    cases v with
    | map es =>
      rw [Value.lines_cons] at h
      obtain ⟨s₁,hreach₁,h₁⟩ := h.reaches_nextRecord hv
      obtain ⟨s₂,hreach₂,h₂⟩ := ih (fun w hw => hvs w (List.mem_cons_of_mem _ hw)) h₁
      refine ⟨s₂,hreach₁.trans hreach₂,?_⟩
      simpa using h₂
    | _ => cases hv

end Yaml.Scanner

namespace Yaml.Tokens

/-- The tokens of a text that has no error, of the latest version. -/
structure Are (t : Tokens) (ts : List Token) : Prop where
  tokens : t.list.map (fun e => e.1.token) = ts
  versions : ∀ e ∈ t.list, e.2 = .v1_2
  version : t.version = .v1_2
  error : t.error = none

theorem are_settled {s : Scanner} {ts : List Token} {rest : List Char} {fs : List Flow}
    (h : s.Holds ts rest fs) : ((s.settle s.tokens.size).settled none).Are ts := by
  have hsettled := h.settle (Nat.le_refl _)
  have hlength : (s.settle s.tokens.size).tokens.toList.length =
      (s.settle s.tokens.size).versions.toList.length := by
    have := h.size
    simp [Scanner.settle]
    omega
  refine ⟨?_,fun e he => hsettled.versions e.2 (List.of_mem_zip he).2,hsettled.version,rfl⟩
  let b := s.settle s.tokens.size
  calc (b.tokens.toList.zip b.versions.toList).map (fun e => e.1.token)
      = ((b.tokens.toList.zip b.versions.toList).map Prod.fst).map Lexeme.token := by
        rw [List.map_map]
        rfl
    _ = b.tokens.toList.map Lexeme.token := by rw [List.map_fst_zip (Nat.le_of_eq hlength)]
    _ = ts := hsettled.tokens

theorem nextPlace_of_end {p : Place} (hp : p.rest = []) (inFlow : Bool) (n : Nat) (newLine : Bool) :
    Scanner.nextPlace inFlow n p newLine = (p,newLine) := by
  have hchar : p.char ≠ '#' := by
    rw [Place.char,hp]
    decide
  have hbreak : p.lineBreak? = none := by
    unfold Place.lineBreak?
    rw [hp]
  cases n with
  | zero => rfl
  | succ n => simp [Scanner.nextPlace,Place.skip,Place.span,hp,Place.advance,hchar,hbreak]

theorem run_end {s : Scanner} {ts : List Token} (h : s.Holds ts ['\n'] []) (n : Nat) :
    (run (n + 1) s).Are ts := by
  have hrest : s.place.next.rest = [] := by simp [Place.next,h.rest]
  let a : Scanner := { s with keys := s.keys.filter (fun e => !Scanner.isStale s.place e) }
  have ha : a.Holds ts ['\n'] [] := h.filterKeys _
  have hdrop : s.dropStale = .ok a := Scanner.drop_eq h.optional _
  let b := a.settle a.certain
  have hb : b.Holds ts ['\n'] [] := ha.settle a.certain_le
  have hnext : Scanner.nextPlace b.inFlow (b.place.rest.length + 1) b.place false =
      (s.place.next,true) := by
    have hflow : b.inFlow = false := by simp [Scanner.inFlow,hb.flows]
    rw [hflow,Scanner.nextPlace_of_lineFeed hb.rest]
    exact nextPlace_of_end hrest _ _ _
  have hc : b.toNext.Holds ts [] [] := by
    simp only [Scanner.toNext,hnext]
    exact { hb with rest := hrest, column := fun hfs => absurd rfl hfs }
  have hplace : b.toNext.place = s.place.next := by simp only [Scanner.toNext,hnext]
  let d : Scanner :=
    { b.toNext with keys := b.toNext.keys.filter (fun e => !Scanner.isStale b.toNext.place e) }
  have hd : d.Holds ts [] [] := hc.filterKeys _
  have hstale : b.toNext.dropStale = .ok d := Scanner.drop_eq hc.optional _
  have hend : d.place.char = theEnd := by
    show b.toNext.place.char = theEnd
    rw [hplace,Place.char,hrest]
    rfl
  obtain ⟨ks,hkeys,hks⟩ := hd.dropKey
  have hstep : b.step = .ok ({ d with keys := ks },true) := by
    simp only [Scanner.step,hstale,bind,Except.bind,hd.unwind,if_pos hend,Scanner.finish,hkeys,pure,
      Except.pure]
  rw [run,hdrop]
  simp only [show a.settle a.certain = b from rfl,hstep]
  exact are_settled (hd.withKeys hks)

theorem holds_start {text : List Char} (h : text.head? ≠ some byteOrderMark) :
    (Scanner.start text).Holds [] text [] := by
  have hplace : (Scanner.start text).place = Place.start text := by
    have hchar : (Place.start text).char ≠ byteOrderMark := by
      cases text with
      | nil => decide
      | cons c r => simpa [Place.start,Place.char] using h
    simp [Scanner.start,hchar]
  exact ⟨rfl,by rw [hplace]; rfl,rfl,rfl,by simp [Scanner.start],Nat.le_refl _,rfl,rfl,
    by simp [Scanner.start],fun hfs => absurd rfl hfs⟩

theorem isAllowed_of_mem_quoted {t : String} (ht : ∀ c ∈ t.toList, isLegible c = true) :
    ∀ c ∈ Quoted.quoted t, isAllowed c = true := by
  intro c hc
  rcases List.mem_cons.mp hc with rfl | hc
  · decide
  rcases List.mem_append.mp hc with hc | hc
  · exact Quoted.isAllowed_of_mem_inner ht c hc
  · rw [List.mem_singleton.mp hc]
    decide

theorem covers_allowed : Value.Covers (fun v => ∀ c ∈ v.line, isAllowed c = true)
    (fun es => (∀ c ∈ Value.openingLine es, isAllowed c = true) ∧
      ∀ c ∈ Value.closingLine es, isAllowed c = true) where
  text t ht := by
    rw [Value.line_text]
    exact isAllowed_of_mem_quoted ht
  int i _ := by
    rw [Value.line]
    exact fun c hc => Plain.isAllowed_of_isTame ((isTame_toString i).all c hc)
  bool b := by
    rw [Value.line]
    exact fun c hc => Plain.isAllowed_of_isTame ((isTame_bool b).all c hc)
  map es hes := by
    rw [Value.line]
    exact List.forall_mem_cons.mpr ⟨by decide,hes.1⟩
  nil := ⟨List.all_eq_true.mp (by decide),List.all_eq_true.mp (by decide)⟩
  cons k v es hk hv hes _ := by
    have hname := isAllowed_of_mem_quoted (isLegibleName_ofString hk).1
    have hall : ∀ c ∈ Value.openingLine ((.text k,v) :: es), isAllowed c = true := by
      rw [Value.openingLine,Value.nameLine_text]
      simp only [List.forall_mem_append,List.forall_mem_cons]
      exact ⟨hname,by decide,by decide,hv,hes.2⟩
    refine ⟨hall,?_⟩
    rw [Value.closingLine]
    exact List.forall_mem_cons.mpr ⟨by decide,List.forall_mem_cons.mpr ⟨by decide,hall⟩⟩

theorem isAllowed_of_mem_lines {vs : List Value} (hvs : ∀ v ∈ vs, v.isLegibleRecord = true) :
    ∀ c ∈ Value.lines vs, isAllowed c = true := by
  intro c hc
  obtain ⟨v,hv,hc⟩ := List.mem_flatMap.mp hc
  have hlegible := hvs v hv
  cases v with
  | map es =>
    rcases List.mem_append.mp hc with hc | hc
    · rw [Value.line] at hc
      rcases List.mem_cons.mp hc with rfl | hc
      · decide
      · exact (covers_allowed.of_entriesLegible es hlegible).1 c hc
    · rw [List.mem_singleton.mp hc]
      decide
  | _ => cases hlegible

theorem ofText_lines {vs : List Value} (hvs : ∀ v ∈ vs, v.isLegibleRecord = true) :
    (ofText (Value.lines vs)).Are (vs.flatMap Value.tokens) := by
  rw [ofText,if_pos (List.all_eq_true.mpr (isAllowed_of_mem_lines hvs))]
  cases vs with
  | nil => exact ⟨rfl,by decide,rfl,rfl⟩
  | cons v vs =>
    have hv := hvs v List.mem_cons_self
    cases v with
    | map es =>
      rw [Value.lines_cons]
      have hmark : ((Value.map es).line ++ '\n' :: Value.lines vs).head? ≠ some byteOrderMark := by
        simp [Value.line,byteOrderMark]
      have hstart := holds_start hmark
      obtain ⟨s₁,hreach₁,h₁⟩ := hstart.reaches_record hv
      obtain ⟨s₂,hreach₂,h₂⟩ := h₁.reaches_lines (fun w hw => hvs w (List.mem_cons_of_mem _ hw))
      obtain ⟨k,hk,hrun⟩ := hreach₁.trans hreach₂
      rw [hstart.rest,h₂.rest] at hk
      have hone : ['\n'].length = 1 := rfl
      obtain ⟨n,hn⟩ : ∃ n, ((Value.map es).line ++ '\n' :: Value.lines vs).length + 2 =
          n + 1 + k :=
        ⟨((Value.map es).line ++ '\n' :: Value.lines vs).length + 1 - k,by omega⟩
      rw [hn,hrun]
      simpa using run_end h₂ n
    | _ => cases hv

end Yaml.Tokens

end ShortVolume
