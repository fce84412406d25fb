import ShortVolume.Proofs.Json.RoundTrip
import ShortVolume.Proofs.Record.Compact
import ShortVolume.Volume.Draft
set_option autoImplicit false

/-!
Compact modes, read and refused.

A text is the compact form of one list of modes at most. If it is that of none, it has a first token
that is no symbol, and this is the token that the fault names. In the same way a list of values has a
compact form if all of them are modes, and else a first value that is none.
-/

namespace ShortVolume

theorem Value.listed?_list (xs : List Value) : (Value.list xs).listed? = some xs := by
  cases xs <;> rfl

namespace AccessMode

/-! ### Tokens -/

/-- What stands between the commas of a text. -/
def tokens (s : Text) : List Text := 
  (Text.splitOn (Letter.char ',') s.toList).map Text.ofList

theorem ofSymbol?_eq_none_iff {t : Text} : ofSymbol? t = none ↔ ∀ m : AccessMode, m.symbol ≠ t := by
  constructor
  · rintro h m rfl
    simp at h
  · intro h
    cases hm : ofSymbol? t with
    | none => rfl
    | some m => exact absurd (symbol_of_ofSymbol? hm).symm (h m)

/-- What is refused is the first token that is no symbol. -/
theorem ofTokens_eq_error_iff {ts : List Text} {t : Text} :
    ofTokens ts = .error t ↔
      ∃ (ms : List AccessMode) (rest : List Text), ts = ms.map (fun m => (m.symbol : Text)) ++ t :: rest ∧
        ∀ m : AccessMode, m.symbol ≠ t := by
  constructor
  · intro h
    induction ts with
    | nil => cases h
    | cons u ts ih =>
      rw [ofTokens] at h
      cases hu : ofSymbol? u with
      | none =>
        rw [hu] at h
        obtain rfl := Except.error.inj h
        exact ⟨[],ts,rfl,ofSymbol?_eq_none_iff.mp hu⟩
      | some m =>
        rw [hu] at h
        cases hts : ofTokens ts with
        | ok ms => simp [hts] at h
        | error t' =>
          simp only [hts] at h
          obtain rfl := Except.error.inj h
          obtain ⟨ms,rest,hrest,hunknown⟩ := ih hts
          exact ⟨m :: ms,rest,by rw [hrest,symbol_of_ofSymbol? hu]; rfl,hunknown⟩
  · rintro ⟨ms,rest,rfl,hunknown⟩
    induction ms with
    | nil => simp [ofTokens,ofSymbol?_eq_none_iff.mpr hunknown]
    | cons m ms ih => simp [ofTokens,ih]

/-! ### Texts -/

theorem ofField_text (s : Text) :
    ofField (.text s) = (ofCompact s).mapError (fun t => .unknownToken (.text t) (.text s)) := by
  rw [ofField,show (Value.text s).text?.getD "" = s from rfl]
  cases ofCompact s <;> rfl

theorem ofField_text_eq_ok_iff {s : Text} {ms : List AccessMode} :
    ofField (.text s) = .ok ms ↔ s = compact ms := by
  have hread : ofField (.text s) = .ok ms ↔ ofCompact s = .ok ms := by
    rw [ofField_text]
    cases ofCompact s <;> simp [Except.mapError]
  rw [hread]
  exact ⟨fun h => (compact_of_ofCompact h).symm,fun h => h ▸ ofCompact_compact ms⟩

theorem ofField_compact (ms : List AccessMode) : ofField (.text (compact ms)) = .ok ms :=
  ofField_text_eq_ok_iff.mpr rfl

/-- A text that is no compact form is refused for its first token that is no symbol. -/
theorem exists_unknown_token {s : Text} (h : ∀ ms, s ≠ compact ms) :
    ∃ (ms : List AccessMode) (t : Text) (rest : List Text),
      tokens s = ms.map (fun m => (m.symbol : Text)) ++ t :: rest ∧ (∀ m : AccessMode, m.symbol ≠ t) ∧
        ofField (.text s) = .error (.unknownToken (.text t) (.text s)) := by
  have hne : s ≠ "" := h []
  have hread : ofCompact s = ofTokens (tokens s) := by rw [ofCompact,if_neg hne,tokens]
  cases htokens : ofTokens (tokens s) with
  | ok ms => exact absurd (compact_of_ofCompact (hread.trans htokens)).symm (h ms)
  | error t =>
    obtain ⟨ms,rest,hsplit,hunknown⟩ := ofTokens_eq_error_iff.mp htokens
    exact ⟨ms,t,rest,hsplit,hunknown,by rw [ofField_text,hread,htokens]; rfl⟩

theorem ofJson_toJson (ms : List AccessMode) : ofJson (toJson ms) = .ok ms := by
  have hdocument : Json.ofText (toJson ms).toList = .ok (.text (compact ms)) := by
    rw [toJson]
    exact (Json.spells_text (.inr (Text.isWhole_ofString _))).ofText
  rw [ofJson,hdocument]
  exact ofField_compact ms

/-! ### Values -/

theorem ofListed_list (xs : List Value) : ofListed (.list xs) = ofValues xs := by
  rw [ofListed,Value.listed?_list]

theorem ofValues_cons_of_ne {x : Value} (h : ∀ m, x ≠ .term (.mode m)) (xs : List Value) :
    ofValues (x :: xs) = .error (.unknownWord x .accessMode) := by
  unfold ofValues
  split
  · contradiction
  · next m _ heq => exact absurd (List.cons.inj heq).1 (h m)
  · next v _ _ heq =>
    obtain rfl := (List.cons.inj heq).1
    rfl

/-- Values that are not all modes are refused for the first that is none. -/
theorem exists_unknown_value {xs : List Value} (h : ∃ x ∈ xs, ∀ m, x ≠ .term (.mode m)) :
    ∃ (ms : List AccessMode) (x : Value) (rest : List Value),
      xs = ms.map (fun m => .term (.mode m)) ++ x :: rest ∧ (∀ m, x ≠ .term (.mode m)) ∧
        ofValues xs = .error (.unknownWord x .accessMode) := by
  induction xs with
  | nil => simp at h
  | cons y ys ih =>
    by_cases hy : ∃ m, y = .term (.mode m)
    · obtain ⟨m,rfl⟩ := hy
      obtain ⟨x,hx,hunknown⟩ := h
      have hmem : x ∈ ys := (List.mem_cons.mp hx).resolve_left (hunknown m)
      obtain ⟨ms,x,rest,rfl,hfirst,hread⟩ := ih ⟨x,hmem,hunknown⟩
      exact ⟨m :: ms,x,rest,rfl,hfirst,by rw [ofValues,hread]⟩
    · have hfirst : ∀ m, y ≠ .term (.mode m) := fun m hm => hy ⟨m,hm⟩
      exact ⟨[],y,ys,rfl,hfirst,ofValues_cons_of_ne hfirst ys⟩

/-- Lists of modes and their compact forms stand for each other, also in a document of JSON. A text that
is no compact form is refused with its first token that is no symbol, and a list that is not one of
modes with its first value that is none. -/
theorem compact_exact :
    (∀ ms, ofField (.text (compact ms)) = .ok ms) ∧
    (∀ (s : Text) (ms : List AccessMode), ofField (.text s) = .ok ms ↔ s = compact ms) ∧
    (∀ s : Text, (∀ ms, s ≠ compact ms) →
      ∃ (ms : List AccessMode) (t : Text) (rest : List Text) (f : Fault),
        tokens s = ms.map (fun m => (m.symbol : Text)) ++ t :: rest ∧ (∀ m : AccessMode, m.symbol ≠ t) ∧
          ofField (.text s) = .error f ∧ f = .unknownToken (.text t) (.text s) ∧ f.reported = f) ∧
    (∀ ms, ofJson (toJson ms) = .ok ms) ∧
    (∀ ms, (ofListed (listValue ms)).map compact = .ok (compact ms)) ∧
    ∀ xs, Value.areShowable xs = true → (∃ x ∈ xs, ∀ m, x ≠ .term (.mode m)) →
      ∃ (ms : List AccessMode) (x : Value) (rest : List Value) (f : Fault),
        xs = ms.map (fun m => .term (.mode m)) ++ x :: rest ∧ (∀ m, x ≠ .term (.mode m)) ∧
          (ofListed (.list xs)).map compact = .error f ∧ f = .unknownWord x .accessMode ∧
          f.reported = f := by
  refine ⟨ofField_compact,fun _ _ => ofField_text_eq_ok_iff,?token,ofJson_toJson,?modes,?value⟩
  case token =>
    intro s hs
    obtain ⟨ms,t,rest,hsplit,hunknown,hread⟩ := exists_unknown_token hs
    exact ⟨ms,t,rest,_,hsplit,hunknown,hread,rfl,rfl⟩
  case modes =>
    intro ms
    rw [ofListed_listValue]
    rfl
  case value =>
    intro xs hshowable hxs
    obtain ⟨ms,x,rest,rfl,hunknown,hread⟩ := exists_unknown_value hxs
    have hx : x.isShowable = true := Value.areShowable_iff.mp hshowable x (by simp)
    exact ⟨ms,x,rest,_,rfl,hunknown,by rw [ofListed_list,hread]; rfl,rfl,if_pos hx⟩

/-- Two commas with nothing between them, and the text of a mode in the place of a mode. -/
theorem compact_doubledComma :
    (∀ ms, ("ro,,rw" : Text) ≠ compact ms) ∧
    (∃ (ms : List AccessMode) (t : Text) (rest : List Text) (f : Fault),
      tokens "ro,,rw" = ms.map (fun m => (m.symbol : Text)) ++ t :: rest ∧ (∀ m : AccessMode, m.symbol ≠ t) ∧
        ofField (.text "ro,,rw") = .error f ∧ f = .unknownToken (.text t) (.text "ro,,rw") ∧
        f.reported = f) ∧
    ∃ (ms : List AccessMode) (x : Value) (rest : List Value) (f : Fault),
      [.term (.mode .readOnlyMany),.text "ReadOnlyMany",.null] =
          ms.map (fun m => .term (.mode m)) ++ x :: rest ∧ (∀ m, x ≠ .term (.mode m)) ∧
        (ofListed (.list [.term (.mode .readOnlyMany),.text "ReadOnlyMany",.null])).map compact =
          .error f ∧ f = .unknownWord x .accessMode ∧ f.reported = f := by
  obtain ⟨-,hread,htoken,-,-,hvalue⟩ := compact_exact
  have hs : ∀ ms, ("ro,,rw" : Text) ≠ compact ms := by
    intro ms h
    have hrefused : (ofField (.text "ro,,rw")).toOption.isNone = true := by rfl
    rw [(hread _ ms).mpr h] at hrefused
    cases hrefused
  exact ⟨hs,htoken _ hs,hvalue _ rfl ⟨.text "ReadOnlyMany",by simp,nofun⟩⟩

end AccessMode

end ShortVolume
