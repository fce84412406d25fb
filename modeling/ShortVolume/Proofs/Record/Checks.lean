import ShortVolume.Proofs.Record.Reading
import ShortVolume.Proofs.Value.Showable
set_option autoImplicit false

/-!
Readers as lists of checks.

A check is a demand on the values of a record, with the fault of a record that does not meet it. A
reader answers to a list of checks if it gives a result when all of them are met, and else the fault
of the first that is not. Readers that follow one another answer to their lists in that order.
-/

namespace ShortVolume

structure Check where
  met : Bool
  fault : Fault

/-- The fault of the first check that is not met. -/
def Check.firstFault : List Check → Option Fault
  | [] => none
  | c :: cs => if c.met then firstFault cs else some c.fault

namespace Check

theorem firstFault_of_met {c : Check} (h : c.met = true) (cs : List Check) :
    firstFault (c :: cs) = firstFault cs := if_pos h

theorem firstFault_of_unmet {c : Check} (h : c.met = false) (cs : List Check) :
    firstFault (c :: cs) = some c.fault := if_neg (by simp [h])

theorem firstFault_append (cs ds : List Check) :
    firstFault (cs ++ ds) = (firstFault cs).or (firstFault ds) := by
  induction cs with
  | nil => rfl
  | cons c cs ih =>
    rw [List.cons_append,firstFault,firstFault,ih]
    split <;> rfl

theorem firstFault_eq_none_iff {cs : List Check} :
    firstFault cs = none ↔ ∀ c ∈ cs, c.met = true := by
  induction cs with
  | nil => simp [firstFault]
  | cons c cs ih => by_cases h : c.met = true <;> simp [firstFault,h,ih]

theorem firstFault_of_first {cs ds : List Check} {c : Check} (h : ∀ d ∈ cs, d.met = true)
    (hc : c.met = false) : firstFault (cs ++ c :: ds) = some c.fault := by
  rw [firstFault_append,firstFault_eq_none_iff.mpr h,firstFault_of_unmet hc]
  rfl

theorem mem_of_firstFault {cs : List Check} {f : Fault} (h : firstFault cs = some f) :
    ∃ c ∈ cs, c.fault = f := by
  induction cs with
  | nil => contradiction
  | cons c cs ih =>
    rw [firstFault] at h
    split at h
    · obtain ⟨d,hd,hf⟩ := ih h
      exact ⟨d,List.mem_cons_of_mem c hd,hf⟩
    · exact ⟨c,List.mem_cons_self,Option.some.inj h⟩

end Check

def Except.fault? {ε α : Type} : Except ε α → Option ε
  | .ok _ => none
  | .error f => some f

theorem Except.fault?_eq_some_iff {ε α : Type} {x : Except ε α} {e : ε} :
    Except.fault? x = some e ↔ x = .error e := by
  cases x <;> simp [Except.fault?]

/-- The result is that of the checks: the fault of the first that is not met, if there is one. -/
def Except.Answers {α : Type} (x : Except Fault α) (cs : List Check) : Prop :=
  Except.fault? x = Check.firstFault cs

namespace Except.Answers

theorem pure {α : Type} (a : α) : Answers (Pure.pure a : Except Fault α) [] := rfl

theorem bind {α β : Type} {x : Except Fault α} {f : α → Except Fault β} {cs ds : List Check}
    (h : Answers x cs) (hf : ∀ a, x = .ok a → Answers (f a) ds) : Answers (x >>= f) (cs ++ ds) := by
  unfold Answers at *
  rw [Check.firstFault_append,← h]
  cases x with
  | ok a => exact hf a rfl
  | error e => rfl

/-- What is made of a result without a check adds none. -/
theorem map {α β : Type} {x : Except Fault α} {cs : List Check} (h : Answers x cs) (g : α → β) :
    Answers (do return g (← x)) cs := by
  have hbind := h.bind (fun a _ => Answers.pure (g a))
  rwa [List.append_nil] at hbind

theorem of_met {α : Type} {x : Except Fault α} {met : Bool} {fault : Fault} {cs : List Check}
    (hc : met = true) (h : Answers x cs) : Answers x (⟨met,fault⟩ :: cs) := by
  unfold Answers at *
  rw [Check.firstFault_of_met hc,h]

theorem of_unmet {α : Type} {met : Bool} {fault : Fault} (hc : met = false) (cs : List Check) :
    Answers (.error fault : Except Fault α) (⟨met,fault⟩ :: cs) := by
  unfold Answers
  rw [Check.firstFault_of_unmet hc]
  rfl

end Except.Answers

namespace Entries

/-- A field that may be absent or without a value, and else has a value of one kind. -/
def kindCheck (want : Expected) (key : String) (es : Entries) : Check :=
  ⟨match es.field key with
    | .null => true
    | v => want.accepts v,.field (es.field key) key want⟩

/-- A map of texts. -/
def labelChecks (key : String) (es : Entries) : List Check :=
  es.kindCheck .dictionary key ::
    ((es.field key).entries?.getD []).map (fun e =>
      ⟨e.2.text?.isSome,.field e.2 (key ++ "." ++ e.1.bare) .string⟩)

/-- An object whose fields with the given names are texts. -/
def partChecks (names : List String) (key : String) (es : Entries) : List Check :=
  es.kindCheck .dictionary key ::
    names.map (fun name => kindCheck .string name ((es.field key).entries?.getD []))

/-- Each token of the modes is the symbol of one. -/
def tokenChecks (modes : Value) (tokens : List Text) : List Check :=
  tokens.map (fun token => ⟨(AccessMode.all.map (fun m => Text.ofString m.symbol)).contains token,
    .unknownToken (.text token) modes⟩)

/-- The tokens of the modes, none in the empty text. -/
def modeTokens (es : Entries) : List Text :=
  let s := (es.field "modes").text?.getD ""
  if s = "" then [] else (Text.splitOn (Letter.char ',') s.toList).map Text.ofList

/-- The reclaim policy is a word of its vocabulary, or the empty text. -/
def reclaimChecks (es : Entries) : List Check :=
  let s := (es.field "reclaim").text?.getD ""
  [es.kindCheck .string "reclaim",
    ⟨s == "" || (ReclaimPolicy.all.map (fun p => Text.ofString p.text)).contains s,
      .unknownWord (es.field "reclaim") .reclaimPolicy⟩]

/-! ### Fields -/

theorem optional_answers (want : Expected) (es : Entries) (key : String) :
    Except.Answers (es.optional want key) [es.kindCheck want key] := by
  unfold optional kindCheck Except.Answers
  generalize es.field key = v
  cases v with
  | null => rfl
  | _ =>
    dsimp only
    split
    · next hv => simp [Check.firstFault, Except.fault?, hv]
    · next hv => simp [Check.firstFault, Except.fault?, hv]

theorem string?_answers (es : Entries) (key : String) :
    Except.Answers (es.string? key) [es.kindCheck .string key] := by
  have h := es.optional_answers .string key
  unfold string?
  cases ho : es.optional .string key <;> rwa [ho] at h

theorem integer?_answers (es : Entries) (key : String) :
    Except.Answers (es.integer? key) [es.kindCheck .integer key] := by
  have h := es.optional_answers .integer key
  unfold integer?
  cases ho : es.optional .integer key <;> rwa [ho] at h

theorem flag_answers (es : Entries) (key : String) :
    Except.Answers (es.flag key) [es.kindCheck .boolean key] := by
  have h := es.optional_answers .boolean key
  unfold flag
  split
  · next ho => rwa [ho] at h
  · next ho => rwa [ho] at h
  · next ho => rwa [ho] at h

theorem object?_answers (es : Entries) (key : String) :
    Except.Answers (es.object? key) [es.kindCheck .dictionary key] := by
  have h := es.optional_answers .dictionary key
  unfold object?
  cases ho : es.optional .dictionary key <;> rwa [ho] at h

theorem quantity?_answers {es : Entries} (h : Value.entriesShowable es = true) (key : String) :
    Except.Answers (es.quantity? key) [es.kindCheck .quantity key] := by
  have ho := es.optional_answers .quantity key
  unfold quantity?
  split
  · next hread => rwa [hread] at ho
  · next v hread =>
    rw [hread] at ho
    -- The value is that of the field, so its integers have a text.
    have hv : v.isShowable = true := by
      unfold optional at hread
      split at hread
      · cases hread
      · split at hread
        · cases hread
          exact isShowable_field h key
        · cases hread
    rw [if_pos hv]
    exact ho
  · next hread => rwa [hread] at ho

/-! ### Labels, parts and words -/

theorem object?_eq_ok {es : Entries} {key : String} {m : Option Entries}
    (h : es.object? key = .ok m) : m.getD [] = (es.field key).entries?.getD [] := by
  rcases object?_eq_ok_iff.mp h with ⟨hnull,rfl⟩ | ⟨m,hm,rfl⟩
  · rw [hnull]
    rfl
  · rw [hm]

theorem textEntries_answers {m : Entries} (h : Value.entriesShowable m = true) (key : String) :
    Except.Answers (textEntries key m) (m.map (fun e =>
      ⟨e.2.text?.isSome,.field e.2 (key ++ "." ++ e.1.bare) .string⟩)) := by
  induction m with
  | nil => rfl
  | cons e m ih =>
    obtain ⟨k,v⟩ := e
    simp only [Value.entriesShowable,Bool.and_eq_true] at h
    have hrest := ih h.2
    rw [List.map_cons,textEntries]
    cases hv : v.text? with
    | none =>
      simp only [if_pos h.1.1]
      exact Except.Answers.of_unmet rfl _
    | some s =>
      refine Except.Answers.of_met rfl ?_
      unfold Except.Answers at hrest ⊢
      rw [← hrest]
      cases textEntries key m <;> rfl

theorem labels_answers {es : Entries} (h : Value.entriesShowable es = true) (key : String) :
    Except.Answers (es.labels key) (es.labelChecks key) := by
  have hm := entriesShowable_part h key
  have hread : es.labels key = es.object? key >>= fun m => textEntries key (m.getD []) := by
    unfold labels
    cases es.object? key with
    | ok m => cases m <;> rfl
    | error f => rfl
  rw [hread]
  refine (es.object?_answers key).bind (fun m hob => ?_)
  rw [object?_eq_ok hob]
  exact textEntries_answers hm key

theorem part_answers {α : Type} {decode : Entries → Except Fault α} {names : List String}
    (hd : ∀ m, Except.Answers (decode m) (names.map (fun name => kindCheck .string name m)))
    (es : Entries) (key : String) :
    Except.Answers (es.part decode key) (es.partChecks names key) := by
  have hread : es.part decode key = es.object? key >>= fun m =>
      m.elim (pure none) (fun m => some <$> decode m) := by
    unfold part
    cases es.object? key with
    | ok m =>
      cases m with
      | none => rfl
      | some m => cases hm : decode m <;> simp [hm,bind,Except.bind,Functor.map,Except.map]
    | error f => rfl
  rw [hread]
  refine (es.object?_answers key).bind (fun m hob => ?_)
  rw [← object?_eq_ok hob]
  cases m with
  | none =>
    -- Without the object no name has a value.
    have hmet : ∀ c ∈ names.map (fun name => kindCheck .string name []), c.met = true := by
      intro c hc
      obtain ⟨name,-,rfl⟩ := List.mem_map.mp hc
      rfl
    exact (Check.firstFault_eq_none_iff.mpr hmet).symm
  | some m =>
    have h := hd m
    unfold Except.Answers at h
    change Except.fault? (some <$> decode m) = _
    rw [Option.getD_some,← h]
    cases hm : decode m <;> rfl

/-- A text is in a vocabulary if looking it up finds a word. -/
theorem contains_map_eq {α : Type} (text : α → Text) (words : List α) (s : Text) :
    (words.map text).contains s = (words.find? (fun w => text w == s)).isSome := by
  rw [Bool.eq_iff_iff]
  simp

theorem ofTokens_answers (modes : Value) (tokens : List Text) :
    Except.Answers ((AccessMode.ofTokens tokens).mapError (fun t => .unknownToken (.text t) modes))
      (tokenChecks modes tokens) := by
  induction tokens with
  | nil => rfl
  | cons token rest ih =>
    unfold Except.Answers tokenChecks at *
    rw [List.map_cons,AccessMode.ofTokens]
    cases hm : AccessMode.ofSymbol? token with
    | none =>
      rw [Check.firstFault_of_unmet (by rw [contains_map_eq]; exact congrArg Option.isSome hm)]
      rfl
    | some m =>
      rw [Check.firstFault_of_met (by rw [contains_map_eq]; exact congrArg Option.isSome hm),← ih]
      cases AccessMode.ofTokens rest <;> rfl

theorem modes_answers (es : Entries) :
    Except.Answers es.modes (tokenChecks (es.field "modes") es.modeTokens) := by
  have hread (v : Value) : AccessMode.ofField v =
      (AccessMode.ofCompact (v.text?.getD "")).mapError (fun t => .unknownToken (.text t) v) := by
    unfold AccessMode.ofField
    cases AccessMode.ofCompact (v.text?.getD "") <;> rfl
  unfold modes modeTokens
  split
  · next hnull =>
    rw [hnull]
    rfl
  · next v hv =>
    rw [hread,AccessMode.ofCompact]
    split
    · next hs =>
      rw [if_pos hs]
      rfl
    · next hs =>
      rw [if_neg hs]
      exact ofTokens_answers _ _

theorem reclaim_answers (es : Entries) : Except.Answers es.reclaim es.reclaimChecks := by
  have hread : es.reclaim = es.string? "reclaim" >>= fun s =>
      let s := s.getD ""
      if s = "" then pure none
      else (ReclaimPolicy.ofText? s).elim
        (.error (.unknownWord (es.field "reclaim") .reclaimPolicy)) (fun p => pure (some p)) := by
    unfold reclaim
    cases es.string? "reclaim" with
    | ok s =>
      cases s with
      | none => rfl
      | some s =>
        simp only [bind,Except.bind,Option.getD_some]
        cases ReclaimPolicy.ofText? s <;> rfl
    | error f => rfl
  rw [hread]
  refine (es.string?_answers "reclaim").bind (fun s hs => ?_)
  have htext : (es.field "reclaim").text?.getD "" = s.getD "" := by
    have hplain := string?_eq_ok_iff.mp hs
    cases s with
    | none => cases hv : es.field "reclaim" <;> simp_all [Value.plain,Value.ofText?,Value.text?]
    | some s => rw [(Value.text?_eq_some_iff _ _).mpr hplain]
  have hword : (ReclaimPolicy.all.map (fun p => Text.ofString p.text)).contains (s.getD "") =
      (ReclaimPolicy.ofText? (s.getD "")).isSome := contains_map_eq _ _ _
  rw [htext,hword]
  unfold Except.Answers
  by_cases hempty : s.getD "" = ""
  · simp only [hempty]
    rfl
  · have hfull : (s.getD "" == "") = false := beq_eq_false_iff_ne.mpr hempty
    simp only [if_neg hempty,hfull,Bool.false_or]
    cases ReclaimPolicy.ofText? (s.getD "") <;> rfl

end Entries

end ShortVolume
