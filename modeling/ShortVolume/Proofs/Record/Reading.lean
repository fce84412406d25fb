import ShortVolume.Proofs.Record.Compact
set_option autoImplicit false

/-!
What reading a record finds in it.

Each reader of a field has one lemma, which says when it gives a result and which. From these a
record holds a volume, `Volume.Reads`, exactly when reading it gives that volume; the relation is
said field by field on the values of the record, so that nothing else opens the readers.
-/

namespace ShortVolume

theorem Except.bind_eq_ok_iff {ε α β : Type} {x : Except ε α} {f : α → Except ε β} {b : β} :
    (x >>= f) = .ok b ↔ ∃ a, x = .ok a ∧ f a = .ok b := by
  cases x <;> simp [bind,Except.bind]

theorem Except.bind_eq_error_iff {ε α β : Type} {x : Except ε α} {f : α → Except ε β} {e : ε} :
    (x >>= f) = .error e ↔ x = .error e ∨ ∃ a, x = .ok a ∧ f a = .error e := by
  cases x <;> simp [bind,Except.bind]

theorem Except.map_eq_ok_iff {ε α β : Type} {f : α → β} {x : Except ε α} {b : β} :
    x.map f = .ok b ↔ ∃ a, x = .ok a ∧ f a = b := by
  cases x <;> simp [Except.map]

theorem Except.toOption_eq_some_iff {ε α : Type} {x : Except ε α} {a : α} :
    x.toOption = some a ↔ x = .ok a := by
  cases x <;> simp [Except.toOption]

theorem Except.pure_eq_ok_iff {ε α : Type} {a b : α} :
    (pure a : Except ε α) = .ok b ↔ a = b := by
  simp [pure,Except.pure]

/-- The value as a document can hold it: a word of a vocabulary is its text. -/
def Value.plain : Value → Value
  | .term t => .text t.text
  | v => v

@[simp] theorem Value.entries?_null : Value.null.entries? = none := rfl

@[simp] theorem Value.entries?_map (es : Entries) : (Value.map es).entries? = some es := rfl

theorem Value.text?_eq_some_iff (v : Value) (s : Text) :
    v.text? = some s ↔ v.plain = .text s := by
  cases v <;> simp [text?,plain]

namespace Entries

/-! ### Fields -/

theorem required_eq_ok_iff {want : Expected} {es : Entries} {key : String} {v : Value} :
    es.required want key = .ok v ↔ want.accepts (es.field key) = true ∧ es.field key = v := by
  by_cases h : want.accepts (es.field key) <;> simp [required,h]

theorem string?_eq_ok_iff {es : Entries} {key : String} {s : Option Text} :
    es.string? key = .ok s ↔ (es.field key).plain = .ofText? s := by
  unfold string? optional
  cases es.field key <;> cases s <;>
    simp [Expected.accepts,Value.text?,Value.plain,Value.ofText?]

theorem integer?_eq_ok_iff {es : Entries} {key : String} {i : Option Int} :
    es.integer? key = .ok i ↔ es.field key = (i.map Value.int).getD .null := by
  unfold integer? optional
  cases es.field key <;> cases i <;> simp [Expected.accepts,Value.int?]

theorem flag_eq_ok_iff {es : Entries} {key : String} {b : Bool} :
    es.flag key = .ok b ↔ es.field key = .bool b ∨ es.field key = .null ∧ b = false := by
  unfold flag optional
  cases es.field key <;> simp [Expected.accepts,eq_comm]

/-- The text of a quantity in a record. -/
def HoldsQuantity (es : Entries) (key : String) (q : Option Text) : Prop :=
  (es.field key = .null ∧ q = none) ∨
    Expected.quantity.accepts (es.field key) = true ∧ (es.field key).isShowable = true ∧
      q = some (es.field key).bare

theorem quantity?_eq_ok_iff {es : Entries} {key : String} {q : Option Text} :
    es.quantity? key = .ok q ↔ es.HoldsQuantity key q := by
  unfold quantity? optional HoldsQuantity
  cases es.field key with
  | text s => simp [Expected.accepts,Value.isShowable,@eq_comm _ q]
  | term t => simp [Expected.accepts,Value.isShowable,@eq_comm _ q]
  | int i => by_cases h : hasDigits i <;> simp [Expected.accepts,Value.isShowable,h,@eq_comm _ q]
  | float x => simp [Expected.accepts,Value.isShowable,@eq_comm _ q]
  | _ => simp [Expected.accepts,@eq_comm _ q]

theorem object?_eq_ok_iff {es : Entries} {key : String} {o : Option Entries} :
    es.object? key = .ok o ↔
      (es.field key = .null ∧ o = none) ∨ ∃ m, (es.field key).entries? = some m ∧ o = some m := by
  unfold object? optional
  by_cases hnull : es.field key = .null
  · simp [hnull,@eq_comm _ o]
  · cases hm : (es.field key).entries? with
    | none =>
      have hkind : Expected.dictionary.accepts (es.field key) = false := by
        simp [Expected.accepts,Value.isMap,hm]
      simp [hkind,hnull]
    | some m =>
      have hkind : Expected.dictionary.accepts (es.field key) = true := by
        simp [Expected.accepts,Value.isMap,hm]
      simp [hkind,hnull,hm,@eq_comm _ o]

/-! ### Labels, parts and words -/

/-- The texts under keys in a map of texts. -/
def HoldsLabels (es : Entries) (key : String) (ls : Labels) : Prop :=
  (es.field key = .null ∧ ls = []) ∨
    ∃ m, (es.field key).entries? = some m ∧ m.map (fun e => (e.1,e.2.plain)) = ls.entries

theorem textEntries_eq_ok_iff {key : String} {m : Entries} {ls : Labels} :
    textEntries key m = .ok ls ↔ m.map (fun e => (e.1,e.2.plain)) = ls.entries := by
  induction m generalizing ls with
  | nil => cases ls <;> simp [textEntries,Labels.entries]
  | cons e m ih =>
    obtain ⟨k,v⟩ := e
    unfold textEntries
    cases hv : v.text? with
    | none =>
      have hplain (s : Text) : v.plain ≠ .text s := by
        rw [Ne,← Value.text?_eq_some_iff,hv]
        simp
      cases ls with
      | nil => by_cases hk : k.isShowable <;> simp [hk,Labels.entries]
      | cons l ls =>
        have := hplain l.2
        by_cases hk : k.isShowable <;> simp [hk,Labels.entries,this]
    | some s =>
      rw [Value.text?_eq_some_iff] at hv
      cases ls with
      | nil =>
        simp only [Labels.entries,List.map_cons,List.map_nil,reduceCtorEq,iff_false]
        split <;> simp
      | cons l ls =>
        obtain ⟨k',s'⟩ := l
        cases hr : textEntries key m with
        | error f =>
          have hne : m.map (fun e => (e.1,e.2.plain)) ≠ Labels.entries ls := by
            rw [Ne,← ih,hr]
            simp
          simp only [Labels.entries] at hne
          simp [Labels.entries,hne]
        | ok rest =>
          have hrest := @ih ls
          rw [hr] at hrest
          simp only [Except.ok.injEq,Labels.entries] at hrest
          simp [Labels.entries,hv,hrest,and_assoc]

theorem labels_eq_ok_iff {es : Entries} {key : String} {ls : Labels} :
    es.labels key = .ok ls ↔ es.HoldsLabels key ls := by
  constructor
  · intro h
    unfold labels at h
    split at h
    · next ho =>
      obtain ⟨hnull,-⟩ | ⟨m,-,hm⟩ := object?_eq_ok_iff.mp ho
      · exact .inl ⟨hnull,(Except.ok.inj h).symm⟩
      · contradiction
    · next m ho =>
      obtain ⟨-,hm⟩ | ⟨m',hm',hm⟩ := object?_eq_ok_iff.mp ho
      · contradiction
      · cases hm
        exact .inr ⟨m,hm',textEntries_eq_ok_iff.mp h⟩
    · contradiction
  · rintro (⟨hnull,rfl⟩ | ⟨m,hm,hls⟩)
    · rw [labels,object?_eq_ok_iff.mpr (.inl ⟨hnull,rfl⟩)]
    · rw [labels,object?_eq_ok_iff.mpr (.inr ⟨m,hm,rfl⟩)]
      exact textEntries_eq_ok_iff.mpr hls

/-- A part of a record that is an object of its own. -/
def HoldsPart {α : Type} (reads : Entries → α → Prop) (es : Entries) (key : String)
    (a : Option α) : Prop :=
  (es.field key = .null ∧ a = none) ∨
    ∃ m c, (es.field key).entries? = some m ∧ reads m c ∧ a = some c

theorem part_eq_ok_iff {α : Type} {decode : Entries → Except Fault α} {reads : Entries → α → Prop}
    (hd : ∀ m c, decode m = .ok c ↔ reads m c) {es : Entries} {key : String} {a : Option α} :
    es.part decode key = .ok a ↔ HoldsPart reads es key a := by
  constructor
  · intro h
    unfold part at h
    split at h
    · contradiction
    · next ho =>
      obtain ⟨hnull,-⟩ | ⟨m,-,hm⟩ := object?_eq_ok_iff.mp ho
      · exact .inl ⟨hnull,(Except.ok.inj h).symm⟩
      · contradiction
    · next m ho =>
      obtain ⟨-,hm⟩ | ⟨m',hm',hm⟩ := object?_eq_ok_iff.mp ho
      · contradiction
      · cases hm
        split at h
        · next c hc => exact .inr ⟨m,c,hm',(hd m c).mp hc,(Except.ok.inj h).symm⟩
        · contradiction
  · rintro (⟨hnull,rfl⟩ | ⟨m,c,hm,hc,rfl⟩)
    · rw [part,object?_eq_ok_iff.mpr (.inl ⟨hnull,rfl⟩)]
    · rw [part,object?_eq_ok_iff.mpr (.inr ⟨m,hm,rfl⟩)]
      simp only [(hd m c).mpr hc]

def HoldsModes (es : Entries) (ms : List AccessMode) : Prop :=
  (es.field "modes" = .null ∧ ms = []) ∨
    (es.field "modes").plain = .text (AccessMode.compact ms)

theorem AccessMode.ofCompact_eq_ok_iff {s : Text} {ms : List AccessMode} :
    AccessMode.ofCompact s = .ok ms ↔ s = AccessMode.compact ms := by
  constructor
  · intro h
    exact (AccessMode.compact_of_ofCompact h).symm
  · rintro rfl
    exact AccessMode.ofCompact_compact ms

/-- The kind of the modes is looked at apart from their tokens. -/
theorem modes_eq_ok_iff {es : Entries} {ms : List AccessMode} :
    (∃ o, es.optional .string "modes" = .ok o) ∧ es.modes = .ok ms ↔ es.HoldsModes ms := by
  have htext {v : Value} {s : Text} (h : v.text? = some s) :
      AccessMode.ofField v = .ok ms ↔ s = AccessMode.compact ms := by
    rw [← AccessMode.ofCompact_eq_ok_iff,AccessMode.ofField,h]
    simp only [Option.getD_some]
    split <;> simp_all
  unfold optional modes HoldsModes
  cases es.field "modes" with
  | null => simp [Value.plain]
  | text s => simpa [Expected.accepts,Value.plain] using @htext (.text s) s rfl
  | term t => simpa [Expected.accepts,Value.plain] using @htext (.term t) t.text rfl
  | _ => simp [Expected.accepts,Value.plain]

/-- The reclaim policy of a record; the empty text is none. -/
def HoldsReclaim (es : Entries) (p : Option ReclaimPolicy) : Prop :=
  (p = none ∧ ((es.field "reclaim").plain = .null ∨ (es.field "reclaim").plain = .text "")) ∨
    ∃ q, p = some q ∧ (es.field "reclaim").plain = .text q.text

theorem reclaim_eq_ok_iff {es : Entries} {p : Option ReclaimPolicy} :
    es.reclaim = .ok p ↔ es.HoldsReclaim p := by
  constructor
  · intro h
    unfold reclaim at h
    split at h
    · contradiction
    · next hs =>
      cases h
      exact .inl ⟨rfl,.inl (string?_eq_ok_iff.mp hs)⟩
    · next s hs =>
      have hplain := string?_eq_ok_iff.mp hs
      split at h
      · next hempty =>
        cases h
        exact .inl ⟨rfl,.inr (hempty ▸ hplain)⟩
      · split at h
        · next q hq =>
          cases h
          exact .inr ⟨q,rfl,ReclaimPolicy.text_of_ofText? hq ▸ hplain⟩
        · contradiction
  · rintro (⟨rfl,hnull | hempty⟩ | ⟨q,rfl,hq⟩)
    · rw [reclaim,string?_eq_ok_iff.mpr (show _ = Value.ofText? none from hnull)]
    · rw [reclaim,string?_eq_ok_iff.mpr (show _ = Value.ofText? (some ("" : Text)) from hempty)]
      rfl
    · have hne : q.text ≠ "" := by cases q <;> decide
      rw [reclaim,string?_eq_ok_iff.mpr (show _ = Value.ofText? (some (q.text : Text)) from hq)]
      simp [hne]

end Entries

end ShortVolume
