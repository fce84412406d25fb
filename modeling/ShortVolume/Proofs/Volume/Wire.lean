import ShortVolume.Proofs.Json.Reading
import ShortVolume.Proofs.Volume.Checks
import ShortVolume.Volume.Wire
set_option autoImplicit false

/-!
What can come of a wire form.

A wire form holds a volume or is refused with a declared fault, whatever it is, and so is a document of
modes. Nothing else comes of them but the refusal of an integer of too many digits, which is not
declared.
-/

namespace ShortVolume

/-- A value whose integers have a text holds a volume, or is refused with a declared fault. -/
theorem Volume.ofValue_cases {doc : Value} (h : doc.isShowable = true) :
    (∃ v, Volume.ofValue doc = .ok v) ∨ ∃ f, Volume.ofValue doc = .error f ∧ f.IsReported := by
  have hanswers := Volume.ofValue_answers h
  unfold Except.Answers at hanswers
  cases hread : Volume.ofValue doc with
  | ok v => exact .inl ⟨v,rfl⟩
  | error f =>
    rw [hread] at hanswers
    obtain ⟨c,hc,rfl⟩ := Check.mem_of_firstFault hanswers.symm
    exact .inr ⟨c.fault,rfl,Value.isReported_checks h c hc⟩

/-! ### Modes -/

theorem AccessMode.ofField_cases {v : Value} (h : v.isShowable = true) :
    (∃ ms, AccessMode.ofField v = .ok ms) ∨
      ∃ f, AccessMode.ofField v = .error f ∧ f.IsReported := by
  unfold AccessMode.ofField
  cases AccessMode.ofCompact (v.text?.getD "") with
  | ok ms => exact .inl ⟨ms,rfl⟩
  | error t => exact .inr ⟨_,rfl,rfl,h⟩

/-! ### Wire forms -/

/-- The letters of what came over the wire. -/
def Wire.letters : Wire → Except Text.DecodeError (List Letter)
  | text s => .ok s.toList
  | bytes bs => Text.decodeDetected bs

theorem Wire.ofJson_cases (w : Wire) {s : List Letter} {read : Except Json.Error Value}
    (h : (∃ v, read = .ok v ∧ Json.IsHeld v) ∨
      (∃ cause place, read = .error (.grammar cause place)) ∨
      read = .error .longInteger ∧ Json.HasLongInteger s) :
    (∃ v, document.ofJson w s read = .ok v ∧ Json.IsHeld v) ∨
      (∃ f, document.ofJson w s read = .error f ∧ f.IsReported) ∨
      document.ofJson w s read = .error .longInteger ∧ Json.HasLongInteger s := by
  rcases h with ⟨v,rfl,hv⟩ | ⟨cause,place,rfl⟩ | ⟨rfl,hlong⟩
  · exact .inl ⟨v,rfl,hv⟩
  · exact .inr (.inl ⟨_,rfl,rfl,rfl⟩)
  · exact .inr (.inr ⟨rfl,hlong⟩)

theorem Wire.document_cases (w : Wire) :
    (∃ v, w.document = .ok v ∧ Json.IsHeld v) ∨ (∃ f, w.document = .error f ∧ f.IsReported) ∨
      w.document = .error .longInteger ∧ ∃ s, w.letters = .ok s ∧ Json.HasLongInteger s := by
  cases w with
  | text s =>
    rcases Wire.ofJson_cases (.text s) (Json.ofText_holds s.toList) with hv | hf | ⟨hlong,hs⟩
    · exact .inl hv
    · exact .inr (.inl hf)
    · exact .inr (.inr ⟨hlong,s.toList,rfl,hs⟩)
  | bytes bs =>
    cases hdecode : Text.decodeDetected bs with
    | error e =>
      have hdocument : (bytes bs).document = .error (.unreadable (bytes bs).value e.message) := by
        simp only [document,hdecode]
      exact .inr (.inl ⟨_,hdocument,rfl,rfl⟩)
    | ok s =>
      have hdocument : (bytes bs).document = document.ofJson (bytes bs) s (Json.document s) := by
        simp only [document,hdecode]
      rw [hdocument]
      rcases Wire.ofJson_cases (.bytes bs) (Json.document_holds s) with hv | hf | ⟨hlong,hs⟩
      · exact .inl hv
      · exact .inr (.inl hf)
      · exact .inr (.inr ⟨hlong,s,hdecode,hs⟩)

/-- A wire form holds a volume, or is refused with a declared fault, or with that of an integer of too
many digits, where as many digits stand in its text. So does a document of modes. -/
theorem Wire.refuses_as_declared (w : Wire) (s : Text) :
    ((∃ v, w.volume = .ok v) ∨ (∃ f, w.volume = .error f ∧ f.IsReported) ∨
      w.volume = .error .longInteger ∧ ∃ s, w.letters = .ok s ∧ Json.HasLongInteger s) ∧
    ((∃ ms, AccessMode.ofJson s = .ok ms) ∨
      (∃ f, AccessMode.ofJson s = .error f ∧ f.IsReported) ∨
      AccessMode.ofJson s = .error .longInteger ∧ Json.HasLongInteger s.toList) := by
  refine ⟨?volume,?modes⟩
  case volume =>
    unfold volume
    rcases w.document_cases with ⟨v,hv,hheld⟩ | ⟨f,hf,hreported⟩ | ⟨hlong,hs⟩
    · rw [hv]
      rcases Volume.ofValue_cases hheld.isShowable with hread | hrefused
      · exact .inl hread
      · exact .inr (.inl hrefused)
    · rw [hf]
      exact .inr (.inl ⟨f,rfl,hreported⟩)
    · rw [hlong]
      exact .inr (.inr ⟨rfl,hs⟩)
  case modes =>
    unfold AccessMode.ofJson
    rcases Json.ofText_holds s.toList with ⟨v,hv,hheld⟩ | ⟨cause,place,hgrammar⟩ | ⟨hlong,hs⟩
    · rw [hv]
      split
      · contradiction
      · contradiction
      · next t _ =>
        rcases AccessMode.ofField_cases (v := .text t) rfl with hread | hrefused
        · exact .inl hread
        · exact .inr (.inl hrefused)
      · next v' hv' =>
        obtain rfl := Except.ok.inj hv'
        exact .inr (.inl ⟨_,rfl,rfl,by simp [Fault.isShowable,hheld.isShowable,Value.isShowable]⟩)
    · rw [hgrammar]
      exact .inr (.inl ⟨_,rfl,rfl,rfl⟩)
    · rw [hlong]
      exact .inr (.inr ⟨rfl,hs⟩)

/-- The digits of an integer, one more than are read. -/
def longDigits : Text := ⟨List.replicate 4301 '1'⟩

theorem Wire.volume_longDigits :
    (Wire.text longDigits).volume = .error .longInteger ∧
      AccessMode.ofJson longDigits = .error .longInteger ∧
      Fault.longInteger.isDeclared = false := by
  have hfault : Except.fault? (Json.ofText longDigits.toList) = some .longInteger := by decide +kernel
  have hread := Except.fault?_eq_some_iff.mp hfault
  refine ⟨?_,?_,rfl⟩
  · rw [Wire.volume,Wire.document,hread]
    rfl
  · rw [AccessMode.ofJson,hread]

end ShortVolume
