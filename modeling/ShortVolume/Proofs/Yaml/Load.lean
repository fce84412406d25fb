import ShortVolume.Yaml.Load
import ShortVolume.Proofs.Yaml.Build
set_option autoImplicit false

/-!
Texts of records on lines of their own.

One record on a line is a document. Records on several lines are none, for nothing but a marker
separates documents.
-/

namespace ShortVolume

open Yaml

namespace Yaml

namespace Reader

variable {r : Reader} {ts : List Token} {ns : List Node} {es : Entries}

theorem values_single (hes : Value.entriesLegible es = true)
    (h : r.Has (Value.map es).tokens ns) (n : Nat) : r.values (n + 2) true = .ok [.map es] := by
  have h' : r.Has ((Value.map es).tokens ++ []) ns := by simpa using h
  obtain ⟨r',hdocument,hr'⟩ := h'.document_bare hes (by simp [EndsRecord])
  simp only [values,hdocument,hr'.nextVersion,valueOf_nodes hes hr'.nodes,hr'.document_nil,bind,
    Except.bind]
  rfl

theorem values_many (hes : Value.entriesLegible es = true)
    (h : r.Has ((Value.map es).tokens ++ .flowMapping :: ts) ns) (n : Nat) :
    ∃ e, r.values (n + 2) true = .error e := by
  obtain ⟨r',hdocument,hr'⟩ := h.document_bare hes (by simp [EndsRecord])
  refine ⟨r'.misplaced Token.documentStart.name,?_⟩
  simp [values,hdocument,hr'.nextVersion,valueOf_nodes hes hr'.nodes,hr'.document_error,bind,
    Except.bind]

theorem has_ofTokens {t : Tokens} (h : t.Are ts) : (ofTokens t).Has ts [] :=
  ⟨h.tokens,h.versions,h.version,h.error,rfl⟩

theorem Has.exists_rounds {t : Token} (h : r.Has (t :: ts) ns) :
    ∃ n, r.tokens.length + 1 = n + 2 := by
  rw [h.length_tokens]
  exact ⟨ts.length,rfl⟩

end Reader

theorem load_ofString (s : String) : load s = loadCharacters s.toList := by
  rw [load,Text.toList_ofString,Text.chars?_letters]

/-- A text with a forbidden character, or with half of a pair, has no documents. -/
theorem load_forbidden {text : Text} (h : ∃ l ∈ text.toList, l.is isAllowed = false) :
    load text = .error (.of (.malformed .character)) := by
  unfold load
  split
  · next cs hcs =>
    have hall : cs.all isAllowed = false := by
      obtain ⟨l,hl,hforbidden⟩ := h
      rw [Text.chars?_eq_some_iff.mp hcs] at hl
      obtain ⟨c,hc,rfl⟩ := List.mem_map.mp hl
      exact List.all_eq_false.mpr ⟨c,hc,Bool.eq_false_iff.mp hforbidden⟩
    simp [loadCharacters,Tokens.ofText,hall,Reader.ofTokens,Reader.values,Reader.document,
      Reader.peek,bind,Except.bind]
  · rfl

/-- The text of records, each on a line of its own. -/
def linesText (vs : List Value) : String := String.ofList (Value.lines vs)

theorem has_linesText {vs : List Value} (h : ∀ x ∈ vs, x.isLegibleRecord = true) :
    (Reader.ofTokens (Tokens.ofText (linesText vs).toList)).Has (vs.flatMap Value.tokens) [] := by
  rw [linesText,String.toList_ofList]
  exact Reader.has_ofTokens (Tokens.ofText_lines h)

/-- At most one record, on a line, is read as what it is. -/
theorem load_linesText {vs : List Value} (h : ∀ x ∈ vs, x.isLegibleRecord = true)
    (hlength : vs.length ≤ 1) : load (linesText vs) = .ok vs := by
  have hhas := has_linesText h
  match vs with
  | [] => rfl
  | [v] =>
    obtain ⟨es,rfl,hes⟩ := Value.map_of_isLegibleRecord (h v List.mem_cons_self)
    rw [List.flatMap_singleton] at hhas
    have hhas' := hhas
    rw [Value.tokens] at hhas'
    obtain ⟨n,hn⟩ := hhas'.exists_rounds
    simp only [load_ofString,loadCharacters,hn,Reader.values_single hes hhas n,bind,Except.bind]
    rfl
  | _ :: _ :: _ => simp at hlength

/-- Records on more than one line have no markers between them, so they are no documents. -/
theorem load_linesText_many {vs : List Value} (h : ∀ x ∈ vs, x.isLegibleRecord = true)
    (hlength : 2 ≤ vs.length) : ∃ e, load (linesText vs) = .error e := by
  have hhas := has_linesText h
  match vs with
  | v :: w :: vs =>
    obtain ⟨es,rfl,hes⟩ := Value.map_of_isLegibleRecord (h v List.mem_cons_self)
    obtain ⟨fs,rfl,-⟩ := Value.map_of_isLegibleRecord (h w (by simp))
    have hsplit : (Value.map es :: Value.map fs :: vs).flatMap Value.tokens =
        (Value.map es).tokens ++ .flowMapping ::
          (Value.openingTokens fs ++ vs.flatMap Value.tokens) := by
      simp [Value.tokens]
    rw [hsplit] at hhas
    have hhas' := hhas
    rw [Value.tokens,List.cons_append] at hhas'
    obtain ⟨n,hn⟩ := hhas'.exists_rounds
    obtain ⟨e,he⟩ := Reader.values_many hes hhas n
    refine ⟨e,?_⟩
    simp only [load_ofString,loadCharacters,hn,he,bind,Except.bind]
  | [_] => simp at hlength
  | [] => simp at hlength

end Yaml

end ShortVolume
