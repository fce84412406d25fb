import ShortVolume.Proofs.Text.Split
import ShortVolume.Volume
set_option autoImplicit false

/-!
The two compact texts of a record: the selector with colons and the modes with commas.

Each is read back from what is written, and what is read is written as the text that it was read
from, so that a text stands for at most one list.
-/

namespace ShortVolume

/-! ### Selectors -/

theorem holdsSeparator_eq_false_iff (s : Text) :
    holdsSeparator s = false ↔ .char selectorSeparator ∉ s.toList := by
  simp [holdsSeparator]

@[simp] theorem joinSegments_segments (s : Text) : joinSegments (segments s) = s := by
  simp [joinSegments,segments,List.map_map,Function.comp_def]

theorem segments_joinSegments {selector : List Text} (hne : selector ≠ [])
    (h : ∀ s ∈ selector, holdsSeparator s = false) :
    segments (joinSegments selector) = selector := by
  have hfree : ∀ l ∈ selector.map Text.toList, .char selectorSeparator ∉ l := by
    intro l hl
    obtain ⟨s,hs,rfl⟩ := List.mem_map.mp hl
    exact (holdsSeparator_eq_false_iff s).mp (h s hs)
  simp only [segments,joinSegments]
  rw [Text.splitOn_joinWith (by simpa using hne) hfree]
  simp [List.map_map,Function.comp_def]

theorem holdsSeparator_of_mem_segments {s segment : Text} (h : segment ∈ segments s) :
    holdsSeparator segment = false := by
  obtain ⟨l,hl,rfl⟩ := List.mem_map.mp h
  rw [holdsSeparator_eq_false_iff]
  exact Text.not_mem_of_mem_splitOn hl

/-! ### Modes -/

namespace AccessMode

theorem symbol_free (m : AccessMode) : ',' ∉ m.symbol.toList := by
  cases m <;> decide

theorem symbol_ne_nil (m : AccessMode) : m.symbol.toList ≠ [] := by
  cases m <;> decide

theorem ofTokens_symbols (ms : List AccessMode) :
    ofTokens (ms.map (fun m => m.symbol)) = .ok ms := by
  induction ms with
  | nil => rfl
  | cons m ms ih => simp [ofTokens,ih]

theorem symbols_of_ofTokens {ts : List Text} {ms : List AccessMode}
    (h : ofTokens ts = .ok ms) : ts = ms.map (fun m => (m.symbol : Text)) := by
  induction ts generalizing ms with
  | nil =>
    cases h
    rfl
  | cons t ts ih =>
    unfold ofTokens at h
    split at h
    · contradiction
    · next m hm =>
      split at h
      · next rest hrest =>
        cases h
        rw [List.map_cons,← symbol_of_ofSymbol? hm,ih hrest]
      · contradiction

theorem letters_compact (ms : List AccessMode) :
    Text.letters (compact ms).toList =
      Text.joinWith (.char ',') (ms.map (fun m => Text.letters m.symbol.toList)) := by
  simp [compact,Text.letters_joinWith,Function.comp_def]

/-- Only no modes have the empty compact form. -/
theorem compact_eq_empty_iff (ms : List AccessMode) : compact ms = "" ↔ ms = [] := by
  constructor
  · intro h
    cases ms with
    | nil => rfl
    | cons m ms =>
      have hnil := congrArg String.toList h
      simp only [compact,String.toList_ofList,List.map_cons] at hnil
      cases ms with
      | nil => exact absurd hnil (symbol_ne_nil m)
      | cons m' ms => simp [Text.joinWith] at hnil
  · rintro rfl
    rfl

@[simp] theorem ofCompact_compact (ms : List AccessMode) : ofCompact (compact ms) = .ok ms := by
  cases ms with
  | nil => rfl
  | cons m ms =>
    have hne : compact (m :: ms) ≠ "" := by simp [compact_eq_empty_iff]
    have hfree : ∀ l ∈ (m :: ms).map (fun m => Text.letters m.symbol.toList), .char ',' ∉ l := by
      intro l hl
      obtain ⟨m',-,rfl⟩ := List.mem_map.mp hl
      exact mt Text.char_mem_letters.mp m'.symbol_free
    have hsplit := Text.splitOn_joinWith (by simp) hfree
    rw [ofCompact,if_neg (mt Text.ofString_inj.mp hne),Text.toList_ofString,letters_compact,hsplit,
      List.map_map]
    exact ofTokens_symbols (m :: ms)

/-- Only the compact form of modes is read as those modes. -/
theorem compact_of_ofCompact {s : Text} {ms : List AccessMode} (h : ofCompact s = .ok ms) :
    compact ms = s := by
  unfold ofCompact at h
  split at h
  · next hs =>
    cases h
    exact hs.symm
  · have htokens := symbols_of_ofTokens h
    have hsplit : ms.map (fun m => Text.letters m.symbol.toList) =
        Text.splitOn (.char ',') s.toList := by
      have := congrArg (List.map Text.toList) htokens
      simpa [List.map_map,Function.comp_def,Text.toList_ofString] using this.symm
    rw [← Text.toList_inj,Text.toList_ofString,letters_compact,hsplit,Text.joinWith_splitOn]

end AccessMode

end ShortVolume
