import ShortVolume.Volume.Meta
set_option autoImplicit false

/-!
Quantities have a text.

A number that stands for a quantity is written with one character at least, so a quantity is empty only as an
empty text.
-/

namespace ShortVolume

theorem Binary64.Decimal.text_ne_nil (d : Decimal) : d.text ≠ [] := by
  unfold Decimal.text
  simp only
  split <;> (try split) <;> (try split) <;> simp

theorem Binary64.text_ne_empty (x : Binary64) : x.text .plain ≠ "" := by
  unfold Binary64.text
  split
  · decide
  · split
    · split <;> decide
    · intro h
      have hnil := congrArg String.toList h
      split at hnil <;> split at hnil <;> simp [Decimal.text_ne_nil] at hnil

theorem Value.bare_ne_empty {v : Value} (h : Expected.quantity.accepts v = true)
    (hb : v.isBlank = false) : v.bare ≠ "" := by
  cases v with
  | text s => simpa [isBlank,bare] using hb
  | term t => simp [bare,Term.label]
  | int i =>
    simp only [bare,literal,literalIn,Int.toString_eq_repr,Int.repr_eq_if]
    split
    · exact mt Text.ofString_inj.mp Nat.repr_ne_empty
    · simp
  | float x => exact mt Text.ofString_inj.mp x.text_ne_empty
  | _ => simp [Expected.accepts] at h

end ShortVolume
