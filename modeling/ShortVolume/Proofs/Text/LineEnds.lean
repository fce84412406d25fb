import ShortVolume.Proofs.Text.Utf8
set_option autoImplicit false

/-!
What the bytes of a text file may differ in.

A text is read alike from a file that ends its lines with line feeds, with carriage returns or with
both, and that begins with the mark of UTF-8 or does not.
-/

namespace ShortVolume.Text

/-- How a file ends its lines. -/
inductive LineEnd where
  | lineFeed
  | carriageReturn
  | both
  deriving DecidableEq, Repr

namespace LineEnd

def chars : LineEnd → List Char
  | lineFeed => ['\n']
  | carriageReturn => ['\r']
  | both => ['\r','\n']

/-- The text with such line ends in the place of line feeds. -/
def ending (e : LineEnd) (s : List Char) : List Char :=
  s.flatMap (fun c => if c = '\n' then e.chars else [c])

/-- The bytes of a text in a file with such line ends, which may begin with the mark of UTF-8. -/
def bytes (e : LineEnd) (marked : Bool) (s : List Char) : List UInt8 :=
  (if marked then [0xEF,0xBB,0xBF] else []) ++ Utf8.encode (e.ending s)

theorem ending_cons (e : LineEnd) (c : Char) (r : List Char) :
    e.ending (c :: r) = (if c = '\n' then e.chars else [c]) ++ e.ending r :=
  List.flatMap_cons

/-- With carriage returns alone no line feed is left. -/
theorem not_mem_ending (s : List Char) : '\n' ∉ carriageReturn.ending s := by
  intro hmem
  obtain ⟨c,-,hc⟩ := List.mem_flatMap.mp hmem
  split at hc
  · simp [chars] at hc
  · next hne => exact hne (List.mem_singleton.mp hc).symm

theorem head?_ending (e : LineEnd) {s : List Char} (h : s.head? ≠ some '\ufeff') :
    (e.ending s).head? ≠ some '\ufeff' := by
  cases s with
  | nil => simp [ending]
  | cons c r =>
    rw [ending_cons]
    split
    · cases e <;> simp [chars]
    · simpa using h

end LineEnd

/-! ### Reading -/

theorem unifyLineEnds_cons {c : Char} (hc : c ≠ '\r') (r : List Char) :
    unifyLineEnds (c :: r) = c :: unifyLineEnds r := by
  rw [unifyLineEnds,if_neg hc]
  exact fun _ hreturn => absurd hreturn hc

theorem unifyLineEnds_return {r : List Char} (h : '\n' ∉ r) :
    unifyLineEnds ('\r' :: r) = '\n' :: unifyLineEnds r := by
  rw [unifyLineEnds,if_pos rfl]
  rintro r' - rfl
  exact h List.mem_cons_self

/-- A text without carriage returns comes back whatever its lines end with. -/
theorem unifyLineEnds_ending (e : LineEnd) {s : List Char} (h : '\r' ∉ s) :
    unifyLineEnds (e.ending s) = s := by
  induction s with
  | nil => rfl
  | cons c r ih =>
    have hc : c ≠ '\r' := fun heq => h (heq ▸ List.mem_cons_self)
    have hr := ih (fun hmem => h (List.mem_cons_of_mem c hmem))
    rw [LineEnd.ending_cons]
    by_cases hfeed : c = '\n'
    · subst hfeed
      rw [if_pos rfl]
      cases e with
      | lineFeed => exact (unifyLineEnds_cons hc _).trans (congrArg _ hr)
      | carriageReturn =>
        exact (unifyLineEnds_return (LineEnd.not_mem_ending r)).trans (congrArg _ hr)
      | both => exact congrArg _ hr
    · rw [if_neg hfeed]
      exact (unifyLineEnds_cons hc _).trans (congrArg _ hr)

/-- The bytes of a text begin with its first character. -/
theorem Utf8.step_of_encode {s : List Char} {b : UInt8} {bs : List UInt8}
    (h : encode s = b :: bs) : ∃ c n, s.head? = some c ∧ step (b :: bs) = .ok (c,n) := by
  cases s with
  | nil => cases h
  | cons c r =>
    have hencode : encode (c :: r) = encodeChar c ++ encode r := List.flatMap_cons
    rw [← h,hencode,step_encodeChar]
    exact ⟨c,_,rfl,rfl⟩

theorem Utf8.step_mark (r : List UInt8) :
    step (0xEF :: 0xBB :: 0xBF :: r) = .ok ('\ufeff',3) :=
  step_three (a := 15) (b := 0x3B) (d := 0x3F) (by decide) (by decide) (by decide) (by decide)
    (by decide) r

/-- The bytes of a text neither begin with the mark of UTF-8 nor stop inside it, unless the text begins
with the character that the mark stands for. -/
theorem decodeFile_encode {s : List Char} (h : s.head? ≠ some '\ufeff') :
    decodeFile (Utf8.encode s) = .ok (unifyLineEnds s) := by
  have hbroken {b : UInt8} {bs : List UInt8} (hbytes : Utf8.encode s = b :: bs)
      {defect : Defect × Nat} : Utf8.step (b :: bs) ≠ .error defect := by
    obtain ⟨c,n,-,hstep⟩ := Utf8.step_of_encode hbytes
    simp [hstep]
  unfold decodeFile
  split
  · next hbytes => exact absurd rfl (hbroken hbytes)
  · next hbytes => exact absurd rfl (hbroken hbytes)
  · split
    · next r hbytes =>
      obtain ⟨c,n,hc,hstep⟩ := Utf8.step_of_encode hbytes
      rw [Utf8.step_mark] at hstep
      cases hstep
      exact absurd hc h
    · simp only [Utf8.decode_encode]

theorem decodeFile_mark (s : List Char) :
    decodeFile (0xEF :: 0xBB :: 0xBF :: Utf8.encode s) = .ok (unifyLineEnds s) := by
  simp only [decodeFile,Utf8.decode_encode]

/-- A text that has no carriage returns and no mark of its own is read from every file of it. -/
theorem decodeFile_bytes (e : LineEnd) (marked : Bool) {s : List Char} (hreturn : '\r' ∉ s)
    (hmark : s.head? ≠ some '\ufeff') : decodeFile (e.bytes marked s) = .ok s := by
  cases marked with
  | false =>
    have hread := decodeFile_encode (e.head?_ending hmark)
    rwa [unifyLineEnds_ending e hreturn] at hread
  | true =>
    have hread := decodeFile_mark (e.ending s)
    rwa [unifyLineEnds_ending e hreturn] at hread

end ShortVolume.Text
