import ShortVolume.Proofs.Json.RoundTrip
import ShortVolume.Proofs.Record.Reading
set_option autoImplicit false

/-!
The letters in the text of a record.

Whatever holds of the characters of ASCII that can be seen, of the line breaks of a layout and of all
letters between quotes holds of every letter in the text of a record. In the layout without line breaks the
text has no line feed, since a line feed between quotes is escaped; and if the texts of a record are whole,
then so is its own.
-/

namespace ShortVolume.Json

/-! ### Records -/

section Letters
variable {inClass : Text → Prop} {l : Layout} {holds : Letter → Prop}
  (hseen : ∀ c : Char, ' '.toNat ≤ c.toNat → c.toNat < 0x7F → holds c)
  (hbreak : ∀ depth, ∀ c ∈ l.breakAt depth, holds c)
  (hquoted : ∀ s, inClass s → ∀ c ∈ quoted l.ascii s, holds c)

/-- All letters of the text that a value has hold. -/
def AllLetters (l : Layout) (holds : Letter → Prop) (v : Value) : Prop :=
  ∀ depth cs, print l depth v = .ok cs → ∀ c ∈ cs, holds c

include hseen in
theorem forall_mem_integer {i : Int} {cs : List Letter} (h : integer i = .ok cs) :
    ∀ c ∈ cs, holds c := by
  rw [integer] at h
  by_cases hi : hasDigits i = true
  · rw [if_pos hi] at h
    obtain rfl := Except.ok.inj h
    rw [letters_toString]
    intro c hc
    rcases List.mem_append.mp hc with hc | hc
    · obtain ⟨-,rfl⟩ : _ ∧ c = .char '-' := by simpa [sign] using hc
      exact hseen '-' (by decide) (by decide)
    · obtain ⟨d,hd,rfl⟩ := List.mem_map.mp hc
      have hdigit : d.isDigit = true := isDigit_of_mem_digits hc
      simp only [Char.isDigit,Bool.and_eq_true,decide_eq_true_eq,UInt32.le_iff_toNat_le] at hdigit
      exact hseen d (Nat.le_trans (by decide) hdigit.1) (Nat.lt_of_le_of_lt hdigit.2 (by decide))
  · rw [if_neg hi] at h
    contradiction

include hseen hbreak in
theorem forall_mem_separator (depth : Nat) : ∀ c ∈ l.separator depth, holds c := by
  have hcomma : holds (.char ',') := hseen ',' (by decide) (by decide)
  unfold Layout.separator
  split
  · exact List.forall_mem_cons.mpr
      ⟨hcomma,List.forall_mem_singleton.mpr (hseen ' ' (by decide) (by decide))⟩
  · exact List.forall_mem_cons.mpr ⟨hcomma,hbreak depth⟩

include hseen hbreak hquoted in
theorem forall_mem_members {ms : List (Text × Value)} (hclass : ∀ m ∈ ms, inClass m.1)
    (h : ∀ m ∈ ms, AllLetters l holds m.2) {depth : Nat} {cs : List Letter}
    (hcs : printMembers l depth (Entries.named ms) = .ok cs) : ∀ c ∈ cs, holds c := by
  induction ms generalizing cs with
  | nil =>
    cases hcs
    exact nofun
  | cons m ms ih =>
    obtain ⟨hm,hclassRest⟩ := List.forall_mem_cons.mp hclass
    obtain ⟨hv,hrest⟩ := List.forall_mem_cons.mp h
    have hcolon : holds (.char ':') := hseen ':' (by decide) (by decide)
    have hspace : holds (.char ' ') := hseen ' ' (by decide) (by decide)
    -- A member that others follow has the separator behind it.
    cases ms with
    | nil =>
      obtain ⟨key,hkey,hcs⟩ := Except.bind_eq_ok_iff.mp hcs
      obtain ⟨item,hitem,hcs⟩ := Except.bind_eq_ok_iff.mp hcs
      cases hkey
      cases hcs
      rw [List.forall_mem_append,List.forall_mem_cons,List.forall_mem_cons]
      exact ⟨hquoted _ hm,hcolon,hspace,hv depth item hitem⟩
    | cons m ms =>
      obtain ⟨key,hkey,hcs⟩ := Except.bind_eq_ok_iff.mp hcs
      obtain ⟨item,hitem,hcs⟩ := Except.bind_eq_ok_iff.mp hcs
      obtain ⟨others,hothers,hcs⟩ := Except.bind_eq_ok_iff.mp hcs
      cases hkey
      cases hcs
      rw [List.forall_mem_append,List.forall_mem_cons,List.forall_mem_cons,List.forall_mem_append,
        List.forall_mem_append]
      exact ⟨hquoted _ hm,hcolon,hspace,
        ⟨hv depth item hitem,forall_mem_separator hseen hbreak depth⟩,ih hclassRest hrest hothers⟩

include hseen hbreak hquoted in
theorem IsRecord.allLetters {v : Value} (h : IsRecord inClass v) : AllLetters l holds v := by
  induction h with
  | text hs =>
    intro depth cs hcs
    cases hcs
    exact hquoted _ hs
  | int hi => exact fun _ _ => forall_mem_integer hseen
  | bool b =>
    intro depth cs hcs
    have hword : (if b then "true" else "false").toList.all (fun c =>
        ' '.toNat ≤ c.toNat && c.toNat < 0x7F) = true := by
      cases b <;> decide
    have hletters : ∀ c ∈ Text.letters (if b then "true" else "false").toList, holds c := by
      refine List.forall_mem_map.mpr (fun c hc => ?_)
      have hplain := List.all_eq_true.mp hword c hc
      simp only [Bool.and_eq_true,decide_eq_true_eq] at hplain
      exact hseen c hplain.1 hplain.2
    cases b <;> cases hcs <;> exact hletters
  | @map ms _ hclass _ ih =>
    intro depth cs hcs
    have hopen : holds (.char '\x7b') := hseen '\x7b' (by decide) (by decide)
    have hclose : holds (.char '\x7d') := hseen '\x7d' (by decide) (by decide)
    cases ms with
    | nil =>
      cases hcs
      exact List.forall_mem_cons.mpr ⟨hopen,List.forall_mem_singleton.mpr hclose⟩
    | cons m ms =>
      obtain ⟨body,hbody,hcs⟩ := Except.bind_eq_ok_iff.mp hcs
      cases hcs
      have hmembers := forall_mem_members hseen hbreak hquoted hclass ih hbody
      simp only [List.forall_mem_cons,List.forall_mem_append]
      exact ⟨hopen,⟨⟨hbreak (depth + 1),hmembers⟩,hbreak depth⟩,hclose,nofun⟩

end Letters

/-! ### Line feeds -/

theorem lineFeed_not_mem_codeEscape {n : Nat} (h : n < 0x10000) : '\n' ∉ codeEscape n := by
  have hdigit {m : Nat} (hm : m < 0x10) : '\n' ≠ Nat.digitChar m := by
    intro hfeed
    have hvalue := hexValue?_digitChar hm
    rw [← hfeed] at hvalue
    exact nomatch hvalue
  have hdigits : Text.hex 4 n = [Nat.digitChar (n / 0x1000), Nat.digitChar (n / 0x100 % 0x10),
      Nat.digitChar (n / 0x10 % 0x10), Nat.digitChar (n % 0x10)] := hex_eq h
  rw [codeEscape,hdigits]
  simp only [List.mem_cons,List.not_mem_nil,not_or,not_false_eq_true,and_true]
  exact ⟨by decide,by decide,hdigit (by omega),hdigit (by omega),hdigit (by omega),
    hdigit (by omega)⟩

theorem lineFeed_not_mem_escapeChar (ascii : Bool) (c : Char) : '\n' ∉ escapeChar ascii c := by
  have hvalid : c.toNat < 0xD800 ∨ 0xDFFF < c.toNat ∧ c.toNat < 0x110000 := c.valid
  unfold escapeChar
  split
  case h_8 _ hfeed _ _ _ _ =>
    split
    · exact lineFeed_not_mem_codeEscape (by omega)
    · split
      · unfold asciiEscape
        simp only
        split
        · exact lineFeed_not_mem_codeEscape (by omega)
        · rw [List.mem_append,not_or]
          exact ⟨lineFeed_not_mem_codeEscape (by omega),lineFeed_not_mem_codeEscape (by omega)⟩
      · rw [List.mem_singleton]
        exact fun h => hfeed h.symm
  all_goals decide

theorem lineFeed_not_mem_escapeLetter (ascii : Bool) (l : Letter) :
    .char '\n' ∉ escapeLetter ascii l := by
  cases l with
  | char c =>
    rw [escapeLetter,Text.char_mem_letters]
    exact lineFeed_not_mem_escapeChar ascii c
  | half h =>
    rw [escapeLetter]
    split
    · rw [Text.char_mem_letters]
      exact lineFeed_not_mem_codeEscape (by simp only [Letter.toNat]; omega)
    · simp

theorem lineFeed_not_mem_quoted (ascii : Bool) (s : Text) : .char '\n' ∉ quoted ascii s := by
  simp only [quoted,List.mem_cons,List.mem_append,List.mem_flatMap,List.not_mem_nil,or_false,not_or]
  refine ⟨by decide,?_,by decide⟩
  rintro ⟨c,-,hc⟩
  exact lineFeed_not_mem_escapeLetter ascii c hc

/-- The text of a record without line breaks is one line. -/
theorem IsRecord.lineFeed_not_mem {inClass : Text → Prop} {v : Value} (h : IsRecord inClass v)
    {depth : Nat} {cs : List Letter} (hcs : print Layout.line depth v = .ok cs) :
    .char '\n' ∉ cs := by
  have hall : AllLetters Layout.line (fun c => c ≠ .char '\n') v := by
    refine h.allLetters (fun c hc _ hfeed => ?_) (fun _ => nofun) (fun s _ c hc hfeed => ?_)
    · obtain rfl := Letter.char.inj hfeed
      exact absurd hc (by decide)
    · exact lineFeed_not_mem_quoted _ s (hfeed ▸ hc)
  exact fun hmem => hall depth cs hcs _ hmem rfl

/-! ### Whole texts -/

theorem whole_quoted (ascii : Bool) {s : Text} (hs : s.isWhole = true) :
    ∀ c ∈ quoted ascii s, ∃ d, c = .char d := by
  have hletters (cs : List Char) : ∀ c ∈ Text.letters cs, ∃ d, c = .char d :=
    List.forall_mem_map.mpr (fun d _ => ⟨d,rfl⟩)
  simp only [quoted,List.forall_mem_cons,List.forall_mem_append,List.forall_mem_flatMap]
  refine ⟨⟨_,rfl⟩,fun l hl => ?_,⟨_,rfl⟩,by simp⟩
  obtain ⟨c,rfl⟩ := Text.isSome_string?_iff.mp hs l hl
  exact hletters (escapeChar ascii c)

/-- The text of a record of whole texts is whole. -/
theorem IsRecord.isWhole {v : Value} (h : IsRecord (fun s => s.isWhole = true) v) {l : Layout}
    {depth : Nat} {cs : List Letter} (hcs : print l depth v = .ok cs) :
    Text.isWhole ⟨cs⟩ = true := by
  have hbreak (depth : Nat) : ∀ c ∈ l.breakAt depth, ∃ d, c = .char d := by
    intro c hc
    rcases isSpace_cases (isGap_breakAt l depth c hc) with rfl | rfl | rfl | rfl <;> exact ⟨_,rfl⟩
  exact Text.isSome_string?_iff.mpr
    (h.allLetters (fun c _ _ => ⟨c,rfl⟩) hbreak (fun _ => whole_quoted l.ascii) depth cs hcs)

end ShortVolume.Json
