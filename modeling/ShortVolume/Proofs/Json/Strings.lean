import ShortVolume.Json.Parse
import ShortVolume.Json.Print
set_option autoImplicit false

/-!
Strings of JSON that are written and read.

Each letter is written as itself or as an escape, and either is read as that letter by one step of the
reader. So a string is read from between its quotes, whatever follows them. Halves have to be written as
themselves: the escapes of two of them could be read as those of one character.
-/

namespace ShortVolume.Json

/-! ### Hexadecimal digits -/

theorem hexValue?_digitChar {n : Nat} (h : n < 0x10) : hexValue? (.char (Nat.digitChar n)) = some n := by
  have hall : ∀ m : Fin 0x10, hexValue? (.char (Nat.digitChar m)) = some m.val := by decide +kernel
  exact hall ⟨n,h⟩

/-- Small numbers have leading zeros. -/
theorem hex_eq {n : Nat} (h : n < 0x10000) :
    Text.hex 4 n = [Nat.digitChar (n / 0x1000), Nat.digitChar (n / 0x100 % 0x10),
      Nat.digitChar (n / 0x10 % 0x10), Nat.digitChar (n % 0x10)] := by
  have hmore {m : Nat} (hm : 0x10 ≤ m) :
      Nat.toDigits 0x10 m = Nat.toDigits 0x10 (m / 0x10) ++ [Nat.digitChar (m % 0x10)] :=
    Nat.toDigits_of_base_le (by decide) hm
  have hlast {m : Nat} (hm : m < 0x10) : Nat.toDigits 0x10 m = [Nat.digitChar m] :=
    Nat.toDigits_of_lt_base hm
  unfold Text.hex
  -- The number has one digit, two, three or four.
  by_cases h1 : n < 0x10
  · rw [hlast h1,show n / 0x1000 = 0 by omega,show n / 0x100 % 0x10 = 0 by omega,
      show n / 0x10 % 0x10 = 0 by omega,show n % 0x10 = n by omega]
    rfl
  by_cases h2 : n < 0x100
  · rw [hmore (by omega),hlast (by omega),show n / 0x1000 = 0 by omega,
      show n / 0x100 % 0x10 = 0 by omega,show n / 0x10 % 0x10 = n / 0x10 by omega]
    rfl
  by_cases h3 : n < 0x1000
  · rw [hmore (by omega),hmore (by omega),hlast (by omega),show n / 0x1000 = 0 by omega,
      show n / 0x10 / 0x10 = n / 0x100 % 0x10 by omega]
    rfl
  · rw [hmore (by omega),hmore (by omega),hmore (by omega),hlast (by omega),
      show n / 0x10 / 0x10 / 0x10 = n / 0x1000 by omega,show n / 0x10 / 0x10 = n / 0x100 by omega]
    rfl

theorem length_hex {n : Nat} (h : n < 0x10000) : (Text.letters (Text.hex 4 n)).length = 4 := by
  rw [hex_eq h]
  rfl

theorem hexCode?_hex {n : Nat} (h : n < 0x10000) :
    hexCode? (Text.letters (Text.hex 4 n)) = some n := by
  rw [hex_eq h]
  simp only [Text.letters_cons,Text.letters_nil]
  rw [hexCode?,hexValue?_digitChar (by omega),hexValue?_digitChar (by omega),
    hexValue?_digitChar (by omega),hexValue?_digitChar (by omega)]
  simp
  omega

/-! ### One letter -/

section Step
variable (start fuel place : Nat) {rest : List Letter} (hrest : rest ≠ []) (done : List Letter)
include hrest

/-- The code of a character with an escape of its own. -/
theorem stringFrom_codeEscape {n : Nat} (hn : n < 0x10000) (hhigh : isHighSurrogate n = false) :
    stringFrom start (fuel + 1) ⟨place,Text.letters (codeEscape n) ++ rest⟩ done =
      stringFrom start fuel ⟨place + 6,rest⟩ (Letter.ofNat n :: done) := by
  rw [codeEscape,Text.letters_cons,Text.letters_cons,List.cons_append,List.cons_append]
  have hdigits := length_hex hn
  have hcode := hexCode?_hex hn
  generalize Text.letters (Text.hex 4 n) = digits at hdigits hcode
  have hlength : ¬ (digits ++ rest).length ≤ 4 := by
    have := List.length_pos_iff.mpr hrest
    rw [List.length_append,hdigits]
    omega
  rw [stringFrom]
  simp only [if_neg hlength,List.take_left' hdigits,hcode,hhigh,List.drop_left' hdigits]
  rfl

/-- The codes of a pair. -/
theorem stringFrom_pair {n : Nat} (hn : n < 0x100000) :
    stringFrom start (fuel + 1) ⟨place,Text.letters (codeEscape (0xD800 + n / 0x400)) ++
        (Text.letters (codeEscape (0xDC00 + n % 0x400)) ++ rest)⟩ done =
      stringFrom start fuel ⟨place + 12,rest⟩ (Letter.ofNat (0x10000 + n) :: done) := by
  have hfirst : 0xD800 + n / 0x400 < 0x10000 := by omega
  have hsecond : 0xDC00 + n % 0x400 < 0x10000 := by omega
  have hhigh : isHighSurrogate (0xD800 + n / 0x400) = true := by
    simp [isHighSurrogate]
    omega
  have hlow : isLowSurrogate (0xDC00 + n % 0x400) = true := by
    simp [isLowSurrogate]
    omega
  have hpos := List.length_pos_iff.mpr hrest
  have hhalf : secondHalf? (place + 6) (Text.letters (codeEscape (0xDC00 + n % 0x400)) ++ rest) =
      .ok (some (0xDC00 + n % 0x400)) := by
    have hlength : ¬ (Text.letters (Text.hex 4 (0xDC00 + n % 0x400)) ++ rest).length ≤ 4 := by
      rw [List.length_append,length_hex hsecond]
      omega
    rw [codeEscape,Text.letters_cons,Text.letters_cons,List.cons_append,List.cons_append,
      secondHalf?,if_neg hlength,List.take_left' (length_hex hsecond),hexCode?_hex hsecond]
    simp only [hlow,if_true]
  have hlength : (Text.letters (codeEscape (0xDC00 + n % 0x400))).length = 6 := by
    rw [codeEscape,Text.letters_cons,Text.letters_cons,List.length_cons,List.length_cons,
      length_hex hsecond]
  generalize Text.letters (codeEscape (0xDC00 + n % 0x400)) = half at hhalf hlength ⊢
  rw [codeEscape,Text.letters_cons,Text.letters_cons,List.cons_append,List.cons_append]
  have hdigits := length_hex hfirst
  have hfirstCode := hexCode?_hex hfirst
  generalize Text.letters (Text.hex 4 (0xD800 + n / 0x400)) = digits at hdigits hfirstCode
  have hmore : ¬ (digits ++ (half ++ rest)).length ≤ 4 := by
    rw [List.length_append,List.length_append,hdigits]
    omega
  have hdrop : (digits ++ (half ++ rest)).drop 10 = rest := by
    rw [← List.append_assoc]
    exact List.drop_left' (by rw [List.length_append,hdigits,hlength])
  have hcode : 0x10000 + (0xD800 + n / 0x400 - 0xD800) * 0x400 +
      (0xDC00 + n % 0x400 - 0xDC00) = 0x10000 + n := by
    omega
  rw [stringFrom]
  simp only [if_neg hmore,List.take_left' hdigits,hfirstCode,hhigh,if_true,List.drop_left' hdigits,
    hhalf,hdrop,hcode]

/-- One step reads a character that was written, whether or not it was escaped. -/
theorem stringFrom_escapeChar (ascii : Bool) (c : Char) :
    ∃ p, stringFrom start (fuel + 1) ⟨place,Text.letters (escapeChar ascii c) ++ rest⟩ done =
      stringFrom start fuel ⟨p,rest⟩ (.char c :: done) := by
  have hvalid : c.toNat < 0xD800 ∨ 0xDFFF < c.toNat ∧ c.toNat < 0x110000 := c.valid
  have hcode (h : c.toNat < 0x10000) : ∃ p,
      stringFrom start (fuel + 1) ⟨place,Text.letters (codeEscape c.toNat) ++ rest⟩ done =
        stringFrom start fuel ⟨p,rest⟩ (.char c :: done) := by
    have hhigh : isHighSurrogate c.toNat = false := by
      simp [isHighSurrogate]
      omega
    have h := stringFrom_codeEscape start fuel place hrest done h hhigh
    rw [Letter.ofNat_toNat_char] at h
    exact ⟨_,h⟩
  unfold escapeChar
  split
  · exact ⟨_,rfl⟩
  · exact ⟨_,rfl⟩
  · exact ⟨_,rfl⟩
  · exact ⟨_,rfl⟩
  · exact ⟨_,rfl⟩
  · exact ⟨_,rfl⟩
  · exact ⟨_,rfl⟩
  · next hquote hbackslash _ _ _ _ _ =>
    split
    · exact hcode (by omega)
    · next hplain =>
      split
      · unfold asciiEscape
        simp only
        split
        · exact hcode (by assumption)
        · rw [Text.letters_append,List.append_assoc]
          have h := stringFrom_pair start fuel place hrest done (n := c.toNat - 0x10000) (by omega)
          rw [show 0x10000 + (c.toNat - 0x10000) = c.toNat by omega,Letter.ofNat_toNat_char] at h
          exact ⟨_,h⟩
      · refine ⟨place + 1,?_⟩
        rw [Text.letters_cons,Text.letters_nil,List.singleton_append,stringFrom]
        · rw [Letter.toNat_char,if_neg hplain]
        · exact fun h => hquote (Letter.char.inj h)
        · exact fun h => hbackslash (Letter.char.inj h)

/-- A letter that is not to be escaped though it is a half. -/
theorem stringFrom_escapeLetter {ascii : Bool} {l : Letter} (hl : ascii = false ∨ ∃ c, l = .char c) :
    ∃ p, stringFrom start (fuel + 1) ⟨place,escapeLetter ascii l ++ rest⟩ done =
      stringFrom start fuel ⟨p,rest⟩ (l :: done) := by
  cases l with
  | char c => exact stringFrom_escapeChar start fuel place hrest done ascii c
  | half h =>
    obtain rfl : ascii = false := hl.resolve_right (by simp)
    have hcode : ¬ (Letter.half h).toNat < 0x20 := by simp only [Letter.toNat]; omega
    refine ⟨place + 1,?_⟩
    rw [escapeLetter,if_neg (by decide),List.singleton_append,stringFrom,if_neg hcode]
    · simp
    · simp

end Step

/-! ### Strings -/

theorem escapeChar_ne_nil (ascii : Bool) (c : Char) : escapeChar ascii c ≠ [] := by
  have hcode (n : Nat) : codeEscape n ≠ [] := List.cons_ne_nil _ _
  unfold escapeChar
  split
  case h_8 =>
    split
    · exact hcode _
    · split
      · unfold asciiEscape
        simp only
        split
        · exact hcode _
        · exact List.append_ne_nil_of_left_ne_nil (hcode _) _
      · simp
  all_goals simp

theorem escapeLetter_ne_nil (ascii : Bool) (l : Letter) : escapeLetter ascii l ≠ [] := by
  cases l with
  | char c =>
    rw [escapeLetter,Text.letters,Ne,List.map_eq_nil_iff]
    exact escapeChar_ne_nil ascii c
  | half h =>
    rw [escapeLetter]
    split <;> exact List.cons_ne_nil _ _

theorem length_le_escaped (ascii : Bool) (s : List Letter) :
    s.length ≤ (s.flatMap (escapeLetter ascii)).length := by
  induction s with
  | nil => exact Nat.le_refl _
  | cons l s ih =>
    have hpos := List.length_pos_iff.mpr (escapeLetter_ne_nil ascii l)
    rw [List.flatMap_cons,List.length_append,List.length_cons]
    omega

theorem stringFrom_escaped {ascii : Bool} (start : Nat) {s : List Letter}
    (hs : ascii = false ∨ ∀ l ∈ s, ∃ c, l = .char c) (tail : List Letter) (fuel place : Nat)
    (hfuel : s.length < fuel) (done : List Letter) :
    ∃ p, stringFrom start fuel ⟨place,s.flatMap (escapeLetter ascii) ++ .char '"' :: tail⟩ done =
      .ok (done.reverse ++ s,⟨p,tail⟩) := by
  induction s generalizing fuel place done with
  | nil =>
    cases fuel with
    | zero => contradiction
    | succ fuel => exact ⟨place + 1,by rw [List.append_nil]; rfl⟩
  | cons l s ih =>
    cases fuel with
    | zero => contradiction
    | succ fuel =>
      have hrest : s.flatMap (escapeLetter ascii) ++ .char '"' :: tail ≠ [] := by simp
      have hfirst := hs.imp_right (fun h => h l List.mem_cons_self)
      have hothers := hs.imp_right (fun h m hm => h m (List.mem_cons_of_mem l hm))
      obtain ⟨p,hp⟩ := stringFrom_escapeLetter start fuel place hrest done hfirst
      obtain ⟨q,hq⟩ := ih hothers fuel p (Nat.lt_of_succ_lt_succ hfuel) (l :: done)
      refine ⟨q,?_⟩
      rw [List.flatMap_cons,List.append_assoc,hp,hq,List.reverse_cons,List.append_assoc]
      rfl

/-- A string is read from between its quotes. -/
theorem string_quoted {ascii : Bool} {s : Text} (hs : ascii = false ∨ s.isWhole = true) (place : Nat)
    (tail : List Letter) :
    ∃ p, string ⟨place,s.toList.flatMap (escapeLetter ascii) ++ .char '"' :: tail⟩ =
      .ok (s,⟨p,tail⟩) := by
  have hfuel : s.toList.length <
      (s.toList.flatMap (escapeLetter ascii) ++ .char '"' :: tail).length + 1 := by
    have := length_le_escaped ascii s.toList
    rw [List.length_append]
    omega
  obtain ⟨p,hp⟩ := stringFrom_escaped (place - 1) (hs.imp_right Text.isSome_string?_iff.mp) tail _
    place hfuel []
  exact ⟨p,by rw [string,hp]; rfl⟩

end ShortVolume.Json
