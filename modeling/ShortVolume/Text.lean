set_option autoImplicit false

/-!
What a text is: a list of letters.

A letter is a character, or half of a pair: one of the code points that stand for a character only two
by two. Nothing but an escape puts a half into a text, and a text that holds one is no string: it has no
bytes, and no console shows it. Main statement: a text is that of a string exactly when it is whole.
-/

namespace ShortVolume

/-- Half of a pair, by its distance from the first of them. -/
abbrev Half := Fin 0x800

inductive Letter where
  | char (c : Char)
  | half (h : Half)
  deriving DecidableEq, Repr, Inhabited

namespace Letter

instance : Coe Char Letter := ⟨char⟩

/-- The code point. -/
def toNat : Letter → Nat
  | char c => c.toNat
  | half h => 0xD800 + h

def ofNat (n : Nat) : Letter :=
  if h : 0xD800 ≤ n ∧ n < 0xE000 then half ⟨n - 0xD800, by omega⟩ else char (Char.ofNat n)

def char? : Letter → Option Char
  | char c => some c
  | half _ => none

/-- Whether it is a character of a class. A half is in none. -/
def is (inClass : Char → Bool) : Letter → Bool
  | char c => inClass c
  | half _ => false

@[simp] theorem toNat_char (c : Char) : (char c).toNat = c.toNat := rfl

theorem ofNat_toNat_char (c : Char) : ofNat c.toNat = char c := by
  have hvalid : c.toNat < 0xD800 ∨ 0xDFFF < c.toNat ∧ c.toNat < 0x110000 := c.valid
  rw [ofNat,dif_neg (by omega),Char.ofNat_toNat]

@[simp] theorem is_char (inClass : Char → Bool) (c : Char) : (char c).is inClass = inClass c := rfl

end Letter

structure Text where
  ofList ::
  toList : List Letter
  deriving DecidableEq, Repr, Inhabited

namespace Text

/-- The letters of characters. -/
def letters (cs : List Char) : List Letter := cs.map .char

/-- The text of a string. -/
@[coe] def ofString (s : String) : Text := ⟨letters s.toList⟩

instance : Coe String Text := ⟨ofString⟩

instance : Append Text := ⟨fun s t => ⟨s.toList ++ t.toList⟩⟩

def length (t : Text) : Nat := t.toList.length

def isEmpty (t : Text) : Bool := t.toList.isEmpty

/-- The texts with another one between two of them. -/
def intercalate (sep : Text) (ts : List Text) : Text :=
  ⟨sep.toList.intercalate (ts.map toList)⟩

/-- The characters that letters are, unless one of them is a half. -/
def chars? : List Letter → Option (List Char)
  | [] => some []
  | .char c :: r => (chars? r).map (c :: ·)
  | .half _ :: _ => none

/-- The string that a whole text is. -/
def string? (t : Text) : Option String := (chars? t.toList).map String.ofList

/-- No letter is a half. -/
def isWhole (t : Text) : Bool := t.string?.isSome

/-- The string in which characters stand for halves. -/
def standing (mark : Half → Char) (t : Text) : String :=
  String.ofList (t.toList.map (fun
    | .char c => c
    | .half h => mark h))

@[ext] theorem ext {s t : Text} (h : s.toList = t.toList) : s = t := by
  cases s
  cases t
  exact congrArg ofList h

theorem toList_inj {s t : Text} : s.toList = t.toList ↔ s = t := ⟨ext,congrArg toList⟩

@[simp] theorem toList_ofList (cs : List Letter) : (ofList cs).toList = cs := rfl

@[simp] theorem ofList_toList (t : Text) : ofList t.toList = t := rfl

@[simp] theorem toList_append (s t : Text) : (s ++ t).toList = s.toList ++ t.toList := rfl

@[simp] theorem letters_nil : letters [] = [] := rfl

@[simp] theorem letters_cons (c : Char) (cs : List Char) :
    letters (c :: cs) = .char c :: letters cs := rfl

@[simp] theorem letters_append (cs ds : List Char) :
    letters (cs ++ ds) = letters cs ++ letters ds := List.map_append

theorem letters_inj {cs ds : List Char} : letters cs = letters ds ↔ cs = ds :=
  List.map_inj_right (fun _ _ => Letter.char.inj)

@[simp] theorem char_mem_letters {c : Char} {cs : List Char} : .char c ∈ letters cs ↔ c ∈ cs := by
  simp [letters]

@[simp] theorem length_letters (cs : List Char) : (letters cs).length = cs.length := List.length_map _

@[simp] theorem chars?_letters (cs : List Char) : chars? (letters cs) = some cs := by
  induction cs with
  | nil => rfl
  | cons c cs ih => simp [chars?,ih]

theorem chars?_eq_some_iff {ls : List Letter} {cs : List Char} :
    chars? ls = some cs ↔ ls = letters cs := by
  refine ⟨fun h => ?_,fun h => h ▸ chars?_letters cs⟩
  induction ls generalizing cs with
  | nil =>
    cases h
    rfl
  | cons l ls ih =>
    cases l with
    | char c =>
      obtain ⟨ds,hds,rfl⟩ := Option.map_eq_some_iff.mp h
      rw [ih hds,letters_cons]
    | half _ => contradiction

theorem toList_ofString (s : String) : (ofString s).toList = letters s.toList := rfl

@[simp] theorem ofString_inj {s t : String} : ofString s = ofString t ↔ s = t := by
  rw [← toList_inj,toList_ofString,toList_ofString,letters_inj,String.toList_inj]

@[simp] theorem ofString_append (s t : String) : ofString (s ++ t) = ofString s ++ ofString t := by
  ext1
  simp [toList_ofString]

@[simp] theorem append_eq_empty_iff {s t : Text} : s ++ t = "" ↔ s = "" ∧ t = "" := by
  simp only [← toList_inj,toList_append]
  exact List.append_eq_nil_iff

theorem intercalate_empty (ts : List Text) : intercalate "" ts = ⟨(ts.map toList).flatten⟩ := by
  have hnil (ls : List (List Letter)) : ([] : List Letter).intercalate ls = ls.flatten := by
    induction ls with
    | nil => rfl
    | cons l ls ih =>
      cases ls with
      | nil => simp
      | cons m ls => simp [ih]
  exact congrArg ofList (hnil _)

theorem append_assoc (s t u : Text) : s ++ t ++ u = s ++ (t ++ u) := by
  ext1
  simp

theorem isEmpty_iff {t : Text} : t.isEmpty = true ↔ t = "" := by
  rw [isEmpty,List.isEmpty_iff,← toList_inj]
  rfl

@[simp] theorem isEmpty_ofString (s : String) : (ofString s).isEmpty = s.isEmpty := by
  rw [Bool.eq_iff_iff,isEmpty_iff,ofString_inj,String.isEmpty_iff]

@[simp] theorem string?_ofString (s : String) : (ofString s).string? = some s := by
  simp [string?,toList_ofString]

theorem string?_eq_some_iff {t : Text} {s : String} : t.string? = some s ↔ t = s := by
  constructor
  · intro h
    obtain ⟨cs,hcs,rfl⟩ := Option.map_eq_some_iff.mp h
    rw [← toList_inj,toList_ofString,String.toList_ofList]
    exact chars?_eq_some_iff.mp hcs
  · rintro rfl
    exact string?_ofString s

theorem isSome_string?_iff {t : Text} :
    t.string?.isSome = true ↔ ∀ l ∈ t.toList, ∃ c, l = .char c := by
  rw [string?,Option.isSome_map]
  generalize t.toList = ls
  induction ls with
  | nil => simp [chars?]
  | cons l ls ih => cases l <;> simp [chars?,ih]

theorem isWhole_iff {t : Text} : t.isWhole = true ↔ ∃ s : String, t = s := by
  simp only [isWhole,Option.isSome_iff_exists,string?_eq_some_iff]

theorem isWhole_intercalate {sep : Text} {ts : List Text} (hsep : sep.isWhole = true)
    (hts : ∀ t ∈ ts, t.isWhole = true) : (intercalate sep ts).isWhole = true := by
  simp only [isWhole,isSome_string?_iff] at hsep hts ⊢
  induction ts with
  | nil => simp [intercalate]
  | cons t ts ih =>
    rw [List.forall_mem_cons] at hts
    cases ts with
    | nil => simpa [intercalate] using hts.1
    | cons u ts =>
      have hrest := ih hts.2
      intro l hl
      simp only [intercalate,List.map_cons,List.intercalate_cons_cons,List.mem_append] at hl
      rcases hl with (hl | hl) | hl
      · exact hts.1 l hl
      · exact hsep l hl
      · exact hrest l hl

theorem isWhole_ofList_iff {ls : List Letter} :
    (ofList ls).isWhole = true ↔ ∃ cs, ls = letters cs := by
  simp only [isWhole,string?,Option.isSome_map,Option.isSome_iff_exists,chars?_eq_some_iff]

@[simp] theorem isWhole_ofString (s : String) : (ofString s).isWhole = true :=
  isWhole_iff.mpr ⟨s,rfl⟩

@[simp] theorem standing_append (mark : Half → Char) (s t : Text) :
    (s ++ t).standing mark = s.standing mark ++ t.standing mark := by
  simp [standing]

/-- A whole text is its own string, whatever stands for halves. -/
@[simp] theorem standing_ofString (mark : Half → Char) (s : String) : (ofString s).standing mark = s := by
  simp [standing,toList_ofString,letters,Function.comp_def]

end Text

end ShortVolume
