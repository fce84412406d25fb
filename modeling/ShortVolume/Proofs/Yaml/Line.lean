import ShortVolume.Json.Print
import ShortVolume.Yaml.Token.Scan
import ShortVolume.Proofs.Yaml.Quoted
set_option autoImplicit false

/-!
Records on one line.

A record holds texts, integers, truth values and records, under names. One that is legible has a
text on one line, as JSON writes it, and the tokens that the text has as YAML.
-/

namespace ShortVolume

open Yaml

/-! ### Legible records -/

/-- Whether a text can be the name of an entry: what is announced by its colon only has a limit. -/
def isLegibleName (t : Text) : Bool :=
  isLegibleText t && (Json.quoted false t).length ≤ keyLimit

theorem isLegibleName_ofString {s : String} (h : isLegibleName s = true) :
    (∀ c ∈ s.toList, isLegible c = true) ∧ (Quoted.quoted s).length ≤ keyLimit := by
  simp only [isLegibleName,Bool.and_eq_true,decide_eq_true_eq,Quoted.quoted_ofString,
    Text.length_letters] at h
  obtain ⟨hlegible,hlength⟩ := h
  obtain ⟨t,ht,hall⟩ := isLegibleText_iff.mp hlegible
  rw [Text.ofString_inj] at ht
  exact ⟨ht ▸ hall,hlength⟩

namespace Value

mutual

/-- Whether a value is a record of legible texts under distinct legible names, or a part of one. -/
def isLegible : Value → Bool
  | text s => isLegibleText s
  | int i => hasDigits i
  | bool _ => true
  | map es => entriesLegible es
  | _ => false

def entriesLegible : List (Value × Value) → Bool
  | [] => true
  | (text k,v) :: r =>
    isLegibleName k && v.isLegible && entriesLegible r && !r.any (fun e => e.1.same (text k))
  | _ => false

end

theorem isLegible_text (s : Text) : (text s).isLegible = isLegibleText s := by rw [isLegible]

theorem isLegible_int (i : Int) : (int i).isLegible = hasDigits i := by rw [isLegible]

theorem isLegible_map (es : Entries) : (map es).isLegible = entriesLegible es := by rw [isLegible]

theorem entriesLegible_cons {k v : Value} {r : Entries} (h : entriesLegible ((k,v) :: r) = true) :
    ∃ s : String, k = .text s ∧ isLegibleName s = true ∧ v.isLegible = true ∧
      entriesLegible r = true ∧ ∀ e ∈ r, e.1.same (.text s) = false := by
  cases k with
  | text t =>
    simp only [entriesLegible,Bool.and_eq_true,Bool.not_eq_true'] at h
    obtain ⟨⟨⟨hs,hv⟩,hr⟩,hfresh⟩ := h
    obtain ⟨s,rfl,-⟩ := isLegibleText_iff.mp (Bool.and_eq_true_iff.mp hs).1
    exact ⟨s,rfl,hs,hv,hr,fun e he => by simpa using List.any_eq_false.mp hfresh e he⟩
  | _ => simp [entriesLegible] at h

theorem text_of_mem {es : Entries} (h : entriesLegible es = true) {e : Value × Value}
    (he : e ∈ es) : ∃ s : String, e.1 = .text s := by
  induction es with
  | nil => cases he
  | cons f es ih =>
    obtain ⟨s,hs,-,-,hes,-⟩ := entriesLegible_cons h
    rcases List.mem_cons.mp he with rfl | he
    · exact ⟨s,hs⟩
    · exact ih hes he

/-! ### Their texts -/

/-- The text of a name. -/
def nameLine : Value → List Char
  | text k => Quoted.quoted (k.string?.getD "")
  | _ => []

mutual

/-- The text of a legible value. -/
def line : Value → List Char
  | text s => Quoted.quoted (s.string?.getD "")
  | int i => (toString i).toList
  | bool b => (if b then "true" else "false").toList
  | map es => '\x7b' :: openingLine es
  | _ => []

/-- What follows the start of a record that has these entries. -/
def openingLine : List (Value × Value) → List Char
  | [] => ['\x7d']
  | (k,v) :: r => k.nameLine ++ ':' :: ' ' :: (v.line ++ closingLine r)

/-- What follows an entry of a record before the entries that are left. -/
def closingLine : List (Value × Value) → List Char
  | [] => ['\x7d']
  | (k,v) :: r => ',' :: ' ' :: (k.nameLine ++ ':' :: ' ' :: (v.line ++ closingLine r))

end

@[simp] theorem nameLine_text (s : String) : nameLine (.text s) = Quoted.quoted s := by
  simp [nameLine]

theorem line_text (s : String) : line (.text s) = Quoted.quoted s := by simp [line]

/-! ### Induction -/

/-- What it takes for `P` to hold of the legible values: it holds of each kind of them, as long as `Q`
holds of the entries of a record. -/
structure Covers (P : Value → Prop) (Q : Entries → Prop) : Prop where
  text : ∀ s : String, (∀ c ∈ s.toList, Yaml.isLegible c = true) → P (.text s)
  int : ∀ i, hasDigits i = true → P (.int i)
  bool : ∀ b, P (.bool b)
  map : ∀ es, Q es → P (.map es)
  nil : Q []
  cons : ∀ (k : String) v r, isLegibleName k = true → P v → Q r →
    (∀ e ∈ r, e.1.same (.text k) = false) → Q ((.text k,v) :: r)

variable {P : Value → Prop} {Q : Entries → Prop}

mutual

theorem Covers.of_isLegible (h : Covers P Q) : (v : Value) → v.isLegible = true → P v
  | .text t => fun hv => by
    obtain ⟨s,rfl,hs⟩ := isLegibleText_iff.mp ((isLegible_text t).symm.trans hv)
    exact h.text s hs
  | .int i => fun hv => h.int i ((isLegible_int i).symm.trans hv)
  | .bool b => fun _ => h.bool b
  | .map es => fun hv => h.map es (h.of_entriesLegible es ((isLegible_map es).symm.trans hv))
  | .null | .float _ | .term _ | .bytes _ | .date _ | .time _ | .list _ | .tuple _ | .set _
  | .orderedMap _ | .loop _ _ | .again _ => fun hv => by simp [isLegible] at hv

theorem Covers.of_entriesLegible (h : Covers P Q) :
    (es : List (Value × Value)) → entriesLegible es = true → Q es
  | [] => fun _ => h.nil
  | (k,v) :: r => fun hes => by
    obtain ⟨s,rfl,hs,hv,hr,hfresh⟩ := entriesLegible_cons hes
    exact h.cons s v r hs (h.of_isLegible v hv) (h.of_entriesLegible r hr) hfresh

end

/-! ### Printing -/

theorem printMembers_cons (depth : Nat) (k v : Value) (r : Entries) :
    Json.printMembers .line depth ((k,v) :: r) = (do
      let key ← Json.name false k
      let item ← Json.print .line depth v
      if r.isEmpty then return key ++ .char ':' :: .char ' ' :: item
      else
        let others ← Json.printMembers .line depth r
        return key ++ .char ':' :: .char ' ' :: (item ++ [.char ',',.char ' '] ++ others)) := by
  cases r <;> rfl

/-- JSON writes a legible value as its line. -/
theorem print_eq_line {v : Value} (h : v.isLegible = true) (depth : Nat) :
    Json.print .line depth v = .ok (Text.letters v.line) := by
  refine Covers.of_isLegible
    (P := fun v => ∀ depth, Json.print .line depth v = .ok (Text.letters v.line))
    (Q := fun es => ∀ depth, es ≠ [] → ∃ cs, Json.printMembers .line depth es =
      .ok (Text.letters cs) ∧ ',' :: ' ' :: (cs ++ ['\x7d']) = closingLine es) ?_ v h depth
  constructor
  case text => exact fun s _ _ => by simp [Json.print,line,Json.Layout.line,Quoted.quoted_ofString]
  case int =>
    intro i hi _
    rw [Json.print,Json.integer,if_pos hi,line]
  case bool => exact fun b _ => by cases b <;> simp [Json.print,line]
  case map =>
    intro es hes depth
    cases es with
    | nil => simp [Json.print,line,openingLine]
    | cons e r =>
      obtain ⟨cs,hcs,hline⟩ := hes (depth + 1) (by simp)
      obtain ⟨k,v⟩ := e
      simp only [closingLine,List.cons.injEq,true_and] at hline
      have hnone (depth : Nat) : Json.Layout.line.breakAt depth = [] := rfl
      simp only [Json.print,hcs,line,openingLine,← hline,hnone,List.append_nil]
      simp [bind,Except.bind,pure,Except.pure]
  case nil => exact fun _ h => absurd rfl h
  case cons =>
    intro k v r _ hv hr _ depth _
    have hname : Json.name false (.text k) = .ok (Text.letters (Quoted.quoted k)) :=
      congrArg Except.ok (Quoted.quoted_ofString k)
    rw [printMembers_cons,hname,hv depth]
    cases r with
    | nil =>
      refine ⟨Quoted.quoted k ++ ':' :: ' ' :: v.line,?_,by simp [closingLine,nameLine]⟩
      simp [bind,Except.bind,pure,Except.pure]
    | cons e r =>
      obtain ⟨cs,hcs,hline⟩ := hr depth (by simp)
      rw [hcs]
      refine ⟨Quoted.quoted k ++ ':' :: ' ' :: (v.line ++ [',',' '] ++ cs),?_,?_⟩
      · simp [bind,Except.bind,pure,Except.pure]
      · rw [closingLine,← hline]
        simp [nameLine]

end Value

end ShortVolume
