set_option autoImplicit false

/-!
Bytes written with 64 characters of six bits each, in groups of four.

When a text is read, characters outside the alphabet are skipped. Padding counts only where it completes a group, and
whatever follows it there is ignored.
-/

namespace ShortVolume.Text.Base64

/-- The six bits of a character. -/
def sextet? (c : Char) : Option Nat :=
  if 'A' ≤ c ∧ c ≤ 'Z' then some (c.toNat - 'A'.toNat)
  else if 'a' ≤ c ∧ c ≤ 'z' then some (c.toNat - 'a'.toNat + 26)
  else if '0' ≤ c ∧ c ≤ '9' then some (c.toNat - '0'.toNat + 52)
  else if c = '+' then some 62
  else if c = '/' then some 63
  else none

/-- The place inside a group: how many characters of it came, the bits of the last one that no byte
has taken, and how much padding came since. -/
structure Group where
  count : Nat
  bits : Nat
  pads : Nat

/-- The byte that a character completes, if any, and the place after it. -/
def Group.take (g : Group) (six : Nat) : Option UInt8 × Group :=
  match g.count with
  | 0 => (none, ⟨1, six, 0⟩)
  | 1 => (some (UInt8.ofNat (g.bits * 4 + six / 16)), ⟨2, six % 16, 0⟩)
  | 2 => (some (UInt8.ofNat (g.bits * 16 + six / 4)), ⟨3, six % 4, 0⟩)
  | _ => (some (UInt8.ofNat (g.bits * 64 + six)), ⟨0, 0, 0⟩)

/-- The bytes of a text, from a place inside a group on; none if the last group is incomplete. -/
def decodeFrom (g : Group) : List Char → Option (List UInt8)
  | [] => if g.count = 0 then some [] else none
  | c :: r =>
    if c = '=' then
      if g.count < 2 then decodeFrom g r
      else if 4 ≤ g.count + (g.pads + 1) then some []
      else decodeFrom { g with pads := g.pads + 1 } r
    else
      match sextet? c with
      | none => decodeFrom g r
      | some six =>
        let (b, g') := g.take six
        (decodeFrom g' r).map (b.toList ++ ·)

def decode (s : List Char) : Option (List UInt8) := decodeFrom ⟨0, 0, 0⟩ s

/-- The character of six bits. -/
def character (six : Nat) : Char :=
  "ABCDEFGHIJKLMNOPQRSTUVWXYZabcdefghijklmnopqrstuvwxyz0123456789+/".toList.getD six 'A'

/-- The text of bytes, padded to whole groups. -/
def encode : List UInt8 → List Char
  | [] => []
  | [a] => [character (a.toNat / 4), character (a.toNat % 4 * 16), '=', '=']
  | [a, b] =>
    [character (a.toNat / 4), character (a.toNat % 4 * 16 + b.toNat / 16),
      character (b.toNat % 16 * 4), '=']
  | a :: b :: c :: r =>
    character (a.toNat / 4) :: character (a.toNat % 4 * 16 + b.toNat / 16) ::
      character (b.toNat % 16 * 4 + c.toNat / 64) :: character (c.toNat % 64) :: encode r

theorem sextet?_character : ∀ n : Fin 64, sextet? (character n) = some n.val := by
  decide +kernel

/-- A text in rows of at most `width` characters; `left` is the room in the present row, which is
given the last character first. -/
def rows (width : Nat) : Nat → List Char → List Char → List (List Char)
  | _, row, [] => if row.isEmpty then [] else [row.reverse]
  | 0, row, c :: r => row.reverse :: rows width (width - 1) [c] r
  | left + 1, row, c :: r => rows width left (c :: row) r

/-- The text of bytes in rows of 76 characters. -/
def encodedRows (bs : List UInt8) : List (List Char) := rows 76 76 [] (encode bs)

example : encode [104, 105] = "aGk=".toList := by decide
example : rows 2 2 [] "abcde".toList = ["ab".toList, "cd".toList, ['e']] := by decide
example : decode "aGk=".toList = some [104, 105] := by decide
example : decode "aGkh".toList = some [104, 105, 33] := by decide
example : decode "aGk".toList = none := by decide

end ShortVolume.Text.Base64
