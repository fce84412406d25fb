import ShortVolume.Yaml.Build
set_option autoImplicit false

/-!
The values of the documents of a text.
-/

namespace ShortVolume.Yaml

/-- The values of the documents that are left, at most `n`. Each is built, under the version that is
then in force, before the next is read. -/
def Reader.values : Nat → Bool → Reader → Except Error (List Value)
  | 0, _, _ => .ok []
  | n + 1, bare, r => do
    match ← r.document bare with
    | none => return []
    | some (x, bare, r) =>
      let first ← valueOf r.nextVersion r.nodes x
      let rest ← values n bare r
      return first :: rest

/-- The values of the documents of characters, without the empty ones. -/
def loadCharacters (text : List Char) : Except Error (List Value) := do
  let r := Reader.ofTokens (Tokens.ofText text)
  let vs ← r.values (r.tokens.length + 1) true
  return vs.filter (fun v => match v with
    | .null => false
    | _ => true)

/-- The values of the documents of a text, without the empty ones. No half is allowed in a text. -/
def load (text : Text) : Except Error (List Value) :=
  match Text.chars? text.toList with
  | some cs => loadCharacters cs
  | none => .error (.of (.malformed .character))

end ShortVolume.Yaml
