import ShortVolume.Text.Blank
set_option autoImplicit false

/-!
The words of a command line: arguments, and options by their names.

A word that starts with a hyphen names an option, by its name or by the start of its name if no
other option has it; after an equals sign follows its value. Single letters may stand together
after one hyphen. After two hyphens alone every word is an argument.
-/

namespace ShortVolume.Command

/-- What the options of a command stand for, by their names. -/
abbrev Options (α : Type) := List (String × α)

/-- A word of a command line. -/
inductive Word (α : Type) where
  | argument (s : String)
  /-- Two hyphens alone, the first of their kind. -/
  | separator
  /-- An option, under its full name, and the value written into the same word. -/
  | option (name : String) (meaning : α) (value : Option String)
  | unknown (s : String)
  deriving Repr

/-- The name before the first equals sign of a word, and the value after it. -/
def nameAndValue (s : String) : String × Option String :=
  let cs := s.toList
  match cs.dropWhile (· != '=') with
  | [] => (s, none)
  | _ :: v => (String.ofList (cs.takeWhile (· != '=')), some (String.ofList v))

def startsWith (s start : String) : Bool := start.toList.isPrefixOf s.toList

/-- A number below zero, which is an argument. -/
def isNegativeNumber (s : String) : Bool :=
  match s.toList with
  | '-' :: r =>
    let rest := r.dropWhile Char.isDigit
    match rest with
    | [] => !r.isEmpty
    | '.' :: d => !d.isEmpty && d.all Char.isDigit
    | _ => false
  | _ => false

namespace Options

variable {α : Type}

def find? (os : Options α) (name : String) : Option α :=
  (List.find? (fun o => o.1 == name) os).map Prod.snd

/-- The options that a word may mean which is none of their names: those whose names start with it,
and the one of a single letter that it starts with, where the rest of the word is the value. -/
def candidates (os : Options α) (s : String) : List (Word α) :=
  match s.toList with
  | '-' :: '-' :: _ =>
    let (name, value) := nameAndValue s
    (List.filter (fun o => startsWith o.1 name) os).map (fun o => .option o.1 o.2 value)
  | '-' :: c :: value =>
    List.filterMap (fun o =>
      if o.1 = String.ofList ['-', c] then some (.option o.1 o.2 (some (String.ofList value)))
      else if startsWith o.1 s then some (.option o.1 o.2 none)
      else none) os
  | _ => []

/-- What a word is. None if it may mean several options. -/
def word? (os : Options α) (s : String) : Option (Word α) :=
  if s.length < 2 ∨ ¬ startsWith s "-" then some (.argument s)
  else
    match os.find? s with
    | some a => some (.option s a none)
    | none =>
      let (name, value) := nameAndValue s
      match os.find? name, value with
      | some a, some v => some (.option name a (some v))
      | _, _ =>
        match os.candidates s with
        | [w] => some w
        | _ :: _ :: _ => none
        | [] =>
          if isNegativeNumber s || s.toList.contains ' ' then some (.argument s)
          else some (.unknown s)

/-- The words of a command line. None if one may mean several options. -/
def words? (os : Options α) : List String → Option (List (Word α))
  | [] => some []
  | s :: r =>
    if s = "--" then some (.separator :: r.map .argument)
    else do return (← os.word? s) :: (← words? os r)

end Options

example : nameAndValue "--ext=a=b" = ("--ext", some "a=b") := by decide +kernel

end ShortVolume.Command
