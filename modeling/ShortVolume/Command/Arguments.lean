import ShortVolume.Command.Word
set_option autoImplicit false

/-!
What a command line asks for: to check files, to bring them into canonical form, or to say what the
program is.
-/

namespace ShortVolume.Command

/-- What an option does. -/
inductive Meaning where
  | help
  | version
  | logLevel
  | extension
  | dryRun
  | diff
  | json
  deriving DecidableEq, Repr

def Meaning.takesValue : Meaning → Bool
  | logLevel | extension => true
  | _ => false

/-- How files are brought into canonical form. -/
structure Formatting where
  dryRun : Bool
  diff : Bool
  json : Bool
  deriving DecidableEq, Repr

/-- What to do with which files. -/
structure Task where
  path : String
  /-- The extension of the files in a directory. -/
  extension : String
  /-- How to write them. Files are only checked if this is none. -/
  formatting : Option Formatting
  deriving DecidableEq, Repr

/-- What a command line asks for. -/
inductive Request where
  | help
  | version
  /-- The command line has no meaning. -/
  | misuse
  | task (t : Task)
  deriving DecidableEq, Repr

def mainOptions : Options Meaning :=
  [("-h", .help), ("--help", .help), ("-v", .version), ("--version", .version),
    ("--log-level", .logLevel)]

def checkOptions : Options Meaning := [("-h", .help), ("--help", .help), ("--ext", .extension)]

def formatOptions : Options Meaning :=
  checkOptions ++ [("--dry-run", .dryRun), ("--diff", .diff), ("--json", .json)]

/-- The two things to do with files. -/
inductive Verb where
  | check
  | format
  deriving DecidableEq, Repr

namespace Verb

def ofWord? : String → Option Verb
  | "check" => some check
  | "fmt" => some format
  | _ => none

def options : Verb → Options Meaning
  | check => checkOptions
  | format => formatOptions

end Verb

/-- An option with the value that it takes. -/
structure Setting where
  meaning : Meaning
  value : Option String
  deriving DecidableEq, Repr

/-- The settings of a word that starts with the name of an option and goes on with a value. Letters may
follow an option of one letter that takes no value: each has to be an option. -/
def cluster (os : Options Meaning) (name : String) (m : Meaning) : List Char → Option (List Setting)
  | [] => if m.takesValue then some [⟨m, some ""⟩] else none
  | c :: r =>
    if m.takesValue then some [⟨m, some (String.ofList (c :: r))⟩]
    else if startsWith name "--" then none
    else
      let next := String.ofList ['-', c]
      match os.find? next with
      | none => none
      | some m' =>
        if r.isEmpty then (if m'.takesValue then none else some [⟨m, none⟩, ⟨m', none⟩])
        else (cluster os next m' r).map (⟨m, none⟩ :: ·)

/-- The settings of the option at the start of words, and the words after its value. -/
def settings? (os : Options Meaning) (name : String) (m : Meaning) (value : Option String)
    (rest : List (Word Meaning)) : Option (List Setting × List (Word Meaning)) :=
  match value with
  | some v => (cluster os name m v.toList).map (fun ss => (ss, rest))
  | none =>
    if m.takesValue then
      match rest with
      | .argument s :: rest => some ([⟨m, some s⟩], rest)
      | _ => none
    else some ([⟨m, none⟩], rest)

/-- The first of some settings that ends the reading of a command line. -/
def ending? : List Setting → Option Request
  | [] => none
  | s :: r =>
    match s.meaning with
    | .help => some .help
    | .version => some .version
    | _ => ending? r

/-! ### After the verb -/

/-- What is known of a task. -/
structure Reading where
  path : Option String
  extension : String
  formatting : Formatting
  /-- Whether there are words that have no place. -/
  surplus : Bool
  deriving DecidableEq, Repr

namespace Reading

def initial (surplus : Bool) : Reading := ⟨none, ".yaml", ⟨false, false, false⟩, surplus⟩

def set (p : Reading) (s : Setting) : Reading :=
  match s.meaning with
  | .extension => { p with extension := s.value.getD p.extension }
  | .dryRun => { p with formatting := { p.formatting with dryRun := true } }
  | .diff => { p with formatting := { p.formatting with diff := true } }
  | .json => { p with formatting := { p.formatting with json := true } }
  | _ => p

def setAll (p : Reading) (ss : List Setting) : Reading := ss.foldl set p

/-- The request once all words are read. -/
def request (v : Verb) (p : Reading) : Request :=
  match p.path with
  | none => .misuse
  | some path =>
    if p.surplus then .misuse
    else .task ⟨path, p.extension, match v with
      | .check => none
      | .format => some p.formatting⟩

end Reading

/-- Reads the words after a verb, of which there are at most `n`. -/
def readTask (v : Verb) : Nat → Reading → List (Word Meaning) → Request
  | 0, p, _ => p.request v
  | _, p, [] => p.request v
  | n + 1, p, w :: rest =>
    match w, p.path, rest with
    | .option name m value, _, _ =>
      match settings? v.options name m value rest with
      | none => .misuse
      | some (ss, rest) => (ending? ss).getD (readTask v n (p.setAll ss) rest)
    | .argument s, none, .separator :: rest => readTask v n { p with path := some s } rest
    | .argument s, none, rest => readTask v n { p with path := some s } rest
    | .separator, none, .argument s :: rest => readTask v n { p with path := some s } rest
    | _, _, rest => readTask v n { p with surplus := true } rest

/-! ### Before the verb -/

/-- Reads the words of a command line, of which there are at most `n`, beside their texts. Whatever
follows the verb belongs to it. -/
def readMain : Nat → Bool → List (String × Word Meaning) → Request
  | 0, _, _ => .misuse
  | _, surplus, [] => if surplus then .misuse else .help
  | n + 1, surplus, (_, w) :: rest =>
    match w with
    | .argument s =>
      match Verb.ofWord? s with
      | none => .misuse
      | some v =>
        let texts := rest.map Prod.fst
        match v.options.words? texts with
        | none => .misuse
        | some words => readTask v words.length (.initial surplus) words
    | .separator => .misuse
    | .option name m value =>
      match settings? mainOptions name m value (rest.map Prod.snd) with
      | none => .misuse
      | some (ss, words) =>
        (ending? ss).getD (readMain n surplus (rest.drop (rest.length - words.length)))
    | .unknown _ => readMain n true rest

/-- What the words of a command line ask for. -/
def request (arguments : List String) : Request :=
  match mainOptions.words? arguments with
  | none => .misuse
  | some words => readMain (words.length + 1) false (arguments.zip words)

example : request ["fmt", "--dr", "a"] =
    .task ⟨"a", ".yaml", some ⟨true, false, false⟩⟩ := by decide +kernel
example : request ["check", "--ext"] = .misuse := by decide +kernel
example : request ["--log-level", "info", "check", "--ext=.yml", "--", "-x"] =
    .task ⟨"-x", ".yml", none⟩ := by decide +kernel
example : request ["-v=h"] = .version := by decide +kernel
example : request ["-hx"] = .misuse := by decide +kernel
example : request ["-vh", "x"] = .version := by decide +kernel

end ShortVolume.Command
