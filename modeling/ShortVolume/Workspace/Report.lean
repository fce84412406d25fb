import ShortVolume.Document
import ShortVolume.Yaml.Excerpt
import ShortVolume.Tree
set_option autoImplicit false

/-!
What is reported of a file: that it was rejected and why, or what its volumes are, its canonical
text if that differs, and what was done to it.
-/

namespace ShortVolume

/-- What a report says of a file, in one word. -/
inductive Verdict where
  | fileNotFound
  | decodeError
  | parseError
  | engineError
  | empty
  | canonical
  | preview
  | replaced
  deriving DecidableEq, Repr

def Verdict.word : Verdict → String
  | fileNotFound => "FILE_NOT_FOUND"
  | decodeError => "DECODE_ERROR"
  | parseError => "PARSE_ERROR"
  | engineError => "ENGINE_ERROR"
  | empty => "EMPTY"
  | canonical => "CANONICAL"
  | preview => "PREVIEW"
  | replaced => "REWRITTEN"

/-- Why a file was rejected. -/
inductive Rejection where
  | missing (place : Path)
  /-- A document is no volume. -/
  | undecodable (f : Fault)
  /-- The file holds no documents. -/
  | unparsable (reason : Text)
  /-- A document has no YAML text. -/
  | unprintable (u : Yaml.Unprintable)
  /-- The file cannot be read, or a value in it is out of bounds. -/
  | failed (reason : Text)
  deriving Repr

namespace Rejection

def verdict : Rejection → Verdict
  | missing _ => .fileNotFound
  | undecodable _ => .decodeError
  | unparsable _ | unprintable (.kind _) => .parseError
  | unprintable .longInteger => .engineError
  | failed _ => .engineError

def error : Rejection → Text
  | missing place => "Path missing: " ++ place.text
  | undecodable f => f.message
  | unparsable reason | failed reason => reason
  | unprintable (.kind v) => "a " ++ v.kind ++ " has no place in a YAML document"
  | unprintable .longInteger => Fault.longInteger.message

/-- The rejection of a text that has no canonical form. -/
def ofFailure (wording : Yaml.Wording) (text : List Char) : Failure → Rejection
  | .fault f =>
    match f.reported with
    | .unwritable v => failed (Fault.unwritable v).message
    | .longInteger => failed Fault.longInteger.message
    | f => undecodable f
  | .yaml e => if e.cause.isOfText then unparsable (wording e text) else failed (wording e text)
  | .unprintable u => unprintable u
  | .unwritable (.kind v) => failed (Fault.unwritable v).message
  | .unwritable .longInteger => failed Fault.longInteger.message
  | .keyless v => failed ("a " ++ v.kind ++ " is no document")

end Rejection

/-- A volume as reports name it. -/
structure Described where
  name : Text
  source : String
  deriving DecidableEq, Repr

/-- The name of a kind of store in reports. -/
def Kind.title : Kind → String
  | gcePD => "GcePDVolume"
  | awsEBS => "AwsEBSVolume"
  | hostPath => "HostPathVolume"

/-- The name of a volume in reports, which a volume without a name has too. -/
def Volume.describe (v : Volume) : Described :=
  ⟨match v.data.name with
    | some name => if name.isEmpty then "<unnamed>" else name
    | none => "<unnamed>", v.source.kind.title⟩

/-- What was done to a file. -/
structure Effect where
  written : Bool
  backup : Option String
  backupWarning : Option String
  writeError : Option String
  deriving DecidableEq, Repr

/-- Nothing was done. -/
def Effect.none : Effect := ⟨false, .none, .none, .none⟩

/-- What was found in a file, and what was done to it. -/
structure Acceptance where
  volumes : List Described
  present : String
  /-- The canonical text, if it differs. -/
  canonical : Option Text
  dryRun : Bool
  effect : Effect
  deriving DecidableEq, Repr

inductive Outcome where
  | rejected (r : Rejection)
  | accepted (a : Acceptance)
  deriving Repr

structure Report where
  path : String
  outcome : Outcome
  deriving Repr

namespace Acceptance

def verdict (a : Acceptance) : Verdict :=
  if a.volumes.isEmpty then .empty
  else if a.canonical.isNone then .canonical
  else if a.dryRun then .preview
  else .replaced

end Acceptance

namespace Report

def verdict (r : Report) : Verdict :=
  match r.outcome with
  | .rejected x => x.verdict
  | .accepted a => a.verdict

/-- Whether all that was asked for was done. -/
def success (r : Report) : Bool :=
  match r.outcome with
  | .rejected _ => false
  | .accepted a => a.effect.writeError.isNone

def error (r : Report) : Option Text :=
  match r.outcome with
  | .rejected x => some x.error
  | .accepted _ => none

def volumes (r : Report) : List Described :=
  match r.outcome with
  | .rejected _ => []
  | .accepted a => a.volumes

def effect (r : Report) : Effect :=
  match r.outcome with
  | .rejected _ => .none
  | .accepted a => a.effect

/-- Whether the writer jammed on the file. -/
def jams (r : Report) : Bool :=
  match r.outcome with
  | .rejected (.unprintable _) => true
  | _ => false

/-- The present text and the canonical one, if they differ. -/
def change (r : Report) : Option (String × Text) :=
  match r.outcome with
  | .rejected _ => none
  | .accepted a => a.canonical.map (fun c => (a.present, c))

end Report

end ShortVolume
