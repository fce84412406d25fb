import ShortVolume.Workspace.Report
import ShortVolume.Mishap
import ShortVolume.Tree.Pattern
import ShortVolume.Text.Case
import ShortVolume.Text.Utf8
set_option autoImplicit false

/-!
Bringing the files of a directory into canonical form.

A file is replaced only when it holds volumes and its canonical text differs from it in more than
blanks at the ends. Its bytes are first copied to a new file beside it; the new text goes into a
temporary file, which then takes its place.
-/

namespace ShortVolume

/-- The directory to work on, the writer of its documents, and how errors in texts are worded. -/
structure Workspace where
  root : Path
  writer : Writer
  wording : Yaml.Wording

/-- What an operation leaves behind, and what it says. -/
abbrev Run (α : Type) := Tree × Except Mishap α

def backupSuffix : String := ".kubeshort.backup"

def temporarySuffix : String := ".kubeshort.tmp"

namespace FileName

/-- A name without what follows its last dot, unless that is the first or the last character. -/
def stem (name : String) : String :=
  let s := name.toList
  let tail := s.reverse.takeWhile (· != '.')
  let i := s.length - tail.length - 1
  if tail.length < s.length ∧ 0 < i ∧ 0 < tail.length then String.ofList (s.take i) else name

example : stem "a.b.yaml" = "a.b" := by decide +kernel
example : stem ".yaml" = ".yaml" := by decide +kernel
example : stem "a." = "a." := by decide +kernel

end FileName

/-- The name of the `k`-th backup of a file. -/
def backupName (name : String) (k : Nat) : String :=
  FileName.stem name ++ (if k = 0 then "" else "-" ++ toString k) ++ backupSuffix

/-- The place of the first backup, from the `k`-th on, that nothing is at. -/
def freeBackup (t : Tree) (target : Path) : Nat → Nat → Except Mishap Path
  | 0, k => .ok (target.beside (backupName target.name k))
  | n + 1, k =>
    let place := target.beside (backupName target.name k)
    match t.stat place with
    | .error e => .error (.system e place)
    | .ok none => .ok place
    | .ok (some _) => freeBackup t target n (k + 1)

/-- Takes away what is left at the place of a temporary file, and says why the file could not be
written. -/
def abandon (t : Tree) (place : Path) (e : SystemError) : Tree × String :=
  let message := "Atomic write failed: " ++ e.message place
  match t.stat place with
  | .ok (some _) =>
    if t.isDirectory place then (t, SystemError.isDirectory.message place)
    else (t.erase place, message)
  | .ok none => (t, message)
  | .error e => (t, e.message place)

/-- The place of the temporary file for a file. -/
def temporaryPlace (target : Path) : Path :=
  target.beside (FileName.stem target.name ++ temporarySuffix)

/-- Puts a text in the place of a file by way of a temporary one. If that cannot be written, says
why. The temporary file is made before the text becomes bytes, so a text that has none leaves it
empty. -/
def replaceFile (t : Tree) (target : Path) (text : Text) : Run (Option String) :=
  if t.isLocked target.parent then (t, .ok (some ("No write access to " ++ target.parent.text)))
  else
    let place := temporaryPlace target
    match t.write place ((Text.Utf8.bytes? text).getD []) with
    | .ok t => if text.isWhole then (t.move place target, .ok none) else (t, .error .unencodable)
    | .error e =>
      let (t, message) := abandon t place e
      (t, .ok (some message))

namespace Workspace

/-- The workspace at a path, which has to exist. -/
def openAt (t : Tree) (current : Path) (path : String) (format : Format) (wording : Yaml.Wording) :
    Except Mishap Workspace :=
  if Path.holdsNul path then .error (.nulInPath path)
  else
    match t.resolve current path with
    | none => .error (.linkCircle path)
    | some root =>
      match t.stat root with
      | .error e => .error (.system e root)
      | .ok none => .error (.noWorkspace root)
      | .ok (some _) => .ok ⟨root, .new format, wording⟩

/-- The canonical text of a text, and the volumes in it. -/
def convert (w : Workspace) (text : String) : Except Failure (List Volume × Text) := do
  let ds ← documents text
  return (ds.map Document.volume, ← w.writer.writeDocuments ds)

/-- The volumes and the two texts of the file with the given bytes. -/
def examine (w : Workspace) (bytes : List UInt8) :
    Except Rejection (List Volume × String × Text) :=
  match Text.decodeFile bytes with
  | .error e => .error (.unparsable e.message)
  | .ok cs =>
    let present := String.ofList cs
    match w.convert present with
    | .error f => .error (.ofFailure w.wording cs f)
    | .ok (vs, canonical) => .ok (vs, present, canonical)

/-- What is left of a text without blanks at either end. -/
def core (t : Text) : List Letter := Text.trimBy (Letter.is Text.isBlank) t.toList

/-- Whether two texts differ in more than blanks at the ends. -/
def differs (s t : Text) : Bool := core s != core t

/-- Copies the bytes of a file to a backup, and then replaces it by a text. -/
def replace (w : Workspace) (t : Tree) (target : Path) (bytes : List UInt8) (text : Text) :
    Run Effect :=
  match freeBackup t target (t.entries.length + 1) 0 with
  | .error m => (t, .error m)
  | .ok place =>
    match t.write place bytes with
    | .error e =>
      let (t, failure) := replaceFile t target text
      (t, failure.map (fun f =>
        ⟨f.isNone, none, some ("Backup failed: " ++ e.message place), f⟩))
    | .ok t =>
      if w.root.isPrefixOf place then
        let (t, failure) := replaceFile t target text
        (t, failure.map (fun f =>
          ⟨f.isNone, some (Path.relative (place.drop w.root.length)), none, f⟩))
      else (t, .error (.backupOutside place))

/-- Reports a file whose volumes and texts are known, and replaces it if that is asked for. -/
def settle (w : Workspace) (t : Tree) (target : Path) (bytes : List UInt8) (dryRun : Bool)
    (vs : List Volume) (present : String) (canonical : Text) : Run Acceptance :=
  let changed := differs present canonical
  let found (e : Effect) : Acceptance :=
    ⟨vs.map Volume.describe, present, if changed then some canonical else none, dryRun, e⟩
  if !dryRun && changed && !vs.isEmpty then
    let (t, effect) := w.replace t target bytes canonical
    (t, effect.map found)
  else (t, .ok (found .none))

/-- Takes the file at a place through reading and writing. -/
def processAt (w : Workspace) (t : Tree) (target : Path) (dryRun : Bool) : Run Outcome :=
  match t.read target with
  | .error e => (t, .ok (.rejected (.failed (e.message target))))
  | .ok bytes =>
    match w.examine bytes with
    | .error r => (t, .ok (.rejected r))
    | .ok (vs, present, canonical) =>
      let (t, a) := w.settle t target bytes dryRun vs present canonical
      (t, a.map .accepted)

/-- Takes the file that a path names through reading and writing. A dry run writes nothing. -/
def process (w : Workspace) (t : Tree) (path : String) (dryRun : Bool) : Run Report :=
  if Path.holdsNul path then (t, .error (.nulInPath path))
  else
    match t.resolve w.root path with
    | none => (t, .error (.linkCircle path))
    | some target =>
      match t.stat target with
      | .error e => (t, .error (.system e target))
      | .ok none => (t, .ok ⟨path, .rejected (.missing target)⟩)
      | .ok (some _) =>
        let (t, outcome) := w.processAt t target dryRun
        (t, outcome.map (Report.mk path))

/-- The workspace after a report: its writer may have jammed. -/
def after (w : Workspace) (r : Report) : Workspace :=
  if r.jams then { w with writer := { w.writer with jammed := true } } else w

/-! ### Whole directories -/

/-- Whether a path comes before or is another one, name by name. -/
def isOrdered : Path → Path → Bool
  | [], _ => true
  | _ :: _, [] => false
  | a :: r, b :: s => a < b || (a == b && isOrdered r s)

/-- The patterns of the files with an extension, in lower and in upper case. -/
def patterns (extension : String) : List String :=
  ["*" ++ Text.lower extension, "*" ++ Text.upper extension]

/-- Whether what a search has found is a file, and neither a link nor a backup. -/
def isFile (t : Tree) (f : Glob.Found) : Except Mishap Bool :=
  match t.stat f.path with
  | .error e => .error (.system e f.path)
  | .ok _ =>
    .ok ((match t.get? f.path with
      | some (.file _) => true
      | _ => false) && !backupSuffix.toList.isSuffixOf f.names.name.toList)

/-- What matches a pattern below the workspace. -/
def search (w : Workspace) (t : Tree) (pattern : String) : Except Mishap (List Glob.Found) :=
  match Glob.segments? pattern with
  | none => .error (.badPattern pattern)
  | some segments =>
    (Glob.select t (.anywhere :: segments) ⟨[], w.root⟩).mapError (fun e => .system e w.root)

/-- The files below the workspace that match an extension, in order, under the names that lead to
them. No backup is among them, and no link. -/
def matching (w : Workspace) (t : Tree) (extension : String) : Except Mishap (List Path) := do
  let found := (← (patterns extension).mapM (w.search t)).flatten
  let files ← found.filterM (isFile t)
  return ((files.map Glob.Found.names).eraseDups).mergeSort isOrdered

/-- The reports of a scan, and after each how many of how many files are done. -/
structure Scan where
  reports : List Report
  progress : List (Nat × Nat)
  deriving Repr

/-- Processes files one after the other. -/
def processAll (dryRun : Bool) : Workspace → Tree → List Path → Workspace × Run (List Report)
  | w, t, [] => (w, t, .ok [])
  | w, t, p :: r =>
    match w.process t p.relative dryRun with
    | (t, .error m) => (w, t, .error m)
    | (t, .ok report) =>
      let (w, t, reports) := processAll dryRun (w.after report) t r
      (w, t, reports.map (report :: ·))

/-- Processes every file below the workspace that matches an extension. -/
def scan (w : Workspace) (t : Tree) (extension : String) (dryRun : Bool) : Workspace × Run Scan :=
  match w.matching t extension with
  | .error m => (w, t, .error m)
  | .ok files =>
    let (w, t, reports) := processAll dryRun w t files
    (w, t, reports.map (fun rs =>
      ⟨rs, (List.range files.length).map (fun k => (k + 1, files.length))⟩))

end Workspace

end ShortVolume
