import ShortVolume.Command.Arguments
import ShortVolume.Workspace
import ShortVolume.Workspace.Display
set_option autoImplicit false

/-!
Running a command line on a file system: what it leaves behind, what the console shows and the
number with which the program ends.

The number is 0 if every file found was treated as asked for, 1 if one was not, and 2 if there was
nothing to do because the path or the command line is wrong.
-/

namespace ShortVolume.Command
open Console

def versionNumber : String := "0.1.0"

/-- The name of the program with its version. -/
def versionLine : String := "kubeshort v" ++ versionNumber ++ "\n"

structure Ending where
  exit : Nat
  console : List String
  /-- What is written without styles. -/
  output : String
  deriving DecidableEq, Repr

namespace Task

def subtitle (task : Task) : String :=
  if task.formatting.isSome then "Volume Format" else "Volume Check"

/-- The box at the start. -/
def header (task : Task) : List String := [task.subtitle, "KubeShort v" ++ versionNumber]

/-- Whether files stay as they are. -/
def isDry (task : Task) : Bool := (task.formatting.map Formatting.dryRun).getD true

def format (task : Task) : Format :=
  if (task.formatting.map Formatting.json).getD false then .json else .yaml

def showsDifferences (task : Task) : Bool := (task.formatting.map Formatting.diff).getD false

/-- The workspace of the task at a place. -/
def workspace (task : Task) (wording : Yaml.Wording) (place : Path) : Workspace :=
  ⟨place, .new task.format, wording⟩

/-- The reports of the file or of the directory at a place. -/
def reports (task : Task) (wording : Yaml.Wording) (t : Tree) (place : Path) (e : Entry) :
    Run (List Report) :=
  match e with
  | .directory =>
    let (_, t, scan) := (task.workspace wording place).scan t task.extension task.isDry
    (t, scan.map Workspace.Scan.reports)
  | _ =>
    let (t, report) := (task.workspace wording place.parent).process t place.name task.isDry
    (t, report.map ([·]))

/-- The differences that reports have found, if they are asked for. -/
def differences (task : Task) (rs : List Report) : Except Mishap (List String) := do
  if task.showsDifferences then
    let shown ← rs.mapM (fun r =>
      match r.change with
      | some (present, canonical) => Display.difference present canonical r.path
      | none => .ok [])
    return shown.flatten
  else return []

/-- What the console shows of reports. -/
def display (task : Task) (rs : List Report) : Except Mishap (List String) :=
  if rs.isEmpty then Display.print "\n[bold yellow]⚠️  No matching files found.[/bold yellow]"
  else do
    let changes ← task.differences rs
    let table ← Display.table (rs.map Report.listing)
    return changes ++ table ++ (← Display.summary (Tally.ofReports rs).entries)

/-- The number with which the program ends after some reports. -/
def exitCode (rs : List Report) : Nat := if rs.all Report.success then 0 else 1

def notFound (path : String) : String := "[bold red]Error:[/bold red] Path '" ++ path ++ "' not found."

/-- Ends a task whose path leads nowhere. -/
def missing (task : Task) : Except Mishap Ending := do
  return ⟨2, task.header ++ (← Display.print (notFound task.path)), ""⟩

def ending (task : Task) (rs : List Report) : Except Mishap Ending := do
  return ⟨exitCode rs, task.header ++ (← task.display rs), ""⟩

def run (task : Task) (wording : Yaml.Wording) (t : Tree) (current : Path) : Run Ending :=
  if Path.holdsNul task.path then (t, .error (.nulInPath task.path))
  else
    match t.resolve current task.path with
    | none => (t, .error (.linkCircle task.path))
    | some place =>
      match t.stat place with
      | .error e => (t, .error (.system e place))
      | .ok none => (t, task.missing)
      | .ok (some e) =>
        let (t, rs) := task.reports wording t place e
        (t, rs.bind task.ending)

end Task

/-- Does what is asked for, in a directory. -/
def Request.run (r : Request) (wording : Yaml.Wording) (t : Tree) (current : Path) : Run Ending :=
  match r with
  | .help => (t, .ok ⟨0, [], ""⟩)
  | .version => (t, .ok ⟨0, [], versionLine⟩)
  | .misuse => (t, .ok ⟨2, [], ""⟩)
  | .task asked => asked.run wording t current

/-- Runs a command line in a directory. -/
def run (wording : Yaml.Wording) (arguments : List String) (t : Tree) (current : Path) : Run Ending :=
  (request arguments).run wording t current

end ShortVolume.Command
