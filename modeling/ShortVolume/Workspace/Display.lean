import ShortVolume.Workspace.Tally
import ShortVolume.Mishap
import ShortVolume.Console.Table
import ShortVolume.Text.Diff
set_option autoImplicit false

/-!
What the console shows: headers, reports, their counts, and what would change in a file.

Names, paths and errors stand in styled text as they are, so a bracketed word in them is a tag.
-/

namespace ShortVolume.Display
open Console

/-- Characters that stand for halves. -/
abbrev Marks := Half → Char

/-- Marks of halves, each in a block of its own that no text of any script uses. -/
def marks (block : Nat) : Marks := fun h => Char.ofNat (0x100000 + 0x1000 * block + h)

/-- What the console shows, given what it would show if marks stood for halves. A half that is to be
seen, so that the lines hang on the marks, cannot be shown. -/
def onConsole (lines : Marks → Except Mishap (List String)) : Except Mishap (List String) := do
  let shown ← lines (marks 0)
  if shown = (← lines (marks 1)) then return shown else throw .unencodable

/-- In the parameters of a handler a half is as unreadable as the character NUL. -/
def unreadable : Marks := fun _ => '\x00'

/-- The text that a styled text shows. -/
def plain (m : Marks) (s : Text) : Except Mishap (List Char) := do
  let _ ← (Markup.plain (s.standing unreadable)).mapError .markup
  (Markup.plain (s.standing m)).mapError .markup

/-- Prints a styled text. -/
def print (s : Text) : Except Mishap (List String) :=
  onConsole (fun m => do return printed width (← plain m s))

/-- The room inside of a box. -/
def boxWidth : Nat := width - 4

def box (s : Text) : Except Mishap (List String) :=
  onConsole (fun m => do return printed boxWidth (← plain m s))

/-- The title of a box, cut off where the box ends. -/
def title (m : Marks) (s : Text) : Except Mishap (List String) := do
  let cs := (← plain m s).map (fun c => if c = '\n' then ' ' else c)
  return seen (crop boxWidth (' ' :: expandTabs 8 cells cs))

/-! ### Reports -/

/-- The line about the error of a report, if it has one. -/
def errorLines (l : Listing) : Except Mishap (List String) :=
  match l.error with
  | none => return []
  | some e =>
    match l.file with
    | none => throw (.missingEntry "file_path")
    | some file => print ("[bold red]Error in " ++ file ++ ":[/bold red] " ++ e)

def volumesText (l : Listing) : Except Mishap Text := do
  let vs ← l.volumes
  return if vs.isEmpty then "-" else Text.intercalate ", " vs

/-- A word in the style of success or of failure. -/
def verdictText (l : Listing) : Text :=
  let style : Text := if l.success then "green" else "red"
  "[" ++ style ++ "]" ++ l.verdict ++ "[/" ++ style ++ "]"

/-- The cells of a report, as styled texts. -/
def row (l : Listing) (volumes : Text) : List Text :=
  [l.file.getD Value.null.bare, volumes, verdictText l, if l.success then "✅" else "❌"]

/-- The lines about an error, and the cells of the report. -/
def entry (l : Listing) : Except Mishap (List String × List Text) := do
  let errors ← errorLines l
  return (errors, row l (← volumesText l))

def tableHeader : List String := ["File Path", "Volumes", "Status", "Result"]

/-- The errors of reports, and the table of all of them. -/
def table (ls : List Listing) : Except Mishap (List String) := do
  let es ← ls.mapM entry
  let shown ← onConsole (fun m => do
    let rows ← es.mapM (fun e => e.2.mapM (plain m))
    return Table.lines ⟨"KubeShort Report", tableHeader, rows⟩)
  return es.flatMap Prod.fst ++ shown

/-! ### Counts -/

/-- A count in a record. -/
def count (es : Entries) (name : String) : Except Mishap Text :=
  match Entries.lookup? es name with
  | some v => return v.bare
  | none => throw (.missingEntry name)

/-- The counts of reports, from a record of them. -/
def summary (es : Entries) : Except Mishap (List String) := do
  let lines : List Text := [
    "[bold white]Summary Report[/bold white]",
    "Total Files:     " ++ (← count es "total_files"),
    "Success:         [green]" ++ (← count es "successful") ++ "[/green]",
    "Empty:           " ++ (← count es "empty"),
    "Rejected:        [yellow]" ++ (← count es "rejected") ++ "[/yellow]",
    "System Errors:   [red]" ++ (← count es "system_errors") ++ "[/red]",
    "Backups Created: " ++ (← count es "backups_created")]
  box (Text.intercalate "\n" lines)

/-! ### Changes -/

/-- The room of code in a box, beside line numbers of so many digits. -/
def codeWidth (digits : Nat) : Nat := boxWidth - (digits + 3)

def codeLine (room number : Nat) (line : List Char) : List String :=
  seen ((toString number).toList ++ ' ' :: crop room (line.filter (fun c => !Markup.isControl c)))

/-- Numbered lines of code. -/
def code (s : List Char) : List String :=
  let lines := Text.splitOn '\n' s
  let room := codeWidth (toString lines.length).length
  (lines.zipIdx 1).flatMap (fun e => codeLine room e.2 (expandTabs 4 List.length e.1))

def textLines (s : String) : List String := (Text.lines s.toList).map String.ofList

/-- How the canonical text of a file differs from the present one. Nothing is shown if either is
empty. -/
def difference (present : String) (canonical : Text) (name : String) :
    Except Mishap (List String) :=
  if present.isEmpty || canonical.isEmpty then return []
  else onConsole (fun m =>
    match Text.Diff.unified ("original/" ++ name) ("canonical/" ++ name)
        (textLines present) (textLines (canonical.standing m)) with
    | [] => print ("[dim]ℹ " ++ name ++ " is already canonical.[/dim]")
    | ls => do return (← title m ("Canonical form: " ++ name)) ++ code ("\n".intercalate ls).toList)

end ShortVolume.Display
