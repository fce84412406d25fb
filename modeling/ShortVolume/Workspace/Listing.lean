import ShortVolume.Mishap
import ShortVolume.Workspace.Report
import ShortVolume.Value.Items
import ShortVolume.Value.Literal
set_option autoImplicit false

/-!
A report as lists show and count it: made from a report, or from a record that may lack any entry.
-/

namespace ShortVolume

/-- What lists show and count of a report. -/
structure Listing where
  /-- The file; a record may have none. -/
  file : Option Text
  verdict : Text
  error : Option Text
  /-- The volumes as they are named, or why those of a record cannot be. -/
  volumes : Except Mishap (List Text)
  success : Bool
  written : Bool
  backedUp : Bool

/-- A volume as lists name it. -/
def namedVolume (name source : Text) : Text := name ++ " (" ++ source ++ ")"

/-- The text of an error, if it is not empty. -/
def shownError (e : Option Text) : Option Text := e.filter (fun s => !s.isEmpty)

namespace Report

def listing (r : Report) : Listing :=
  { file := some r.path
    verdict := r.verdict.word
    error := shownError r.error
    volumes := .ok (r.volumes.map (fun v => namedVolume v.name v.source))
    success := r.success
    written := r.effect.written
    backedUp := r.effect.backup.isSome }

end Report

namespace Listing

/-- Whether an entry is there and says yes. -/
def holds (es : Entries) (name : String) : Bool :=
  ((Entries.lookup? es name).map (fun v => !v.isFalsy)).getD false

/-- An entry as it stands in a sentence. -/
def shown? (es : Entries) (name : String) : Option Text :=
  (Entries.lookup? es name).map Value.bare

/-- An entry that has to be there, as it stands in a sentence. -/
def shown (es : Entries) (name : String) : Except Mishap Text :=
  match shown? es name with
  | some s => .ok s
  | none => .error (.missingEntry name)

/-- A volume in a record, as it is named. -/
def volumeOf (v : Value) : Except Mishap Text :=
  match v.entries? with
  | some es => do return namedVolume (← shown es "name") (← shown es "source")
  | none => .error (.misplaced v)

/-- The volumes of a record, as they are named. -/
def volumesOf (es : Entries) : Except Mishap (List Text) :=
  match Entries.lookup? es "volumes" with
  | none => .ok []
  | some v =>
    match v.items? with
    | some vs => vs.mapM volumeOf
    | none => .error (.misplaced v)

def ofRecord (es : Entries) : Listing :=
  { file := shown? es "file_path"
    verdict := (shown? es "status").getD "FAILED"
    error := if holds es "error" then shown? es "error" else none
    volumes := volumesOf es
    success := holds es "success"
    written := holds es "written"
    backedUp := match Entries.lookup? es "backup_created" with
      | none | some .null => false
      | _ => true }

end Listing

end ShortVolume
