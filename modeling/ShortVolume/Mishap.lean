import ShortVolume.Tree
import ShortVolume.Console.Markup
import ShortVolume.Value
set_option autoImplicit false

/-!
What ends an operation without a report.
-/

namespace ShortVolume

inductive Mishap where
  /-- The directory to work on does not exist. -/
  | noWorkspace (place : Path)
  /-- Links lead in a circle. -/
  | linkCircle (path : String)
  /-- A path holds the character NUL. -/
  | nulInPath (path : String)
  /-- The system refuses to look at a path. -/
  | system (e : SystemError) (place : Path)
  /-- The file to replace, and so its backup, lies outside of the workspace. -/
  | backupOutside (backup : Path)
  /-- A pattern of file names has doubled stars beside other characters. -/
  | badPattern (pattern : String)
  /-- A text to write or to show holds half of a pair. -/
  | unencodable
  /-- A text to show is no styled text. -/
  | markup (fault : Console.MarkupFault)
  /-- A record lacks an entry that is shown. -/
  | missingEntry (name : String)
  /-- A value of another kind stands where a list or a record is shown. -/
  | misplaced (value : Value)
  deriving Repr

namespace Mishap

def message : Mishap → String
  | noWorkspace place => "Workspace does not exist: " ++ place.text
  | linkCircle path => "Symlink loop from " ++ Text.literal path
  | nulInPath _ => "embedded null byte"
  | system e place => e.message place
  | backupOutside backup => Text.literal backup.text ++ " is not in the workspace"
  | badPattern _ => "Invalid pattern: '**' can only be an entire path component"
  | unencodable => "'utf-8' codec can't encode halves of pairs: surrogates not allowed"
  | markup fault => fault.message
  | missingEntry name => Text.literal name
  | misplaced v => "a " ++ v.kind ++ " is neither a list nor a record"

end Mishap

end ShortVolume
