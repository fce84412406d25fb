import ShortVolume.Text
set_option autoImplicit false

/-!
The three closed vocabularies of a volume: how nodes may mount it, what happens to it when its
claim goes away, and what a host path has to be.

Each word has a constant's name, a text of its own, and (for access modes) a compact symbol.
Distinct words have distinct texts and symbols, so looking a text up finds the word again.
-/

namespace ShortVolume

/-- How nodes may mount a volume. -/
inductive AccessMode where
  | readOnlyMany
  | readWriteMany
  | readWriteOnce
  deriving DecidableEq, Repr

namespace AccessMode

def all : List AccessMode := [readOnlyMany, readWriteMany, readWriteOnce]

def constant : AccessMode → String
  | readOnlyMany => "READ_ONLY_MANY"
  | readWriteMany => "READ_WRITE_MANY"
  | readWriteOnce => "READ_WRITE_ONCE"

def text : AccessMode → String
  | readOnlyMany => "ReadOnlyMany"
  | readWriteMany => "ReadWriteMany"
  | readWriteOnce => "ReadWriteOnce"

/-- The symbol that stands for a mode in the compact list. -/
def symbol : AccessMode → String
  | readOnlyMany => "ro"
  | readWriteMany => "rw"
  | readWriteOnce => "rw-once"

def ofSymbol? (s : Text) : Option AccessMode := all.find? (fun m => Text.ofString m.symbol == s)

def ofText? (s : Text) : Option AccessMode := all.find? (fun m => Text.ofString m.text == s)

@[simp] theorem ofSymbol?_symbol (m : AccessMode) : ofSymbol? m.symbol = some m := by
  cases m <;> decide

theorem symbol_of_ofSymbol? {s : Text} {m : AccessMode} (h : ofSymbol? s = some m) :
    s = m.symbol := by
  have := List.find?_some h
  simpa using (beq_iff_eq.1 this).symm

end AccessMode

/-- What happens to a volume when its claim is released. -/
inductive ReclaimPolicy where
  | recycle
  | delete
  | retain
  deriving DecidableEq, Repr

namespace ReclaimPolicy

def all : List ReclaimPolicy := [recycle, delete, retain]

def constant : ReclaimPolicy → String
  | recycle => "RECYCLE"
  | delete => "DELETE"
  | retain => "RETAIN"

def text : ReclaimPolicy → String
  | recycle => "recycle"
  | delete => "delete"
  | retain => "retain"

def ofText? (s : Text) : Option ReclaimPolicy := all.find? (fun p => Text.ofString p.text == s)

@[simp] theorem ofText?_text (p : ReclaimPolicy) : ofText? p.text = some p := by
  cases p <;> decide

theorem text_of_ofText? {s : Text} {p : ReclaimPolicy} (h : ofText? s = some p) :
    s = p.text := by
  have := List.find?_some h
  simpa using (beq_iff_eq.1 this).symm

end ReclaimPolicy

/-- What the path of a host volume has to be, or has to be made. -/
inductive HostPathType where
  | directoryOrCreate
  | directory
  | fileOrCreate
  | file
  | socket
  | charDevice
  | blockDevice
  deriving DecidableEq, Repr

namespace HostPathType

def all : List HostPathType :=
  [directoryOrCreate, directory, fileOrCreate, file, socket, charDevice, blockDevice]

def constant : HostPathType → String
  | directoryOrCreate => "DIRECTORY_OR_CREATE"
  | directory => "DIRECTORY"
  | fileOrCreate => "FILE_OR_CREATE"
  | file => "FILE"
  | socket => "SOCKET"
  | charDevice => "CHAR_DEVICE"
  | blockDevice => "BLOCK_DEVICE"

def text : HostPathType → String
  | directoryOrCreate => "dir-or-create"
  | directory => "dir"
  | fileOrCreate => "file-or-create"
  | file => "file"
  | socket => "socket"
  | charDevice => "char-dev"
  | blockDevice => "block-dev"

def ofText? (s : Text) : Option HostPathType := all.find? (fun t => Text.ofString t.text == s)

@[simp] theorem ofText?_text (t : HostPathType) : ofText? t.text = some t := by
  cases t <;> decide

theorem text_of_ofText? {s : Text} {t : HostPathType} (h : ofText? s = some t) :
    s = t.text := by
  have := List.find?_some h
  simpa using (beq_iff_eq.1 this).symm

end HostPathType

/-- A word of one of the vocabularies. -/
inductive Term where
  | mode (m : AccessMode)
  | policy (p : ReclaimPolicy)
  | pathType (t : HostPathType)
  deriving DecidableEq, Repr

namespace Term

/-- The name of the vocabulary. -/
def family : Term → String
  | mode _ => "AccessMode"
  | policy _ => "ReclaimPolicy"
  | pathType _ => "HostPathType"

def constant : Term → String
  | mode m => m.constant
  | policy p => p.constant
  | pathType t => t.constant

def text : Term → String
  | mode m => m.text
  | policy p => p.text
  | pathType t => t.text

/-- The qualified name, `HostPathType.DIRECTORY`. -/
def label (t : Term) : String := t.family ++ "." ++ t.constant

end Term

end ShortVolume
