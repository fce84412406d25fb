import ShortVolume.Text.Blank
import ShortVolume.Text.Literal
set_option autoImplicit false

/-!
A file system as a value: directories, files and symbolic links under their paths.

A path is the list of names from the root; the root itself is a directory. Each entry has one path,
so looking up after `put` gives what was put, and every other path keeps its entry.
-/

namespace ShortVolume

/-- The names that lead from the root to an entry. -/
abbrev Path := List String

namespace Path

/-- The names in the text of a path. -/
def names (s : String) : List String := (Text.splitOn '/' s.toList).map String.ofList

def isAbsolute (s : String) : Bool := s.toList.head? == some '/'

/-- No name holds the character NUL. -/
def holdsNul (s : String) : Bool := s.toList.contains '\x00'

/-- The text of names below some directory. -/
def relative (p : Path) : String := "/".intercalate p

/-- The text of a path from the root. -/
def text (p : Path) : String := "/" ++ relative p

def name (p : Path) : String := p.getLastD ""

def parent (p : Path) : Path := p.dropLast

/-- The paths on the way from the root to this one, which is the last of them. -/
def stages : Path → List Path
  | [] => [[]]
  | name :: r => [] :: (stages r).map (name :: ·)

/-- The path beside this one with another last name. -/
def beside (p : Path) (name : String) : Path := p.parent ++ [name]

end Path

/-- Why the system refuses an operation on a path. -/
inductive SystemError where
  | notFound
  | notDirectory
  | isDirectory
  | nameTooLong
  | tooManyLinks
  | permissionDenied
  deriving DecidableEq, Repr

namespace SystemError

def number : SystemError → Nat
  | notFound => 2
  | permissionDenied => 13
  | notDirectory => 20
  | isDirectory => 21
  | nameTooLong => 36
  | tooManyLinks => 40

def reason : SystemError → String
  | notFound => "No such file or directory"
  | notDirectory => "Not a directory"
  | isDirectory => "Is a directory"
  | nameTooLong => "File name too long"
  | tooManyLinks => "Too many levels of symbolic links"
  | permissionDenied => "Permission denied"

def message (e : SystemError) (p : Path) : String :=
  "[Errno " ++ toString e.number ++ "] " ++ e.reason ++ ": " ++ Text.literal p.text

end SystemError

/-- What a path leads to. -/
inductive Entry where
  | directory
  | file (bytes : List UInt8)
  | link (target : String)
  deriving DecidableEq, Repr

/-- The most bytes that a name may have. -/
def nameLimit : Nat := 255

def isTooLong (name : String) : Bool := nameLimit < name.utf8ByteSize

/-- A file system, as its entries under their paths. In a locked directory no entry can be made. -/
structure Tree where
  entries : List (Path × Entry)
  locked : List Path := []
  deriving Repr

namespace Tree

def empty : Tree := { entries := [] }

def get? (t : Tree) (p : Path) : Option Entry :=
  if p = [] then some .directory else (t.entries.find? (fun e => e.1 == p)).map Prod.snd

def put (t : Tree) (p : Path) (e : Entry) : Tree :=
  { t with entries := (p, e) :: t.entries.filter (fun x => x.1 != p) }

/-- Takes the entry at a path away. -/
def erase (t : Tree) (p : Path) : Tree :=
  { t with entries := t.entries.filter (fun x => x.1 != p) }

/-- Takes the entry at a path away, with everything below it. -/
def eraseBelow (t : Tree) (p : Path) : Tree :=
  { t with entries := t.entries.filter (fun x => !p.isPrefixOf x.1) }

/-- The entries below a path, each under the names that lead from there to it. -/
def below (t : Tree) (p : Path) : List (Path × Entry) :=
  t.entries.filterMap (fun e =>
    if p.isPrefixOf e.1 && e.1 != p then some (e.1.drop p.length, e.2) else none)

def isDirectory (t : Tree) (p : Path) : Bool := t.get? p == some .directory

def isLocked (t : Tree) (p : Path) : Bool := t.locked.contains p

/-- Makes the directories that lead to a path and the one at it. -/
def makeDirectories (t : Tree) (p : Path) : Tree :=
  p.stages.foldl (fun t q => if (t.get? q).isSome then t else t.put q .directory) t

theorem get?_put_self (t : Tree) (p : Path) (e : Entry) (h : p ≠ []) :
    (t.put p e).get? p = some e := by
  simp [get?, put, h]

theorem get?_put_of_ne (t : Tree) {p q : Path} (e : Entry) (h : q ≠ p) :
    (t.put p e).get? q = t.get? q := by
  unfold get? put
  split
  · rfl
  · rw [List.find?_cons_of_neg (by simpa using fun hpq => h hpq.symm), List.find?_filter]
    congr 2
    funext x
    by_cases hx : x.1 = q
    · simp [hx, h]
    · simp [hx]

/-! ### Paths in texts -/

/-- The path that names lead to from `place`. A link leads on from the place it stands at, and the
parent of a place is the one before it. None when links lead on for more than `n` names. -/
def walk (t : Tree) : Nat → Path → List String → Option Path
  | _, place, [] => some place
  | 0, _, _ => none
  | n + 1, place, name :: rest =>
    if name = "" ∨ name = "." then walk t n place rest
    else if name = ".." then walk t n place.parent rest
    else
      match t.get? (place ++ [name]) with
      | some (.link target) =>
        walk t n (if Path.isAbsolute target then [] else place) (Path.names target ++ rest)
      | _ => walk t n (place ++ [name]) rest

/-- The most names that links may lead on for. -/
def linkLimit : Nat := 4096

/-- The path that a text names, seen from a directory: links followed, and whether or not there is
an entry. None for links that lead in a circle. -/
def resolve (t : Tree) (directory : Path) (s : String) : Option Path :=
  let names := Path.names s
  t.walk (names.length + linkLimit) (if Path.isAbsolute s then [] else directory) names

/-- The path that a link at the end of a path leads to. -/
def follow (t : Tree) (p : Path) : Option Path := t.walk (p.length + linkLimit) [] p

/-- Whether a name on the way is too long, where the system comes to look at it. -/
def meetsLongName (t : Tree) (p : Path) : Bool :=
  p.stages.any (fun q => q != [] && isTooLong q.name && t.isDirectory q.parent)

/-- The entry at a path, after links. None where there is no entry, or links lead in a circle. -/
def stat (t : Tree) (p : Path) : Except SystemError (Option Entry) :=
  match t.follow p with
  | none => .ok none
  | some q =>
    match t.get? q with
    | some e => .ok (some e)
    | none => if t.meetsLongName q then .error .nameTooLong else .ok none

/-! ### Files -/

/-- The bytes of the file at a path without links. -/
def read (t : Tree) (p : Path) : Except SystemError (List UInt8) :=
  match t.get? p with
  | some (.file bytes) => .ok bytes
  | some .directory => .error .isDirectory
  | some (.link _) => .error .tooManyLinks
  | none => .error .notFound

/-- Makes or overwrites the file that a path leads to. -/
def write (t : Tree) (p : Path) (bytes : List UInt8) : Except SystemError Tree :=
  match t.follow p with
  | none => .error .tooManyLinks
  | some q =>
    match t.get? q with
    | some .directory => .error .isDirectory
    | some _ => .ok (t.put q (.file bytes))
    | none =>
      match t.get? q.parent with
      | some .directory =>
        if isTooLong q.name then .error .nameTooLong
        else if t.isLocked q.parent then .error .permissionDenied
        else .ok (t.put q (.file bytes))
      | some _ => .error .notDirectory
      | none => .error .notFound

/-- Moves the entry at a path to another path, in place of what is there. -/
def move (t : Tree) (source target : Path) : Tree :=
  match t.get? source with
  | some e => (t.erase source).put target e
  | none => t

end Tree

end ShortVolume
