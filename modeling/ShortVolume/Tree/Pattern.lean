import ShortVolume.Tree
set_option autoImplicit false

/-!
Patterns of file names, and the search for what matches them.

A star stands for any characters, a question mark for one, and brackets for one of a set. A pattern
of several names, with slashes between them, leads from directory to directory, and through links to
directories; two stars stand for any number of directories, but for no links.
-/

namespace ShortVolume

namespace Glob

inductive Piece where
  | star
  | anyChar
  | exactly (c : Char)
  | oneOf (negated : Bool) (ranges : List (Char × Char))
  deriving DecidableEq, Repr

/-- The characters of a set: single ones, and ranges with a hyphen between their ends. -/
def ranges : List Char → List (Char × Char)
  | a :: '-' :: b :: r => if a ≤ b then (a, b) :: ranges r else ranges r
  | a :: r => (a, a) :: ranges r
  | [] => []

/-- The set after an opening bracket and what follows its closing one. A closing bracket that comes
first, or after an exclamation mark, belongs to the set. -/
def set? (s : List Char) : Option (Piece × List Char) :=
  let (negated, r) := match s with
    | '!' :: r => (true, r)
    | r => (false, r)
  let (first, r) := match r with
    | ']' :: r => ([']'], r)
    | r => ([], r)
  match r.dropWhile (· != ']') with
  | ']' :: rest => some (.oneOf negated (ranges (first ++ r.takeWhile (· != ']'))), rest)
  | _ => none

/-- The parts of a pattern of at most `n` characters. A bracket that is never closed stands for
itself. -/
def pieces : Nat → List Char → List Piece
  | 0, _ => []
  | _, [] => []
  | n + 1, c :: r =>
    if c = '*' then .star :: pieces n r
    else if c = '?' then .anyChar :: pieces n r
    else if c = '[' then
      match set? r with
      | some (p, rest) => p :: pieces n rest
      | none => .exactly c :: pieces n r
    else .exactly c :: pieces n r

def Piece.accepts (c : Char) : Piece → Bool
  | star => false
  | anyChar => true
  | exactly d => c == d
  | oneOf negated rs => rs.any (fun e => e.1 ≤ c && c ≤ e.2) != negated

/-- The ends of a list, from the whole list to the empty one. -/
def ends {α : Type} : List α → List (List α)
  | [] => [[]]
  | a :: r => (a :: r) :: ends r

/-- Whether characters match the parts of a pattern. -/
def accepts : List Piece → List Char → Bool
  | [], s => s.isEmpty
  | .star :: ps, s => (ends s).any (accepts ps)
  | _ :: _, [] => false
  | p :: ps, c :: r => p.accepts c && accepts ps r

def matchesName (pattern name : String) : Bool :=
  accepts (pieces (pattern.length + 1) pattern.toList) name.toList

inductive Segment where
  /-- Two stars alone: a directory, and all below it. -/
  | anywhere
  /-- A name without wildcards. -/
  | named (name : String)
  | like (pattern : String)
  deriving DecidableEq, Repr

def isWildcard (c : Char) : Bool := c == '*' || c == '?' || c == '['

def Segment.ofText (s : String) : Segment :=
  if s = "**" then anywhere else if s.toList.any isWildcard then like s else named s

/-- Whether two stars stand next to each other. -/
def hasDoubledStar : List Char → Bool
  | '*' :: '*' :: _ => true
  | _ :: r => hasDoubledStar r
  | [] => false

/-- The names of a pattern; none if stars are doubled beside other characters. A slash at the end asks
for a directory. -/
def segments? (s : String) : Option (List Segment) :=
  let ps := (Path.names s).filter (fun p => p != "" && p != ".")
  if ps.any (fun p => p != "**" && hasDoubledStar p.toList) then none
  else some (ps.map .ofText ++ if s.toList.getLast? = some '/' then [.anywhere] else [])

/-- What a search has come to: the names on the way, and the path that they lead to. -/
structure Found where
  names : Path
  path : Path
  deriving DecidableEq, Repr

namespace Found

/-- What lies right below a directory. -/
def children (t : Tree) (f : Found) : List String :=
  (t.below f.path).filterMap (fun e =>
    match e.1 with
    | [name] => some name
    | _ => none)

/-- A directory and those below it. -/
def directories (t : Tree) (f : Found) : List Found :=
  f :: (t.below f.path).filterMap (fun e =>
    if e.2 = .directory then some ⟨f.names ++ e.1, f.path ++ e.1⟩ else none)

/-- What a name below a directory stands for, if it is there. -/
def entry? (t : Tree) (f : Found) (name : String) : Except SystemError (Option Found) :=
  if name = ".." then .ok (some ⟨f.names ++ [name], f.path.parent⟩)
  else
    match t.stat (f.path ++ [name]) with
    | .error e => .error e
    | .ok none => .ok none
    | .ok (some _) => .ok (some ⟨f.names ++ [name], f.path ++ [name]⟩)

/-- The directory that a name below a directory leads to, if it is one. -/
def enter? (t : Tree) (f : Found) (name : String) : Except SystemError (Option Found) :=
  match f.entry? t name with
  | .error e => .error e
  | .ok none => .ok none
  | .ok (some g) =>
    match t.follow g.path with
    | some q => .ok (if t.isDirectory q then some ⟨g.names, q⟩ else none)
    | none => .ok none

end Found

/-- What matches the names of a pattern below a directory. -/
def select (t : Tree) : List Segment → Found → Except SystemError (List Found)
  | [], f => .ok [f]
  | .anywhere :: ss, f => do
    return (← (f.directories t).mapM (select t ss)).flatten
  | [.named name], f => do return (← f.entry? t name).toList
  | .named name :: ss, f => do
    match ← f.enter? t name with
    | some g => select t ss g
    | none => return []
  | [.like p], f =>
    .ok (((f.children t).filter (matchesName p)).map (fun name =>
      ⟨f.names ++ [name], f.path ++ [name]⟩))
  | .like p :: ss, f => do
    let below ← (f.children t).mapM (f.enter? t)
    let here := (below.filterMap id).filter (fun g => matchesName p g.names.name)
    return (← here.mapM (select t ss)).flatten

example : matchesName "*.yaml" "a.b.yaml" = true := by decide +kernel
example : matchesName "*.y[ab]?l" "x.ycml" = false := by decide +kernel
example : matchesName "*.y[!x]ml" "x.yaml" = true := by decide +kernel

end Glob

end ShortVolume
