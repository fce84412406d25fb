set_option autoImplicit false

/-!
The difference of two texts, line by line, in the unified format.

The lines that stay are found as the longest common block, the earliest of several, and then the
same on either side of it. Changes are shown in hunks with three lines of context.
-/

namespace ShortVolume.Text.Diff

/-- A block of lines that both texts have, by where it starts in each and its size. -/
structure Block where
  old : Nat
  new : Nat
  size : Nat
  deriving DecidableEq, Repr

/-- In texts of this many lines a very frequent line starts no block. -/
def frequentFrom : Nat := 200

/-- The lines that are more than one in a hundred of a long text. -/
def frequent (new : List String) : List String :=
  if new.length < frequentFrom then []
  else new.eraseDups.filter (fun l => new.length / 100 + 1 < new.count l)

/-- How long the common block is that ends at a line of the old text and each of the new one, when
`before` says so of the previous old line. -/
def row (often : List String) (line : String) (new : List String) (before : List Nat) : List Nat :=
  let isFrequent := often.contains line
  List.zipWith (fun l n => if !isFrequent && l == line then n + 1 else 0) new (0 :: before)

/-- The better of a block and those that end at an old line. -/
def improve (i : Nat) : List Nat → Nat → Block → Block
  | [], _, best => best
  | n :: r, j, best =>
    improve i r (j + 1) (if best.size < n then ⟨i + 1 - n, j + 1 - n, n⟩ else best)

/-- The longest common block of the lines from number `i` on. -/
def longestFrom (often new : List String) : List String → Nat → List Nat → Block → Block
  | [], _, _, best => best
  | line :: r, i, before, best =>
    let now := row often line new before
    longestFrom often new r (i + 1) now (improve i now 0 best)

/-- How many lines two lists have in common at their start. -/
def common : List String → List String → Nat
  | a :: r, b :: s => if a == b then common r s + 1 else 0
  | _, _ => 0

/-- The longest common block, extended by frequent lines on both sides. -/
def longest (often old new : List String) : Block :=
  let b := longestFrom often new old 0 (new.map (fun _ => 0)) ⟨0, 0, 0⟩
  let left := common (old.take b.old).reverse (new.take b.new).reverse
  let right := common (old.drop (b.old + b.size)) (new.drop (b.new + b.size))
  ⟨b.old - left, b.new - left, left + b.size + right⟩

/-- All common blocks in order, of at most `n` old lines. -/
def blocks (often : List String) : Nat → List String → List String → List Block
  | 0, _, _ => []
  | n + 1, old, new =>
    let b := longest often old new
    if b.size = 0 then []
    else
      let i := b.old + b.size
      let j := b.new + b.size
      blocks often n (old.take b.old) (new.take b.new) ++
        b :: (blocks often n (old.drop i) (new.drop j)).map
          (fun c => ⟨c.old + i, c.new + j, c.size⟩)

/-- Joins blocks that follow each other without a gap. -/
def joined : List Block → List Block
  | [] => []
  | b :: r =>
    match joined r with
    | c :: rest =>
      if b.old + b.size = c.old ∧ b.new + b.size = c.new then
        ⟨b.old, b.new, b.size + c.size⟩ :: rest
      else b :: c :: rest
    | [] => [b]

/-- Lines of the old text beside those that stand for them in the new one. -/
structure Span where
  same : Bool
  oldFrom : Nat
  oldTo : Nat
  newFrom : Nat
  newTo : Nat
  deriving DecidableEq, Repr

/-- The spans from given places on: what changes before each block, and the block. -/
def spans (i j : Nat) : List Block → List Span
  | [] => []
  | b :: r =>
    let change : List Span :=
      if i < b.old ∨ j < b.new then [⟨false, i, b.old, j, b.new⟩] else []
    let stay : List Span :=
      if 0 < b.size then [⟨true, b.old, b.old + b.size, b.new, b.new + b.size⟩] else []
    change ++ stay ++ spans (b.old + b.size) (b.new + b.size) r

/-- How many unchanged lines are shown around a change. -/
def context : Nat := 3

/-- The last lines of an unchanged span. -/
def Span.tail (s : Span) : Span :=
  { s with oldFrom := max s.oldFrom (s.oldTo - context), newFrom := max s.newFrom (s.newTo - context) }

/-- The first lines of an unchanged span. -/
def Span.head (s : Span) : Span :=
  { s with oldTo := min s.oldTo (s.oldFrom + context), newTo := min s.newTo (s.newFrom + context) }

/-- The spans with the context before the first change and after the last one cut short. -/
def trimmed (ss : List Span) : List Span :=
  let ss := match ss with
    | s :: r => (if s.same then s.tail else s) :: r
    | [] => []
  match ss.reverse with
  | s :: r => ((if s.same then s.head else s) :: r).reverse
  | [] => []

/-- The hunks: a long unchanged span ends one and starts the next. -/
def hunks : List Span → List Span → List (List Span)
  | [], hunk => [hunk]
  | s :: r, hunk =>
    if s.same ∧ 2 * context < s.oldTo - s.oldFrom then (hunk ++ [s.head]) :: hunks r [s.tail]
    else hunks r (hunk ++ [s])

/-- The hunks that change something. -/
def changes (old new : List String) : List (List Span) :=
  let bs := joined (blocks (frequent new) (old.length + 1) old new) ++ [⟨old.length, new.length, 0⟩]
  (hunks (trimmed (spans 0 0 bs)) []).filter (fun h => h.any (fun s => !s.same))

/-- The lines of a range: the number of the first one and, unless it is one line, how many. -/
def range (start stop : Nat) : String :=
  let n := stop - start
  if n = 1 then toString (start + 1)
  else toString (if n = 0 then start else start + 1) ++ "," ++ toString n

def slice (ls : List String) (start stop : Nat) : List String := (ls.take stop).drop start

def Span.lines (old new : List String) (s : Span) : List String :=
  if s.same then (slice old s.oldFrom s.oldTo).map (" " ++ ·)
  else
    (slice old s.oldFrom s.oldTo).map ("-" ++ ·) ++ (slice new s.newFrom s.newTo).map ("+" ++ ·)

def hunkLines (old new : List String) (h : List Span) : List String :=
  match h.head?, h.getLast? with
  | some first, some last =>
    ("@@ -" ++ range first.oldFrom last.oldTo ++ " +" ++ range first.newFrom last.newTo ++ " @@") ::
      h.flatMap (Span.lines old new)
  | _, _ => []

/-- The difference of two texts under their names; nothing if there is none. -/
def unified (oldName newName : String) (old new : List String) : List String :=
  match changes old new with
  | [] => []
  | hs => ("--- " ++ oldName) :: ("+++ " ++ newName) :: hs.flatMap (hunkLines old new)

example : unified "a" "b" ["x", "y"] ["x", "z"] =
    ["--- a", "+++ b", "@@ -1,2 +1,2 @@", " x", "-y", "+z"] := by decide +kernel

end ShortVolume.Text.Diff
