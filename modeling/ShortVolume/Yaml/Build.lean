import ShortVolume.Yaml.Node
import ShortVolume.Yaml.Scalar
import ShortVolume.Yaml.Build.Cell
import ShortVolume.Value.Literal
set_option autoImplicit false

/-!
What is built from the nodes of a document.

A cell is empty at first. It is filled after everything on the level above it, so of several errors
in a document the one on the highest level is met first; inside a key it is filled at once.
-/

namespace ShortVolume.Yaml

/-- What has been built so far. -/
structure Builder where
  version : Version
  nodes : Array Placed
  /-- How many merge keys the document has. -/
  merges : Nat
  /-- The pairs that were merged into a map. -/
  merged : List (NodeId × List (NodeId × NodeId))
  /-- What each node has become. -/
  built : Array (Option Part)
  /-- The nodes that are being built. -/
  open_ : List NodeId
  /-- Whether cells are filled at once. -/
  deep : Bool
  cells : Array Cell
  /-- The cells to be filled, with their nodes. -/
  tasks : Array (NodeId × Nat)

abbrev Build (α : Type) := StateT Builder (Except Error) α

namespace Builder

def start (v : Version) (nodes : Array Placed) : Builder :=
  let isMerge (p : NodeId × NodeId) : Bool := (nodes[p.1]?.map (fun x => x.node.tag)) == some .merge
  let count : Node → Nat
    | .mapping _ pairs => pairs.countP isMerge
    | _ => 0
  { version := v, nodes, merges := nodes.foldl (fun n x => n + count x.node) 0, merged := []
    built := Array.replicate nodes.size none, open_ := [], deep := false, cells := #[], tasks := #[] }

def node (b : Builder) (i : NodeId) : Node := (b.nodes[i]?.map Placed.node).getD .blank

/-- The number of characters before a node. -/
def place (b : Builder) (i : NodeId) : Nat := (b.nodes[i]?.map Placed.place).getD 0

/-- The pairs of a map, none for any other node. -/
def pairs (b : Builder) (i : NodeId) : List (NodeId × NodeId) :=
  match b.node i with
  | .mapping _ ps => ps
  | _ => []

def setNode (b : Builder) (i : NodeId) (x : Node) : Builder :=
  { b with nodes := b.nodes.modify i (fun y => { y with node := x }) }

def setPairs (b : Builder) (i : NodeId) (ps : List (NodeId × NodeId)) : Builder :=
  b.setNode i (.mapping (b.node i).tag ps)

/-- Adds the pairs merged into a map. -/
def merge (b : Builder) (i : NodeId) (ps : List (NodeId × NodeId)) : Builder :=
  if ps.isEmpty then b
  else { (b.setPairs i (ps ++ b.pairs i)) with merged := (i, ps) :: b.merged }

/-- The pairs merged into a map, if any were. -/
def mergedInto (b : Builder) (i : NodeId) : List (NodeId × NodeId) :=
  ((b.merged.find? (fun e => e.1 == i)).map Prod.snd).getD []

/-- The content of a scalar, or of the one under the sign for a value in a map. -/
def content? (b : Builder) : Nat → NodeId → Option Text
  | 0, _ => none
  | n + 1, i =>
    match b.node i with
    | .scalar _ content => some content
    | .sequence _ _ => none
    | .mapping _ pairs =>
      (pairs.find? (fun p => (b.node p.1).tag == .value)).bind (fun p => b.content? n p.2)

/-- The value that a part stands for when it is a key. Only a tuple of values is one. -/
def key? (b : Builder) : Nat → Part → Option Value
  | _, .whole v => some v
  | 0, .cell _ => none
  | n + 1, .cell i =>
    match b.cells[i]? with
    | some (.tuple xs) => (xs.mapM (b.key? n)).map .tuple
    | _ => none

/-- The value of a part as it stands. -/
def valueOf (b : Builder) (p : Part) : Value := (unfold b.cells (b.cells.size + 1) [] p).value

end Builder

/-! ### Errors -/

def wrong {α : Type} (i : NodeId) (c : Cause) : Build α := do
  throw ((Error.of c).at_ ((← get).place i))

/-- What is wrong at a node inside of another one. -/
def wrongIn {α : Type} (around i : NodeId) (c : Cause) : Build α := do
  throw (((Error.of c).at_ ((← get).place i)).within ((← get).place around))

/-! ### Merged maps -/

/-- The pairs that the value of a merge key of the map `m` gives: those of a map, or those of the maps
in a list, the last map first. `flatten` merges into a map what it asks for. -/
def mergeSource (flatten : NodeId → Build Unit) (m i : NodeId) :
    Build (List (NodeId × NodeId)) := do
  match (← get).node i with
  | .mapping _ _ => one i
  | .sequence _ items => return (← items.mapM one).reverse.flatten
  | .scalar _ _ => wrongIn m i .merge
where
  one (i : NodeId) : Build (List (NodeId × NodeId)) := do
    match (← get).node i with
    | .mapping _ _ =>
      flatten i
      return (← get).pairs i
    | _ => wrongIn m i .merge

/-- Goes through the pairs of a map from a place on, where `more` has been merged so far. A merge key
is taken out, and its pairs are added; it may come again only as long as there are none. The sign for
a value becomes an ordinary key. `rest` goes on after a merge key. -/
def flattenPairs (rest : NodeId → Nat → List (NodeId × NodeId) → Build Unit) (i : NodeId) :
    Nat → Nat → List (NodeId × NodeId) → Build Unit
  | 0, _, more => modify (·.merge i more)
  | n + 1, place, more => do
    let b ← get
    match (b.pairs i)[place]? with
    | none => modify (·.merge i more)
    | some (k, v) =>
      match (b.node k).tag with
      | .merge =>
        if more.isEmpty then
          set (b.setPairs i ((b.pairs i).eraseIdx place))
          let source ← mergeSource (fun x => rest x 0 []) i v
          rest i place (more ++ source)
        else wrongIn i k .repeatedMerge
      | .value =>
        set (b.setNode k ((b.node k).withTag .str))
        flattenPairs rest i n (place + 1) more
      | _ => flattenPairs rest i n (place + 1) more

/-- Merges into a map what its merge keys ask for, of which there are less than `n`. -/
def flattenFrom : Nat → NodeId → Nat → List (NodeId × NodeId) → Build Unit
  | 0, i, _, _ => wrong i .merge
  | n + 1, i, place, more => do
    flattenPairs (flattenFrom n) i (((← get).pairs i).length + 1) place more

def flatten (i : NodeId) : Build Unit := do flattenFrom ((← get).merges + 1) i 0 []

/-! ### Keys -/

/-- A list that is a key of the map `m` becomes a tuple of the items it has at that time. A map or a set
is no key. -/
def asKey (m k : NodeId) (p : Part) : Build Part := do
  match p with
  | .whole _ => return p
  | .cell i =>
    let b ← get
    match b.cells[i]? with
    | some (.list xs) =>
      set { b with cells := b.cells.push (.tuple xs) }
      return .cell b.cells.size
    | some (.tuple _) => return p
    | _ => wrongIn m k .keyKind

def keyValue (p : Part) : Build Value := do
  let b ← get
  match b.key? (b.cells.size + 1) p with
  | some v => return v
  | none => throw (.of .listInKey)

/-- The part under a key. -/
def partOf? (k : Value) (es : List (Value × Part)) : Option Part :=
  (es.find? (fun e => e.1.same k)).map Prod.snd

/-- The error that the key `k` of the map `m` has come before. All that it tells needs a text. -/
def repeated (m k : NodeId) (key : Value) (item first : Part) : Build Unit := do
  let b ← get
  let (value, first) := (b.valueOf item, b.valueOf first)
  if key.isShowable && value.isShowable && first.isShowable then
    wrongIn m k (.repeatedKey key.bare value.bare first.bare)
  else throw (.of .longNumber)

/-- Puts a part under a key. A key that is there keeps its place. -/
def putPart (k : Value) (x : Part) : List (Value × Part) → List (Value × Part)
  | [] => [(k, x)]
  | (k', y) :: r => if k'.same k then (k', x) :: r else (k', y) :: putPart k x r

/-! ### Collections -/

/-- Builds the node of a part; the flag tells that its cells are filled at once. -/
abbrev Construct := Bool → NodeId → Build Part

/-- The entries of the map `m` after those before them. Where keys are checked none may come twice;
otherwise a later entry wins over an earlier one. -/
def entriesOf (construct : Construct) (m : NodeId) (checked : Bool) :
    List (NodeId × NodeId) → List (Value × Part) → Build (List (Value × Part))
  | [], es => return es
  | (k, v) :: r, es => do
    let key ← asKey m k (← construct true k)
    let item ← construct false v
    let key ← keyValue key
    if checked then
      match partOf? key es with
      | some first => repeated m k key item first
      | none => pure ()
    entriesOf construct m checked r (putPart key item es)

def mapEntries (construct : Construct) (i : NodeId) : Build (List (Value × Part)) := do
  match (← get).node i with
  | .mapping _ _ =>
    flatten i
    let b ← get
    let merged := b.mergedInto i
    entriesOf construct i merged.isEmpty (merged ++ b.pairs i) []
  | _ => wrong i .content

/-- The one pair of a map in the list `m`. -/
def singlePair (m i : NodeId) : Build (NodeId × NodeId) := do
  match (← get).pairs i with
  | [p] => return p
  | _ => wrongIn m i .content

/-- The entries of the maps in the list `m`, no key twice. -/
def orderedEntries (construct : Construct) (m : NodeId) :
    List NodeId → List (Value × Part) → Build (List (Value × Part))
  | [], es => return es
  | x :: r, es => do
    let (k, v) ← singlePair m x
    let key ← keyValue (← construct false k)
    if (partOf? key es).isSome then throw (.of .repeatedPair)
    let item ← construct false v
    orderedEntries construct m r (es ++ [(key, item)])

/-- The pairs of the maps in the list `m`, each as a tuple. -/
def pairItems (construct : Construct) (m : NodeId) : List NodeId → Build (List Part)
  | [] => return []
  | x :: r => do
    let (k, v) ← singlePair m x
    let key ← construct false k
    let item ← construct false v
    let b ← get
    set { b with cells := b.cells.push (.tuple [key, item]) }
    return .cell b.cells.size :: (← pairItems construct m r)

def itemsOf (i : NodeId) : Build (List NodeId) := do
  match (← get).node i with
  | .sequence _ items => return items
  | _ => wrong i .content

def filled (construct : Construct) (i : NodeId) : Build Cell := do
  match ((← get).node i).tag with
  | .seq => return .list (← (← itemsOf i).mapM (construct false))
  | .set => return .set ((← mapEntries construct i).map Prod.fst)
  | .orderedMap => return .orderedMap (← orderedEntries construct i (← itemsOf i) [])
  | .pairs => return .list (← pairItems construct i (← itemsOf i))
  | _ => return .map (← mapEntries construct i)

def fill (construct : Construct) (task : NodeId × Nat) : Build Unit := do
  let c ← filled construct task.1
  modify (fun b => { b with cells := b.cells.setIfInBounds task.2 c })

/-- The empty cell of a tag, none for the tag of a scalar. -/
def emptyCell? : Tag → Option Cell
  | .seq | .pairs => some (.list [])
  | .map => some (.map [])
  | .set => some (.set [])
  | .orderedMap => some (.orderedMap [])
  | _ => none

/-! ### Nodes -/

/-- The number of a scalar. An undefined one is told apart by the node, unless it is written in the
one way that names it. -/
def floatOf (v : Version) (i : NodeId) (content : Text) : Except Error Binary64 := do
  let x ← Scalar.float v content
  return if x.isNaN && !Scalar.isUndefined content then .nanWith (i + 1) else x

/-- The value of a node with the tag of a scalar. -/
def scalarOf (b : Builder) (i : NodeId) : Except Error Value :=
  let content : Except Error Text :=
    match b.content? (b.nodes.size + 1) i with
    | some s => .ok s
    | none => .error (.of .content)
  match (b.node i).tag with
  | .null => content.map (fun _ => .null)
  | .bool => do return .bool (← Scalar.bool (← content))
  | .int => do return .int (← Scalar.int b.version (← content))
  | .float => do return .float (← floatOf b.version i (← content))
  | .binary => do return .bytes (← Scalar.binary (← content))
  | .str => do return .text (← content)
  | .timestamp =>
    match b.node i with
    | .scalar _ s => Scalar.timestamp s
    | _ => .error (.of .content)
  | .unknown a => .error (.of (.unknownTag a))
  | _ => .error (.of .content)

/-- Builds a node for the first time. -/
def constructNew (construct : Construct) (i : NodeId) : Build Part := do
  let b ← get
  match emptyCell? (b.node i).tag with
  | none => return .whole (← (scalarOf b i).mapError (Error.at_ (b.place i)))
  | some c =>
    let task := (i, b.cells.size)
    set { b with cells := b.cells.push c }
    if b.deep then fill construct task
    else modify (fun b => { b with tasks := b.tasks.push task })
    return .cell task.2

/-- Builds a node that is at most `n` levels above those that are open. A node that is open stands
for nothing inside itself. -/
def construct : Nat → Construct
  | 0, _, i => wrong i .content
  | n + 1, deep, i => do
    let b ← get
    match b.built.getD i none with
    | some p => return p
    | none =>
      if b.open_.contains i then return .whole .null
      else
        set { b with deep := b.deep || deep, open_ := i :: b.open_ }
        let p ← constructNew (construct n) i
        modify (fun b' => { b' with
          deep := b.deep, open_ := b.open_, built := b'.built.setIfInBounds i (some p) })
        return p

/-- Fills the cells that are waiting, level by level, at most `n` levels. -/
def fillWaiting (depth : Nat) : Nat → Build Unit
  | 0 => return
  | n + 1 => do
    let tasks := (← get).tasks
    if tasks.isEmpty then return
    modify (fun b => { b with tasks := #[] })
    tasks.forM (fill (construct depth))
    fillWaiting depth n

/-- Builds the node with all below it. -/
def constructAll (i : NodeId) : Build Part := do
  let count := (← get).nodes.size + 2
  let p ← construct count false i
  fillWaiting count count
  return p

/-- The value of a node, under a version. -/
def valueOf (v : Version) (nodes : Array Placed) (i : NodeId) : Except Error Value := do
  let (p, b) ← (constructAll i).run (.start v nodes)
  return (unfold b.cells (b.cells.size + 1) [] p).value

end ShortVolume.Yaml
