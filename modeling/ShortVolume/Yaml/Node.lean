import ShortVolume.Yaml.Tag
import ShortVolume.Number.Numeral
import ShortVolume.Yaml.Token.Scan
set_option autoImplicit false

/-!
The nodes of a document, built from its tokens.

The nodes are numbered, and a collection has the numbers of its parts. An alias is the number of the
node it refers to, so that a collection may contain itself. Every node has its tag: the one that is
written, or the one that its form gives it.
-/

namespace ShortVolume.Yaml

/-- The number of a node in its document. -/
abbrev NodeId := Nat

inductive Node where
  | scalar (tag : Tag) (content : Text)
  | sequence (tag : Tag) (items : List NodeId)
  | mapping (tag : Tag) (pairs : List (NodeId × NodeId))
  deriving Repr

namespace Node

def blank : Node := scalar .null ""

def tag : Node → Tag
  | scalar t _ | sequence t _ | mapping t _ => t

def withTag (t : Tag) : Node → Node
  | scalar _ content => scalar t content
  | sequence _ items => sequence t items
  | mapping _ pairs => mapping t pairs

end Node

/-- A node, and the number of characters before it. -/
structure Placed where
  node : Node
  place : Nat
  deriving Repr

/-- The tokens that are left, each with its version, and what the tokens before them declared. -/
structure Reader where
  tokens : List (Lexeme × Version)
  error : Option Error
  /-- The version of the last token taken. -/
  version : Version
  /-- The number of characters before the end of the last token taken. -/
  behind : Nat
  /-- The version in force at the end of the text. -/
  final : Version
  /-- The number of characters of the text. -/
  size : Nat
  handles : List (String × String)
  /-- The anchors so far, the last one first. -/
  anchors : List (String × NodeId)
  nodes : Array Placed

namespace Reader

def ofTokens (ts : Tokens) : Reader := ⟨ts.list, ts.error, .v1_2, 0, ts.version, ts.size, [], [], #[]⟩

/-- The next token, none at the end. Where the tokens give out, the error comes to light. -/
def peek (r : Reader) : Except Error (Option Token) :=
  match r.tokens, r.error with
  | t :: _, _ => .ok (some t.1.token)
  | [], some e => .error e
  | [], none => .ok none

def nextVersion (r : Reader) : Version :=
  match r.tokens with
  | t :: _ => t.2
  | [] => r.final

/-- The number of characters before the next token. -/
def nextPlace (r : Reader) : Nat :=
  match r.tokens with
  | t :: _ => t.1.first
  | [] => r.size

/-- The number of characters before the end of the next token. -/
def nextEnd (r : Reader) : Nat :=
  match r.tokens with
  | t :: _ => t.1.after
  | [] => r.size

/-- The reader after the next token. -/
def skip (r : Reader) : Reader :=
  { r with tokens := r.tokens.drop 1, version := r.nextVersion, behind := r.nextEnd }

/-- The error that the next token is. -/
def wrong (r : Reader) (c : Cause) : Error := (Error.of c).at_ r.nextPlace

/-- The error that something else than the next token is expected. -/
def misplaced (r : Reader) (wanted : String) : Error :=
  r.wrong (.misplaced wanted (Token.nameAt (r.tokens.head?.map (fun t => t.1.token))))

/-- The same inside of a collection that starts at a place. -/
def misplacedIn (r : Reader) (start : Nat) (wanted : String) : Error :=
  (r.misplaced wanted).within start

/-- Whether the next token is one of the given ones. -/
def isAt (r : Reader) (ts : List (Option Token)) : Except Error Bool := do
  return ts.contains (← r.peek)

def add (r : Reader) (x : Node) (place : Nat) : NodeId × Reader :=
  (r.nodes.size, { r with nodes := r.nodes.push ⟨x, place⟩ })

/-- Gives a node its parts. -/
def set (r : Reader) (i : NodeId) (x : Node) : Reader :=
  { r with nodes := r.nodes.modify i (fun y => { y with node := x }) }

/-! ### Properties of nodes -/

/-- A written tag. -/
inductive Mark where
  | none
  /-- The tag that asks for none. -/
  | bare
  | address (a : String)

/-- The anchor and the tag of a node. -/
structure Properties where
  anchor : Option String
  mark : Mark

/-- A suffix with the escapes that are still in it: a percent sign and the number of a character. -/
def unescaped : List Char → Except Error (List Char)
  | [] => .ok []
  | '%' :: a :: b :: r => escaped [a, b] (unescaped r)
  | '%' :: r => escaped r (.ok [])
  | c :: r => do return c :: (← unescaped r)
where
  escaped (number : List Char) (rest : Except Error (List Char)) : Except Error (List Char) :=
    match Numeral.integer? 16 number with
    | none => .error (.of (.number (String.ofList number)))
    | some i =>
      if i < 0 then .error (.of (.number (String.ofList number)))
      else do return Char.ofNat i.toNat :: (← rest)

/-- The address of a tag: its handle stands for the start of it. -/
def expand (r : Reader) (handle : Option String) (suffix : String) : Except Error Mark := do
  match handle with
  | none => return ofAddress (String.ofList (← unescaped suffix.toList))
  | some h =>
    match r.handles.find? (fun e => e.1 == h) with
    | some (_, a) => return ofAddress (a ++ String.ofList (← unescaped suffix.toList))
    | none => .error (.of (.unknownHandle h))
where
  ofAddress (a : String) : Mark := if a = "!" then .bare else .address a

def optionalAnchor (r : Reader) : Except Error (Option String × Reader) := do
  match ← r.peek with
  | some (.anchor n) => return (some n, r.skip)
  | _ => return (none, r)

/-- The written parts of a tag, if there is one. -/
def optionalTag (r : Reader) : Except Error (Option (Option String × String) × Reader) := do
  match ← r.peek with
  | some (.tag h s) => return (some (h, s), r.skip)
  | _ => return (none, r)

/-- Anchor and tag, in either order. -/
def properties (r : Reader) : Except Error (Properties × Reader) := do
  let start := r.nextPlace
  let (a, r) ← r.optionalAnchor
  let place := r.nextPlace
  let (t, r) ← r.optionalTag
  let (a, r) ← if a.isNone && t.isSome then r.optionalAnchor else .ok (a, r)
  match t with
  | some (h, s) =>
    let mark ← (r.expand h s).mapError (fun e => (e.at_ place).within start)
    return (⟨a, mark⟩, r)
  | none => return (⟨a, .none⟩, r)

namespace Properties

def isEmpty (p : Properties) : Bool :=
  match p.anchor, p.mark with
  | none, .none => true
  | _, _ => false

/-- The tag of a scalar. One that is plain, or asks for no tag, has that of its form. -/
def scalarTag (p : Properties) (v : Version) (content : Text) (plain : Bool) :
    Except Error Tag :=
  match p.mark with
  | .address a => .ok (.ofAddress a)
  | .bare => Tag.ofPlain v content
  | .none => if plain then Tag.ofPlain v content else .ok .str

def collectionTag (p : Properties) (default : Tag) : Tag :=
  match p.mark with
  | .address a => .ofAddress a
  | _ => default

end Properties

/-! ### Nodes -/

def anchor (r : Reader) (p : Properties) (i : NodeId) : Reader :=
  match p.anchor with
  | some n => { r with anchors := (n, i) :: r.anchors }
  | none => r

def addWith (r : Reader) (p : Properties) (x : Node) (place : Nat) : NodeId × Reader :=
  let (i, r) := r.add x place
  (i, r.anchor p i)

/-- The node that an alias refers to: that of the last anchor with its name. -/
def anchored (r : Reader) (name : String) : Except Error NodeId :=
  match r.anchors.find? (fun a => a.1 == name) with
  | some (_, i) => .ok i
  | none => .error (r.wrong (.unknownAnchor name))

/-- An empty scalar, which has no token and stands after the last one taken. -/
def empty (r : Reader) : Except Error (NodeId × Reader) := do
  return r.add (.scalar (← Tag.ofPlain r.nextVersion "") "") r.behind

/-- An empty scalar that stands before the next token. -/
def emptyBefore (r : Reader) : Except Error (NodeId × Reader) := do
  return r.add (.scalar (← Tag.ofPlain r.nextVersion "") "") r.nextPlace

/-- Goes on after a token that has to be next. -/
def expect (r : Reader) (t : Token) (e : Error) : Except Error Reader := do
  if (← r.peek) == some t then return r.skip else .error e

/-- What a flow collection wants between its parts, if it ends with `close`. -/
def wantedIn (close : Token) : String := "',' or '" ++ close.name ++ "'"

mutual

/-- The node at the next token. `block` allows block collections, and `indentless` a block sequence
without indentation of its own. -/
def node (block indentless : Bool) : Nat → Reader → Except Error (NodeId × Reader)
  | 0, r => .error (r.misplaced "the end")
  | n + 1, r => do
    match ← r.peek with
    | some (.alias name) => return (← r.anchored name, r.skip)
    | _ =>
      let start := r.nextPlace
      let (p, r) ← r.properties
      let sequence (r : Reader) (items : Reader → Except Error (List NodeId × Reader)) :
          Except Error (NodeId × Reader) := do
        let tag := p.collectionTag .seq
        let (i, r) := r.addWith p (.sequence tag []) start
        let (xs, r) ← items r
        return (i, r.set i (.sequence tag xs))
      let mapping (r : Reader) (pairs : Reader → Except Error (List (NodeId × NodeId) × Reader)) :
          Except Error (NodeId × Reader) := do
        let tag := p.collectionTag .map
        let (i, r) := r.addWith p (.mapping tag []) start
        let (ps, r) ← pairs r
        return (i, r.set i (.mapping tag ps))
      let scalar (content : Text) (plain : Bool) (v : Version) (r : Reader) :
          Except Error (NodeId × Reader) := do
        return r.addWith p (.scalar (← p.scalarTag v content plain) content) start
      let blank : Except Error (NodeId × Reader) :=
        if p.isEmpty then .error (r.misplacedIn start "the node content")
        else scalar "" true r.nextVersion r
      match ← r.peek with
      | some (.scalar content plain) => scalar content plain r.nextVersion r.skip
      | some .flowSequence => sequence r.skip (flowItems r.nextPlace true n)
      | some .flowMapping => mapping r.skip (flowPairs r.nextPlace true n)
      | some .item => if indentless then sequence r (looseItems n) else blank
      | some .blockSequence => if block then sequence r.skip (blockItems r.nextPlace n) else blank
      | some .blockMapping => if block then mapping r.skip (blockPairs r.nextPlace n) else blank
      | _ => blank
termination_by structural n => n

/-- The items of a block sequence that starts at a place. -/
def blockItems (start : Nat) : Nat → Reader → Except Error (List NodeId × Reader)
  | 0, r => .error (r.misplaced "the end")
  | n + 1, r => do
    match ← r.peek with
    | some .item =>
      let r := r.skip
      let (x, r) ←
        if ← r.isAt [some .item, some .blockEnd] then r.empty else node true false n r
      let (xs, r) ← blockItems start n r
      return (x :: xs, r)
    | some .blockEnd => return ([], r.skip)
    | _ => .error (r.misplacedIn start "<block end>")
termination_by structural n => n

/-- The items of a block sequence that stands at the column of the map around it. -/
def looseItems : Nat → Reader → Except Error (List NodeId × Reader)
  | 0, r => .error (r.misplaced "the end")
  | n + 1, r => do
    match ← r.peek with
    | some .item =>
      let r := r.skip
      let (x, r) ←
        if ← r.isAt [some .item, some .key, some .value, some .blockEnd] then r.empty
        else node true false n r
      let (xs, r) ← looseItems n r
      return (x :: xs, r)
    | _ => return ([], r)
termination_by structural n => n

/-- The pairs of a block map that starts at a place. -/
def blockPairs (start : Nat) : Nat → Reader → Except Error (List (NodeId × NodeId) × Reader)
  | 0, r => .error (r.misplaced "the end")
  | n + 1, r => do
    let stops := [some Token.key, some .value, some .blockEnd]
    let pair (k : NodeId) (r : Reader) : Except Error (List (NodeId × NodeId) × Reader) := do
      let (v, r) ←
        if (← r.peek) == some .value then
          let r := r.skip
          if ← r.isAt stops then r.empty else node true true n r
        else r.emptyBefore
      let (rest, r) ← blockPairs start n r
      return ((k, v) :: rest, r)
    match ← r.peek with
    | some .key =>
      let r := r.skip
      let (k, r) ← if ← r.isAt stops then r.empty else node true true n r
      pair k r
    | some .blockEnd => return ([], r.skip)
    | some .value =>
      if !r.nextVersion.isLate then .error (r.misplacedIn start "<block end>")
      else
        let (k, r) ← r.emptyBefore
        pair k r
    | _ => .error (r.misplacedIn start "<block end>")
termination_by structural n => n

/-- The value after the key of a pair in a flow collection that ends with `close`. -/
def flowValue (close : Token) : Nat → Reader → Except Error (NodeId × Reader)
  | 0, r => .error (r.misplaced "the end")
  | n + 1, r => do
    if (← r.peek) == some .value then
      let r := r.skip
      if ← r.isAt [some .comma, some close] then r.empty else node false false n r
    else r.emptyBefore
termination_by structural n => n

/-- A pair that a key mark announces, in a flow collection that ends with `close`. -/
def flowPair (close : Token) : Nat → Reader → Except Error ((NodeId × NodeId) × Reader)
  | 0, r => .error (r.misplaced "the end")
  | n + 1, r => do
    let r := r.skip
    let (k, r) ←
      if ← r.isAt [some .value, some .comma, some close] then r.empty else node false false n r
    let (v, r) ← flowValue close n r
    return ((k, v), r)
termination_by structural n => n

/-- The items of a flow sequence that starts at a place. A pair among them is a map of its own. -/
def flowItems (start : Nat) (first : Bool) : Nat → Reader → Except Error (List NodeId × Reader)
  | 0, r => .error (r.misplaced "the end")
  | n + 1, r => do
    if (← r.peek) == some .flowSequenceEnd then return ([], r.skip)
    else
      let r ← if first then .ok r else r.expect .comma (r.misplacedIn start (wantedIn .flowSequenceEnd))
      match ← r.peek with
      | some .flowSequenceEnd => return ([], r.skip)
      | some .key =>
        let (i, r) := r.add (.mapping .map []) r.nextPlace
        let (pair, r) ← flowPair .flowSequenceEnd n r
        let (xs, r) ← flowItems start false n (r.set i (.mapping .map [pair]))
        return (i :: xs, r)
      | _ =>
        let (x, r) ← node false false n r
        let (xs, r) ← flowItems start false n r
        return (x :: xs, r)
termination_by structural n => n

/-- The pairs of a flow map that starts at a place. A node alone is a key without a value. -/
def flowPairs (start : Nat) (first : Bool) : Nat → Reader → Except Error (List (NodeId × NodeId) × Reader)
  | 0, r => .error (r.misplaced "the end")
  | n + 1, r => do
    if (← r.peek) == some .flowMappingEnd then return ([], r.skip)
    else
      let r ← if first then .ok r else r.expect .comma (r.misplacedIn start (wantedIn .flowMappingEnd))
      let rest (k v : NodeId) (r : Reader) : Except Error (List (NodeId × NodeId) × Reader) := do
        let (ps, r) ← flowPairs start false n r
        return ((k, v) :: ps, r)
      match ← r.peek with
      | some .flowMappingEnd => return ([], r.skip)
      | some .key =>
        let ((k, v), r) ← flowPair .flowMappingEnd n r
        rest k v r
      | some .value =>
        if !r.nextVersion.isLate then .error (r.misplacedIn start "the node content")
        else
          let (k, r) ← r.emptyBefore
          let (v, r) ← flowValue .flowMappingEnd n r
          rest k v r
      | _ =>
        let (k, r) ← node false false n r
        let (v, r) ← r.emptyBefore
        rest k v r
termination_by structural n => n

end

/-- Enough steps for the tokens that are left: at most three are taken for each. -/
def fuel (r : Reader) : Nat := 4 * r.tokens.length + 8

/-! ### Documents -/

/-- What the directives before a document declare. -/
structure Declared where
  version : Option Version
  handles : List (String × String)

def defaultHandles : List (String × String) := [("!", "!"), ("!!", Tag.home)]

/-- Reads the directives before a document. -/
def directives : Nat → Reader → Declared → Except Error (Declared × Reader)
  | 0, r, d => .ok (d, r)
  | n + 1, r, d => do
    match ← r.peek with
    | some (.version v) =>
      if d.version.isSome then .error (r.wrong .repeatedDirective)
      else if v.major ≠ 1 then .error (r.wrong .foreignVersion)
      else directives n r.skip { d with version := some v }
    | some (.handle h a) =>
      if d.handles.any (fun e => e.1 == h) then .error (r.wrong .repeatedDirective)
      else directives n r.skip { d with handles := (h, a) :: d.handles }
    | some .remark => directives n r.skip d
    | _ => return (d, r)

def isDirective : Option Token → Bool
  | some (.version _) | some (.handle _ _) | some .remark => true
  | _ => false

/-- The directives before a document, whose version has to be one that is read. -/
def declared (r : Reader) : Except Error (Declared × Reader) := do
  let (d, r) ← directives r.tokens.length r ⟨none, []⟩
  match d.version with
  | some v => if v.isRuled then return (d, r) else .error (.of .undefinedVersion)
  | none => return (d, r)

def isDocumentEnd : Option Token → Bool
  | some (.documentEnd _) => true
  | _ => false

/-- Skips ends of documents, at most `n`. -/
def skipDocumentEnds : Nat → Reader → Except Error Reader
  | 0, r => .ok r
  | n + 1, r => do if isDocumentEnd (← r.peek) then skipDocumentEnds n r.skip else return r

/-- The node of a document that a marker has started, which may be empty. -/
def content (r : Reader) : Except Error (NodeId × Reader) := do
  let t ← r.peek
  if isDirective t || t == some .documentStart || isDocumentEnd t || t == none then r.empty
  else node true false r.fuel r

/-- The end of a document, and whether the next one may do without a marker. After the marker of the
end nothing may follow on its line. -/
def close (r : Reader) : Except Error (Bool × Reader) := do
  match ← r.peek with
  | some (.documentEnd followed) =>
    let r := r.skip
    let _ ← r.peek
    if followed then .error (r.misplaced "a line break") else return (r.nextVersion != .v1_1, r)
  | _ => return (false, r)

/-- The nodes of the next document with the number of its root, none at the end. `bare` allows a
document without a marker. -/
def document (bare : Bool) (r : Reader) : Except Error (Option (NodeId × Bool × Reader)) := do
  let t ← r.peek
  let r := { r with anchors := [], nodes := #[] }
  if bare && !(isDirective t || t == some .documentStart || t == none) then
    let (x, r) ← node true false r.fuel { r with handles := defaultHandles }
    let (bare, r) ← r.close
    return some (x, bare, r)
  else
    let r ← skipDocumentEnds r.tokens.length r
    if (← r.peek) == none then return none
    else
      let (d, r) ← r.declared
      let r ← r.expect .documentStart (r.misplaced Token.documentStart.name)
      let (x, r) ← { r with handles := d.handles ++ defaultHandles }.content
      let (bare, r) ← r.close
      return some (x, bare, r)

end Reader

end ShortVolume.Yaml
