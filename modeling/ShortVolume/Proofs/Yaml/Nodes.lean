import ShortVolume.Yaml.Node
import ShortVolume.Proofs.Yaml.Tokens
set_option autoImplicit false

/-!
The nodes of records.

The nodes of a value are numbered in a row, a collection before its parts, so they are known from
the value and the first number alone.
-/

namespace ShortVolume

open Yaml

namespace Value

mutual

/-- The number of nodes that a value takes. -/
def nodeCount : Value → Nat
  | text _ | int _ | bool _ => 1
  | map es => entriesCount es + 1
  | _ => 0

def entriesCount : List (Value × Value) → Nat
  | [] => 0
  | (_,v) :: r => v.nodeCount + entriesCount r + 1

end

/-- The numbers of names and values, if the first of them is `i`. -/
def pairsFrom (i : NodeId) : List (Value × Value) → List (NodeId × NodeId)
  | [] => []
  | (_,v) :: r => (i,i + 1) :: pairsFrom (i + 1 + v.nodeCount) r

mutual

/-- The nodes of a value, of which the first has the number `i`. -/
def nodes (i : NodeId) : Value → List Node
  | text s => [.scalar .str s]
  | int j => [.scalar .int (toString j)]
  | bool b => [.scalar .bool (if b then "true" else "false" : String)]
  | map es => .mapping .map (pairsFrom (i + 1) es) :: entriesNodes (i + 1) es
  | _ => []

/-- The nodes of the parts of a record. -/
def entriesNodes (i : NodeId) : List (Value × Value) → List Node
  | [] => []
  | (k,v) :: r =>
    .scalar .str (k.text?.getD "") ::
      (v.nodes (i + 1) ++ entriesNodes (i + 1 + v.nodeCount) r)

end

end Value

namespace Yaml.Reader

/-- What the tokens that are left and the nodes so far are, where the text has no error. -/
structure Has (r : Reader) (ts : List Token) (ns : List Node) : Prop where
  tokens : r.tokens.map (fun e => e.1.token) = ts
  versions : ∀ e ∈ r.tokens, e.2 = .v1_2
  final : r.final = .v1_2
  error : r.error = none
  nodes : r.nodes.toList.map Placed.node = ns

variable {r : Reader} {t : Token} {ts : List Token} {ns : List Node}

theorem Has.exists_cons (h : r.Has (t :: ts) ns) :
    ∃ e es, r.tokens = e :: es ∧ e.1.token = t ∧ e.2 = .v1_2 ∧
      es.map (fun e => e.1.token) = ts := by
  obtain ⟨e,es,htokens,he,hes⟩ := List.map_eq_cons_iff.mp h.tokens
  exact ⟨e,es,htokens,he,h.versions e (by simp [htokens]),hes⟩

theorem Has.peek (h : r.Has (t :: ts) ns) : r.peek = .ok (some t) := by
  obtain ⟨e,es,htokens,he,-⟩ := h.exists_cons
  rw [Reader.peek,htokens]
  simp [he]

theorem Has.peek_nil (h : r.Has [] ns) : r.peek = .ok none := by
  rw [Reader.peek,List.map_eq_nil_iff.mp h.tokens,h.error]

theorem Has.nextVersion (h : r.Has ts ns) : r.nextVersion = .v1_2 := by
  unfold Reader.nextVersion
  split
  · next htokens => exact h.versions _ (by simp [htokens])
  · exact h.final

theorem Has.skip (h : r.Has (t :: ts) ns) : r.skip.Has ts ns := by
  obtain ⟨e,es,htokens,-,-,hes⟩ := h.exists_cons
  refine { h with tokens := ?_, versions := ?_ }
  · simp [Reader.skip,htokens,hes]
  · intro e' he'
    exact h.versions e' (List.mem_of_mem_drop he')

theorem Has.size (h : r.Has ts ns) : r.nodes.size = ns.length := by
  rw [← h.nodes,List.length_map,Array.length_toList]

theorem Has.add (h : r.Has ts ns) (x : Node) (place : Nat) :
    ∃ r', r.add x place = (ns.length,r') ∧ r'.Has ts (ns ++ [x]) :=
  ⟨{ r with nodes := r.nodes.push ⟨x,place⟩ },by rw [Reader.add,h.size],
    { h with nodes := by simp [h.nodes] }⟩

theorem modify_append {α : Type} (f : α → α) (l : List α) (a : α) (m : List α) :
    (l ++ a :: m).modify l.length f = l ++ f a :: m := by
  induction l with
  | nil => rfl
  | cons b l ih => simp [ih]

theorem Has.set {x : Node} {ms : List Node} (h : r.Has ts (ns ++ x :: ms)) (y : Node) :
    (r.set ns.length y).Has ts (ns ++ y :: ms) := by
  refine { h with nodes := ?_ }
  obtain ⟨l,l',hsplit,hl,hl'⟩ := List.map_eq_append_iff.mp h.nodes
  obtain ⟨a,m,rfl,-,hm⟩ := List.map_eq_cons_iff.mp hl'
  have hlength : ns.length = l.length := by rw [← hl,List.length_map]
  simp only [Reader.set,Array.toList_modify,hsplit,hlength,modify_append]
  simp [hl,hm]

theorem Has.properties (h : r.Has (t :: ts) ns) (hanchor : ∀ n, t ≠ .anchor n)
    (htag : ∀ a b, t ≠ .tag a b) : r.properties = .ok (⟨none,.none⟩,r) := by
  have ha : r.optionalAnchor = .ok (none,r) := by
    simp only [optionalAnchor,h.peek,bind,Except.bind]
    cases t <;> first | rfl | exact absurd rfl (hanchor _)
  have ht : r.optionalTag = .ok (none,r) := by
    simp only [optionalTag,h.peek,bind,Except.bind]
    cases t <;> first | rfl | exact absurd rfl (htag _ _)
  simp [Reader.properties,ha,ht,bind,Except.bind,pure,Except.pure]

theorem Has.node_scalar {content : String} {plain : Bool} {tag : Tag}
    (h : r.Has (.scalar content plain :: ts) ns)
    (htag : Properties.scalarTag ⟨none,.none⟩ .v1_2 content plain = .ok tag)
    (block indentless : Bool) (n : Nat) :
    ∃ r', node block indentless (n + 1) r = .ok (ns.length,r') ∧
      r'.Has ts (ns ++ [.scalar tag content]) := by
  obtain ⟨r',hadd,hr'⟩ := h.skip.add (.scalar tag content) r.nextPlace
  refine ⟨r',?_,hr'⟩
  rw [node]
  simp only [h.peek,h.properties (by simp) (by simp),h.nextVersion,htag,bind,Except.bind,pure,
    Except.pure,addWith,hadd,anchor]

theorem Has.node_map {ms : List Node} {ps : List (NodeId × NodeId)} {us : List Token}
    (h : r.Has (.flowMapping :: ts) ns) {n : Nat}
    (hpairs : ∀ r₁ start, Has r₁ ts (ns ++ [.mapping .map []]) → ∃ r₂,
      flowPairs start true n r₁ = .ok (ps,r₂) ∧ r₂.Has us (ns ++ .mapping .map [] :: ms))
    (block indentless : Bool) :
    ∃ r', node block indentless (n + 1) r = .ok (ns.length,r') ∧
      r'.Has us (ns ++ .mapping .map ps :: ms) := by
  obtain ⟨r₁,hadd,hr₁⟩ := h.skip.add (.mapping .map []) r.nextPlace
  obtain ⟨r₂,hread,hr₂⟩ := hpairs r₁ r.nextPlace hr₁
  refine ⟨_,?_,hr₂.set (.mapping .map ps)⟩
  rw [node]
  simp only [h.peek,h.properties (by simp) (by simp),bind,Except.bind,pure,Except.pure,
    Properties.collectionTag,addWith,hadd,anchor,hread]

/-! ### Parts of records -/

/-- What building the nodes of a value comes to. Its tokens start with one that starts a node. -/
structure BuildsValue (v : Value) : Prop where
  count : ∀ i, (v.nodes i).length = v.nodeCount
  head : ∃ t us, v.tokens = t :: us ∧ t ≠ .comma ∧ t ≠ .flowMappingEnd
  build : ∀ {r : Reader} {ts : List Token} {ns : List Node} {n : Nat} (block indentless : Bool),
    r.Has (v.tokens ++ ts) ns → 4 * v.tokens.length ≤ n →
      ∃ r', node block indentless n r = .ok (ns.length,r') ∧ r'.Has ts (ns ++ v.nodes ns.length)

/-- What building the nodes of the entries of a record comes to. -/
structure BuildsEntries (es : Entries) : Prop where
  count : ∀ i, (Value.entriesNodes i es).length = Value.entriesCount es
  first : ∀ {r : Reader} {ts : List Token} {ns : List Node} {n : Nat} (start : Nat),
    r.Has (Value.openingTokens es ++ ts) ns → 4 * (Value.openingTokens es).length ≤ n →
      ∃ r', flowPairs start true n r = .ok (Value.pairsFrom ns.length es,r') ∧
        r'.Has ts (ns ++ Value.entriesNodes ns.length es)
  others : ∀ {r : Reader} {ts : List Token} {ns : List Node} {n : Nat} (start : Nat),
    r.Has (Value.closingTokens es ++ ts) ns → 4 * (Value.closingTokens es).length ≤ n →
      ∃ r', flowPairs start false n r = .ok (Value.pairsFrom ns.length es,r') ∧
        r'.Has ts (ns ++ Value.entriesNodes ns.length es)

theorem Has.isAt (h : r.Has (t :: ts) ns) (us : List (Option Token)) :
    r.isAt us = .ok (us.contains (some t)) := by
  rw [Reader.isAt,h.peek]
  rfl

theorem Has.flowValue_eq {v : Value} (hv : BuildsValue v) (h : r.Has (.value :: (v.tokens ++ ts)) ns)
    {n : Nat} (hn : 4 * v.tokens.length ≤ n) :
    ∃ r', flowValue .flowMappingEnd (n + 1) r = .ok (ns.length,r') ∧
      r'.Has ts (ns ++ v.nodes ns.length) := by
  obtain ⟨t,us,htokens,hcomma,hend⟩ := hv.head
  obtain ⟨r',hbuild,hr'⟩ := hv.build false false h.skip hn
  refine ⟨r',?_,hr'⟩
  have hskip := h.skip
  rw [htokens] at hskip
  have hat : r.skip.isAt [some .comma,some .flowMappingEnd] = .ok false := by
    rw [hskip.isAt]
    simp [hcomma,hend]
  rw [flowValue]
  simp [h.peek,hat,hbuild,bind,Except.bind]

theorem Has.flowPair_eq {k : String} {v : Value} (hv : BuildsValue v)
    (h : r.Has (.key :: .scalar k false :: .value :: (v.tokens ++ ts)) ns)
    {n : Nat} (hn : 4 * v.tokens.length ≤ n) :
    ∃ r', flowPair .flowMappingEnd (n + 2) r = .ok ((ns.length,ns.length + 1),r') ∧
      r'.Has ts (ns ++ .scalar .str k :: v.nodes (ns.length + 1)) := by
  have hskip := h.skip
  have htag : Properties.scalarTag ⟨none,.none⟩ .v1_2 k false = .ok .str := rfl
  obtain ⟨r₁,hkey,h₁⟩ := hskip.node_scalar htag false false n
  obtain ⟨r₂,hvalue,h₂⟩ := h₁.flowValue_eq hv hn
  rw [List.length_append] at hvalue h₂
  refine ⟨r₂,?_,by simpa using h₂⟩
  have hat : r.skip.isAt [some .value,some .comma,some .flowMappingEnd] = .ok false := by
    rw [hskip.isAt]
    simp
  rw [flowPair]
  simp [hat,hkey,hvalue,bind,Except.bind,pure,Except.pure]

theorem Has.flowPair_others {k : String} {v : Value} {es : Entries} (hv : BuildsValue v)
    (hes : BuildsEntries es)
    (h : r.Has (.key :: .scalar k false :: .value ::
      (v.tokens ++ (Value.closingTokens es ++ ts))) ns) {n : Nat}
    (hn : 4 * (v.tokens.length + (Value.closingTokens es).length) ≤ n) (start : Nat) :
    ∃ r₁ r', flowPair .flowMappingEnd (n + 2) r = .ok ((ns.length,ns.length + 1),r₁) ∧
      flowPairs start false (n + 2) r₁ =
        .ok (Value.pairsFrom (ns.length + 1 + v.nodeCount) es,r') ∧
      r'.Has ts (ns ++ Value.entriesNodes ns.length ((.text k,v) :: es)) := by
  obtain ⟨r₁,hpair,h₁⟩ := h.flowPair_eq hv (n := n) (by omega)
  obtain ⟨r',hothers,h'⟩ := hes.others (n := n + 2) start h₁ (by omega)
  have hlength : (ns ++ .scalar .str k :: v.nodes (ns.length + 1)).length =
      ns.length + 1 + v.nodeCount := by
    rw [List.length_append,List.length_cons,hv.count]
    omega
  rw [hlength] at hothers h'
  refine ⟨r₁,r',hpair,hothers,?_⟩
  simpa [Value.entriesNodes,Value.text?] using h'

theorem buildsValue_scalar {v : Value} {content : String} {plain : Bool} {tag : Tag}
    (hcount : v.nodeCount = 1) (hnodes : ∀ i, v.nodes i = [.scalar tag content])
    (htokens : v.tokens = [.scalar content plain])
    (htag : Properties.scalarTag ⟨none,.none⟩ .v1_2 content plain = .ok tag) : BuildsValue v where
  count i := by rw [hcount,hnodes,List.length_singleton]
  head := ⟨_,[],htokens,by simp,by simp⟩
  build := by
    intro r ts ns n block indentless h hn
    rw [htokens] at h hn
    obtain ⟨n,rfl⟩ : ∃ m, n = m + 1 := ⟨n - 1,by simp at hn; omega⟩
    rw [hnodes]
    exact h.node_scalar htag block indentless n

theorem covers_builds : Value.Covers BuildsValue BuildsEntries where
  text s _ := buildsValue_scalar (by rw [Value.nodeCount]) (fun _ => by rw [Value.nodes])
    (by rw [Value.tokens]) rfl
  int i _ := by
    have htag : Properties.scalarTag ⟨none,.none⟩ .v1_2 (toString i) true = .ok .int :=
      ofPlain_toString i
    exact buildsValue_scalar (by rw [Value.nodeCount]) (fun _ => by rw [Value.nodes])
      (by rw [Value.tokens]) htag
  bool b := by
    have htag : Properties.scalarTag ⟨none,.none⟩ .v1_2 (if b then "true" else "false" : String) true =
        .ok .bool := ofPlain_bool b
    exact buildsValue_scalar (by rw [Value.nodeCount]) (fun _ => by rw [Value.nodes])
      (by rw [Value.tokens]) htag
  map es hes := by
    refine ⟨fun i => by simp [Value.nodes,Value.nodeCount,hes.count],
      ⟨_,_,by rw [Value.tokens],by simp,by simp⟩,?_⟩
    intro r ts ns n block indentless h hn
    rw [Value.tokens] at h hn
    obtain ⟨n,rfl⟩ : ∃ m, n = m + 1 := ⟨n - 1,by simp at hn; omega⟩
    rw [Value.nodes]
    refine h.node_map (fun r₁ start h₁ => ?_) block indentless
    have hfirst := hes.first (n := n) start h₁ (by simp at hn; omega)
    simpa using hfirst
  nil := by
    have hend {r : Reader} {ts : List Token} {ns : List Node} {n : Nat} (start : Nat)
        (first : Bool) (h : r.Has (.flowMappingEnd :: ts) ns) (hn : 4 ≤ n) :
        ∃ r', flowPairs start first n r = .ok ([],r') ∧ r'.Has ts (ns ++ []) := by
      obtain ⟨n,rfl⟩ : ∃ m, n = m + 1 := ⟨n - 1,by omega⟩
      refine ⟨_,?_,by simpa using h.skip⟩
      rw [flowPairs]
      simp [h.peek,bind,Except.bind,pure,Except.pure]
    exact ⟨fun _ => rfl,fun start h hn => hend start true h hn,
      fun start h hn => hend start false h hn⟩
  cons k v es _ hv hes _ := by
    refine ⟨fun i => by simp [Value.entriesNodes,Value.entriesCount,hv.count,hes.count],?_,?_⟩
    · intro r ts ns n start h hn
      rw [Value.openingTokens] at h hn
      obtain ⟨m,rfl⟩ : ∃ m, n = m + 3 := ⟨n - 3,by simp at hn; omega⟩
      have h' : r.Has (.key :: .scalar k false :: .value ::
          (v.tokens ++ (Value.closingTokens es ++ ts))) ns := by simpa [Value.text?] using h
      obtain ⟨r₁,r',hpair,hothers,hr'⟩ :=
        h'.flowPair_others hv hes (n := m) (by simp at hn; omega) start
      refine ⟨r',?_,hr'⟩
      rw [flowPairs]
      simp [h'.peek,hpair,hothers,Value.pairsFrom,bind,Except.bind,pure,Except.pure]
    · intro r ts ns n start h hn
      rw [Value.closingTokens] at h hn
      obtain ⟨m,rfl⟩ : ∃ m, n = m + 3 := ⟨n - 3,by simp at hn; omega⟩
      have h' : r.skip.Has (.key :: .scalar k false :: .value ::
          (v.tokens ++ (Value.closingTokens es ++ ts))) ns := by
        simpa [Value.text?] using h.skip
      obtain ⟨r₁,r',hpair,hothers,hr'⟩ :=
        h'.flowPair_others hv hes (n := m) (by simp at hn; omega) start
      refine ⟨r',?_,hr'⟩
      rw [flowPairs]
      simp [h.peek,h'.peek,hpair,hothers,Value.pairsFrom,expect,bind,Except.bind,pure,Except.pure]

/-! ### Documents -/

/-- The tokens at which a record ends: those of other records, or none. -/
def EndsRecord (ts : List Token) : Prop := ∀ t ∈ ts.head?, t = .flowMapping

theorem Has.length_tokens (h : r.Has ts ns) : r.tokens.length = ts.length := by
  rw [← h.tokens,List.length_map]

theorem Has.close (h : r.Has ts ns) (hts : EndsRecord ts) : r.close = .ok (false,r) := by
  cases ts with
  | nil =>
    simp only [Reader.close,h.peek_nil,bind,Except.bind]
    rfl
  | cons t ts =>
    obtain rfl := hts t rfl
    simp only [Reader.close,h.peek,bind,Except.bind]
    rfl

/-- The first document, which needs no marker. -/
theorem Has.document_bare {es : Entries} (hes : Value.entriesLegible es = true)
    (h : r.Has ((Value.map es).tokens ++ ts) ns) (hts : EndsRecord ts) :
    ∃ r', r.document true = .ok (some (0,false,r')) ∧ r'.Has ts ((Value.map es).nodes 0) := by
  have hbuilds : BuildsValue (.map es) := covers_builds.map es (covers_builds.of_entriesLegible es hes)
  let r₁ : Reader := { r with anchors := [], nodes := #[], handles := defaultHandles }
  have h₁ : r₁.Has ((Value.map es).tokens ++ ts) [] := { h with nodes := rfl }
  have hfuel : 4 * (Value.map es).tokens.length ≤ r₁.fuel := by
    have hlength := h₁.length_tokens
    rw [List.length_append] at hlength
    simp only [fuel]
    omega
  obtain ⟨r',hbuild,h'⟩ := hbuilds.build true false h₁ hfuel
  refine ⟨r',?_,by simpa using h'⟩
  have hpeek : r.peek = .ok (some .flowMapping) := by
    rw [Value.tokens] at h
    exact h.peek
  have hbuild' : node true false r₁.fuel r₁ = .ok (0,r') := hbuild
  simp only [document,hpeek,bind,Except.bind]
  rw [if_pos (by decide)]
  simp only [show ({ r with anchors := [], nodes := #[], handles := defaultHandles } : Reader) = r₁
    from rfl,show ({ r with anchors := [], nodes := #[] } : Reader).fuel = r₁.fuel from rfl,hbuild',
    h'.close hts]
  rfl

theorem Has.document_nil (h : r.Has [] ns) (bare : Bool) : r.document bare = .ok none := by
  have hlength : r.tokens.length = 0 := h.length_tokens
  have h₁ : Reader.Has { r with anchors := [], nodes := #[] } [] [] := { h with nodes := rfl }
  simp only [document,h.peek_nil,hlength,bind,Except.bind,skipDocumentEnds,h₁.peek_nil]
  rw [if_neg (by simp)]
  rfl

theorem Has.document_error (h : r.Has (.flowMapping :: ts) ns) :
    r.document false = .error (r.misplaced Token.documentStart.name) := by
  have h₁ : Reader.Has { r with anchors := [], nodes := #[] } (.flowMapping :: ts) [] :=
    { h with nodes := rfl }
  have hskip (n : Nat) : skipDocumentEnds n { r with anchors := [], nodes := #[] } =
      .ok { r with anchors := [], nodes := #[] } := by
    cases n with
    | zero => rfl
    | succ n =>
      simp only [skipDocumentEnds,h₁.peek,bind,Except.bind]
      rfl
  have hdirectives (n : Nat) (d : Declared) :
      directives n { r with anchors := [], nodes := #[] } d =
        .ok (d,{ r with anchors := [], nodes := #[] }) := by
    cases n with
    | zero => rfl
    | succ n =>
      simp only [directives,h₁.peek,bind,Except.bind]
      rfl
  simp only [document,h.peek,hskip,h₁.peek,declared,hdirectives,expect,bind,Except.bind,pure,
    Except.pure]
  rw [if_neg (by decide),if_neg (by decide),if_neg (by decide)]
  rfl

end Yaml.Reader

end ShortVolume
