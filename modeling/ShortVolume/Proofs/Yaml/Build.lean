import ShortVolume.Yaml.Build
import ShortVolume.Proofs.Record.Fields
import ShortVolume.Proofs.Yaml.Cells
set_option autoImplicit false

/-!
What is built from the nodes of records.

Cells are filled level by level. Those without parts are always among the ones that wait, and what
waits on a level has less nodes than what waits on the level above, so none waits at the end.
-/

namespace ShortVolume

open Yaml

namespace Yaml

/-- A cell that has to be filled with a record of less than `bound` nodes besides its own. -/
def Waits (ns : List Node) (vals : List Value) (bound : Nat) (t : NodeId × Nat) : Prop :=
  ∃ es, vals[t.2]? = some (.map es) ∧ Value.entriesLegible es = true ∧
    Value.SitsIn ns t.1 (.map es) ∧ Value.entriesCount es < bound

theorem Waits.append {ns : List Node} {vals : List Value} {bound : Nat} {t : NodeId × Nat}
    (h : Waits ns vals bound t) (new : List Value) : Waits ns (vals ++ new) bound t := by
  obtain ⟨es,hc,hes,hsit,hbound⟩ := h
  exact ⟨es,getElem?_append_of_eq_some hc new,hes,hsit,hbound⟩

/-- Building the values of nodes: the cells stand for `vals`, and those that have no parts yet are
among the ones that wait, those of the level that is being filled first. -/
structure Builder.Builds (b : Builder) (ns : List Node) (vals : List Value)
    (todo : List (NodeId × Nat)) (bound : Nat) : Prop where
  version : b.version = .v1_2
  nodes : b.nodes.toList.map Placed.node = ns
  merged : b.merged = []
  around : b.open_ = []
  shallow : b.deep = false
  size : b.cells.size = vals.length
  built : ∀ i p v, b.built.getD i none = some p → v.isLegible = true → v.SitsIn ns i →
    Denotes vals p v
  level : ∀ t ∈ todo, Waits ns vals (bound + 1) t
  tasks : ∀ t ∈ b.tasks.toList, Waits ns vals bound t
  filled : ∀ c < vals.length, c ∈ (todo ++ b.tasks.toList).map Prod.snd ∨ IsFilled vals b.cells c

namespace Builder

variable {b : Builder} {ns : List Node} {vals : List Value} {todo : List (NodeId × Nat)}
  {bound : Nat} {i : NodeId} {v : Value}

theorem Builds.node_eq (h : b.Builds ns vals todo bound) {x : Node} (hx : ns[i]? = some x) :
    b.node i = x := by
  rw [← h.nodes,List.getElem?_map,Array.getElem?_toList] at hx
  rw [node,hx]
  rfl

theorem getD_setIfInBounds {α : Type} {xs : Array (Option α)} {i j : Nat} {p q : α}
    (h : (xs.setIfInBounds i (some p)).getD j none = some q) :
    (i = j ∧ p = q) ∨ xs.getD j none = some q := by
  simp only [Array.getD_eq_getD_getElem?,Array.getElem?_setIfInBounds] at h ⊢
  split at h
  · next hij =>
    split at h
    · exact .inl ⟨hij,by simpa using h⟩
    · simp at h
  · exact .inr h

theorem scalarOf_eq (hversion : b.version = .v1_2) (hnode : b.node i = v.root i)
    (hv : v.isLegible = true) (hmap : ∀ es, v ≠ .map es) : scalarOf b i = .ok v := by
  have hcontent {tag : Tag} {s : Text} (hx : b.node i = .scalar tag s) :
      b.content? (b.nodes.size + 1) i = some s := by
    rw [content?,hx]
  cases v with
  | text s =>
    rw [Value.root] at hnode
    simp only [scalarOf,hcontent hnode]
    rw [hnode]
    rfl
  | int j =>
    rw [Value.root] at hnode
    simp only [scalarOf,hcontent hnode]
    rw [hnode]
    simp only [Node.tag,hversion,int_toString ((Value.isLegible_int j).symm.trans hv),bind,Except.bind]
    rfl
  | bool c =>
    rw [Value.root] at hnode
    simp only [scalarOf,hcontent hnode]
    rw [hnode]
    simp only [Node.tag,bool_name,bind,Except.bind]
    rfl
  | map es => exact absurd rfl (hmap es)
  | _ => simp [Value.isLegible] at hv

theorem constructNew_scalar (hversion : b.version = .v1_2) (hnode : b.node i = v.root i)
    (hv : v.isLegible = true) (hmap : ∀ es, v ≠ .map es) (f : Construct) :
    (constructNew f i).run b = .ok (.whole v,b) := by
  have htag : emptyCell? (b.node i).tag = none := by
    rw [hnode]
    cases v with
    | text | int | bool => rfl
    | map es => exact absurd rfl (hmap es)
    | _ => simp [Value.isLegible] at hv
  simp only [constructNew,StateT.run_bind,StateT.run_get,pure_bind,htag,
    scalarOf_eq hversion hnode hv hmap]
  rfl

theorem constructNew_map {es : Entries} (hnode : b.node i = Value.root i (.map es))
    (hdeep : b.deep = false) (f : Construct) :
    (constructNew f i).run b = .ok (.cell b.cells.size,{ b with
      cells := b.cells.push (.map []), tasks := b.tasks.push (i,b.cells.size) }) := by
  have htag : emptyCell? (b.node i).tag = some (.map []) := by rw [hnode]; rfl
  simp only [constructNew,StateT.run_bind,StateT.run_get,pure_bind,htag,hdeep]
  rfl

theorem Builds.withBuilt (h : b.Builds ns vals todo bound) (hv : v.isLegible = true)
    (hsit : v.SitsIn ns i) {p : Part} (hp : Denotes vals p v) :
    Builds { b with built := b.built.setIfInBounds i (some p) } ns vals todo bound := by
  refine { h with built := ?_ }
  intro j q w hq hw hw'
  rcases getD_setIfInBounds hq with ⟨rfl,rfl⟩ | hold
  · rwa [← hsit.unique hv hw hw']
  · exact h.built j q w hold hw hw'

theorem Builds.withCell (h : b.Builds ns vals todo bound) {es : Entries}
    (hes : Value.entriesLegible es = true) (hsit : Value.SitsIn ns i (.map es))
    (hbound : Value.entriesCount es < bound) :
    Builds { b with
      cells := b.cells.push (.map []), tasks := b.tasks.push (i,b.cells.size) }
      ns (vals ++ [.map es]) todo bound := by
  refine { h with size := ?_, built := ?_, level := ?_, tasks := ?_, filled := ?_ }
  · simp [h.size]
  · exact fun j p w hp hw hsit' => (h.built j p w hp hw hsit').append _
  · exact fun t ht => (h.level t ht).append _
  · intro t ht
    simp only [Array.toList_push,List.mem_append,List.mem_singleton] at ht
    rcases ht with ht | rfl
    · exact (h.tasks t ht).append _
    · exact ⟨es,by simp [h.size],hes,hsit,hbound⟩
  · intro c hc
    simp only [Array.toList_push,← List.append_assoc,List.map_append,List.mem_append]
    by_cases hlast : c = b.cells.size
    · exact .inl (.inr (by simp [hlast]))
    · have hold : c < vals.length := by
        have := h.size
        simp at hc
        omega
      rcases h.filled c hold with hwaits | ⟨es',ps,hval,hcell,hparts⟩
      · exact .inl (.inl (by simpa using hwaits))
      · refine .inr (IsFilled.append ⟨es',ps,hval,?_,hparts⟩ _)
        rw [Array.getElem?_push,if_neg hlast,hcell]

theorem construct_built {p : Part} (hbuilt : b.built.getD i none = some p) (deep : Bool) (n : Nat) :
    (construct (n + 1) deep i).run b = .ok (p,b) := by
  simp only [construct,StateT.run_bind,StateT.run_get,pure_bind,hbuilt]
  rfl

theorem construct_unbuilt (hbuilt : b.built.getD i none = none) (haround : b.open_ = [])
    {deep : Bool} {n : Nat} {p : Part} {b' : Builder}
    (hnew : (constructNew (construct n) i).run { b with deep := b.deep || deep, open_ := [i] } =
      .ok (p,b')) :
    (construct (n + 1) deep i).run b = .ok (p,{ b' with
      deep := b.deep, open_ := [], built := b'.built.setIfInBounds i (some p) }) := by
  simp only [construct,StateT.run_bind,StateT.run_get,pure_bind,hbuilt,haround]
  simp [hnew]

/-- A node is built; a scalar as a key as well. -/
theorem Builds.construct_eq (h : b.Builds ns vals todo bound) (hv : v.isLegible = true)
    (hsit : v.SitsIn ns i) (hbound : v.nodeCount ≤ bound) (deep : Bool)
    (hdeep : deep = true → ∀ es, v ≠ .map es) (n : Nat) :
    ∃ p b' new, (construct (n + 1) deep i).run b = .ok (p,b') ∧
      b'.Builds ns (vals ++ new) todo bound ∧ Denotes (vals ++ new) p v := by
  have hnode : b.node i = v.root i := h.node_eq (hsit.root hv)
  cases hbuilt : b.built.getD i none with
  | some p =>
    exact ⟨p,b,[],construct_built hbuilt deep n,by simpa using h,
      by simpa using h.built i p v hbuilt hv hsit⟩
  | none =>
    by_cases hmap : ∃ es, v = .map es
    · obtain ⟨es,rfl⟩ := hmap
      have hes := (Value.isLegible_map es).symm.trans hv
      have hcount : Value.entriesCount es < bound := by
        rw [Value.nodeCount] at hbound
        omega
      have hshallow : (b.deep || deep) = false := by
        rw [h.shallow,Bool.false_or]
        exact Bool.eq_false_iff.mpr (fun hdeep' => hdeep hdeep' es rfl)
      have hnew := constructNew_map
        (b := { b with deep := b.deep || deep, open_ := [i] }) hnode hshallow (construct n)
      have hp : Denotes (vals ++ [.map es]) (.cell b.cells.size) (.map es) :=
        .cell (by simp [h.size])
      have hbuilds := (h.withCell hes hsit hcount).withBuilt hv hsit hp
      exact ⟨_,_,[.map es],construct_unbuilt hbuilt h.around hnew,
        { hbuilds with around := rfl, shallow := h.shallow },hp⟩
    · have hwhole : ∀ es, v ≠ .map es := fun es hes => hmap ⟨es,hes⟩
      have hnew := constructNew_scalar
        (b := { b with deep := b.deep || deep, open_ := [i] }) h.version hnode hv hwhole
        (construct n)
      have hp : Denotes vals (.whole v) v := .whole v hwhole
      have hbuilds := h.withBuilt hv hsit hp
      refine ⟨_,_,[],construct_unbuilt hbuilt h.around hnew,?_,by simpa using hp⟩
      rw [List.append_nil]
      exact { hbuilds with around := rfl, shallow := h.shallow }

/-! ### Entries -/

/-- Nothing is merged into a map whose keys are texts. -/
theorem flattenPairs_eq (hkeys : ∀ q ∈ b.pairs i, (b.node q.1).tag = .str)
    (rest : NodeId → Nat → List (NodeId × NodeId) → Build Unit) (n place : Nat) :
    (flattenPairs rest i n place []).run b = .ok ((),b) := by
  induction n generalizing place with
  | zero => rfl
  | succ n ih =>
    simp only [flattenPairs,StateT.run_bind,StateT.run_get,pure_bind]
    cases hq : (b.pairs i)[place]? with
    | none => rfl
    | some q =>
      simp only [hkeys q (List.mem_of_getElem? hq)]
      exact ih (place + 1)

theorem flatten_eq (hkeys : ∀ q ∈ b.pairs i, (b.node q.1).tag = .str) :
    (flatten i).run b = .ok ((),b) := by
  simp only [flatten,flattenFrom,StateT.run_bind,StateT.run_get,pure_bind]
  exact flattenPairs_eq hkeys _ _ _

theorem partOf?_eq_none {k : Value} {ps : List (Value × Part)}
    (h : ∀ p ∈ ps, p.1.same k = false) : partOf? k ps = none := by
  rw [partOf?,List.find?_eq_none.mpr (fun p hp => by simp [h p hp])]
  rfl

theorem putPart_eq_append {k : Value} {x : Part} {ps : List (Value × Part)}
    (h : ∀ p ∈ ps, p.1.same k = false) : putPart k x ps = ps ++ [(k,x)] := by
  induction ps with
  | nil => rfl
  | cons p ps ih =>
    obtain ⟨k',y⟩ := p
    have hk : k'.same k = false := h _ List.mem_cons_self
    simp [putPart,hk,ih (fun p hp => h p (List.mem_cons_of_mem _ hp))]

theorem run_bind {α β : Type} {x : Build α} {a : α} {b' : Builder} (h : x.run b = .ok (a,b'))
    (f : α → Build β) : (x >>= f).run b = (f a).run b' := by
  rw [StateT.run_bind,h]
  rfl

theorem run_get (b : Builder) : (get : Build Builder).run b = .ok (b,b) := rfl

theorem asKey_whole (b : Builder) (m k : NodeId) (v : Value) :
    (asKey m k (.whole v)).run b = .ok (.whole v,b) := rfl

theorem keyValue_whole (b : Builder) (v : Value) : (keyValue (.whole v)).run b = .ok (v,b) := rfl

theorem Builds.construct_name {s : Text} (h : b.Builds ns vals todo bound)
    (hs : isLegibleName s = true) (hname : ns[i]? = some (.scalar .str s)) (hbound : 1 ≤ bound)
    (n : Nat) :
    ∃ b' new, (construct (n + 1) true i).run b = .ok (.whole (.text s),b') ∧
      b'.Builds ns (vals ++ new) todo bound := by
  have hv : (Value.text s).isLegible = true := by
    rw [Value.isLegible_text]
    exact (Bool.and_eq_true_iff.mp hs).1
  obtain ⟨p,b',new,hrun,hb',hp⟩ := h.construct_eq hv (Value.sitsIn_text hname)
    (by rwa [Value.nodeCount]) true (fun _ es => by simp) n
  cases hp with
  | whole => exact ⟨b',new,hrun,hb'⟩

theorem Builds.entriesOf_eq {es : Entries} (h : b.Builds ns vals todo bound)
    (hes : Value.entriesLegible es = true) (hsit : Value.EntriesSitIn ns i es)
    (hbound : Value.entriesCount es ≤ bound) {before : List (Value × Part)}
    (hfresh : ∀ p ∈ before, ∀ e ∈ es, p.1.same e.1 = false) (m : NodeId) (n : Nat) :
    ∃ ps b' new,
      (entriesOf (construct (n + 1)) m true (Value.pairsFrom i es) before).run b =
        .ok (before ++ ps,b') ∧
      b'.Builds ns (vals ++ new) todo bound ∧ PartsDenote (vals ++ new) ps es := by
  induction es generalizing b vals i before with
  | nil =>
    refine ⟨[],b,[],?_,by simpa using h,.nil⟩
    simp [Value.pairsFrom,entriesOf]
    rfl
  | cons e es ih =>
    obtain ⟨k,v⟩ := e
    obtain ⟨s,rfl,hs,hv,hes',hothers⟩ := Value.entriesLegible_cons hes
    obtain ⟨hname,hvalue,hrest⟩ := hsit.cons (Value.length_nodes hv _)
    rw [Value.entriesCount] at hbound
    obtain ⟨b₁,new₁,hkey,h₁⟩ := h.construct_name hs hname (by omega) n
    obtain ⟨p,b₂,new₂,hitem,h₂,hp⟩ :=
      h₁.construct_eq hv hvalue (by omega) false (fun h => by cases h) n
    have hnew : ∀ q ∈ before, q.1.same (.text s) = false := fun q hq =>
      hfresh q hq _ List.mem_cons_self
    have hfresh' : ∀ q ∈ before ++ [(Value.text s,p)], ∀ e ∈ es, q.1.same e.1 = false := by
      intro q hq e he
      rcases List.mem_append.mp hq with hq | hq
      · exact hfresh q hq e (List.mem_cons_of_mem _ he)
      · obtain rfl := List.mem_singleton.mp hq
        obtain ⟨t,ht⟩ := Value.text_of_mem hes' he
        have hdistinct := hothers e he
        rw [ht,Value.same_text] at hdistinct ⊢
        exact BEq.comm.trans hdistinct
    obtain ⟨ps,b₃,new₃,hparts,h₃,hps⟩ := ih h₂ hes' hrest (by omega) hfresh'
    refine ⟨(.text s,p) :: ps,b₃,new₁ ++ new₂ ++ new₃,?_,by simpa using h₃,?_⟩
    · rw [Value.pairsFrom,entriesOf,run_bind hkey,run_bind (asKey_whole _ _ _ _),run_bind hitem,
        run_bind (keyValue_whole _ _)]
      simp only [if_true,partOf?_eq_none hnew,putPart_eq_append hnew]
      rw [hparts,List.append_assoc]
      rfl
    · have hps' : PartsDenote (vals ++ (new₁ ++ new₂ ++ new₃)) ps es := by simpa using hps
      exact .cons ⟨rfl,by simpa using hp.append new₃⟩ hps'

/-! ### Cells -/

theorem Builds.setCell {c : Nat} {es : Entries} {ps : List (Value × Part)}
    (h : b.Builds ns vals ((i,c) :: todo) bound) (hc : vals[c]? = some (.map es))
    (hps : PartsDenote vals ps es) :
    Builds { b with cells := b.cells.setIfInBounds c (.map ps) } ns vals todo bound := by
  refine { h with size := ?_, level := ?_, filled := ?_ }
  · simp [h.size]
  · exact fun t ht => h.level t (List.mem_cons_of_mem _ ht)
  · intro c' hc'
    by_cases hsame : c' = c
    · subst hsame
      have hin : c' < b.cells.size := by rwa [h.size]
      exact .inr ⟨es,ps,hc,by simp [hin],hps⟩
    · rcases h.filled c' hc' with hwaits | ⟨es',ps',hval,hcell,hparts⟩
      · exact .inl (by simpa [hsame] using hwaits)
      · exact .inr ⟨es',ps',hval,by simp [Ne.symm hsame,hcell],hparts⟩

theorem Builds.filled_eq {es : Entries} (h : b.Builds ns vals todo bound)
    (hes : Value.entriesLegible es = true) (hsit : Value.SitsIn ns i (.map es))
    (hbound : Value.entriesCount es ≤ bound) (n : Nat) :
    ∃ ps b' new, (Yaml.filled (construct (n + 1)) i).run b = .ok (.map ps,b') ∧
      b'.Builds ns (vals ++ new) todo bound ∧ PartsDenote (vals ++ new) ps es := by
  have hnode := h.node_eq (hsit.root ((Value.isLegible_map es).trans hes))
  have hpairs : b.pairs i = Value.pairsFrom (i + 1) es := by rw [pairs,hnode]; rfl
  have hkeys : ∀ q ∈ b.pairs i, (b.node q.1).tag = .str := by
    intro q hq
    rw [hpairs] at hq
    obtain ⟨s,hs⟩ := hsit.entries.keys hes hq
    rw [h.node_eq hs]
    rfl
  obtain ⟨ps,b',new,hrun,h',hps⟩ :=
    h.entriesOf_eq hes hsit.entries hbound (fun p hp => absurd hp List.not_mem_nil) i n
  refine ⟨ps,b',new,?_,h',hps⟩
  have hmap : (mapEntries (construct (n + 1)) i).run b = .ok (ps,b') := by
    have hmerged : b.mergedInto i = [] := by rw [mergedInto,h.merged]; rfl
    rw [mapEntries,run_bind (run_get b)]
    simp only [hnode,Value.root]
    rw [run_bind (flatten_eq hkeys),run_bind (run_get b)]
    simp only [hmerged,hpairs]
    exact hrun
  rw [Yaml.filled,run_bind (run_get b)]
  simp only [hnode,Value.root,Node.tag]
  rw [run_bind hmap]
  rfl

theorem Builds.fill_eq {t : NodeId × Nat} (h : b.Builds ns vals (t :: todo) bound) (n : Nat) :
    ∃ b' new, (fill (construct (n + 1)) t).run b = .ok ((),b') ∧
      b'.Builds ns (vals ++ new) todo bound := by
  obtain ⟨es,hc,hes,hsit,hcount⟩ := h.level t List.mem_cons_self
  obtain ⟨ps,b',new,hrun,h',hps⟩ := h.filled_eq hes hsit (by omega) n
  refine ⟨_,new,?_,h'.setCell (getElem?_append_of_eq_some hc new) hps⟩
  rw [fill,run_bind hrun]
  rfl

theorem Builds.forM_fill {ts : List (NodeId × Nat)} (h : b.Builds ns vals ts bound) (n : Nat) :
    ∃ b' new, (ts.forM (fill (construct (n + 1)))).run b = .ok ((),b') ∧
      b'.Builds ns (vals ++ new) [] bound := by
  induction ts generalizing b vals with
  | nil => exact ⟨b,[],rfl,by simpa using h⟩
  | cons t ts ih =>
    obtain ⟨b₁,new₁,hrun,h₁⟩ := h.fill_eq n
    obtain ⟨b₂,new₂,hothers,h₂⟩ := ih h₁
    refine ⟨b₂,new₁ ++ new₂,?_,by simpa using h₂⟩
    rw [List.forM_eq_forM,List.forM_cons,run_bind hrun]
    exact hothers

/-- Every level is filled, for each has less nodes below it than the one before. -/
theorem Builds.fillWaiting_eq (h : b.Builds ns vals [] bound) (n : Nat) :
    ∃ b' new, (fillWaiting (n + 1) bound).run b = .ok ((),b') ∧
      b'.Builds ns (vals ++ new) [] 0 := by
  induction bound generalizing b vals with
  | zero => exact ⟨b,[],rfl,by simpa using h⟩
  | succ bound ih =>
    by_cases htasks : b.tasks.isEmpty
    · refine ⟨b,[],?_,?_⟩
      · rw [fillWaiting,run_bind (run_get b)]
        simp only [htasks,if_true]
        rfl
      · have hnone : b.tasks.toList = [] := by simpa using htasks
        rw [List.append_nil]
        exact { h with level := by simp, tasks := by simp [hnone] }
    · have hlevel : Builds { b with tasks := #[] } ns vals b.tasks.toList bound :=
        { h with level := h.tasks, tasks := by simp, filled := by simpa using h.filled }
      obtain ⟨b₁,new₁,hfill,h₁⟩ := hlevel.forM_fill n
      obtain ⟨b₂,new₂,hothers,h₂⟩ := ih h₁
      refine ⟨b₂,new₁ ++ new₂,?_,by simpa using h₂⟩
      have hlist : b.tasks.forM (fill (construct (n + 1))) =
          b.tasks.toList.forM (fill (construct (n + 1))) := List.forM_toArray b.tasks.toList _
      have hclear : (modify (fun b : Builder => { b with tasks := #[] }) : Build Unit).run b =
          .ok ((),{ b with tasks := #[] }) := rfl
      rw [fillWaiting,run_bind (run_get b)]
      simp only [htasks,Bool.false_eq_true,if_false]
      rw [run_bind hclear,hlist,run_bind hfill]
      exact hothers

theorem builds_start (nodes : Array Placed) (bound : Nat) :
    Builds (start .v1_2 nodes) (nodes.toList.map Placed.node) [] [] bound where
  version := rfl
  nodes := rfl
  merged := rfl
  around := rfl
  shallow := rfl
  size := rfl
  built := by
    intro i p v hp
    rw [start,Array.getD_eq_getD_getElem?,Array.getElem?_replicate] at hp
    split at hp <;> cases hp
  level := by simp
  tasks := by simp [start]
  filled := by simp

end Builder

/-- A record is what is built from its nodes. -/
theorem valueOf_nodes {nodes : Array Placed} {es : Entries}
    (hes : Value.entriesLegible es = true)
    (hnodes : nodes.toList.map Placed.node = (Value.map es).nodes 0) :
    valueOf .v1_2 nodes 0 = .ok (.map es) := by
  have hv : (Value.map es).isLegible = true := (Value.isLegible_map es).trans hes
  have hsit : Value.SitsIn (nodes.toList.map Placed.node) 0 (.map es) :=
    ⟨[],[],by simp [hnodes],rfl⟩
  have hsize : nodes.size = (Value.map es).nodeCount := by
    rw [← Value.length_nodes hv 0,← hnodes,List.length_map,Array.length_toList]
  obtain ⟨p,b₁,vals,hroot,h₁,hp⟩ := (Builder.builds_start nodes (nodes.size + 2)).construct_eq hv
    hsit (by omega) false (fun h => by cases h) (nodes.size + 1)
  rw [List.nil_append] at h₁ hp
  obtain ⟨b₂,new,hall,h₂⟩ := h₁.fillWaiting_eq (nodes.size + 1)
  have hempty : b₂.tasks.toList = [] := by
    refine List.eq_nil_iff_forall_not_mem.mpr (fun t ht => ?_)
    obtain ⟨es',-,-,-,hcount⟩ := h₂.tasks t ht
    omega
  have hfilled : ∀ c < (vals ++ new).length, IsFilled (vals ++ new) b₂.cells c := by
    intro c hc
    simpa [hempty] using h₂.filled c hc
  have hinside : Inside (vals ++ new) [] (Value.map es).nodeCount (b₂.cells.size + 1) :=
    ⟨.nil,by simp,by simp [h₂.size]⟩
  have hvalue := (covers_unfold hfilled).of_isLegible _ hv _ _ _ (hp.append new) hinside
  have hrun : (constructAll 0).run (.start .v1_2 nodes) = .ok (p,b₂) := by
    rw [constructAll,Builder.run_bind (Builder.run_get _)]
    exact (Builder.run_bind hroot _).trans (Builder.run_bind hall _)
  rw [valueOf,hrun]
  simp only [bind,Except.bind,hvalue]
  rfl

end Yaml

end ShortVolume
