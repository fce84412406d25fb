import ShortVolume.Proofs.Yaml.Nodes
set_option autoImplicit false

/-!
Where the nodes of a value lie among those of a document.
-/

namespace ShortVolume

open Yaml

namespace Value

/-- The nodes of a value among others, from the number `i` on. -/
def SitsIn (ns : List Node) (i : NodeId) (v : Value) : Prop :=
  ∃ before after, ns = before ++ (v.nodes i ++ after) ∧ before.length = i

/-- The nodes of the parts of a record among others, from the number `i` on. -/
def EntriesSitIn (ns : List Node) (i : NodeId) (es : Entries) : Prop :=
  ∃ before after, ns = before ++ (entriesNodes i es ++ after) ∧ before.length = i

/-- The first node of a value, if its number is `i`. -/
def root (i : NodeId) : Value → Node
  | text s => .scalar .str s
  | int j => .scalar .int (toString j)
  | bool b => .scalar .bool (if b then "true" else "false" : String)
  | map es => .mapping .map (pairsFrom (i + 1) es)
  | _ => .blank

variable {ns : List Node} {i : NodeId}

theorem SitsIn.root {v : Value} (hv : v.isLegible = true) (h : v.SitsIn ns i) :
    ns[i]? = some (v.root i) := by
  obtain ⟨before,after,rfl,hlength⟩ := h
  have hnodes : ∃ xs, v.nodes i = v.root i :: xs := by
    cases v with
    | text s => exact ⟨_,by rw [nodes,Value.root]⟩
    | int j => exact ⟨_,by rw [nodes,Value.root]⟩
    | bool b => exact ⟨_,by rw [nodes,Value.root]⟩
    | map es => exact ⟨_,by rw [nodes,Value.root]⟩
    | _ => simp [isLegible] at hv
  obtain ⟨xs,hxs⟩ := hnodes
  rw [hxs,List.cons_append,List.getElem?_append_right (by omega)]
  simp [hlength]

theorem sitsIn_text {s : Text} (h : ns[i]? = some (.scalar .str s)) : SitsIn ns i (text s) := by
  obtain ⟨hi,hs⟩ := List.getElem?_eq_some_iff.mp h
  refine ⟨ns.take i,ns.drop (i + 1),?_,by simp; omega⟩
  rw [nodes,← hs,List.singleton_append,List.getElem_cons_drop,List.take_append_drop]

theorem SitsIn.entries {es : Entries} (h : SitsIn ns i (map es)) : EntriesSitIn ns (i + 1) es := by
  obtain ⟨before,after,rfl,hlength⟩ := h
  exact ⟨before ++ [.mapping .map (pairsFrom (i + 1) es)],after,by simp [nodes],by simp [hlength]⟩

theorem EntriesSitIn.cons {k : String} {v : Value} {es : Entries}
    (hcount : (v.nodes (i + 1)).length = v.nodeCount)
    (h : EntriesSitIn ns i ((.text k,v) :: es)) :
    ns[i]? = some (.scalar .str k) ∧ v.SitsIn ns (i + 1) ∧
      EntriesSitIn ns (i + 1 + v.nodeCount) es := by
  obtain ⟨before,after,rfl,hlength⟩ := h
  refine ⟨?_,⟨before ++ [.scalar .str k],entriesNodes (i + 1 + v.nodeCount) es ++ after,?_,?_⟩,
    ⟨before ++ .scalar .str k :: v.nodes (i + 1),after,?_,?_⟩⟩
  · rw [entriesNodes,List.cons_append,List.getElem?_append_right (by omega)]
    simp [hlength,text?]
  · simp [entriesNodes,text?]
  · simp [hlength]
  · simp [entriesNodes,text?]
  · simp [hlength,hcount]
    omega

theorem length_nodes {v : Value} (h : v.isLegible = true) (i : NodeId) :
    (v.nodes i).length = v.nodeCount :=
  (Reader.covers_builds.of_isLegible v h).count i

theorem EntriesSitIn.keys {es : Entries} (hes : entriesLegible es = true)
    (h : EntriesSitIn ns i es) {q : NodeId × NodeId} (hq : q ∈ pairsFrom i es) :
    ∃ s, ns[q.1]? = some (.scalar .str s) := by
  induction es generalizing i with
  | nil => cases hq
  | cons e es ih =>
    obtain ⟨k,v⟩ := e
    obtain ⟨s,rfl,-,hv,hes',-⟩ := entriesLegible_cons hes
    obtain ⟨hname,-,hothers⟩ := h.cons (length_nodes hv _)
    rcases List.mem_cons.mp hq with rfl | hq
    · exact ⟨s,hname⟩
    · exact ih hes' hothers hq

theorem eq_of_root {v w : Value} (hv : v.isLegible = true) (hw : w.isLegible = true)
    (hmap : ∀ es, v ≠ .map es) (h : v.root i = w.root i) : v = w := by
  cases v with
  | text s =>
    cases w with
    | text t => rw [(Node.scalar.inj h).2]
    | int k => exact absurd (Node.scalar.inj h).1 (by decide)
    | bool b => exact absurd (Node.scalar.inj h).1 (by decide)
    | map es => cases h
    | _ => simp [isLegible] at hw
  | int j =>
    cases w with
    | int k =>
      have htext := Text.ofString_inj.mp (Node.scalar.inj h).2
      have hread := int_toString ((isLegible_int j).symm.trans hv)
      rw [htext,int_toString ((isLegible_int k).symm.trans hw)] at hread
      rw [Except.ok.inj hread]
    | text t => exact absurd (Node.scalar.inj h).1 (by decide)
    | bool b => exact absurd (Node.scalar.inj h).1 (by decide)
    | map es => cases h
    | _ => simp [isLegible] at hw
  | bool b =>
    cases w with
    | bool c => cases b <;> cases c <;> simp [root] at h ⊢
    | text t => exact absurd (Node.scalar.inj h).1 (by decide)
    | int j => exact absurd (Node.scalar.inj h).1 (by decide)
    | map es => cases h
    | _ => simp [isLegible] at hw
  | map es => exact absurd rfl (hmap es)
  | _ => simp [isLegible] at hv

theorem exists_map_of_root {es : Entries} {w : Value} (hw : w.isLegible = true)
    (h : (map es).root i = w.root i) :
    ∃ fs, w = .map fs ∧ pairsFrom (i + 1) es = pairsFrom (i + 1) fs := by
  cases w with
  | map fs => exact ⟨fs,rfl,(Node.mapping.inj h).2⟩
  | text t => cases h
  | int j => cases h
  | bool b => cases h
  | _ => simp [isLegible] at hw

theorem SitsIn.root_eq {v w : Value} (hv : v.isLegible = true) (hw : w.isLegible = true)
    (h : v.SitsIn ns i) (h' : w.SitsIn ns i) : v.root i = w.root i :=
  Option.some.inj ((h.root hv).symm.trans (h'.root hw))

/-- Nodes tell the value of which they are. -/
theorem covers_unique : Covers
    (fun v => v.isLegible = true → ∀ (ns : List Node) (i : NodeId) (w : Value),
      w.isLegible = true → v.SitsIn ns i → w.SitsIn ns i → v = w)
    (fun es => entriesLegible es = true → ∀ (ns : List Node) (i : NodeId) (fs : Entries),
      entriesLegible fs = true → EntriesSitIn ns i es → EntriesSitIn ns i fs →
        pairsFrom i es = pairsFrom i fs → es = fs) where
  text s _ hv _ _ _ hw h h' := eq_of_root hv hw (fun _ he => by cases he) (h.root_eq hv hw h')
  int j _ hv _ _ _ hw h h' := eq_of_root hv hw (fun _ he => by cases he) (h.root_eq hv hw h')
  bool b hv _ _ _ hw h h' := eq_of_root hv hw (fun _ he => by cases he) (h.root_eq hv hw h')
  map es hes hv ns i w hw h h' := by
    obtain ⟨fs,rfl,hpairs⟩ := exists_map_of_root hw (h.root_eq hv hw h')
    rw [hes ((isLegible_map es).symm.trans hv) ns (i + 1) fs ((isLegible_map fs).symm.trans hw)
      h.entries h'.entries hpairs]
  nil _ ns i fs _ _ _ hpairs := by
    cases fs with
    | nil => rfl
    | cons f fs => simp [pairsFrom] at hpairs
  cons k v es hk hv hes _ hlegible ns i fs hfs hsit hsit' hpairs := by
    obtain ⟨-,-,-,hvlegible,heslegible,-⟩ := entriesLegible_cons hlegible
    cases fs with
    | nil => simp [pairsFrom] at hpairs
    | cons f fs =>
      obtain ⟨k',w⟩ := f
      obtain ⟨t,rfl,-,hwlegible,hfslegible,-⟩ := entriesLegible_cons hfs
      obtain ⟨hname,hvalue,hothers⟩ := hsit.cons (length_nodes hvlegible _)
      obtain ⟨hname',hvalue',hothers'⟩ := hsit'.cons (length_nodes hwlegible _)
      have hkeys : k = t := by simpa using hname.symm.trans hname'
      have hvalues := hv hvlegible ns (i + 1) w hwlegible hvalue hvalue'
      subst hkeys hvalues
      simp only [pairsFrom,List.cons.injEq,true_and] at hpairs
      rw [hes heslegible ns _ fs hfslegible hothers hothers' hpairs]

theorem SitsIn.unique {v w : Value} (hv : v.isLegible = true) (hw : w.isLegible = true)
    (h : v.SitsIn ns i) (h' : w.SitsIn ns i) : v = w :=
  covers_unique.of_isLegible v hv hv ns i w hw h h'

end Value

end ShortVolume
