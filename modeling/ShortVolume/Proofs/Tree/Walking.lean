import ShortVolume.Proofs.Tree.Writing
set_option autoImplicit false

/-!
Where the names of a path lead one after the other.

Whatever links there are, what stands at the end of a path stands under its last name where the path
before that leads to.
-/

namespace ShortVolume

namespace Tree

theorem isUnlinked_or_link (t : Tree) (p : Path) :
    t.IsUnlinked p ∨ ∃ target, t.get? p = some (.link target) := by
  by_cases hlink : ∃ target, t.get? p = some (.link target)
  · exact .inr hlink
  · refine .inl (fun e he => ?_)
    cases e with
    | link target => exact absurd ⟨target,he⟩ hlink
    | directory => rfl
    | file bytes => rfl

/-- A name where no link is leads to what stands under it. -/
theorem walk_unlinked {t : Tree} {place : Path} {name : String} (hname : Path.LeadsOn name)
    (hlink : t.IsUnlinked (place ++ [name])) (n : Nat) (rest : List String) :
    t.walk (n + 1) place (name :: rest) = t.walk n (place ++ [name]) rest := by
  obtain ⟨hempty,hself,hup⟩ := hname
  rw [walk]
  simp only [hempty,hself,hup,or_self,if_false]
  split
  · next target htarget => exact absurd (hlink _ htarget) Bool.noConfusion
  · rfl

theorem walk_link {t : Tree} {place : Path} {name target : String} (hname : Path.LeadsOn name)
    (hlink : t.get? (place ++ [name]) = some (.link target)) (n : Nat) (rest : List String) :
    t.walk (n + 1) place (name :: rest) =
      t.walk n (if Path.isAbsolute target then [] else place) (Path.names target ++ rest) := by
  obtain ⟨hempty,hself,hup⟩ := hname
  rw [walk]
  simp only [hempty,hself,hup,or_self,if_false,hlink]

/-- A name leads on to a place, from where the names in a link come before the others. -/
theorem exists_walk_cons (t : Tree) (place : Path) (name : String) :
    ∃ (next : Path) (names : List String), ∀ n rest,
      t.walk (n + 1) place (name :: rest) = t.walk n next (names ++ rest) := by
  by_cases hself : name = "" ∨ name = "."
  · exact ⟨place,[],fun n rest => by rw [walk,if_pos hself]; rfl⟩
  · by_cases hup : name = ".."
    · exact ⟨place.parent,[],fun n rest => by rw [walk,if_neg hself,if_pos hup]; rfl⟩
    · have hname : Path.LeadsOn name := ⟨fun h => hself (.inl h),fun h => hself (.inr h),hup⟩
      rcases t.isUnlinked_or_link (place ++ [name]) with hlink | ⟨target,htarget⟩
      · exact ⟨place ++ [name],[],walk_unlinked hname hlink⟩
      · exact ⟨_,_,walk_link hname htarget⟩

/-- Names after others are walked from where those lead to, with what is left of the fuel. -/
theorem exists_walk_append {t : Tree} {n : Nat} {place d : Path} {names : List String}
    (h : t.walk n place names = some d) :
    ∃ m, ∀ k rest, t.walk (n + k) place (names ++ rest) = t.walk (m + k) d rest := by
  induction n generalizing place names with
  | zero =>
    cases names with
    | nil =>
      cases h
      exact ⟨0,fun _ _ => rfl⟩
    | cons name names => cases h
  | succ n ih =>
    cases names with
    | nil =>
      cases h
      exact ⟨n + 1,fun _ _ => rfl⟩
    | cons name names =>
      obtain ⟨next,led,hstep⟩ := t.exists_walk_cons place name
      rw [hstep] at h
      obtain ⟨m,hm⟩ := ih h
      refine ⟨m,fun k rest => ?_⟩
      rw [Nat.add_right_comm,List.cons_append,hstep,← List.append_assoc,hm]

/-- Names that are walked to an end have led on halfway. -/
theorem exists_walk_of_append {t : Tree} {n : Nat} {place q : Path} {names rest : List String}
    (h : t.walk n place (names ++ rest) = some q) :
    ∃ i m d, n = i + m ∧ t.walk i place names = some d ∧ t.walk m d rest = some q := by
  induction n generalizing place names with
  | zero =>
    cases names with
    | nil => exact ⟨0,0,place,rfl,rfl,h⟩
    | cons name names => cases h
  | succ n ih =>
    cases names with
    | nil => exact ⟨0,n + 1,place,(Nat.zero_add _).symm,rfl,h⟩
    | cons name names =>
      obtain ⟨next,led,hstep⟩ := t.exists_walk_cons place name
      rw [List.cons_append,hstep,← List.append_assoc] at h
      obtain ⟨i,m,d,rfl,hnames,hrest⟩ := ih h
      exact ⟨i + 1,m,d,Nat.add_right_comm i m 1,(hstep i names).trans hnames,hrest⟩

/-- What is no link stands under its name where the path before it leads to. -/
theorem follow_concat {t : Tree} {p d : Path} (h : t.follow p = some d) {name : String}
    (hname : Path.LeadsOn name) (hlink : t.IsUnlinked (d ++ [name])) :
    t.follow (p ++ [name]) = some (d ++ [name]) := by
  obtain ⟨m,hm⟩ := exists_walk_append h
  rw [follow,List.length_append,List.length_singleton,Nat.add_right_comm,hm,
    walk_unlinked hname hlink,walk]

theorem stat_eq_some_iff {t : Tree} {p : Path} {e : Entry} :
    t.stat p = .ok (some e) ↔ ∃ q, t.follow p = some q ∧ t.get? q = some e := by
  unfold stat
  cases t.follow p with
  | none => simp
  | some q =>
    cases hq : t.get? q with
    | some f => simp [hq]
    | none => by_cases hmeets : t.meetsLongName q = true <;> simp [hq,hmeets]

theorem stat_eq_of_follow {t : Tree} {p q : Path} (h : t.follow p = t.follow q) :
    t.stat p = t.stat q := by
  simp only [stat,h]

/-- What a path leads to has an entry under the last name where the path before it leads to. -/
theorem exists_follow_of_stat {t : Tree} {p : Path} {name : String} (hname : Path.LeadsOn name)
    {e : Entry} (h : t.stat (p ++ [name]) = .ok (some e)) :
    ∃ d f, t.follow p = some d ∧ t.get? (d ++ [name]) = some f := by
  obtain ⟨q,hq,he⟩ := stat_eq_some_iff.mp h
  rw [follow,List.length_append,List.length_singleton] at hq
  obtain ⟨i,m,d,hfuel,hp,hlast⟩ := exists_walk_of_append hq
  cases m with
  | zero => cases hlast
  | succ m =>
    have hd : t.follow p = some d := by
      obtain ⟨k,hk⟩ := exists_walk_append hp
      have hmore := hk m []
      rw [List.append_nil,walk] at hmore
      rw [follow,← hmore]
      congr 1
      omega
    cases hentry : t.get? (d ++ [name]) with
    | some f => exact ⟨d,f,hd,hentry⟩
    | none =>
      rw [walk_unlinked hname (fun f hf => by simp [hentry] at hf),walk] at hlast
      cases hlast
      simp [hentry] at he

/-! ### Links to names that are too long -/

theorem walk_real_append {t : Tree} {place names : Path} (h : t.IsReal (place ++ names)) (n : Nat)
    (rest : List String) :
    t.walk (names.length + n) place (names ++ rest) = t.walk n (place ++ names) rest := by
  induction names generalizing place with
  | nil => simp
  | cons name names ih =>
    have hinside : t.IsReal (place ++ [name] ++ names) := by simpa using h
    have hlink : t.IsUnlinked (place ++ [name]) := fun e => h.noLink _ e ⟨names,by simp⟩
    rw [List.length_cons,Nat.add_right_comm,List.cons_append,
      walk_unlinked (h.direct name (by simp)) hlink,ih hinside,List.append_assoc,List.singleton_append]

/-- The system refuses to look at a link to a name beside it that is too long. -/
theorem stat_of_stray {t : Tree} (ht : t.IsSound) {d : Path} {name s : String}
    (hlink : t.get? (d ++ [name]) = some (.link s)) (hs : Path.LeadsOn s)
    (hslash : '/' ∉ s.toList) (hlong : isTooLong s = true) :
    t.stat (d ++ [name]) = .error .nameTooLong := by
  have hdirectory : t.get? d = some .directory := by
    have hparent := ht.parent _ _ hlink
    rwa [Path.parent_concat] at hparent
  have hname : Path.LeadsOn name :=
    (ht.named _ _ hlink _ (List.mem_append_right _ List.mem_cons_self)).leadsOn
  -- Nothing can stand under such a name.
  have hnone : t.get? (d ++ [s]) = none := by
    cases he : t.get? (d ++ [s]) with
    | none => rfl
    | some e =>
      have hshort := (ht.named _ _ he s (List.mem_append_right _ List.mem_cons_self)).short
      simp [hlong] at hshort
  have hsplit : Path.names s = [s] := by
    have h := Path.names_relative (p := [s]) (List.cons_ne_nil _ _) (by simpa using hslash)
    simpa [Path.relative] using h
  have hrelative : Path.isAbsolute s = false := by
    cases hchars : s.toList with
    | nil => simp [Path.isAbsolute,hchars]
    | cons c r =>
      have hc : c ≠ '/' := fun heq => hslash (hchars ▸ heq ▸ List.mem_cons_self)
      simp [Path.isAbsolute,hchars,hc]
  have hfollow : t.follow (d ++ [name]) = some (d ++ [s]) := by
    have hreal : t.IsReal ([] ++ d) := ht.isReal hdirectory rfl
    rw [follow,List.length_append,List.length_singleton,Nat.add_assoc,walk_real_append hreal,
      Nat.add_comm,List.nil_append,walk_link hname hlink,hsplit,hrelative,List.append_nil]
    exact walk_unlinked hs (fun e he => by simp [hnone] at he) _ []
  have hmeets : t.meetsLongName (d ++ [s]) = true := by
    refine List.any_eq_true.mpr ⟨_,Path.self_mem_stages _,?_⟩
    simp [Path.parent_concat,Path.name,hlong,isDirectory,hdirectory]
  simp [stat,hfollow,hnone,hmeets]

end Tree

end ShortVolume
