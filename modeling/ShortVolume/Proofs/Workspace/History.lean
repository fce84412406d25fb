import ShortVolume.Proofs.Workspace.Calls
set_option autoImplicit false

/-!
Runs of many steps.

A step processes one file or scans a directory, and steps of any workspaces follow each other. From a
file system without links and without temporary files no step loses bytes: files stay files, and what
a file held before it was replaced is in a file that was not there before the step. The only temporary
files that are left are empty, and come of texts that have no bytes.
-/

namespace ShortVolume

/-! ### Keeping what there is -/

/-- What one tree has is not lost in the other. Only touched files have changed, and what they held
is in files that were not there. Of temporary files it is only said where they come: at stranded
paths. -/
structure Tree.Keeps (t u : Tree) (Touched Stranded : Path → Prop) : Prop where
  absent : ∀ p, ¬ p.IsTemporary → u.get? p = none → t.get? p = none
  file : ∀ p bytes, ¬ p.IsTemporary → t.get? p = some (.file bytes) →
    ∃ now, u.get? p = some (.file now)
  saved : ∀ p bytes, ¬ p.IsTemporary → t.get? p = some (.file bytes) →
    u.get? p ≠ some (.file bytes) →
      Touched p ∧ ∃ q, ¬ q.IsTemporary ∧ t.get? q = none ∧ u.get? q = some (.file bytes)
  temporary : ∀ p e, p.IsTemporary → u.get? p = some e → t.get? p = some e ∨ Stranded p

section Keeps
variable {t u v : Tree} {Touched Touched' Stranded Stranded' : Path → Prop}

theorem Tree.Keeps.refl (t : Tree) (Touched Stranded : Path → Prop) :
    t.Keeps t Touched Stranded where
  absent := fun _ _ h => h
  file := fun _ bytes _ h => ⟨bytes,h⟩
  saved := fun _ _ _ h hchanged => absurd h hchanged
  temporary := fun _ _ _ h => .inl h

/-- What a file held is held by a file. -/
theorem Tree.Keeps.content (h : t.Keeps u Touched Stranded) {p : Path} {bytes : List UInt8}
    (hn : ¬ p.IsTemporary) (hp : t.get? p = some (.file bytes)) :
    ∃ q, ¬ q.IsTemporary ∧ u.get? q = some (.file bytes) := by
  by_cases hsame : u.get? p = some (.file bytes)
  · exact ⟨p,hn,hsame⟩
  · obtain ⟨-,q,hq,-,hsaved⟩ := h.saved p bytes hn hp hsame
    exact ⟨q,hq,hsaved⟩

theorem Tree.Keeps.trans (h : t.Keeps u Touched Stranded) (h' : u.Keeps v Touched' Stranded') :
    t.Keeps v (fun p => Touched p ∨ Touched' p) (fun p => Stranded p ∨ Stranded' p) where
  absent := fun p hn hp => h.absent p hn (h'.absent p hn hp)
  file := by
    intro p bytes hn hp
    obtain ⟨now,hnow⟩ := h.file p bytes hn hp
    exact h'.file p now hn hnow
  saved := by
    intro p bytes hn hp hchanged
    by_cases hsame : u.get? p = some (.file bytes)
    · obtain ⟨htouched,q,hq,hfree,hsaved⟩ := h'.saved p bytes hn hsame hchanged
      exact ⟨.inr htouched,q,hq,h.absent q hq hfree,hsaved⟩
    · obtain ⟨htouched,q,hq,hfree,hsaved⟩ := h.saved p bytes hn hp hsame
      refine ⟨.inl htouched,?_⟩
      -- The file that has the bytes may itself be replaced after that.
      by_cases hkept : v.get? q = some (.file bytes)
      · exact ⟨q,hq,hfree,hkept⟩
      · obtain ⟨-,r,hr,hfree',hsaved'⟩ := h'.saved q bytes hq hsaved hkept
        exact ⟨r,hr,h.absent r hr hfree',hsaved'⟩
  temporary := by
    intro p e hn hp
    rcases h'.temporary p e hn hp with hu | hstranded
    · exact (h.temporary p e hn hu).imp_right .inl
    · exact .inr (.inr hstranded)

theorem Tree.Keeps.mono (h : t.Keeps u Touched Stranded) (himp : ∀ p, Touched p → Touched' p)
    (himp' : ∀ p, Stranded p → Stranded' p) : t.Keeps u Touched' Stranded' where
  absent := h.absent
  file := h.file
  saved := by
    intro p bytes hn hp hchanged
    obtain ⟨htouched,hsaved⟩ := h.saved p bytes hn hp hchanged
    exact ⟨himp p htouched,hsaved⟩
  temporary := fun p e hn hp => (h.temporary p e hn hp).imp_right (himp' p)

theorem Tree.keeps_put {p : Path} (hn : ¬ p.IsTemporary) (hfree : t.get? p = none)
    (bytes : List UInt8) (Touched Stranded : Path → Prop) :
    t.Keeps (t.put p (.file bytes)) Touched Stranded := by
  have hsame : ∀ q e, t.get? q = some e → (t.put p (.file bytes)).get? q = some e :=
    fun q e hq => get?_put_of_free hfree hq _
  refine ⟨fun q _ hq => ?_,fun q old _ hq => ⟨old,hsame q _ hq⟩,
    fun q old _ hq hchanged => absurd (hsame q _ hq) hchanged,fun q e htemporary hq => .inl ?_⟩
  · cases he : t.get? q with
    | none => rfl
    | some e => simp [hsame q e he] at hq
  · rwa [get?_put_of_ne] at hq
    rintro rfl
    exact hn htemporary

/-- A temporary file hides nothing but a temporary file. -/
theorem Tree.keeps_put_temporary {p : Path} (hp : p.IsTemporary) (e : Entry) {t : Tree}
    (Touched : Path → Prop) : t.Keeps (t.put p e) Touched (· = p) := by
  have hsame : ∀ q, ¬ q.IsTemporary → (t.put p e).get? q = t.get? q := by
    intro q hq
    refine get?_put_of_ne t e ?_
    rintro rfl
    exact hq hp
  refine ⟨fun q hn hq => (hsame q hn).symm.trans hq,fun q old hn hq => ⟨old,(hsame q hn).trans hq⟩,
    fun q old hn hq hchanged => absurd ((hsame q hn).trans hq) hchanged,fun q f _ hq => ?_⟩
  by_cases hqp : q = p
  · exact .inr hqp
  · exact .inl ((get?_put_of_ne t e hqp).symm.trans hq)

/-- A file changes whose bytes are in a new file. -/
theorem Tree.keeps_renewal {target place : Path} {bytes now : List UInt8}
    (htarget : t.get? target = some (.file bytes)) (hn : ¬ target.IsTemporary)
    (hspare : IsSpare t target place) (h : (t.put place (.file bytes)).IsRenewal u target now)
    (Stranded : Path → Prop) : t.Keeps u (· = target) Stranded := by
  have hview : ∀ q, q ≠ temporaryPlace target → u.get? q = if q = target then some (.file now) else
      if q = place then some (.file bytes) else t.get? q := by
    intro q hq
    rw [h q,if_neg hq,get?_put _ _ hspare.ne_nil]
  have hapart {q : Path} (hq : ¬ q.IsTemporary) : q ≠ temporaryPlace target := by
    rintro rfl
    exact hq (temporaryPlace_isTemporary target)
  have hother : place ≠ target := by
    rintro rfl
    simp [hspare.free] at htarget
  refine ⟨?absent,?file,?saved,?temporary⟩
  case absent =>
    intro q hq hnone
    rw [hview q (hapart hq)] at hnone
    split at hnone
    · contradiction
    · split at hnone
      · contradiction
      · exact hnone
  case file =>
    intro q old hq hold
    rw [hview q (hapart hq)]
    split
    · exact ⟨now,rfl⟩
    · split
      · exact ⟨bytes,rfl⟩
      · exact ⟨old,hold⟩
  case saved =>
    intro q old hq hold hchanged
    by_cases hqt : q = target
    · subst hqt
      have hsame : bytes = old := by
        rw [htarget] at hold
        simpa using hold
      refine ⟨rfl,place,hspare.not_isTemporary,hspare.free,?_⟩
      rw [hview place (hapart hspare.not_isTemporary),if_neg hother,if_pos rfl,hsame]
    · rw [hview q (hapart hq),if_neg hqt] at hchanged
      split at hchanged
      · next hplace => simp [hplace,hspare.free] at hold
      · exact absurd hold hchanged
  case temporary =>
    intro q e htemporary hq
    have hqt : q ≠ target := by
      rintro rfl
      exact hn htemporary
    have hplace : q ≠ place := by
      rintro rfl
      exact hspare.not_isTemporary htemporary
    rw [h q,if_neg hqt] at hq
    split at hq
    · contradiction
    · exact .inl ((get?_put_of_ne _ _ hplace).symm.trans hq)

/-- A file that cannot be written leaves its backup and a temporary file. -/
theorem Tree.keeps_stranded {target place : Path} (hspare : IsSpare t target place)
    (bytes : List UInt8) :
    t.Keeps ((t.put place (.file bytes)).put (temporaryPlace target) (.file [])) (fun _ => False)
      (· = temporaryPlace target) :=
  ((Tree.keeps_put hspare.not_isTemporary hspare.free bytes _ (fun _ => False)).trans
    (Tree.keeps_put_temporary (temporaryPlace_isTemporary target) (.file []) (fun _ => False))).mono
      (fun _ h => h.elim id id) (fun _ h => h.resolve_left id)

end Keeps

/-! ### One file -/

/-- The call is no dry run, its path names the file at `p`, and its report says that the file was
written. -/
def Call.Rewrites (c : Call) (p : Path) : Prop :=
  c.dryRun = false ∧ c.tree.resolve c.workspace.root c.path = some p ∧
    ∃ r, (c.workspace.process c.tree c.path c.dryRun).2 = .ok r ∧ r.effect.written = true

/-- The call leaves a temporary file at `p`, for a text that has no bytes. -/
def Call.Strands (c : Call) (p : Path) : Prop :=
  ∃ target, c.IsUnencodable target ∧ p = temporaryPlace target

/-- A file without bytes holds no volumes. -/
theorem Workspace.volumes_of_empty {w : Workspace} {vs : List Volume} {present : String}
    {canonical : Text} (h : w.examine [] = .ok (vs,present,canonical)) : vs = [] := by
  have hempty : (documents "").toOption.map List.isEmpty = some true := by decide +kernel
  obtain ⟨hdecoded,ds,hds,rfl,-⟩ := examine_eq_ok_iff.mp h
  obtain rfl : "" = present := Except.ok.inj hdecoded
  rw [hds] at hempty
  have hnil : ds = [] := List.isEmpty_iff.mp (Option.some.inj hempty)
  rw [hnil,List.map_nil]

/-- What a call is to replace is no temporary file, as those are empty. -/
theorem Call.Wants.not_isTemporary {c : Call} {target : Path} {bytes : List UInt8}
    {vs : List Volume} {present : String} {canonical : Text}
    (h : c.Wants target bytes vs present canonical) (hc : c.tree.IsQuiet) :
    ¬ target.IsTemporary := by
  intro htemporary
  obtain ⟨rfl⟩ : bytes = [] := by simpa using hc.temporary _ _ h.file htemporary
  exact h.wanted.2.2 (Workspace.volumes_of_empty h.examined)

theorem Workspace.process_keeps (w : Workspace) {t : Tree} (ht : t.IsQuiet) (path : String)
    (dryRun : Bool) :
    (w.process t path dryRun).1.IsQuiet ∧
      t.Keeps (w.process t path dryRun).1 (Call.Rewrites ⟨w,t,path,dryRun⟩)
        (Call.Strands ⟨w,t,path,dryRun⟩) := by
  rcases w.process_cases t path dryRun with ⟨m,hsame,-⟩ | ⟨r,hsame,-⟩ |
    ⟨target,bytes,vs,present,canonical,hwants,hprocess⟩
  · rw [hsame]
    exact ⟨ht,.refl t _ _⟩
  · rw [hsame]
    exact ⟨ht,.refl t _ _⟩
  · have hn := hwants.not_isTemporary ht
    rcases w.replace_cases ht hwants.file canonical with hsame | ⟨place,b,hspare,rfl,hquiet,hcases⟩
    · rw [hprocess,hsame]
      exact ⟨ht,.refl t _ _⟩
    · have hkept := Tree.get?_put_of_free hspare.free hwants.file (.file bytes)
      rcases hcases with ⟨m,hgiven⟩ | ⟨u,effect,now,hwritten,hflag,-,hrenewal⟩ |
        ⟨hnone,hopen,hstranded⟩
      · rw [hprocess,hgiven]
        exact ⟨hquiet,Tree.keeps_put hspare.not_isTemporary hspare.free bytes _ _⟩
      · have htouched : Call.Rewrites ⟨w,t,path,dryRun⟩ target := by
          refine ⟨hwants.wanted.1,hwants.resolved,
            ⟨path,.accepted (Workspace.acceptance vs present canonical dryRun effect)⟩,?_,hflag⟩
          rw [hprocess,hwritten]
          rfl
        rw [hprocess,hwritten]
        exact ⟨hrenewal.isQuiet hkept hquiet hn,
          (Tree.keeps_renewal hwants.file hn hspare hrenewal _).mono (fun p hp => hp ▸ htouched)
            (fun _ => id)⟩
      · have htakes : t.TakesTemporary target :=
          ⟨hopen,_,write_temporaryPlace ht.toIsPlain hwants.file hopen
            (ht.temporaryPlace_ne_directory target) hspare.isTooLong_temporaryPlace []⟩
        have hunencodable : Call.Strands ⟨w,t,path,dryRun⟩ (temporaryPlace target) :=
          ⟨target,⟨bytes,vs,present,canonical,hwants,htakes,hnone⟩,rfl⟩
        rw [hprocess,hstranded]
        exact ⟨hquiet.update (Tree.isUpdate_put _ [] (Path.beside_ne_nil _ _))
          (temporaryPlace_direct (ht.direct _ _ hwants.file)) (Tree.parent_beside hquiet.toIsPlain
            hkept _) (hquiet.temporaryPlace_ne_directory target) (fun _ => rfl),
          (Tree.keeps_stranded hspare bytes).mono (fun _ => False.elim)
            (fun p hp => hp ▸ hunencodable)⟩

/-! ### Many files -/

/-- The files that are processed one after the other, each with what is there when its turn comes. -/
def Workspace.calls (dryRun : Bool) : Workspace → Tree → List Path → List Call
  | _, _, [] => []
  | w, t, p :: r =>
    ⟨w,t,p.relative,dryRun⟩ ::
      match w.process t p.relative dryRun with
      | (_, .error _) => []
      | (t, .ok report) => calls dryRun (w.after report) t r

theorem Workspace.processAll_keeps (w : Workspace) {t : Tree} (ht : t.IsQuiet) (dryRun : Bool)
    (ps : List Path) :
    (processAll dryRun w t ps).2.1.IsQuiet ∧
      t.Keeps (processAll dryRun w t ps).2.1 (fun p => ∃ c ∈ calls dryRun w t ps, c.Rewrites p)
        (fun p => ∃ c ∈ calls dryRun w t ps, c.Strands p) := by
  induction ps generalizing w t with
  | nil => exact ⟨ht,.refl t _ _⟩
  | cons p r ih =>
    obtain ⟨hquiet,hkeeps⟩ := w.process_keeps ht p.relative dryRun
    rw [processAll,calls]
    rcases hprocessed : w.process t p.relative dryRun with ⟨u,m | report⟩
    · rw [hprocessed] at hquiet hkeeps
      exact ⟨hquiet,hkeeps.mono (fun q hq => ⟨_,List.mem_cons_self,hq⟩)
        (fun q hq => ⟨_,List.mem_cons_self,hq⟩)⟩
    · rw [hprocessed] at hquiet hkeeps
      -- The other files are processed in the tree that the first one leaves.
      obtain ⟨hquiets,hkeepss⟩ := ih (w.after report) hquiet
      refine ⟨hquiets,(hkeeps.trans hkeepss).mono ?_ ?_⟩
      · rintro q (hq | ⟨c,hc,hq⟩)
        · exact ⟨_,List.mem_cons_self,hq⟩
        · exact ⟨c,List.mem_cons_of_mem _ hc,hq⟩
      · rintro q (hq | ⟨c,hc,hq⟩)
        · exact ⟨_,List.mem_cons_self,hq⟩
        · exact ⟨c,List.mem_cons_of_mem _ hc,hq⟩

/-! ### Runs -/

/-- What a workspace is asked to do. -/
inductive Action where
  | process (path : String) (dryRun : Bool)
  | scan (extension : String) (dryRun : Bool)

/-- A step of a run: a workspace, of either format, does what it is asked to do. -/
structure Step where
  workspace : Workspace
  action : Action

namespace Step

/-- The tree that a step leaves, whether or not it ends in a report. -/
def after (s : Step) (t : Tree) : Tree :=
  match s.action with
  | .process path dryRun => (s.workspace.process t path dryRun).1
  | .scan extension dryRun => (s.workspace.scan t extension dryRun).2.1

def calls (s : Step) (t : Tree) : List Call :=
  match s.action with
  | .process path dryRun => [⟨s.workspace,t,path,dryRun⟩]
  | .scan extension dryRun =>
    match s.workspace.matching t extension with
    | .error _ => []
    | .ok files => Workspace.calls dryRun s.workspace t files

/-- The step writes the file at a path. -/
def Rewrites (s : Step) (t : Tree) (p : Path) : Prop := ∃ c ∈ s.calls t, c.Rewrites p

/-- The step leaves a temporary file at a path, for a text that has no bytes. -/
def Strands (s : Step) (t : Tree) (p : Path) : Prop := ∃ c ∈ s.calls t, c.Strands p

theorem keeps (s : Step) {t : Tree} (ht : t.IsQuiet) :
    (s.after t).IsQuiet ∧ t.Keeps (s.after t) (s.Rewrites t) (s.Strands t) := by
  obtain ⟨w,action⟩ := s
  cases action with
  | process path dryRun =>
    obtain ⟨hquiet,hkeeps⟩ := w.process_keeps ht path dryRun
    exact ⟨hquiet,hkeeps.mono (fun p hp => ⟨_,List.mem_singleton_self _,hp⟩)
      (fun p hp => ⟨_,List.mem_singleton_self _,hp⟩)⟩
  | scan extension dryRun =>
    unfold Rewrites Strands
    simp only [after,calls,Workspace.scan]
    cases w.matching t extension with
    | error m => exact ⟨ht,.refl t _ _⟩
    | ok files => exact w.processAll_keeps ht dryRun files

end Step

def Tree.run (t : Tree) (steps : List Step) : Tree := steps.foldl (fun t s => s.after t) t

theorem Tree.run_append (t : Tree) (past future : List Step) :
    t.run (past ++ future) = (t.run past).run future :=
  List.foldl_append

/-- One of the steps of a run leaves a temporary file at a path. -/
def Tree.Strands (t : Tree) (steps : List Step) (p : Path) : Prop :=
  ∃ before s after, steps = before ++ s :: after ∧ s.Strands (t.run before) p

theorem Tree.run_keeps {t : Tree} (ht : t.IsQuiet) (steps : List Step) :
    (t.run steps).IsQuiet ∧ t.Keeps (t.run steps) (fun _ => True) (t.Strands steps) := by
  induction steps generalizing t with
  | nil => exact ⟨ht,.refl t _ _⟩
  | cons s rest ih =>
    obtain ⟨hquiet,hkeeps⟩ := s.keeps ht
    obtain ⟨hquiets,hkeepss⟩ := ih hquiet
    refine ⟨hquiets,(hkeeps.trans hkeepss).mono (fun _ _ => trivial) ?_⟩
    rintro p (hp | ⟨before,s',after,rfl,hp⟩)
    · exact ⟨[],s,rest,rfl,hp⟩
    · exact ⟨s :: before,s',after,rfl,hp⟩

/-- No run loses what a file holds, and the only temporary files that it leaves are empty and come of
texts that have no bytes. Whatever the past of a run left in another file is in such a file after any
future, none of them disappears, and a step that changes one has written it and has put its bytes where
nothing was. -/
theorem Tree.run_loses_nothing {t : Tree} (ht : t.IsClean) (past future : List Step) :
    (∀ p bytes, ¬ p.IsTemporary → (t.run past).get? p = some (.file bytes) →
      (∃ q, ¬ q.IsTemporary ∧ (t.run (past ++ future)).get? q = some (.file bytes)) ∧
        ∃ now, (t.run (past ++ future)).get? p = some (.file now)) ∧
      (∀ p e, p.IsTemporary → (t.run past).get? p = some e → e = .file [] ∧ t.Strands past p) ∧
      ∀ s p bytes, ¬ p.IsTemporary → (t.run past).get? p = some (.file bytes) →
        (t.run (past ++ [s])).get? p ≠ some (.file bytes) →
          s.Rewrites (t.run past) p ∧
            ∃ q, ¬ q.IsTemporary ∧ (t.run past).get? q = none ∧
              (t.run (past ++ [s])).get? q = some (.file bytes) := by
  obtain ⟨hpast,hkeeps⟩ := Tree.run_keeps ht.isQuiet past
  refine ⟨?_,?_,?_⟩
  · intro p bytes hn hp
    obtain ⟨-,hlater⟩ := Tree.run_keeps hpast future
    rw [Tree.run_append]
    exact ⟨hlater.content hn hp,hlater.file p bytes hn hp⟩
  · intro p e htemporary hp
    refine ⟨hpast.temporary p e hp htemporary,?_⟩
    exact (hkeeps.temporary p e htemporary hp).resolve_left
      (fun hfirst => ht.noTemporary p e hfirst htemporary)
  · intro s p bytes hn hp hchanged
    rw [Tree.run_append] at hchanged ⊢
    exact (s.keeps hpast).2.saved p bytes hn hp hchanged

/-- The bytes of a file whose keys are out of order. -/
def unsettled : List UInt8 := Text.Utf8.encode "vol_type: gce_pd\nvol_id: d\nname: n\n".toList

/-- Two files whose backups have the same names, one of which is taken. -/
def sharedNames : Tree where
  entries := [(["ws"],.directory), (["ws","a.yaml"],.file unsettled),
    (["ws","a.yml"],.file unsettled), (["ws","a.kubeshort.backup"],.file [])]

/-- A workspace that leaves YAML. -/
def settling : Workspace := ⟨["ws"],.new .yaml,Yaml.Error.report⟩

/-- Brings the files with an extension into canonical form. -/
def settleAll (extension : String) : Step := ⟨settling,.scan extension false⟩

theorem Tree.run_sharedNames :
    sharedNames.IsClean ∧
      (sharedNames.run [settleAll ".yaml"]).get? ["ws","a.yml"] = some (.file unsettled) ∧
      (sharedNames.run [settleAll ".yaml",settleAll ".yml"]).get? ["ws","a.yml"] ≠
        some (.file unsettled) ∧
      (settleAll ".yml").Rewrites (sharedNames.run [settleAll ".yaml"]) ["ws","a.yml"] ∧
      ∃ q, (sharedNames.run [settleAll ".yaml"]).get? q = none ∧
        (sharedNames.run [settleAll ".yaml",settleAll ".yml"]).get? q = some (.file unsettled) := by
  have hclean : sharedNames.IsClean := Tree.isClean_of_entries (by decide) (by decide)
  have hbefore : (sharedNames.run [settleAll ".yaml"]).get? ["ws","a.yml"] =
      some (.file unsettled) := by
    decide +kernel
  have hafter : (sharedNames.run [settleAll ".yaml",settleAll ".yml"]).get? ["ws","a.yml"] ≠
      some (.file unsettled) := by
    decide +kernel
  obtain ⟨-,-,hchanged⟩ := Tree.run_loses_nothing hclean [settleAll ".yaml"] []
  obtain ⟨hrewrites,q,-,hfree,hsaved⟩ :=
    hchanged (settleAll ".yml") _ _ (by decide) hbefore hafter
  exact ⟨hclean,hbefore,hafter,hrewrites,q,hfree,hsaved⟩

/-- The bytes of a file whose store is named by half of a pair. -/
def halved : List UInt8 :=
  Text.Utf8.encode "vol_type: gce_pd\nvol_id: \"\\ud800\"\nname: x\n".toList

/-- A directory with that file only. -/
def halvedFile : Tree where
  entries := [(["ws"],.directory), (["ws","a.yaml"],.file halved)]

/-- A workspace that leaves JSON, where halves of pairs are left as they are. -/
def settlingJson : Workspace := ⟨["ws"],.new .json,Yaml.Error.report⟩

/-- Processing that file leaves a temporary one. -/
theorem Tree.run_halvedFile :
    halvedFile.IsClean ∧ Path.IsTemporary ["ws","a.kubeshort.tmp"] ∧
      (halvedFile.run [⟨settlingJson,.process "a.yaml" false⟩]).get? ["ws","a.kubeshort.tmp"] =
        some (.file []) :=
  ⟨Tree.isClean_of_entries (by decide) (by decide),by decide,by decide +kernel⟩

end ShortVolume
