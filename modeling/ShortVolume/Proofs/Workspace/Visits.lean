import ShortVolume.Proofs.Document.Rewrite
import ShortVolume.Proofs.Tree.Walking
import ShortVolume.Proofs.Workspace.DryRun
import ShortVolume.Proofs.Workspace.Reports
set_option autoImplicit false

/-!
What a dry run of a scan visits.

It comes to each file with the extension once, name by name in the order of their paths, and reports of
it what processing that file alone reports, unless the writer has jammed on a file before it. Links with
the extension are left out, but the system may refuse to look at one, and then nothing is reported.
-/

namespace ShortVolume

namespace Workspace

/-! ### The order of paths -/

theorem isOrdered_cons {a b : String} {p q : Path} :
    isOrdered (a :: p) (b :: q) = true ↔ a < b ∨ a = b ∧ isOrdered p q = true := by
  simp [isOrdered]

theorem isOrdered_iff (p q : Path) : isOrdered p q = true ↔ p = q ∨ p < q := by
  induction p generalizing q with
  | nil =>
    cases q with
    | nil => simp [isOrdered]
    | cons b q => simp [isOrdered]
  | cons a p ih =>
    cases q with
    | nil => simp [isOrdered]
    | cons b q =>
      rw [isOrdered_cons,ih,List.cons_lt_cons_iff,List.cons.injEq]
      constructor
      · rintro (hlt | ⟨rfl,rfl | hlt⟩)
        · exact .inr (.inl hlt)
        · exact .inl ⟨rfl,rfl⟩
        · exact .inr (.inr ⟨rfl,hlt⟩)
      · rintro (⟨rfl,rfl⟩ | hlt | ⟨rfl,hlt⟩)
        · exact .inr ⟨rfl,.inl rfl⟩
        · exact .inl hlt
        · exact .inr ⟨rfl,.inr hlt⟩

theorem isOrdered_trans (p q r : Path) (h : isOrdered p q = true) (h' : isOrdered q r = true) :
    isOrdered p r = true := by
  induction p generalizing q r with
  | nil => rfl
  | cons a p ih =>
    cases q with
    | nil => contradiction
    | cons b q =>
      cases r with
      | nil => contradiction
      | cons c r =>
        rw [isOrdered_cons] at h h' ⊢
        rcases h with hlt | ⟨rfl,hpq⟩
        · rcases h' with hlt' | ⟨rfl,-⟩
          · exact .inl (String.lt_trans hlt hlt')
          · exact .inl hlt
        · rcases h' with hlt' | ⟨rfl,hqr⟩
          · exact .inl hlt'
          · exact .inr ⟨rfl,ih q r hpq hqr⟩

theorem isOrdered_total (p q : Path) : (isOrdered p q || isOrdered q p) = true := by
  rw [Bool.or_eq_true]
  induction p generalizing q with
  | nil => exact .inl rfl
  | cons a p ih =>
    cases q with
    | nil => exact .inr rfl
    | cons b q =>
      rw [isOrdered_cons,isOrdered_cons]
      by_cases hab : a < b
      · exact .inl (.inl hab)
      · by_cases hba : b < a
        · exact .inr (.inl hba)
        · obtain rfl : a = b := String.le_antisymm (String.not_lt.mp hba) (String.not_lt.mp hab)
          exact (ih q).imp (fun h => .inr ⟨rfl,h⟩) (fun h => .inr ⟨rfl,h⟩)

/-- The files of a scan come in the order of their paths, and none comes twice. -/
theorem pairwise_matching {w : Workspace} {t : Tree} {extension : String} {files : List Path}
    (h : w.matching t extension = .ok files) (hnodup : files.Nodup) : files.Pairwise (· < ·) := by
  have hsorted : files.Pairwise (fun p q => isOrdered p q = true) := by
    obtain ⟨found,-,hfound⟩ := Except.bind_eq_ok_iff.mp h
    obtain ⟨kept,-,hkept⟩ := Except.bind_eq_ok_iff.mp hfound
    rw [← Except.pure_eq_ok_iff.mp hkept]
    exact List.pairwise_mergeSort isOrdered_trans isOrdered_total _
  exact hsorted.imp₂ (fun p q hordered hne => ((isOrdered_iff p q).mp hordered).resolve_left hne) hnodup

/-! ### One report after the other -/

/-- The workspace with a writer that has jammed. -/
def jam (w : Workspace) : Workspace := { w with writer := { w.writer with jammed := true } }

/-- The workspace after some reports. -/
def afterAll (w : Workspace) (rs : List Report) : Workspace := rs.foldl after w

theorem afterAll_eq (w : Workspace) (rs : List Report) :
    w.afterAll rs = if rs.any Report.jams then w.jam else w := by
  induction rs generalizing w with
  | nil => rfl
  | cons r rs ih =>
    have hcons : w.afterAll (r :: rs) = (w.after r).afterAll rs := rfl
    rw [hcons,ih,after,List.any_cons]
    cases r.jams with
    | false => rfl
    | true =>
      -- A writer jams once and for all.
      simp only [if_true,Bool.true_or]
      split <;> rfl

/-- Each file of a dry run is taken as it was before the run. -/
theorem process_of_processAll {w : Workspace} {t : Tree} {ps : List Path} {rs : List Report}
    (h : (processAll true w t ps).2.2 = .ok rs) {k : Nat} {r : Report} (hr : rs[k]? = some r) :
    ∃ p, ps[k]? = some p ∧ (w.afterAll (rs.take k)).process t p.relative true = (t,.ok r) := by
  induction ps generalizing w rs k with
  | nil =>
    cases h
    simp at hr
  | cons p ps ih =>
    have hsame := w.process_dry t p.relative
    rw [processAll] at h
    rcases hprocessed : w.process t p.relative true with ⟨u,m | report⟩
    · rw [hprocessed] at h
      contradiction
    · rw [hprocessed] at h hsame
      obtain rfl : u = t := hsame
      obtain ⟨rest,hrest,rfl⟩ := Except.map_eq_ok_iff.mp h
      cases k with
      | zero =>
        obtain rfl : report = r := by simpa using hr
        exact ⟨p,rfl,hprocessed⟩
      | succ k => exact ih hrest (by simpa using hr)

/-! ### Writers that do not jam -/

end Workspace

theorem Format.unwritable_of_json {v : Value} {f : Failure} (h : json.one v = .error f) :
    ∃ u, f = .unwritable u := by
  unfold one at h
  dsimp only at h
  split at h
  · contradiction
  · next u _ =>
    cases h
    exact ⟨u,rfl⟩

theorem Format.keyless_of_order {v : Value} {f : Failure} (h : order v = .error f) :
    f = .keyless v := by
  unfold order at h
  split at h
  · contradiction
  · cases h
    rfl

/-- Writing JSON fails for other reasons than writing YAML. -/
theorem Writer.ne_unprintable_of_json {w : Writer} (hjson : w.format = .json) {ds : List Document}
    {f : Failure} (h : w.writeDocuments ds = .error f) (u : Yaml.Unprintable) :
    f ≠ .unprintable u := by
  rintro rfl
  rcases Except.bind_eq_error_iff.mp h with hvalues | ⟨vs,-,hwrite⟩
  · obtain ⟨e,-,he⟩ := Except.mapError_eq_error_iff.mp hvalues
    contradiction
  · rcases Except.bind_eq_error_iff.mp hwrite with htexts | ⟨texts,-,hpure⟩
    · rw [hjson] at htexts
      rcases Except.bind_eq_error_iff.mp htexts with hordered | ⟨ordered,-,hprinted⟩
      · obtain ⟨v,-,hv⟩ := Except.exists_of_mapM_error hordered
        have := Format.keyless_of_order hv
        contradiction
      · obtain ⟨v,-,hv⟩ := Except.exists_of_mapM_error hprinted
        obtain ⟨u',hu'⟩ := Format.unwritable_of_json hv
        contradiction
    · contradiction

theorem Rejection.ofFailure_eq_unprintable {wording : Yaml.Wording} {text : List Char} {f : Failure}
    {u : Yaml.Unprintable} (h : ofFailure wording text f = .unprintable u) : f = .unprintable u := by
  unfold ofFailure at h
  split at h
  · split at h <;> cases h
  · split at h <;> cases h
  · cases h
    rfl
  · cases h
  · cases h
  · cases h

namespace Workspace

theorem examine_ne_unprintable {w : Workspace} (hjson : w.writer.format = .json)
    {bytes : List UInt8} {x : Rejection} (h : w.examine bytes = .error x) (u : Yaml.Unprintable) :
    x ≠ .unprintable u := by
  rintro rfl
  unfold examine at h
  split at h
  · cases h
  · next cs _ =>
    dsimp only at h
    split at h
    · next f hconvert =>
      obtain rfl := Rejection.ofFailure_eq_unprintable (Except.error.inj h)
      rcases Except.bind_eq_error_iff.mp hconvert with hdocuments | ⟨ds,-,hwritten⟩
      · unfold documents at hdocuments
        split at hdocuments
        · cases hdocuments
        · obtain ⟨e,-,he⟩ := Except.mapError_eq_error_iff.mp hdocuments
          cases he
      · rcases Except.bind_eq_error_iff.mp hwritten with hwrite | ⟨s,-,hpure⟩
        · exact Writer.ne_unprintable_of_json hjson hwrite u rfl
        · cases hpure
    · cases h

/-- A writer jams on a file only if the documents of the file have no text. -/
theorem exists_unprintable_of_jams {w : Workspace} {t : Tree} {path : String} {dryRun : Bool}
    {r : Report} (h : (w.process t path dryRun).2 = .ok r) (hjams : r.jams = true) :
    ∃ bytes u, w.examine bytes = .error (.unprintable u) := by
  unfold process at h
  split at h
  · cases h
  · split at h
    · cases h
    · split at h
      · cases h
      · cases h
        exact absurd hjams Bool.false_ne_true
      · obtain ⟨outcome,houtcome,rfl⟩ := Except.map_eq_ok_iff.mp h
        unfold processAt at houtcome
        split at houtcome
        · cases houtcome
          exact absurd hjams Bool.false_ne_true
        · next bytes _ =>
          split at houtcome
          · next x hx =>
            cases houtcome
            cases x with
            | unprintable u => exact ⟨bytes,u,hx⟩
            | _ => exact absurd hjams Bool.false_ne_true
          · obtain ⟨a,-,rfl⟩ := Except.map_eq_ok_iff.mp houtcome
            exact absurd hjams Bool.false_ne_true

theorem not_jams_of_json {w : Workspace} (hjson : w.writer.format = .json) {t : Tree}
    {path : String} {dryRun : Bool} {r : Report} (h : (w.process t path dryRun).2 = .ok r) :
    r.jams = false := by
  refine Bool.eq_false_iff.mpr (fun hjams => ?_)
  obtain ⟨bytes,u,hexamined⟩ := exists_unprintable_of_jams h hjams
  exact examine_ne_unprintable hjson hexamined u rfl

/-! ### The whole scan -/

section Scan
variable (w : Workspace) {t : Tree} (ht : t.IsSound) {extension : String}
  (hext : Glob.IsLiteral extension)
include ht hext

/-- Only links may keep a scan from its files. -/
theorem exists_matching_iff :
    (∃ files, w.matching t extension = .ok files) ↔
      ∀ p target, w.Finds t extension p → t.get? (w.root ++ p) = some (.link target) →
        ∃ e, t.stat (w.root ++ p) = .ok e := by
  rw [exists_matching ht w hext]
  constructor
  · exact fun h p target hp _ => h p hp
  · intro h p hp
    obtain ⟨e,he⟩ := hp.entry
    cases e with
    | link target => exact h p target hp he
    | directory => exact (ht.isPlace he rfl).exists_stat
    | file bytes => exact (ht.isPlace he rfl).exists_stat

theorem scan_dry_reports_iff :
    (∃ s, (w.scan t extension true).2.2 = .ok s) ↔ ∃ files, w.matching t extension = .ok files := by
  rw [w.scan_reports_iff ht hext true,exists_matching ht w hext]
  exact and_iff_left (fun files _ c hc => Call.not_isHindered_of_dry (dryRun_of_mem_calls hc))

end Scan

/-- Two files, one of them in a directory, and a link to that one. A hyphen comes before a slash, but the
name of the directory comes before the other name. -/
def branching : Tree where
  entries := [(["ws"],.directory), (["ws","a-b.YAML"],.file unsettled), (["ws","a"],.directory),
    (["ws","a","c.yaml"],.file unsettled), (["ws","d.yaml"],.link "a/c.yaml")]

/-- A file beside a link to a name of `n + 5` bytes. -/
def strayLink (n : Nat) : Tree where
  entries := [(["ws"],.directory), (["ws","a.yaml"],.link (stretchedName n)),
    (["ws","b.yaml"],.file unsettled)]

theorem isSound_strayLink (n : Nat) : (strayLink n).IsSound := by
  have hws : IsName "ws" := by decide
  have ha : IsName "a.yaml" := by decide
  have hb : IsName "b.yaml" := by decide
  refine Tree.isSound_of_entries (fun e he => ?_)
  simp only [strayLink,List.mem_cons,List.not_mem_nil,or_false] at he
  rcases he with rfl | rfl | rfl <;> simp [strayLink,Tree.get?,Path.parent,hws,ha,hb]

/-- The system refuses to look at the link if the name is too long. -/
theorem stat_strayLink {n : Nat} (hn : 250 < n) :
    (strayLink n).stat ["ws","a.yaml"] = .error .nameTooLong := by
  have hlink : (strayLink n).get? (["ws"] ++ ["a.yaml"]) = some (.link (stretchedName n)) := by
    simp [strayLink,Tree.get?]
  have hlong : isTooLong (stretchedName n) = true := by
    rw [isTooLong_stretchedName,decide_eq_true hn]
  exact Tree.stat_of_stray (isSound_strayLink n) hlink (leadsOn_stretchedName n)
    (slash_not_mem_stretchedName n) hlong

end Workspace

end ShortVolume
