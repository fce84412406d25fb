import ShortVolume.Workspace.Tally
import ShortVolume.Proofs.Workspace.Rewritten
set_option autoImplicit false

/-!
The counts of reports account for each of them.

A report is a success, or its file was missing, was rejected, could not be read or could not be
written, and no report is two of these. The successes hold the files without volumes and the files
that were written, apart from each other. The counts of a list do not depend on its order.
-/

namespace ShortVolume

namespace Report

/-! ### One report -/

/-- What the report says was done agrees with what it says of the file: it was written unless there was
an error, or nothing was done. -/
inductive IsCoherent (r : Report) : Prop where
  | replaced (hverdict : r.verdict = .replaced)
      (hwritten : r.effect.written = r.effect.writeError.isNone)
  | kept (hverdict : r.verdict ≠ .replaced) (heffect : r.effect = .none)

/-- A run has returned the report, of a file or of a directory. -/
inductive IsReturned (r : Report) : Prop where
  | file {w : Workspace} {t u : Tree} {path : String} {dryRun : Bool}
      (h : w.process t path dryRun = (u,.ok r))
  | directory {w : Workspace} {t : Tree} {extension : String} {dryRun : Bool} {s : Workspace.Scan}
      (h : (w.scan t extension dryRun).2.2 = .ok s) (hmem : r ∈ s.reports)

end Report

namespace Workspace

theorem written_of_replace {w : Workspace} {t u : Tree} {target : Path} {bytes : List UInt8}
    {text : Text} {e : Effect} (h : w.replace t target bytes text = (u,.ok e)) :
    e.written = e.writeError.isNone := by
  unfold replace at h
  split at h
  · cases h
  · split at h
    · obtain ⟨failure,-,rfl⟩ := Except.map_eq_ok_iff.mp (Prod.mk.inj h).2
      rfl
    · split at h
      · obtain ⟨failure,-,rfl⟩ := Except.map_eq_ok_iff.mp (Prod.mk.inj h).2
        rfl
      · cases h

theorem isCoherent_of_process {w : Workspace} {t u : Tree} {path : String} {dryRun : Bool}
    {r : Report} (h : w.process t path dryRun = (u,.ok r)) : r.IsCoherent := by
  rcases process_eq_ok h with ⟨-,heffect,hverdict⟩ |
    ⟨target,bytes,vs,present,canonical,e,hwants,hreplaced,rfl⟩
  · exact .kept hverdict heffect
  · exact .replaced (verdict_of_wanted hwants.wanted e) (written_of_replace hreplaced)

/-- The reports of a directory are reports of its files. -/
theorem isCoherent_of_processAll {w : Workspace} {t : Tree} {ps : List Path} {dryRun : Bool}
    {rs : List Report} (h : (processAll dryRun w t ps).2.2 = .ok rs) : ∀ r ∈ rs, r.IsCoherent := by
  induction ps generalizing w t rs with
  | nil =>
    cases h
    simp
  | cons p ps ih =>
    rw [processAll] at h
    rcases hprocessed : w.process t p.relative dryRun with ⟨u,m | first⟩
    · rw [hprocessed] at h
      cases h
    · rw [hprocessed] at h
      obtain ⟨others,hothers,rfl⟩ := Except.map_eq_ok_iff.mp h
      exact List.forall_mem_cons.mpr ⟨isCoherent_of_process hprocessed,ih hothers⟩

end Workspace

namespace Report

theorem IsReturned.isCoherent {r : Report} (h : r.IsReturned) : r.IsCoherent := by
  cases h with
  | file h => exact Workspace.isCoherent_of_process h
  | @directory w t extension dryRun s h hmem =>
    unfold Workspace.scan at h
    split at h
    · cases h
    · obtain ⟨rs,hrs,rfl⟩ := Except.map_eq_ok_iff.mp h
      exact Workspace.isCoherent_of_processAll hrs r hmem

/-- The file was not there. -/
def isMissing (r : Report) : Bool := r.verdict == .fileNotFound

/-- The file was to be replaced and could not be. -/
def isUnwritten (r : Report) : Bool := r.effect.writeError.isSome

end Report

/-! ### Counting -/

theorem Verdict.word_inj {a b : Verdict} : a.word = b.word ↔ a = b := by
  cases a <;> cases b <;> simp [word]

/-- A file that was read is none that was missing or rejected. -/
theorem Acceptance.verdict_ne (a : Acceptance) :
    a.verdict ≠ .fileNotFound ∧ a.verdict ≠ .decodeError ∧ a.verdict ≠ .parseError ∧
      a.verdict ≠ .engineError := by
  unfold verdict
  split
  · decide
  · split
    · decide
    · split <;> decide

namespace Tally

/-- Each report is counted once, besides those of the files that were missing or could not be written,
and the successes hold the files without volumes and the written files. -/
structure Accounts (t : Tally) (missing unwritten : Nat) : Prop where
  total : t.total = t.successful + t.rejected + t.systemErrors + missing + unwritten
  successful : t.empty + t.written ≤ t.successful

theorem Accounts.add {s t : Tally} {a b c d : Nat} (hs : s.Accounts a b) (ht : t.Accounts c d) :
    (s.add t).Accounts (a + c) (b + d) where
  total := by
    have hfirst := hs.total
    have hsecond := ht.total
    simp only [Tally.add]
    omega
  successful := by
    have hfirst := hs.successful
    have hsecond := ht.successful
    simp only [Tally.add]
    omega

theorem ofReports_append (rs ss : List Report) :
    ofReports (rs ++ ss) = (ofReports rs).add (ofReports ss) := by
  rw [ofReports,List.map_append,ofListings_append]
  rfl

theorem ofReports_perm {rs ss : List Report} (h : rs.Perm ss) : ofReports rs = ofReports ss := by
  have hlistings := h.map Report.listing
  simp only [ofReports,ofListings,hlistings.length_eq,hlistings.countP_eq]

/-- One report is counted by its verdict and by what was done. -/
theorem ofReports_singleton (r : Report) :
    ofReports [r] =
      { total := 1
        successful := if r.success then 1 else 0
        empty := if r.verdict = .empty then 1 else 0
        rejected := if r.verdict = .decodeError ∨ r.verdict = .parseError then 1 else 0
        systemErrors := if r.verdict = .engineError then 1 else 0
        written := if r.effect.written then 1 else 0
        backups := if r.effect.backup.isSome then 1 else 0 } := by
  simp only [ofReports,ofListings,List.map_cons,List.map_nil,List.countP_singleton,Listing.isEmpty,
    Listing.isRejected,Listing.isSystemError,Report.listing,Bool.or_eq_true,beq_iff_eq,
    Text.ofString_inj,Verdict.word_inj,List.length_singleton]

theorem accounts_singleton {r : Report} (h : r.IsCoherent) :
    (ofReports [r]).Accounts ([r].countP Report.isMissing) ([r].countP Report.isUnwritten) := by
  rw [ofReports_singleton,List.countP_singleton,List.countP_singleton]
  obtain ⟨path,x | a⟩ := r
  · cases x with
    | unprintable u => cases u <;> exact ⟨rfl,Nat.le_refl 0⟩
    | _ => exact ⟨rfl,Nat.le_refl 0⟩
  · obtain ⟨hmissing,hdecode,hparse,hengine⟩ := a.verdict_ne
    have hread : (⟨path,.accepted a⟩ : Report).verdict = a.verdict := rfl
    have hdone : (⟨path,.accepted a⟩ : Report).effect = a.effect := rfl
    have hsuccess : (⟨path,.accepted a⟩ : Report).success = a.effect.writeError.isNone := rfl
    rcases h with ⟨hverdict,hwritten⟩ | ⟨-,heffect⟩
    · rw [hread] at hverdict
      rw [hdone] at hwritten
      cases herror : a.effect.writeError with
      | none =>
        constructor <;>
          simp [Report.isMissing,Report.isUnwritten,hread,hdone,hsuccess,hverdict,hwritten,herror]
      | some message =>
        constructor <;>
          simp [Report.isMissing,Report.isUnwritten,hread,hdone,hsuccess,hverdict,hwritten,herror]
    · rw [hdone] at heffect
      constructor
      · simp [Report.isMissing,Report.isUnwritten,hread,hdone,hsuccess,heffect,hmissing,hdecode,hparse,
          hengine,Effect.none]
      · simp only [hread,hdone,hsuccess,heffect,Effect.none]
        split <;> simp

theorem accounts_ofReports {rs : List Report} (h : ∀ r ∈ rs, r.IsCoherent) :
    (ofReports rs).Accounts (rs.countP Report.isMissing) (rs.countP Report.isUnwritten) := by
  induction rs with
  | nil => exact ⟨rfl,Nat.le_refl 0⟩
  | cons r rs ih =>
    have hfirst := accounts_singleton (h r List.mem_cons_self)
    have hothers := ih (fun r hr => h r (List.mem_cons_of_mem _ hr))
    rw [← List.singleton_append,ofReports_append,List.countP_append,List.countP_append]
    exact hfirst.add hothers

/-- The summary accounts for every report that runs return, in whatever order. -/
theorem ofReports_of_returned {rs : List Report} (h : ∀ r ∈ rs, r.IsReturned) :
    (ofReports rs).total = (ofReports rs).successful + (ofReports rs).rejected +
        (ofReports rs).systemErrors + rs.countP Report.isMissing + rs.countP Report.isUnwritten ∧
      (ofReports rs).empty + (ofReports rs).written ≤ (ofReports rs).successful ∧
      (∀ ss, ss.Perm rs → ofReports ss = ofReports rs) ∧
      ∀ ss, ofReports (rs ++ ss) = (ofReports rs).add (ofReports ss) := by
  obtain ⟨htotal,hsuccessful⟩ := accounts_ofReports (fun r hr => (h r hr).isCoherent)
  exact ⟨htotal,hsuccessful,fun _ => ofReports_perm,ofReports_append rs⟩

/-- One file is replaced, one cannot be written and one is not there. -/
theorem ofReports_hindered :
    ∃ (s : Workspace.Scan) (unwritten missing : Report),
      (settling.scan Workspace.hindered "a.yaml" false).2.2 = .ok s ∧
      (settling.process Workspace.hindered "b.yaml" false).2 = .ok unwritten ∧
      (settling.process Workspace.hindered "c.yaml" false).2 = .ok missing ∧
      (∀ r ∈ s.reports ++ [unwritten,missing], r.IsReturned) ∧
      ofReports (s.reports ++ [unwritten,missing]) = ⟨3,1,0,0,0,1,2⟩ ∧
      (s.reports ++ [unwritten,missing]).countP Report.isMissing +
        (s.reports ++ [unwritten,missing]).countP Report.isUnwritten = 2 ∧
      ofReports ([unwritten,missing] ++ s.reports) =
        ofReports (s.reports ++ [unwritten,missing]) := by
  obtain ⟨s,hscan,hreplaced⟩ := Option.map_eq_some_iff.mp
    (show (settling.scan Workspace.hindered "a.yaml" false).2.2.toOption.map
      (fun s => ofReports s.reports) = some ⟨1,1,0,0,0,1,1⟩ by decide +kernel)
  obtain ⟨unwritten,hfirst,hunwritten⟩ := Option.map_eq_some_iff.mp
    (show (settling.process Workspace.hindered "b.yaml" false).2.toOption.map
      (fun r => ofReports [r]) = some ⟨1,0,0,0,0,0,1⟩ by decide +kernel)
  obtain ⟨missing,hsecond,hmissing⟩ := Option.map_eq_some_iff.mp
    (show (settling.process Workspace.hindered "c.yaml" false).2.toOption.map
      (fun r => ofReports [r]) = some ⟨1,0,0,0,0,0,0⟩ by decide +kernel)
  rw [Except.toOption_eq_some_iff] at hscan hfirst hsecond
  have hreturned : ∀ r ∈ s.reports ++ [unwritten,missing], r.IsReturned := by
    refine List.forall_mem_append.mpr ⟨fun r hr => .directory hscan hr,?_⟩
    refine List.forall_mem_cons.mpr ⟨.file (Prod.ext rfl hfirst),?_⟩
    exact List.forall_mem_singleton.mpr (.file (Prod.ext rfl hsecond))
  obtain ⟨htotal,-,hperm,-⟩ := ofReports_of_returned hreturned
  have htogether : ofReports (s.reports ++ [unwritten,missing]) = ⟨3,1,0,0,0,1,2⟩ := by
    rw [ofReports_append,hreplaced,← List.singleton_append,ofReports_append,hunwritten,hmissing]
    rfl
  refine ⟨s,unwritten,missing,hscan,hfirst,hsecond,hreturned,htogether,?_,
    hperm _ List.perm_append_comm⟩
  rw [htogether] at htotal
  simp only at htotal
  omega

end Tally

end ShortVolume
