import ShortVolume.Proofs.Workspace.Calls
set_option autoImplicit false

/-!
What leaves the file system as it is, whatever links it has.

A dry run of a file or of a directory writes nothing, however it ends. Any other run of a file writes
only if its report says that the file was replaced.
-/

namespace ShortVolume

namespace Workspace

theorem process_dry (w : Workspace) (t : Tree) (path : String) : (w.process t path true).1 = t := by
  rcases w.process_cases t path true with ⟨m,hsame,-⟩ | ⟨r,hsame,-⟩ | ⟨_,_,_,_,_,hwants,-⟩
  · rw [hsame]
  · rw [hsame]
  · exact Bool.noConfusion hwants.wanted.1

theorem processAll_dry (w : Workspace) (t : Tree) (ps : List Path) :
    (processAll true w t ps).2.1 = t := by
  induction ps generalizing w with
  | nil => rfl
  | cons p r ih =>
    have hsame := w.process_dry t p.relative
    rw [processAll]
    rcases hprocessed : w.process t p.relative true with ⟨u,m | report⟩
    · rw [hprocessed] at hsame
      exact hsame
    · rw [hprocessed] at hsame
      obtain rfl : u = t := hsame
      exact ih (w.after report)

theorem scan_dry (w : Workspace) (t : Tree) (extension : String) :
    (w.scan t extension true).2.1 = t := by
  unfold scan
  split
  · rfl
  · exact w.processAll_dry t _

/-! ### Reports -/

/-- A run that reports no replacement has changed nothing. -/
theorem eq_of_verdict_ne {w : Workspace} {t u : Tree} {path : String} {dryRun : Bool} {r : Report}
    (h : w.process t path dryRun = (u,.ok r)) (hverdict : r.verdict ≠ .replaced) : u = t := by
  rcases process_eq_ok h with ⟨rfl,-⟩ |
    ⟨target,bytes,vs,present,canonical,e,hwants,-,rfl⟩
  · rfl
  · exact absurd (verdict_of_wanted hwants.wanted e) hverdict

end Workspace

end ShortVolume
