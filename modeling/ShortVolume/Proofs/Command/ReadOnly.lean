import ShortVolume.Proofs.Command.Request
import ShortVolume.Proofs.Workspace.DryRun
set_option autoImplicit false

/-!
Operations that only read.

A task that is dry hands the dry run on to every file it takes, so that it leaves each entry of the
file system as it was, whether it ends in reports or in a mishap.
-/

namespace ShortVolume.Command

namespace Task

theorem reports_dry {task : Task} (h : task.isDry = true) (wording : Yaml.Wording) (t : Tree)
    (place : Path) (e : Entry) : (task.reports wording t place e).1 = t := by
  have hprocess := (task.workspace wording place.parent).process_dry t place.name
  have hscan := (task.workspace wording place).scan_dry t task.extension
  cases e with
  | directory => simpa only [reports,h] using hscan
  | file bytes => simpa only [reports,h] using hprocess
  | link target => simpa only [reports,h] using hprocess

theorem run_dry {task : Task} (h : task.isDry = true) (wording : Yaml.Wording) (t : Tree)
    (current : Path) : (task.run wording t current).1 = t := by
  unfold run
  split
  · rfl
  · split
    · rfl
    · next place _ =>
      split
      · rfl
      · rfl
      · next e _ => exact reports_dry h wording t place e

end Task

theorem Request.run_dry {r : Request} (h : r.IsDry) (wording : Yaml.Wording) (t : Tree)
    (current : Path) : (r.run wording t current).1 = t := by
  cases r with
  | task asked => exact Task.run_dry h wording t current
  | help => rfl
  | version => rfl
  | misuse => rfl

/-- Dry runs and the command lines that ask for them leave the file system as it was, also when they
end in a mishap, and so does any run that reports something else than a replacement. -/
theorem reads_only (w : Workspace) (wording : Yaml.Wording) (t : Tree) (current : Path) :
    (∀ path, (w.process t path true).1 = t) ∧
    (∀ extension, (w.scan t extension true).2.1 = t) ∧
    (∀ before after, AreFlags before → (run wording (before ++ "check" :: after) t current).1 = t) ∧
    (∀ before after, AreFlags before → "--dry-run" ∈ after.takeWhile (· != "--") →
      (run wording (before ++ "fmt" :: after) t current).1 = t) ∧
    ∀ path u r, w.process t path false = (u,.ok r) → r.verdict ≠ .replaced → u = t := by
  refine ⟨w.process_dry t,w.scan_dry t,fun before after hbefore => ?_,
    fun before after hbefore hdry => ?_,fun path u r => Workspace.eq_of_verdict_ne⟩
  · exact Request.run_dry (request_check_isDry hbefore after) wording t current
  · exact Request.run_dry (request_format_isDry hbefore hdry rfl) wording t current

/-- A directory with a file that is not canonical, one that is no volume and a link between them. -/
def mixed : Tree :=
  { entries :=
      [(["ws"],.directory),(["ws","a.yaml"],.file "vol_id: /d\nvol_type: hostpath\n".toUTF8.toList),
        (["ws","b.yaml"],.file "[".toUTF8.toList),(["ws","c.yaml"],.link "a.yaml")] }

theorem reads_only_mixed :
    (run Yaml.Error.report ["--log-level","info","check","ws","--ext",".yaml"] mixed []).1 = mixed ∧
      (run Yaml.Error.report ["fmt","ws","--diff","--dry-run"] mixed []).1 = mixed ∧
      (Workspace.process ⟨["ws"],.new .yaml,Yaml.Error.report⟩ mixed "b.yaml" false).1 = mixed := by
  obtain ⟨-,-,hcheck,hformat,hprocess⟩ :=
    reads_only ⟨["ws"],.new .yaml,Yaml.Error.report⟩ Yaml.Error.report mixed []
  have hflags : AreFlags ["--log-level","info"] := .valued rfl rfl rfl .nil
  refine ⟨hcheck _ _ hflags,hformat [] _ .nil (by decide +kernel),?_⟩
  have hrejected : (Workspace.process ⟨["ws"],.new .yaml,Yaml.Error.report⟩ mixed "b.yaml"
      false).2.toOption.map Report.verdict = some .parseError := by decide +kernel
  obtain ⟨r,hr,hverdict⟩ := Option.map_eq_some_iff.mp hrejected
  exact hprocess "b.yaml" _ r (Prod.ext rfl (Except.toOption_eq_some_iff.mp hr))
    (by simp [hverdict])

end ShortVolume.Command
