import ShortVolume.Proofs.Command.Request
import ShortVolume.Proofs.Workspace.Acceptance
import ShortVolume.Proofs.Workspace.Display
set_option autoImplicit false

/-!
The number with which a check ends.

If there is one, it is 0 if every file that is checked is read and has a canonical text, and 1
otherwise. There is one if all names, paths and errors in the reports are whole and open no tag. There is
none if one of them closes a style that is not open, for they are shown as styled text; and nothing is
reported of a directory with a link that the system refuses to look at. None of this hangs on how errors
in texts are worded.
-/

namespace ShortVolume.Command
open Display (IsLegible ClosesUnopened)

/-! ### What a check looks at -/

/-- The task of a check without options. -/
def checkOf (path : String) : Task := ⟨path,".yaml",none⟩

@[simp] theorem format_checkOf (path : String) : (checkOf path).format = .yaml := rfl

@[simp] theorem extension_checkOf (path : String) : (checkOf path).extension = ".yaml" := rfl

@[simp] theorem isDry_checkOf (path : String) : (checkOf path).isDry = true := rfl

theorem showsDifferences_checkOf (path : String) : (checkOf path).showsDifferences = false := rfl

theorem request_check {path : String} (hpath : startsWith path "-" = false) :
    request ["check",path] = .task (checkOf path) := by
  have hverb : mainOptions.word? "check" = some (.argument "check") :=
    word?_of_ofWord? (v := .check) rfl
  have hargument : ∀ os : Options Meaning, os.word? path = some (.argument path) :=
    fun os => if_pos (.inr (by simp [hpath]))
  have hhyphens : path ≠ "--" := by
    rintro rfl
    exact absurd hpath (by decide)
  have hmain : mainOptions.words? ["check",path] = some [.argument "check",.argument path] := by
    simp [Options.words?,hverb,hargument,hhyphens]
  have hcheck : checkOptions.words? [path] = some [.argument path] := by
    simp [Options.words?,hargument,hhyphens]
  simp [request,hmain,readMain,Verb.ofWord?,Verb.options,hcheck,readTask,Reading.initial,
    Reading.request,checkOf]

/-- The directory at a place, with a writer that has not jammed. -/
def checked (place : Path) : Workspace := ⟨place,.new .yaml,Yaml.Error.report⟩

/-- What is found in a directory does not hang on how errors are worded. -/
theorem matches_workspace {path : String} {wording : Yaml.Wording} {t : Tree} {place p : Path} :
    ((checkOf path).workspace wording place).Matches t ".yaml" p ↔
      (checked place).Matches t ".yaml" p :=
  ⟨fun ⟨hne,hending,hfile,hbackup⟩ => ⟨hne,hending,hfile,hbackup⟩,
    fun ⟨hne,hending,hfile,hbackup⟩ => ⟨hne,hending,hfile,hbackup⟩⟩

/-- The system looks at each link that a check comes to in a directory. -/
def LooksAtLinks (t : Tree) (place : Path) : Prop :=
  t.get? place = some .directory → ∀ p target, (checked place).Finds t ".yaml" p →
    t.get? (place ++ p) = some (.link target) → ∃ e, t.stat (place ++ p) = .ok e

/-- A check of what is at a place takes the file: the one that is there, or a file with the extension
in the directory. -/
def Takes (t : Tree) (place q : Path) : Prop :=
  (∃ bytes, t.get? place = some (.file bytes)) ∧ q = place ∨
    t.get? place = some .directory ∧ ∃ p, (checked place).Matches t ".yaml" p ∧ q = place ++ p

/-- The bytes at a path have a canonical text. -/
def IsAcceptedAt (t : Tree) (q : Path) : Prop :=
  ∃ bytes, t.get? q = some (.file bytes) ∧ Workspace.Accepts .yaml bytes

namespace Task

/-! ### Reports -/

section Reports
variable (wording : Yaml.Wording) {t : Tree} (ht : t.IsSound) {place : Path}
include ht

/-- A file is reported, and the report succeeds if the file has a canonical text. -/
theorem exists_reports_of_file (path : String) {bytes : List UInt8}
    (hfile : t.get? place = some (.file bytes)) :
    ∃ r, (checkOf path).reports wording t place (.file bytes) = (t,.ok [r]) ∧
      (r.success = true ↔ Workspace.Accepts .yaml bytes) := by
  have hne : place ≠ [] := by
    rintro rfl
    simp at hfile
  have hself : place.parent ++ [place.name] = place := by
    rw [Path.parent,Path.name,List.getLastD_eq_getLast?,List.getLast?_eq_some_getLast hne]
    exact List.dropLast_concat_getLast hne
  rw [← hself] at hfile
  obtain ⟨r,hprocess,hsuccess⟩ := ((checkOf path).workspace wording place.parent).exists_process_dry
    (List.cons_ne_nil place.name []) (ht.isPlace hfile rfl) hfile
  have hrelative : Path.relative [place.name] = place.name := by simp [Path.relative]
  rw [hrelative] at hprocess
  refine ⟨r,?_,hsuccess⟩
  simp only [reports,isDry_checkOf,hprocess]
  rfl

/-- The files of a directory are reported unless the system refuses to look at a link, and the reports
succeed if all files have a canonical text. -/
theorem reports_of_directory (path : String) :
    ((∃ rs, ((checkOf path).reports wording t place .directory).2 = .ok rs) ↔
      ∃ files, ((checkOf path).workspace wording place).matching t ".yaml" = .ok files) ∧
    ∀ rs, ((checkOf path).reports wording t place .directory).2 = .ok rs →
      ((∀ r ∈ rs, r.success = true) ↔
        ∀ p, (checked place).Matches t ".yaml" p → IsAcceptedAt t (place ++ p)) := by
  have hliteral : Glob.IsLiteral ".yaml" := by decide
  have hreports : ((checkOf path).reports wording t place .directory).2 =
      (((checkOf path).workspace wording place).scan t ".yaml" true).2.2.map
        Workspace.Scan.reports := by
    simp only [reports,extension_checkOf,isDry_checkOf]
  rw [hreports]
  constructor
  · rw [← ((checkOf path).workspace wording place).scan_dry_reports_iff ht hliteral]
    constructor
    · rintro ⟨rs,hrs⟩
      obtain ⟨s,hs,-⟩ := Except.map_eq_ok_iff.mp hrs
      exact ⟨s,hs⟩
    · rintro ⟨s,hs⟩
      exact ⟨_,Except.map_eq_ok_iff.mpr ⟨s,hs,rfl⟩⟩
  · intro rs hrs
    obtain ⟨s,hs,rfl⟩ := Except.map_eq_ok_iff.mp hrs
    have hsuccess := ((checkOf path).workspace wording place).success_of_scan ht hliteral hs
    simp only [matches_workspace] at hsuccess
    exact hsuccess

/-- Everything a check takes is reported unless the system refuses to look at a link, and all reports
succeed if everything has a canonical text. -/
theorem reports_of_check (path : String) {e : Entry} (he : t.get? place = some e)
    (hlink : e.isLink = false) :
    ((∃ rs, ((checkOf path).reports wording t place e).2 = .ok rs) ↔ LooksAtLinks t place) ∧
    ∀ rs, ((checkOf path).reports wording t place e).2 = .ok rs →
      ((∀ r ∈ rs, r.success = true) ↔ ∀ q, Takes t place q → IsAcceptedAt t q) := by
  cases e with
  | link target => contradiction
  | file bytes =>
    obtain ⟨r,hreports,hsuccess⟩ := exists_reports_of_file wording ht path he
    have hno : t.get? place ≠ some .directory := by simp [he]
    rw [hreports]
    refine ⟨⟨fun _ hdirectory => absurd hdirectory hno,fun _ => ⟨_,rfl⟩⟩,fun rs hrs => ?_⟩
    cases hrs
    rw [List.forall_mem_singleton,hsuccess]
    constructor
    · rintro h q (⟨-,rfl⟩ | ⟨hdirectory,-⟩)
      · exact ⟨bytes,he,h⟩
      · exact absurd hdirectory hno
    · intro h
      obtain ⟨bytes',hfile,haccepts⟩ := h place (.inl ⟨⟨bytes,he⟩,rfl⟩)
      cases he.symm.trans hfile
      exact haccepts
  | directory =>
    obtain ⟨hexists,hsuccess⟩ := @reports_of_directory wording t ht place path
    have hliteral : Glob.IsLiteral ".yaml" := by decide
    refine ⟨?_,fun rs hrs => (hsuccess rs hrs).trans ?_⟩
    · rw [hexists,((checkOf path).workspace wording place).exists_matching_iff ht hliteral]
      exact ⟨fun h _ p target hp => h p target ⟨hp.ne_nil,hp.ending,hp.entry⟩,
        fun h p target hp => h he p target ⟨hp.ne_nil,hp.ending,hp.entry⟩⟩
    · constructor
      · rintro h q (⟨⟨bytes,hfile⟩,-⟩ | ⟨-,p,hp,rfl⟩)
        · simp [he] at hfile
        · exact h p hp
      · exact fun h p hp => h _ (.inr ⟨he,p,hp,rfl⟩)

end Reports

/-! ### What is shown -/

theorem isStyled_noFiles :
    Console.Markup.IsStyled "\n[bold yellow]⚠️  No matching files found.[/bold yellow]" := by
  have hshown : (Console.Markup.plain
      "\n[bold yellow]⚠️  No matching files found.[/bold yellow]").toOption.isSome = true := by
    decide +kernel
  obtain ⟨cs,hcs⟩ := Option.isSome_iff_exists.mp hshown
  exact ⟨cs,Except.toOption_eq_some_iff.mp hcs⟩

theorem exists_ending {task : Task} (h : task.showsDifferences = false) {rs : List Report}
    (hlegible : ∀ r ∈ rs, IsLegible r) : ∃ x, task.ending rs = .ok x := by
  suffices hdisplay : ∃ lines, task.display rs = .ok lines by
    obtain ⟨lines,hlines⟩ := hdisplay
    exact ⟨_,Except.bind_eq_ok_iff.mpr ⟨lines,hlines,rfl⟩⟩
  cases rs with
  | nil => exact (Display.isShown_ofString isStyled_noFiles).exists_print
  | cons r rs =>
    obtain ⟨table,htable⟩ := Display.exists_table (fun r hr => (hlegible r hr).isShown)
    obtain ⟨counts,hcounts⟩ := Display.summary_entries (Tally.ofReports (r :: rs))
    refine ⟨[] ++ table ++ counts,?_⟩
    simp only [display,List.isEmpty_cons,Bool.false_eq_true,if_false,differences,h,pure_bind,htable,
      hcounts]
    rfl

theorem not_closesUnopened_of_ending {task : Task} {rs : List Report} {x : Ending}
    (h : task.ending rs = .ok x) : ∀ r ∈ rs, ¬ ClosesUnopened r := by
  intro r hr hcloses
  obtain ⟨lines,hlines,-⟩ := Except.bind_eq_ok_iff.mp h
  have hne : rs.isEmpty = false := List.isEmpty_eq_false_iff_exists_mem.mpr ⟨r,hr⟩
  simp only [display,hne,Bool.false_eq_true,if_false] at hlines
  obtain ⟨changes,-,hrest⟩ := Except.bind_eq_ok_iff.mp hlines
  obtain ⟨table,htable,-⟩ := Except.bind_eq_ok_iff.mp hrest
  obtain ⟨s,hs,hnot⟩ := hcloses.exists_not_isStyled
  exact hnot (Display.isStyled_of_table htable r hr s hs)

theorem exit_of_ending {task : Task} {rs : List Report} {x : Ending} (h : task.ending rs = .ok x) :
    x.exit = if ∀ r ∈ rs, r.success = true then 0 else 1 := by
  obtain ⟨console,-,hx⟩ := Except.bind_eq_ok_iff.mp h
  rw [← Except.pure_eq_ok_iff.mp hx]
  simp [exitCode]

end Task

/-- A check of a path that leads to something ends as its reports are shown. -/
theorem run_check (wording : Yaml.Wording) {t : Tree} {current place : Path} {path : String}
    {e : Entry} (hpath : startsWith path "-" = false) (hnul : Path.holdsNul path = false)
    (hplace : t.resolve current path = some place) (he : t.stat place = .ok (some e)) :
    (run wording ["check",path] t current).2 =
      ((checkOf path).reports wording t place e).2.bind (checkOf path).ending := by
  have hasked : (checkOf path).path = path := rfl
  rw [run,request_check hpath]
  simp only [Request.run,Task.run,hasked,hnul,hplace,he,Bool.false_eq_true,if_false]

theorem isLegible_of_reports {asked : Task} {t : Tree} {place : Path} {e : Entry} {rs : List Report}
    (hreports : (asked.reports Yaml.Error.report t place e).2 = .ok rs)
    (h : (asked.reports Yaml.Error.report t place e).2.toOption.any (fun rs =>
      decide (∀ r ∈ rs, IsLegible r)) = true) : ∀ r ∈ rs, IsLegible r := by
  rw [hreports] at h
  exact of_decide_eq_true h

/-- A directory with a volume, and one with a file that is none. -/
def halves : Tree :=
  { entries :=
      [(["good"],.directory),(["good","a.yaml"],.file unsettled),
        (["bad"],.directory),(["bad","b.yaml"],.file (Text.Utf8.encode "[".toList))] }

/-- A volume whose name closes a style that is not open. -/
def unopened : Tree :=
  { entries :=
      [(["ws"],.directory),(["ws","x.yaml"],
        .file (Text.Utf8.encode "vol_type: hostpath\nvol_id: /d\nname: \"[/red]\"\n".toList))] }

end ShortVolume.Command
