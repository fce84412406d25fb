import ShortVolume.Proofs.Text.LineEnds
import ShortVolume.Proofs.Workspace.History
set_option autoImplicit false

/-!
A dry run reports the text of a file and not its bytes.

Whatever the lines of a file end with, and whether it begins with the mark of UTF-8, its report is the
same, in each file system that holds the file.
-/

namespace ShortVolume

open Text (LineEnd)

namespace Workspace

/-- What a dry run reports of a file with a text. -/
def dryReport (w : Workspace) (path : String) (s : List Char) : Report :=
  ⟨path,match w.convert (String.ofList s) with
    | .error f => .rejected (.ofFailure w.wording s f)
    | .ok (vs,canonical) => .accepted (acceptance vs (String.ofList s) canonical true .none)⟩

theorem present_of_dryReport {w : Workspace} {path : String} {s : List Char} {a : Acceptance}
    (h : (w.dryReport path s).outcome = .accepted a) : a.present = String.ofList s := by
  simp only [dryReport] at h
  split at h
  · cases h
  · cases h
    rfl

/-- The bytes of a file reach its report as a text only. -/
theorem process_of_decoded (w : Workspace) {t : Tree} {path : String} {target : Path}
    (hnul : Path.holdsNul path = false) (hresolved : t.resolve w.root path = some target)
    (hreal : t.IsReal target) {bytes : List UInt8} (hfile : t.get? target = some (.file bytes))
    {s : List Char} (hdecoded : Text.decodeFile bytes = .ok s) :
    w.process t path true = (t,.ok (w.dryReport path s)) := by
  rw [w.process_of_resolved true hnul hresolved hreal hfile,examine,hdecoded]
  simp only [dryReport]
  rcases w.convert (String.ofList s) with f | ⟨vs,canonical⟩
  · rfl
  · simp only
    rw [settle_dry]
    rfl

/-- A text without carriage returns that does not begin with a mark has one report, whatever line ends
its file has, and marked or not. If it is accepted, the report shows that text. -/
theorem process_lineEnds (w : Workspace) (path : String) {s : List Char} (hreturn : '\r' ∉ s)
    (hmark : s.head? ≠ some '\ufeff') :
    ∃ r : Report, (∀ a, r.outcome = .accepted a → a.present = String.ofList s) ∧
      ∀ (t : Tree) (target : Path) (e : LineEnd) (marked : Bool), t.IsReal w.root →
        Path.holdsNul path = false → t.resolve w.root path = some target →
          t.get? target = some (.file (e.bytes marked s)) →
            w.process t path true = (t,.ok r) := by
  refine ⟨w.dryReport path s,fun a => present_of_dryReport,?_⟩
  intro t target e marked hroot hnul hresolved hfile
  exact w.process_of_decoded hnul hresolved (Tree.isReal_of_resolve hroot hresolved) hfile
    (Text.decodeFile_bytes e marked hreturn hmark)

end Workspace

/-- A text that does not end with a line feed, and has two in a row. -/
def gappedText : List Char := "vol_type: gce_pd\n\nname: \u00e9\nvol_id: d".toList

/-- A file with that text, and a link that leads to it. -/
def gapped (e : LineEnd) (marked : Bool) : Tree where
  entries := [(["ws"],.directory), (["ws","a.yaml"],.file (e.bytes marked gappedText)),
    (["ws","b.yaml"],.link "a.yaml")]

theorem Workspace.process_gapped :
    '\r' ∉ gappedText ∧ gappedText.head? ≠ some '\ufeff' ∧
      LineEnd.both.bytes true gappedText ≠ LineEnd.carriageReturn.bytes false gappedText ∧
      ∃ r : Report, r.verdict = .preview ∧ ∀ e marked,
        (gapped e marked).IsReal settling.root ∧
          (gapped e marked).resolve settling.root "b.yaml" = some ["ws","a.yaml"] ∧
          settling.process (gapped e marked) "b.yaml" true = (gapped e marked,.ok r) := by
  have hreturn : '\r' ∉ gappedText := by decide
  have hmark : gappedText.head? ≠ some '\ufeff' := by decide
  have hroot (e : LineEnd) (marked : Bool) : (gapped e marked).IsReal ([] ++ ["ws"]) := by
    refine (gapped e marked).isReal_nil.concat (by decide) ?_
    rintro entry hentry
    obtain rfl : Entry.directory = entry := Option.some.inj hentry
    rfl
  have hresolved (e : LineEnd) (marked : Bool) :
      (gapped e marked).resolve settling.root "b.yaml" = some ["ws","a.yaml"] := by
    cases e <;> cases marked <;> decide +kernel
  obtain ⟨r,-,hreport⟩ := settling.process_lineEnds "b.yaml" hreturn hmark
  have hrun (e : LineEnd) (marked : Bool) :
      settling.process (gapped e marked) "b.yaml" true = (gapped e marked,.ok r) :=
    hreport _ _ e marked (hroot e marked) (by decide +kernel) (hresolved e marked) rfl
  refine ⟨hreturn,hmark,by decide +kernel,r,?_,fun e marked =>
    ⟨hroot e marked,hresolved e marked,hrun e marked⟩⟩
  have hverdict : (settling.process (gapped .lineFeed false) "b.yaml" true).2.toOption.map
      Report.verdict = some .preview := by decide +kernel
  rw [hrun] at hverdict
  exact Option.some.inj hverdict

end ShortVolume
