import ShortVolume.Proofs.Workspace.Visits
set_option autoImplicit false

/-!
Which files are taken without an error.

A file is accepted if its bytes are read and the text has a canonical form. That is up to the bytes alone:
a writer that has jammed leaves no text, but fails for no other documents. So the reports of a dry run
succeed if the files are accepted, whichever comes first.
-/

namespace ShortVolume

namespace Writer

theorem exists_writeDocuments_iff (w : Writer) (ds : List Document) :
    (∃ s, w.writeDocuments ds = .ok s) ↔
      ∃ vs texts, (ds.mapM Document.toValue).mapError Failure.fault = .ok vs ∧
        w.format.texts vs = .ok texts := by
  constructor
  · rintro ⟨s,hs⟩
    obtain ⟨vs,hvs,hwrite⟩ := Except.bind_eq_ok_iff.mp hs
    obtain ⟨texts,htexts,-⟩ := Except.bind_eq_ok_iff.mp hwrite
    exact ⟨vs,texts,hvs,htexts⟩
  · rintro ⟨vs,texts,hvs,htexts⟩
    have hwrite : ∃ s, w.write vs = .ok s := ⟨_,Except.bind_eq_ok_iff.mpr ⟨texts,htexts,rfl⟩⟩
    obtain ⟨s,hs⟩ := hwrite
    exact ⟨s,Except.bind_eq_ok_iff.mpr ⟨vs,hvs,hs⟩⟩

end Writer

namespace Workspace

/-- The bytes are read, and the text has a canonical form. -/
def Accepts (f : Format) (bytes : List UInt8) : Prop :=
  ∃ cs text, Text.decodeFile bytes = .ok cs ∧ transcode f (String.ofList cs) = .ok text

theorem accepts_iff (f : Format) (bytes : List UInt8) :
    Accepts f bytes ↔ ((Text.decodeFile bytes).toOption.bind (fun cs =>
      (transcode f (String.ofList cs)).toOption)).isSome = true := by
  simp only [Accepts,Option.isSome_iff_exists,Option.bind_eq_some_iff,Except.toOption_eq_some_iff]
  exact exists_comm

instance (f : Format) (bytes : List UInt8) : Decidable (Accepts f bytes) :=
  decidable_of_iff _ (accepts_iff f bytes).symm

/-- Whether a file is taken does not hang on whether the writer has jammed. -/
theorem exists_examine_iff (w : Workspace) (bytes : List UInt8) :
    (∃ x, w.examine bytes = .ok x) ↔ Accepts w.writer.format bytes := by
  have hconvert : ∀ text, (∃ x, w.convert text = .ok x) ↔
      ∃ s, transcode w.writer.format text = .ok s := by
    intro text
    have hwriters := w.writer.exists_writeDocuments_iff
    have hnew := (Writer.new w.writer.format).exists_writeDocuments_iff
    constructor
    · rintro ⟨x,hx⟩
      obtain ⟨ds,hds,hwritten⟩ := Except.bind_eq_ok_iff.mp hx
      obtain ⟨s,hs,-⟩ := Except.bind_eq_ok_iff.mp hwritten
      obtain ⟨s',hs'⟩ := (hnew ds).mpr ((hwriters ds).mp ⟨s,hs⟩)
      exact ⟨s',Except.bind_eq_ok_iff.mpr ⟨ds,hds,hs'⟩⟩
    · rintro ⟨s,hs⟩
      obtain ⟨ds,hds,hwritten⟩ := Except.bind_eq_ok_iff.mp hs
      obtain ⟨s',hs'⟩ := (hwriters ds).mpr ((hnew ds).mp ⟨s,hwritten⟩)
      exact ⟨(ds.map Document.volume,s'),Except.bind_eq_ok_iff.mpr
        ⟨ds,hds,Except.bind_eq_ok_iff.mpr ⟨s',hs',rfl⟩⟩⟩
  unfold examine Accepts
  cases hdecoded : Text.decodeFile bytes with
  | error e => simp
  | ok cs =>
    have h := hconvert (String.ofList cs)
    simp only [Except.ok.injEq,exists_and_left,exists_eq_left']
    rw [← h]
    cases w.convert (String.ofList cs) <;> simp

theorem exists_process_dry (w : Workspace) {t : Tree} {p : Path} (hne : p ≠ [])
    (hplace : t.IsPlace (w.root ++ p)) {bytes : List UInt8}
    (hfile : t.get? (w.root ++ p) = some (.file bytes)) :
    ∃ r, w.process t (Path.relative p) true = (t,.ok r) ∧
      (r.success = true ↔ Accepts w.writer.format bytes) := by
  rw [w.process_of_file true hne hplace hfile,← w.exists_examine_iff]
  rcases w.examine bytes with x | ⟨vs,present,canonical⟩
  · exact ⟨_,rfl,by simp [Report.success]⟩
  · simp only
    rw [settle_dry]
    exact ⟨_,rfl,by simp [Report.success,acceptance,Effect.none]⟩

/-- A dry run of some files succeeds on all of them if all are taken. -/
theorem success_of_processAll (w : Workspace) {t : Tree} {ps : List Path} {rs : List Report}
    (hfiles : ∀ p ∈ ps, p ≠ [] ∧ t.IsPlace (w.root ++ p) ∧
      ∃ bytes, t.get? (w.root ++ p) = some (.file bytes))
    (h : (processAll true w t ps).2.2 = .ok rs) :
    (∀ r ∈ rs, r.success = true) ↔ ∀ p ∈ ps, ∀ bytes, t.get? (w.root ++ p) = some (.file bytes) →
      Accepts w.writer.format bytes := by
  induction ps generalizing w rs with
  | nil =>
    cases h
    simp
  | cons p ps ih =>
    rw [List.forall_mem_cons] at hfiles
    obtain ⟨⟨hne,hplace,bytes,hfile⟩,hrest⟩ := hfiles
    obtain ⟨r,hprocess,hsuccess⟩ := w.exists_process_dry hne hplace hfile
    rw [processAll,hprocess] at h
    obtain ⟨rs',hrs',rfl⟩ := Except.map_eq_ok_iff.mp h
    have hothers := ih (w.after r) (by simpa using hrest) hrs'
    rw [root_after,format_after] at hothers
    rw [List.forall_mem_cons,List.forall_mem_cons,hothers,hsuccess,hfile]
    simp

/-- A dry run of a scan succeeds on all of its files if all are accepted. -/
theorem success_of_scan (w : Workspace) {t : Tree} (ht : t.IsSound) {extension : String}
    (hext : Glob.IsLiteral extension) {s : Scan} (h : (w.scan t extension true).2.2 = .ok s) :
    (∀ r ∈ s.reports, r.success = true) ↔ ∀ p, w.Matches t extension p →
      ∃ bytes, t.get? (w.root ++ p) = some (.file bytes) ∧ Accepts w.writer.format bytes := by
  obtain ⟨files,hmatching⟩ := (w.scan_dry_reports_iff ht hext).mp ⟨s,h⟩
  obtain ⟨-,hmem⟩ := mem_matching ht w hext hmatching
  simp only [scan,hmatching] at h
  obtain ⟨rs,hrs,rfl⟩ := Except.map_eq_ok_iff.mp h
  have hfiles : ∀ p ∈ files, p ≠ [] ∧ t.IsPlace (w.root ++ p) ∧
      ∃ bytes, t.get? (w.root ++ p) = some (.file bytes) := by
    intro p hp
    obtain ⟨hne,-,⟨bytes,hfile⟩,-⟩ := (hmem p).mp hp
    exact ⟨hne,ht.isPlace hfile rfl,bytes,hfile⟩
  rw [w.success_of_processAll hfiles hrs]
  constructor
  · intro hall p hp
    obtain ⟨bytes,hfile⟩ := hp.file
    exact ⟨bytes,hfile,hall p ((hmem p).mpr hp) bytes hfile⟩
  · intro hall p hp bytes hfile
    obtain ⟨bytes',hfile',haccepts⟩ := hall p ((hmem p).mp hp)
    cases hfile.symm.trans hfile'
    exact haccepts

end Workspace

end ShortVolume
