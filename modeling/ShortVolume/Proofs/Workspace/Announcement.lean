import ShortVolume.Proofs.Workspace.Reports
import ShortVolume.Proofs.Workspace.Room
set_option autoImplicit false

/-!
What a dry run announces of one file.

The run of the file reports the same, though a file in a locked directory cannot be written, and does
what was announced. Only a text that has no bytes keeps it from its report.
-/

namespace ShortVolume

/-! ### Reports that agree -/

namespace Report

/-- The text of the file, unless it was rejected. -/
def present? (r : Report) : Option String :=
  match r.outcome with
  | .rejected _ => none
  | .accepted a => some a.present

/-- The canonical text, if the file has one and it differs. -/
def canonical? (r : Report) : Option Text :=
  match r.outcome with
  | .rejected _ => none
  | .accepted a => a.canonical

/-- The report says what the other one has announced, but that a file in a locked directory could not be
written. -/
structure Fulfils (locked : Bool) (real preview : Report) : Prop where
  path : real.path = preview.path
  success : real.success =
    if locked = true ∧ preview.verdict = .preview then false else preview.success
  error : real.error = preview.error
  volumes : real.volumes = preview.volumes
  present : real.present? = preview.present?
  canonical : real.canonical? = preview.canonical?
  verdict : real.verdict = if preview.verdict = .preview then .replaced else preview.verdict

/-- The text that is announced for the file at a path can be written there, if anything can. -/
def IsWritable (t : Tree) (target : Path) (preview : Report) : Prop :=
  preview.verdict = .preview → t.isLocked target.parent = false →
    ∀ text, preview.canonical? = some text → ∃ now, Text.Utf8.bytes? text = some now

end Report

namespace Workspace

/-! ### One file -/

/-- The file at `p` is left as it is. If it was to be replaced, its directory is locked. -/
structure Leaves (root : Path) (t : Tree) (p : Path) (r : Report) : Prop where
  locked : r.verdict = .replaced → t.isLocked (root ++ p).parent = true
  written : r.effect.written = false
  backup : r.effect.backup = none

/-- The file at `p` is replaced, once its bytes are at `b`, where nothing was. -/
structure Replaces (root : Path) (t u : Tree) (p b : Path) (bytes now : List UInt8) (text : Text)
    (r : Report) : Prop where
  verdict : r.verdict = .replaced
  canonical : r.canonical? = some text
  encoded : Text.Utf8.bytes? text = some now
  effect : r.effect = ⟨true,some (Path.relative b),none,none⟩
  ne_nil : b ≠ []
  named : ∀ name ∈ b, IsName name
  spare : IsSpare t (root ++ p) (root ++ b)
  clean : (t.put (root ++ b) (.file bytes)).IsClean
  locked : u.locked = t.locked
  update : (t.put (root ++ b) (.file bytes)).IsUpdate u (root ++ p) now

/-- The run of a file that is to be replaced: it is left in a locked directory, it is replaced, or its
new text has no bytes. -/
theorem process_wanted (w : Workspace) {u : Tree} {p : Path} (hne : p ≠ []) (hu : u.IsClean)
    (hnames : ∀ name ∈ w.root ++ p, IsName name) {bytes : List UInt8}
    (hfile : u.get? (w.root ++ p) = some (.file bytes)) (hroom : HasRoom u (w.root ++ p))
    {vs : List Volume} {present : String} {canonical : Text}
    (hexamined : w.examine bytes = .ok (vs,present,canonical))
    (hwanted : IsWanted false vs present canonical) :
    (u.isLocked (w.root ++ p).parent = true ∧ ∃ warning message,
        w.process u (Path.relative p) false = (u,.ok ⟨Path.relative p,
          .accepted (acceptance vs present canonical false ⟨false,none,some warning,some message⟩)⟩)) ∨
      u.isLocked (w.root ++ p).parent = false ∧
        ((∃ v now b e, w.process u (Path.relative p) false = (v,.ok ⟨Path.relative p,
              .accepted (acceptance vs present canonical false e)⟩) ∧
            Replaces w.root u v p b bytes now canonical
              ⟨Path.relative p,.accepted (acceptance vs present canonical false e)⟩) ∨
          Text.Utf8.bytes? canonical = none ∧
            (w.process u (Path.relative p) false).2 = .error .unencodable) := by
  have hplace : u.IsPlace (w.root ++ p) := hu.toIsPlain.isPlace hnames (hu.parent _ _ hfile)
  rw [w.process_of_file false hne hplace hfile,hexamined]
  simp only [settle_of_wanted w u (w.root ++ p) bytes hwanted]
  cases hlocked : u.isLocked (w.root ++ p).parent with
  | true =>
    obtain ⟨warning,message,hgiven⟩ :=
      w.replace_of_hasRoom_locked hu.toIsPlain hfile hnames hroom canonical hlocked
    exact .inl ⟨rfl,warning,message,by rw [hgiven]; rfl⟩
  | false =>
    obtain ⟨b,hb,hnamed,hspare,hplain,hreplace⟩ :=
      w.replace_of_hasRoom hu.toIsPlain hfile hnames hroom canonical hne hlocked
    have hclean : (u.put (w.root ++ b) (.file bytes)).IsClean := by
      refine hu.update (Tree.isUpdate_put u bytes hspare.ne_nil)
        (hspare.isDirect (hu.direct _ _ hfile)) ?_ (by simp [hspare.free]) hspare.not_isTemporary
      rw [hspare.parent]
      exact hu.parent _ _ hfile
    have hkept := Tree.get?_put_of_free hspare.free hfile (.file bytes)
    have hfree := hclean.temporaryPlace_free (w.root ++ p)
    refine .inr ⟨rfl,?_⟩
    cases hbytes : Text.Utf8.bytes? canonical with
    | some now =>
      obtain ⟨v,hv,hsame,hrenewal⟩ := replaceFile_isRenewal hplain hkept hlocked (by simp [hfree])
        hspare.isTooLong_temporaryPlace hbytes
      rw [hreplace,hv]
      refine .inl ⟨v,now,b,_,rfl,verdict_of_wanted hwanted _,?_,hbytes,rfl,hb,hnamed,hspare,hclean,
        hsame,hrenewal.isUpdate hfree⟩
      simp [Report.canonical?,acceptance,hwanted.2.1]
    | none =>
      refine .inr ⟨rfl,?_⟩
      rw [hreplace,replaceFile_of_unencodable hplain hkept hlocked (by simp [hfree])
        hspare.isTooLong_temporaryPlace hbytes]
      rfl

/-! ### Announced and real -/

section Acceptance
variable {path : String} {vs : List Volume} {present : String} {canonical : Text}

theorem fulfils_rejected (locked : Bool) (path : String) (x : Rejection) :
    Report.Fulfils locked ⟨path,.rejected x⟩ ⟨path,.rejected x⟩ := by
  have hpreview : Report.verdict ⟨path,.rejected x⟩ ≠ .preview := x.verdict_ne.1
  exact ⟨rfl,(if_neg (fun h => hpreview h.2)).symm,rfl,rfl,rfl,rfl,(if_neg hpreview).symm⟩

/-- What is announced of a file that is to be replaced. -/
theorem announced_of_wanted (path : String) (h : IsWanted false vs present canonical) :
    Report.verdict ⟨path,.accepted (acceptance vs present canonical true .none)⟩ = .preview ∧
      Report.canonical? ⟨path,.accepted (acceptance vs present canonical true .none)⟩ =
        some canonical :=
  ⟨verdict_of_differs h.2.1 h.2.2 true .none,by simp [Report.canonical?,acceptance,h.2.1]⟩

/-- A file that is to be replaced is reported as announced, if it cannot be written exactly in a locked
directory. -/
theorem fulfils_of_wanted {locked : Bool} {e : Effect} (h : IsWanted false vs present canonical)
    (he : e.writeError.isSome = locked) :
    Report.Fulfils locked ⟨path,.accepted (acceptance vs present canonical false e)⟩
      ⟨path,.accepted (acceptance vs present canonical true .none)⟩ := by
  obtain ⟨hannounced,-⟩ := announced_of_wanted path h
  refine ⟨rfl,?_,rfl,rfl,rfl,rfl,?_⟩
  · simp only [hannounced,and_true]
    subst he
    cases hfailed : e.writeError <;> simp [Report.success,acceptance,hfailed,Effect.none]
  · rw [if_pos hannounced]
    exact verdict_of_wanted h e

/-- Any other file is reported as announced. -/
theorem fulfils_of_not_wanted (path : String) (locked : Bool) (h : ¬ IsWanted false vs present canonical) :
    Report.Fulfils locked ⟨path,.accepted (acceptance vs present canonical false .none)⟩
        ⟨path,.accepted (acceptance vs present canonical true .none)⟩ ∧
      Report.verdict ⟨path,.accepted (acceptance vs present canonical true .none)⟩ ≠ .preview ∧
      Report.verdict ⟨path,.accepted (acceptance vs present canonical false .none)⟩ ≠ .replaced := by
  have hverdict (dryRun : Bool) : Report.verdict ⟨path,
      .accepted (acceptance vs present canonical dryRun .none)⟩ =
        if vs = [] then .empty else .canonical :=
    verdict_of_same (fun hdue => h ⟨rfl,hdue⟩) dryRun .none
  have hnot (x : Verdict) (hx : x ≠ .empty ∧ x ≠ .canonical) :
      (if vs = [] then Verdict.empty else .canonical) ≠ x := by
    split
    · exact hx.1.symm
    · exact hx.2.symm
  have hpreview := hnot .preview (by decide)
  refine ⟨⟨rfl,?_,rfl,rfl,rfl,rfl,?_⟩,?_,?_⟩
  · rw [hverdict,if_neg (fun h => hpreview h.2)]
    rfl
  · rw [hverdict,hverdict,if_neg hpreview]
  · rw [hverdict]
    exact hpreview
  · rw [hverdict]
    exact hnot .replaced (by decide)

end Acceptance

/-- A file with the same bytes in two trees is announced in the one and run in the other. Unless the text
that is announced has no bytes, which ends the run, the reports agree, and the file is left or replaced
as was announced. -/
theorem process_fulfils (w : Workspace) {t u : Tree} {p : Path} (hne : p ≠ [])
    (ht : t.IsPlace (w.root ++ p)) (hu : u.IsClean) (hlocked : u.locked = t.locked)
    {bytes : List UInt8} (hfile : t.get? (w.root ++ p) = some (.file bytes))
    (hfile' : u.get? (w.root ++ p) = some (.file bytes)) (hroom : HasRoom u (w.root ++ p)) :
    ∃ preview, w.process t (Path.relative p) true = (t,.ok preview) ∧
      ((preview.IsWritable t (w.root ++ p) ∧ ∃ real v,
          w.process u (Path.relative p) false = (v,.ok real) ∧
          real.Fulfils (t.isLocked (w.root ++ p).parent) preview ∧ w.after real = w.after preview ∧
          ((Leaves w.root t p real ∧ v = u) ∨
            ∃ b now text, Replaces w.root u v p b bytes now text real)) ∨
        ¬ preview.IsWritable t (w.root ++ p) ∧ w.writer.format = .json ∧
          (w.process u (Path.relative p) false).2 = .error .unencodable) := by
  have hplace : u.IsPlace (w.root ++ p) := hu.toIsPlain.isPlace ht.named (hu.parent _ _ hfile')
  have hsame : u.isLocked (w.root ++ p).parent = t.isLocked (w.root ++ p).parent := by
    rw [Tree.isLocked,Tree.isLocked,hlocked]
  have hreal := w.process_of_file false hne hplace hfile'
  rw [w.process_of_file true hne ht hfile]
  rcases hexamined : w.examine bytes with x | ⟨vs,present,canonical⟩
  · obtain ⟨hpreview,hreplaced⟩ := x.verdict_ne
    rw [hexamined] at hreal
    exact ⟨_,rfl,.inl ⟨fun h => absurd h hpreview,_,_,hreal,fulfils_rejected _ _ x,rfl,
      .inl ⟨⟨fun h => absurd h hreplaced,rfl,rfl⟩,rfl⟩⟩⟩
  · simp only [settle_dry]
    refine ⟨_,rfl,?_⟩
    by_cases hwanted : IsWanted false vs present canonical
    · obtain ⟨hannounced,htext⟩ := announced_of_wanted (Path.relative p) hwanted
      rcases w.process_wanted hne hu ht.named hfile' hroom hexamined hwanted with
        ⟨hclosed,warning,message,hrun⟩ | ⟨hopen,⟨v,now,b,e,hrun,hreplaces⟩ | ⟨hnone,hrun⟩⟩
      · rw [hsame] at hclosed
        exact .inl ⟨fun _ hopen => absurd (hclosed.symm.trans hopen) (by decide),_,_,hrun,
          fulfils_of_wanted hwanted hclosed.symm,rfl,.inl ⟨⟨fun _ => hclosed,rfl,rfl⟩,rfl⟩⟩
      · rw [hsame] at hopen
        have hwritten : e = ⟨true,some (Path.relative b),none,none⟩ := hreplaces.effect
        refine .inl ⟨fun _ _ text h => ?_,_,v,hrun,fulfils_of_wanted hwanted ?_,rfl,
          .inr ⟨b,now,canonical,hreplaces⟩⟩
        · obtain rfl : canonical = text := Option.some.inj (htext.symm.trans h)
          exact ⟨now,hreplaces.encoded⟩
        · rw [hwritten,hopen]
          rfl
      · rw [hsame] at hopen
        refine .inr ⟨fun hwritable => ?_,format_of_unencodable hexamined hnone,hrun⟩
        obtain ⟨now,hnow⟩ := hwritable hannounced hopen canonical htext
        simp [hnone] at hnow
    · obtain ⟨hfulfils,hpreview,hreplaced⟩ := fulfils_of_not_wanted (Path.relative p)
        (t.isLocked (w.root ++ p).parent) hwanted
      rw [hexamined] at hreal
      simp only [settle_of_not_wanted w u _ _ hwanted] at hreal
      exact .inl ⟨fun h => absurd h hpreview,_,_,hreal,hfulfils,rfl,
        .inl ⟨⟨fun h => absurd h hreplaced,rfl,rfl⟩,rfl⟩⟩

end Workspace

end ShortVolume
