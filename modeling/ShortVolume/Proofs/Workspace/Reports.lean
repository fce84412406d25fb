import ShortVolume.Proofs.Workspace.History
import ShortVolume.Proofs.Workspace.Matching
import ShortVolume.Proofs.Workspace.Refusal
set_option autoImplicit false

/-!
Scans end with a report for each file.

Whatever links there are, processing one file leaves the others where they are. So nothing ends a scan
but a link that the system refuses to look at and a backup that is refused, as those of long names are.
-/

namespace ShortVolume

namespace Workspace

/-! ### What a file leaves to the others -/

theorem spares_abandon (t : Tree) (place : Path) (e : SystemError) (Exposed : Path → Prop) :
    t.Spares (abandon t place e).1 Exposed := by
  unfold abandon
  dsimp only
  split
  · split
    · exact .refl t _
    · next hdirectory =>
      refine Tree.spares_erase (fun hd => hdirectory ?_) Exposed
      simp [Tree.isDirectory,hd]
  · exact .refl t _
  · exact .refl t _

theorem spares_replaceFile {t : Tree} {target : Path} (h : t.IsReal target)
    (htarget : t.get? target ≠ some .directory) (text : Text) :
    t.Spares (replaceFile t target text).1 (· = target) := by
  cases hlocked : t.isLocked target.parent with
  | true =>
    rw [replaceFile_of_locked hlocked]
    exact .refl t _
  | false =>
    rcases replaceFile_of_open hlocked text with ⟨now,u,-,hwrite,hreplaced⟩ |
      ⟨u,-,hwrite,hreplaced⟩ | ⟨e,-,hreplaced⟩
    · have hspares := Tree.spares_write hwrite (· = target)
      have htemporary := Tree.not_directory_of_write h (Path.leadsOn_append (by decide)) hwrite
      rw [hreplaced]
      refine hspares.trans (Tree.spares_move htemporary ?_)
      rwa [ne_eq,hspares.directory]
    · rw [hreplaced]
      exact Tree.spares_write hwrite _
    · rw [hreplaced]
      exact spares_abandon t _ e _

theorem spares_replace (w : Workspace) {t : Tree} {target : Path} (h : t.IsReal target)
    (htarget : t.get? target ≠ some .directory) (bytes : List UInt8) (text : Text) :
    t.Spares (w.replace t target bytes text).1 (· = target) := by
  unfold replace
  split
  · exact .refl t _
  · split
    · exact spares_replaceFile h htarget text
    · next u hwrite =>
      have hspares := Tree.spares_write hwrite (· = target)
      have hnone := Tree.spares_write hwrite (fun _ => False)
      split
      · refine hspares.trans (spares_replaceFile (hnone.isReal h (fun _ _ => id)) ?_ text)
        rwa [ne_eq,hspares.directory]
      · exact hspares

/-- Processing a file keeps the directories, and brings a link to no other path. -/
theorem spares_process (w : Workspace) {t : Tree} {path : String} {target : Path}
    (hresolved : t.resolve w.root path = some target) (h : t.IsReal target) (dryRun : Bool) :
    t.Spares (w.process t path dryRun).1 (· = target) := by
  rcases w.process_cases t path dryRun with ⟨m,hsame,-⟩ | ⟨r,hsame,-⟩ |
    ⟨target',bytes,vs,present,canonical,hwants,hprocess⟩
  · rw [hsame]
    exact .refl t _
  · rw [hsame]
    exact .refl t _
  · obtain rfl : target = target' := Option.some.inj (hresolved.symm.trans hwants.resolved)
    rw [hprocess]
    exact w.spares_replace h (by simp [hwants.file]) bytes canonical

/-! ### Many files -/

theorem path_of_process {w : Workspace} {t : Tree} {path : String} {dryRun : Bool} {r : Report}
    (h : (w.process t path dryRun).2 = .ok r) : r.path = path := by
  unfold process at h
  split at h
  · contradiction
  · split at h
    · contradiction
    · next target _ =>
      split at h
      · contradiction
      · cases h
        rfl
      · simp only at h
        cases hat : (w.processAt t target dryRun).2 with
        | error m =>
          rw [hat] at h
          contradiction
        | ok outcome =>
          rw [hat] at h
          cases h
          rfl

@[simp] theorem root_after (w : Workspace) (r : Report) : (w.after r).root = w.root := by
  unfold after
  split <;> rfl

@[simp] theorem format_after (w : Workspace) (r : Report) :
    (w.after r).writer.format = w.writer.format := by
  unfold after
  split <;> rfl

theorem paths_of_processAll {w : Workspace} {t : Tree} {dryRun : Bool} {ps : List Path}
    {rs : List Report} (h : (processAll dryRun w t ps).2.2 = .ok rs) :
    rs.map Report.path = ps.map Path.relative := by
  induction ps generalizing w t rs with
  | nil =>
    cases h
    rfl
  | cons p r ih =>
    rw [processAll] at h
    rcases hprocessed : w.process t p.relative dryRun with ⟨u,m | report⟩
    · rw [hprocessed] at h
      contradiction
    · rw [hprocessed] at h
      dsimp only at h
      have hpath : report.path = p.relative := path_of_process (congrArg Prod.snd hprocessed)
      cases hrest : (processAll dryRun (w.after report) u r).2.2 with
      | error m =>
        rw [hrest] at h
        contradiction
      | ok rest =>
        rw [hrest] at h
        cases h
        rw [List.map_cons,List.map_cons,hpath,ih hrest]

theorem dryRun_of_mem_calls {w : Workspace} {t : Tree} {dryRun : Bool} {ps : List Path} {c : Call}
    (h : c ∈ calls dryRun w t ps) : c.dryRun = dryRun := by
  induction ps generalizing w t with
  | nil => simp [calls] at h
  | cons p r ih =>
    rw [calls,List.mem_cons] at h
    rcases h with rfl | hrest
    · rfl
    · split at hrest
      · simp at hrest
      · exact ih hrest

/-- Every file has its report unless the call of one is hindered. -/
theorem processAll_reports_iff (w : Workspace) {t : Tree} (dryRun : Bool) {ps : List Path}
    (hnodup : ps.Nodup) (hplace : ∀ p ∈ ps, p ≠ [] ∧ t.IsPlace (w.root ++ p)) :
    (∃ rs, (processAll dryRun w t ps).2.2 = .ok rs) ↔
      ∀ c ∈ calls dryRun w t ps, ¬ c.IsHindered := by
  induction ps generalizing w t with
  | nil => simp [processAll,calls]
  | cons p r ih =>
    obtain ⟨hne,hp⟩ := hplace p List.mem_cons_self
    obtain ⟨hnotmem,hnodup⟩ := List.nodup_cons.mp hnodup
    have hnames : ∀ name ∈ p, IsName name :=
      fun name hname => hp.named name (List.mem_append_right _ hname)
    have hresolved := Tree.resolve_relative hnames hne hp.isReal
    obtain ⟨found,hstat⟩ := hp.exists_stat
    have hlooked : Call.LooksAt ⟨w,t,p.relative,dryRun⟩ (w.root ++ p) found :=
      ⟨Path.not_holdsNul_relative hnames,hresolved,hstat⟩
    have hcall := process_reports_iff hlooked hp.isReal
    have hspares := w.spares_process hresolved hp.isReal dryRun
    rw [processAll,calls,List.forall_mem_cons,← hcall]
    rcases hprocessed : w.process t p.relative dryRun with ⟨u,m | report⟩
    · simp
    · rw [hprocessed] at hspares
      -- The other files are where they were.
      have hrest : ∀ q ∈ r, q ≠ [] ∧ u.IsPlace ((w.after report).root ++ q) := by
        intro q hq
        obtain ⟨hqne,hqplace⟩ := hplace q (List.mem_cons_of_mem p hq)
        rw [root_after]
        refine ⟨hqne,hspares.isPlace hqplace (fun heq => hnotmem ?_)⟩
        exact List.append_cancel_left heq ▸ hq
      rw [← ih (w.after report) hnodup hrest]
      simp only [Except.ok.injEq,exists_eq',true_and]
      cases (processAll dryRun (w.after report) u r).2.2 <;> simp [Except.map]

/-- A scan that ends has reported each matching file once. -/
theorem reports_of_scan (w : Workspace) {t : Tree} (ht : t.IsSound) {extension : String}
    (hext : Glob.IsLiteral extension) {dryRun : Bool} {s : Scan}
    (h : (w.scan t extension dryRun).2.2 = .ok s) :
    ∃ files : List Path, files.Nodup ∧ (∀ p, p ∈ files ↔ w.Matches t extension p) ∧
      s.reports.map Report.path = files.map Path.relative := by
  cases hmatching : w.matching t extension with
  | error m => simp [scan,hmatching] at h
  | ok files =>
    obtain ⟨hnodup,hmem⟩ := mem_matching ht w hext hmatching
    refine ⟨files,hnodup,hmem,?_⟩
    simp only [scan,hmatching] at h
    cases hreports : (processAll dryRun w t files).2.2 with
    | error m => simp [hreports,Except.map] at h
    | ok rs =>
      rw [hreports] at h
      cases h
      exact paths_of_processAll hreports

/-- A scan ends with reports, unless the system refuses to look at a link with the extension, or the
call of a file is hindered when its turn comes. -/
theorem scan_reports_iff (w : Workspace) {t : Tree} (ht : t.IsSound) {extension : String}
    (hext : Glob.IsLiteral extension) (dryRun : Bool) :
    (∃ s, (w.scan t extension dryRun).2.2 = .ok s) ↔
      (∀ p, w.Finds t extension p → ∃ e, t.stat (w.root ++ p) = .ok e) ∧
        ∀ files, w.matching t extension = .ok files →
          ∀ c ∈ calls dryRun w t files, ¬ c.IsHindered := by
  rw [← exists_matching ht w hext]
  cases hmatching : w.matching t extension with
  | error m => simp [scan,hmatching]
  | ok files =>
    obtain ⟨hnodup,hmem⟩ := mem_matching ht w hext hmatching
    have hplace : ∀ p ∈ files, p ≠ [] ∧ t.IsPlace (w.root ++ p) := by
      intro p hp
      obtain ⟨hne,-,⟨bytes,hfile⟩,-⟩ := (hmem p).mp hp
      exact ⟨hne,ht.isPlace hfile rfl⟩
    have hall := w.processAll_reports_iff dryRun hnodup hplace
    simp only [scan,hmatching,Except.ok.injEq,exists_eq',true_and,forall_eq']
    rw [← hall]
    cases (processAll dryRun w t files).2.2 <;> simp [Except.map]

/-- The backup of a file is refused if its name would be too long. -/
theorem refusesBackup_of_isTooLong (w : Workspace) {t : Tree} (ht : t.IsSound) {target : Path}
    {bytes : List UInt8} (h : t.get? target = some (.file bytes))
    (hlong : isTooLong (backupName target.name 0) = true) : w.RefusesBackup t target bytes := by
  have hreal := ht.isReal h rfl
  have hfree : t.get? (backupPlace target 0) = none := by
    cases he : t.get? (backupPlace target 0) with
    | none => rfl
    | some e =>
      have := (ht.named _ e he _ (List.mem_append_right _ List.mem_cons_self)).short
      simp [hlong] at this
  have hmeets : t.meetsLongName (backupPlace target 0) = true := by
    have hparent := ht.parent _ _ h
    refine List.any_eq_true.mpr ⟨_,Path.self_mem_stages _,?_⟩
    simp [backupPlace,Path.beside_ne_nil,hlong,Tree.isDirectory,hparent]
  have hbackup : t.IsReal (backupPlace target 0) :=
    hreal.beside (Path.leadsOn_append (by decide)) hfree
  refine ⟨0,fun j hj => absurd hj (Nat.not_lt_zero j),.inl ⟨.nameTooLong,?_⟩⟩
  rw [hbackup.stat_of_none hfree,if_pos hmeets]

end Workspace

theorem FileName.stem_append {s e : List Char} (hs : s ≠ []) (he : e ≠ []) (hdot : '.' ∉ e) :
    FileName.stem (String.ofList (s ++ '.' :: e)) = String.ofList s := by
  have htail : (s ++ '.' :: e).reverse.takeWhile (· != '.') = e.reverse := by
    rw [List.reverse_append,List.reverse_cons,List.append_assoc,List.takeWhile_append_of_pos]
    · simp
    · intro c hc
      rw [bne_iff_ne]
      rintro rfl
      exact hdot (List.mem_reverse.mp hc)
  have hlength : (s ++ '.' :: e).length - e.length - 1 = s.length := by
    simp only [List.length_append,List.length_cons]
    omega
  have hslength := List.length_pos_of_ne_nil hs
  have helength := List.length_pos_of_ne_nil he
  simp only [FileName.stem,String.toList_ofList,htail,List.length_reverse,hlength]
  rw [if_pos ⟨by simp only [List.length_append,List.length_cons]; omega,hslength,helength⟩]
  simp

theorem utf8ByteSize_replicate (n : Nat) (c : Char) :
    (String.ofList (List.replicate n c)).utf8ByteSize = n * c.utf8Size := by
  induction n with
  | zero => simp
  | succ n ih =>
    rw [List.replicate_succ,String.ofList_cons,String.utf8ByteSize_append,
      String.utf8ByteSize_singleton,ih,Nat.succ_mul,Nat.add_comm]

/-- A name with an extension after `n` other characters. -/
def stretchedName (n : Nat) : String := String.ofList (List.replicate n 'a' ++ ".yaml".toList)

theorem utf8ByteSize_stretchedName (n : Nat) : (stretchedName n).utf8ByteSize = n + 5 := by
  have hletter : 'a'.utf8Size = 1 := by decide
  have hextension : (String.ofList ".yaml".toList).utf8ByteSize = 5 := by decide
  rw [stretchedName,String.ofList_append,String.utf8ByteSize_append,utf8ByteSize_replicate,hletter,
    hextension,Nat.mul_one]

theorem isTooLong_stretchedName (n : Nat) : isTooLong (stretchedName n) = decide (250 < n) := by
  rw [isTooLong,utf8ByteSize_stretchedName,nameLimit]
  exact decide_eq_decide.mpr (by omega)

theorem leadsOn_stretchedName (n : Nat) : Path.LeadsOn (stretchedName n) := by
  rw [stretchedName,String.ofList_append]
  exact Path.leadsOn_append (by decide)

theorem slash_not_mem_stretchedName (n : Nat) : '/' ∉ (stretchedName n).toList := by
  simp [stretchedName]

theorem isName_stretchedName {n : Nat} (hn : n ≤ 250) : IsName (stretchedName n) where
  leadsOn := leadsOn_stretchedName n
  noSlash := slash_not_mem_stretchedName n
  noNul := by simp [stretchedName]
  short := by
    rw [isTooLong_stretchedName,decide_eq_false_iff_not]
    omega

theorem isTooLong_backupName_stretchedName {n : Nat} (hn : 238 < n) :
    isTooLong (backupName (stretchedName n) 0) = true := by
  have hstem : FileName.stem (stretchedName n) = String.ofList (List.replicate n 'a') :=
    FileName.stem_append (by simp; omega) (by decide) (by decide)
  have hletter : 'a'.utf8Size = 1 := by decide
  have hnone : "".utf8ByteSize = 0 := by decide
  have hsuffix : backupSuffix.utf8ByteSize = 17 := by decide
  simp only [isTooLong,backupName,hstem,if_true,String.utf8ByteSize_append,utf8ByteSize_replicate,
    hletter,hnone,hsuffix,nameLimit,decide_eq_true_eq]
  omega

/-- A directory with one file, which has such a name. -/
def crowdedNames (n : Nat) : Tree where
  entries := [(["ws"],.directory), (["ws",stretchedName n],.file unsettled)]

theorem isSound_crowdedNames {n : Nat} (hn : n ≤ 250) : (crowdedNames n).IsSound := by
  have hws : IsName "ws" := by decide
  have hname := isName_stretchedName hn
  refine Tree.isSound_of_entries (fun e he => ?_)
  simp only [crowdedNames,List.mem_cons,List.not_mem_nil,or_false] at he
  rcases he with rfl | rfl
  · simp [crowdedNames,Tree.get?,Path.parent,hws]
  · simp [crowdedNames,Tree.get?,Path.parent,hws,hname]

theorem matches_stretchedName (n : Nat) :
    settling.Matches (crowdedNames n) ".yaml" [stretchedName n] where
  ne_nil := by simp
  ending := by
    have hlower : Text.lower ".yaml" = ".yaml" := by decide
    refine .inl ?_
    simp [hlower,Path.name,stretchedName]
  file := ⟨unsettled,by simp [settling,crowdedNames,Tree.get?]⟩
  noBackup := by
    rintro ⟨s,hs⟩
    have hlast := congrArg List.getLast? hs
    simp [Path.name,stretchedName,backupSuffix] at hlast

/-- No other file of that directory is one of the extension. -/
theorem eq_of_matches_stretchedName {n : Nat} {p : Path}
    (h : settling.Matches (crowdedNames n) ".yaml" p) : p = [stretchedName n] := by
  obtain ⟨hne,-,⟨bytes,hfile⟩,-⟩ := h
  have hmem := Tree.mem_entries_of_get? (by simp [hne]) hfile
  simp only [crowdedNames,List.mem_cons,List.not_mem_nil,or_false,Prod.mk.injEq,settling] at hmem
  rcases hmem with ⟨-,hkind⟩ | ⟨hpath,-⟩
  · exact Entry.noConfusion hkind
  · exact (List.cons.inj hpath).2

/-- What `unsettled` holds is to be replaced. -/
theorem examine_unsettled :
    ∃ vs present canonical, settling.examine unsettled = .ok (vs,present,canonical) ∧
      Workspace.differs present canonical = true ∧ vs ≠ [] := by
  have hdue : (settling.examine unsettled).toOption.any
      (fun x => Workspace.differs x.2.1 x.2.2 && !x.1.isEmpty) = true := by decide +kernel
  rcases hexamined : settling.examine unsettled with r | ⟨vs,present,canonical⟩
  · simp [hexamined,Except.toOption] at hdue
  · rw [hexamined] at hdue
    simp only [Except.toOption,Option.any_some,Bool.and_eq_true,Bool.not_eq_true',
      List.isEmpty_eq_false_iff] at hdue
    exact ⟨vs,present,canonical,rfl,hdue⟩

theorem isRefused_stretchedName {n : Nat} (hlong : 238 < n) (hn : n ≤ 250) :
    Call.IsRefused ⟨settling,crowdedNames n,Path.relative [stretchedName n],false⟩ := by
  have hsound := isSound_crowdedNames hn
  have hfile : (crowdedNames n).get? (settling.root ++ [stretchedName n]) =
      some (.file unsettled) := by
    simp [settling,crowdedNames,Tree.get?]
  have hnames : ∀ name ∈ [stretchedName n], IsName name := by
    simpa using isName_stretchedName hn
  have hresolved := Tree.resolve_relative hnames (List.cons_ne_nil _ _) (hsound.isReal hfile rfl)
  obtain ⟨vs,present,canonical,hexamined,hdiffers,hvolumes⟩ := examine_unsettled
  have hlooked : Call.LooksAt ⟨settling,crowdedNames n,Path.relative [stretchedName n],false⟩
      (settling.root ++ [stretchedName n]) (some (.file unsettled)) :=
    ⟨Path.not_holdsNul_relative hnames,hresolved,(hsound.isReal hfile rfl).stat_of_get? hfile⟩
  refine ⟨_,unsettled,vs,present,canonical,
    ⟨⟨_,hlooked⟩,hfile,hexamined,rfl,hdiffers,hvolumes⟩,?_⟩
  exact settling.refusesBackup_of_isTooLong hsound hfile (isTooLong_backupName_stretchedName hlong)

/-- A scan of that directory ends without reports, although the file system allows the name. -/
theorem not_exists_scan_crowdedNames {n : Nat} (hlong : 238 < n) (hn : n ≤ 250) :
    ¬ ∃ s, (settling.scan (crowdedNames n) ".yaml" false).2.2 = .ok s := by
  have hsound := isSound_crowdedNames hn
  have hliteral : Glob.IsLiteral ".yaml" := by decide
  rw [settling.scan_reports_iff hsound hliteral false]
  rintro ⟨hlook,hcalls⟩
  obtain ⟨files,hmatching⟩ := (Workspace.exists_matching hsound settling hliteral).mpr hlook
  obtain ⟨-,hmem⟩ := Workspace.mem_matching hsound settling hliteral hmatching
  cases files with
  | nil => exact absurd ((hmem _).mpr (matches_stretchedName n)) List.not_mem_nil
  | cons p r =>
    obtain rfl := eq_of_matches_stretchedName ((hmem p).mp List.mem_cons_self)
    refine hcalls _ hmatching _ ?_ (.inl (isRefused_stretchedName hlong hn))
    rw [Workspace.calls]
    exact List.mem_cons_self

end ShortVolume
