import ShortVolume.Proofs.Text.Utf8
import ShortVolume.Proofs.Tree.Directory
import ShortVolume.Proofs.Tree.Plain
import ShortVolume.Workspace
set_option autoImplicit false

/-!
Replacing a file.

Backups of one file have distinct names, so one of them is not in use. In a file system without links
the backup is written where nothing was, and only then the file changes. Nothing else does, and no
temporary file stays behind, unless the new text has no bytes: then the file stays, and an empty
temporary file beside it. In a locked directory nothing is done at all.
-/

namespace ShortVolume

/-! ### Names of backups -/

theorem Nat.toString_inj {i j : Nat} (h : toString i = toString j) : i = j := by
  have hdigits : Nat.toDigits 10 i = Nat.toDigits 10 j := by
    simpa [Nat.toString_eq_repr,Nat.repr] using congrArg String.toList h
  rw [← @Nat.ofDigitChars_ten_toDigits i,hdigits,Nat.ofDigitChars_ten_toDigits]

theorem backupName_inj {name : String} {i j : Nat} (h : backupName name i = backupName name j) :
    i = j := by
  simp only [backupName,String.append_left_inj,String.append_right_inj] at h
  by_cases hi : i = 0
  · by_cases hj : j = 0
    · rw [hi,hj]
    · rw [if_pos hi,if_neg hj] at h
      simp at h
  · by_cases hj : j = 0
    · rw [if_neg hi,if_pos hj] at h
      simp at h
    · rw [if_neg hi,if_neg hj,String.append_right_inj] at h
      exact Nat.toString_inj h

/-- A name with a suffix of more than two characters leads on. -/
theorem Path.leadsOn_append {s suffix : String} (h : 2 < suffix.length) :
    Path.LeadsOn (s ++ suffix) := by
  have hlength : 2 < (s ++ suffix).length := by
    rw [String.length_append]
    omega
  have hne (other : String) (hother : other.length ≤ 2) : s ++ suffix ≠ other := by
    rintro rfl
    omega
  exact ⟨hne "" (by decide),hne "." (by decide),hne ".." (by decide)⟩

def backupPlace (target : Path) (k : Nat) : Path := target.beside (backupName target.name k)

/-- The name ends as those of temporary files do. -/
def Path.IsTemporary (p : Path) : Prop := temporarySuffix.toList <:+ p.name.toList

instance (p : Path) : Decidable p.IsTemporary := inferInstanceAs (Decidable (_ <:+ _))

theorem temporaryPlace_isTemporary (target : Path) : (temporaryPlace target).IsTemporary := by
  simp [Path.IsTemporary,temporaryPlace]

theorem not_isTemporary_backupPlace (target : Path) (k : Nat) :
    ¬ (backupPlace target k).IsTemporary := by
  intro h
  have hbackup : backupSuffix.toList <:+ (backupPlace target k).name.toList := by
    rw [backupPlace,Path.name_beside,backupName,String.toList_append]
    exact List.suffix_append _ _
  have := List.suffix_of_suffix_length_le h hbackup (by decide)
  revert this
  decide

theorem backupPlace_ne_temporaryPlace (target : Path) (k : Nat) :
    backupPlace target k ≠ temporaryPlace target :=
  fun heq => not_isTemporary_backupPlace target k (heq ▸ temporaryPlace_isTemporary target)

theorem backupPlace_direct {target : Path} (h : target.IsDirect) (k : Nat) :
    (backupPlace target k).IsDirect :=
  h.beside (Path.leadsOn_append (by decide))

theorem temporaryPlace_direct {target : Path} (h : target.IsDirect) :
    (temporaryPlace target).IsDirect :=
  h.beside (Path.leadsOn_append (by decide))

/-- The name of a temporary file is shorter than that of a backup. -/
theorem isTooLong_temporaryPlace {target : Path} {k : Nat}
    (h : isTooLong (backupPlace target k).name = false) :
    isTooLong (temporaryPlace target).name = false := by
  have hbackup : backupSuffix.utf8ByteSize = 17 := by decide
  have htemporary : temporarySuffix.utf8ByteSize = 14 := by decide
  simp only [isTooLong,backupPlace,temporaryPlace,Path.name_beside,backupName,
    String.utf8ByteSize_append,decide_eq_false_iff_not] at h ⊢
  omega

/-! ### A backup that is not in use -/

/-- A place for a backup of the file: nothing is there, and the name is not too long. -/
structure IsSpare (t : Tree) (target place : Path) : Prop where
  number : ∃ k, place = backupPlace target k
  free : t.get? place = none
  short : isTooLong place.name = false

theorem IsSpare.ne_nil {t : Tree} {target place : Path} (h : IsSpare t target place) :
    place ≠ [] := by
  obtain ⟨k,rfl⟩ := h.number
  exact Path.beside_ne_nil _ _

theorem IsSpare.isDirect {t : Tree} {target place : Path} (h : IsSpare t target place)
    (htarget : target.IsDirect) : place.IsDirect := by
  obtain ⟨k,rfl⟩ := h.number
  exact backupPlace_direct htarget k

theorem IsSpare.parent {t : Tree} {target place : Path} (h : IsSpare t target place) :
    place.parent = target.parent := by
  obtain ⟨k,rfl⟩ := h.number
  exact Path.parent_beside _ _

theorem IsSpare.not_isTemporary {t : Tree} {target place : Path} (h : IsSpare t target place) :
    ¬ place.IsTemporary := by
  obtain ⟨k,rfl⟩ := h.number
  exact not_isTemporary_backupPlace target k

theorem IsSpare.isTooLong_temporaryPlace {t : Tree} {target place : Path}
    (h : IsSpare t target place) : isTooLong (temporaryPlace target).name = false := by
  obtain ⟨k,rfl⟩ := h.number
  exact ShortVolume.isTooLong_temporaryPlace h.short

/-- The search ends at a place that nothing is at, unless all places that it looks at are taken. -/
theorem freeBackup_eq_ok {t : Tree} {target place : Path} {n k : Nat}
    (h : freeBackup t target n k = .ok place) :
    (∃ j, place = backupPlace target j ∧ t.stat place = .ok none) ∨
      ∀ i < n, ∃ e, t.stat (backupPlace target (k + i)) = .ok (some e) := by
  induction n generalizing k with
  | zero => exact .inr (fun i hi => absurd hi (Nat.not_lt_zero i))
  | succ n ih =>
    simp only [freeBackup] at h
    split at h
    · contradiction
    · next hfree =>
      cases h
      exact .inl ⟨k,rfl,hfree⟩
    · next e htaken =>
      -- The other `n` places are those from `k + 1` on.
      rcases ih h with hspare | hall
      · exact .inl hspare
      · refine .inr (fun i hi => ?_)
        cases i with
        | zero => exact ⟨e,htaken⟩
        | succ i =>
          have := hall i (by omega)
          rwa [Nat.add_right_comm,Nat.add_assoc] at this

theorem exists_backupPlace_free (t : Tree) (target : Path) :
    ∃ i < t.entries.length + 1, t.get? (backupPlace target i) = none := by
  obtain ⟨i,hi,hfree⟩ := t.exists_not_mem_namesIn target.parent (fun i j => backupName_inj)
  exact ⟨i,Nat.lt_succ_of_le (Nat.le_trans hi (t.length_namesIn_le _)),hfree⟩

theorem freeBackup_isSpare {t : Tree} (ht : t.IsPlain) {target place : Path} {e : Entry}
    (htarget : t.get? target = some e)
    (h : freeBackup t target (t.entries.length + 1) 0 = .ok place) : IsSpare t target place := by
  have hdirect := ht.direct target e htarget
  rcases freeBackup_eq_ok h with ⟨k,rfl,hstat⟩ | hall
  · obtain ⟨hfree,hshort⟩ := Tree.stat_eq_none ht (backupPlace_direct hdirect k)
      (Path.beside_ne_nil _ _) hstat (Tree.parent_beside ht htarget _)
    exact ⟨⟨k,rfl⟩,hfree,hshort⟩
  · obtain ⟨i,hi,hfree⟩ := exists_backupPlace_free t target
    obtain ⟨e,hstat⟩ := hall i hi
    rw [Nat.zero_add] at hstat
    have htaken := Tree.get?_of_stat ht (backupPlace_direct hdirect i) hstat
    simp [hfree] at htaken

/-! ### The file in its place -/

/-- A file system without links whose temporary files are empty, as those are that a text without bytes
leaves. -/
structure Tree.IsQuiet (t : Tree) : Prop extends Tree.IsPlain t where
  temporary : ∀ p e, t.get? p = some e → p.IsTemporary → e = .file []

/-- A file system without links and without temporary files. -/
structure Tree.IsClean (t : Tree) : Prop extends Tree.IsPlain t where
  noTemporary : ∀ p e, t.get? p = some e → ¬ p.IsTemporary

theorem Tree.IsClean.isQuiet {t : Tree} (ht : t.IsClean) : t.IsQuiet where
  toIsPlain := ht.toIsPlain
  temporary := fun p e hp htemporary => absurd htemporary (ht.noTemporary p e hp)

theorem Tree.isClean_of_entries {t : Tree}
    (h : ∀ e ∈ t.entries, e.1.IsDirect ∧ t.get? e.1.parent = some .directory ∧ e.2.isLink = false)
    (hn : ∀ e ∈ t.entries, ¬ e.1.IsTemporary) : t.IsClean where
  toIsPlain := isPlain_of_entries h
  noTemporary := by
    intro p e hp
    by_cases hroot : p = []
    · subst hroot
      decide
    · exact hn (p,e) (mem_entries_of_get? hroot hp)

theorem Tree.IsClean.update {t u : Tree} (ht : t.IsClean) {p : Path} {bytes : List UInt8}
    (h : t.IsUpdate u p bytes) (hp : p.IsDirect) (hd : t.get? p.parent = some .directory)
    (hfile : t.get? p ≠ some .directory) (hn : ¬ p.IsTemporary) : u.IsClean where
  toIsPlain := Tree.IsPlain.update ht.toIsPlain h hp hd hfile
  noTemporary := by
    intro q e hq
    rw [h q] at hq
    split at hq
    · next heq => exact heq ▸ hn
    · exact ht.noTemporary q e hq

theorem Tree.IsQuiet.update {t u : Tree} (ht : t.IsQuiet) {p : Path} {bytes : List UInt8}
    (h : t.IsUpdate u p bytes) (hp : p.IsDirect) (hd : t.get? p.parent = some .directory)
    (hfile : t.get? p ≠ some .directory) (hn : p.IsTemporary → bytes = []) : u.IsQuiet where
  toIsPlain := Tree.IsPlain.update ht.toIsPlain h hp hd hfile
  temporary := by
    intro q e hq htemporary
    rw [h q] at hq
    split at hq
    · next heq =>
      rw [← Option.some.inj hq,hn (heq ▸ htemporary)]
    · exact ht.temporary q e hq htemporary

theorem Tree.ne_nil_of_file {t : Tree} {p : Path} {bytes : List UInt8}
    (h : t.get? p = some (.file bytes)) : p ≠ [] := by
  rintro rfl
  simp at h

theorem Tree.IsClean.temporaryPlace_free {t : Tree} (ht : t.IsClean) (target : Path) :
    t.get? (temporaryPlace target) = none := by
  cases he : t.get? (temporaryPlace target) with
  | none => rfl
  | some e => exact absurd (temporaryPlace_isTemporary target) (ht.noTemporary _ e he)

theorem Tree.IsQuiet.temporaryPlace_ne_directory {t : Tree} (ht : t.IsQuiet) (target : Path) :
    t.get? (temporaryPlace target) ≠ some .directory := by
  intro hdirectory
  have := ht.temporary _ _ hdirectory (temporaryPlace_isTemporary target)
  contradiction

/-- In a locked directory nothing is done. -/
theorem replaceFile_of_locked {t : Tree} {target : Path} (h : t.isLocked target.parent = true)
    (text : Text) :
    replaceFile t target text = (t,.ok (some ("No write access to " ++ target.parent.text))) := by
  rw [replaceFile,if_pos h]

/-- How replacing a file ends in any other directory: with the file in its place, with an empty
temporary file, or with what is left if no temporary file can be made. -/
theorem replaceFile_of_open {t : Tree} {target : Path} (h : t.isLocked target.parent = false)
    (text : Text) :
    (∃ now u, Text.Utf8.bytes? text = some now ∧ t.write (temporaryPlace target) now = .ok u ∧
        replaceFile t target text = (u.move (temporaryPlace target) target,.ok none)) ∨
      (∃ u, Text.Utf8.bytes? text = none ∧ t.write (temporaryPlace target) [] = .ok u ∧
        replaceFile t target text = (u,.error .unencodable)) ∨
      ∃ e, t.write (temporaryPlace target) ((Text.Utf8.bytes? text).getD []) = .error e ∧
        replaceFile t target text = ((abandon t (temporaryPlace target) e).1,
          .ok (some (abandon t (temporaryPlace target) e).2)) := by
  have hopen : ¬ t.isLocked target.parent = true := by simp [h]
  cases hwrite : t.write (temporaryPlace target) ((Text.Utf8.bytes? text).getD []) with
  | error e => exact .inr (.inr ⟨e,rfl,by simp only [replaceFile,if_neg hopen,hwrite]⟩)
  | ok u =>
    cases hbytes : Text.Utf8.bytes? text with
    | some now =>
      refine .inl ⟨now,u,rfl,by rw [← hwrite,hbytes]; rfl,?_⟩
      simp only [replaceFile,if_neg hopen,hwrite,Text.Utf8.isWhole_of_bytes? hbytes,if_true]
    | none =>
      refine .inr (.inl ⟨u,rfl,by rw [← hwrite,hbytes]; rfl,?_⟩)
      simp only [replaceFile,if_neg hopen,hwrite,Text.Utf8.not_isWhole_of_bytes? hbytes,
        Bool.false_eq_true,if_false]

/-- The second tree is the first but for the file at a path, and without its temporary file. -/
def Tree.IsRenewal (t u : Tree) (target : Path) (bytes : List UInt8) : Prop :=
  ∀ q, u.get? q = if q = target then some (.file bytes)
    else if q = temporaryPlace target then none else t.get? q

theorem Tree.IsRenewal.isUpdate {t u : Tree} {target : Path} {bytes : List UInt8}
    (h : t.IsRenewal u target bytes) (hfree : t.get? (temporaryPlace target) = none) :
    t.IsUpdate u target bytes := by
  intro q
  rw [h q]
  by_cases hplace : q = temporaryPlace target
  · rw [if_pos hplace,hplace,hfree]
  · rw [if_neg hplace]

section Renewal
variable {t u : Tree} {target : Path} {bytes old : List UInt8} (h : t.IsRenewal u target bytes)
  (htarget : t.get? target = some (.file old))
include h htarget

theorem Tree.IsRenewal.isPlain (ht : t.IsPlain)
    (hplace : t.get? (temporaryPlace target) ≠ some .directory) : u.IsPlain := by
  refine ht.of_directories (fun p hp => ?_) (fun p e he => ?_)
  · have hother : p ≠ target := by
      rintro rfl
      simp [htarget] at hp
    have htemporary : p ≠ temporaryPlace target := by
      rintro rfl
      exact hplace hp
    rw [h,if_neg hother,if_neg htemporary,hp]
  · rw [h] at he
    split at he
    · next heq =>
      cases he
      exact .inr (heq ▸ ⟨ht.direct _ _ htarget,ht.parent _ _ htarget,rfl⟩)
    · split at he
      · cases he
      · exact .inl he

theorem Tree.IsRenewal.isQuiet (ht : t.IsQuiet) (hn : ¬ target.IsTemporary) : u.IsQuiet where
  toIsPlain := h.isPlain htarget ht.toIsPlain (ht.temporaryPlace_ne_directory target)
  temporary := by
    intro p e hp htemporary
    rw [h] at hp
    split at hp
    · next heq => exact absurd (heq ▸ htemporary) hn
    · split at hp
      · cases hp
      · exact ht.temporary p e hp htemporary

end Renewal

section Plain
variable {t : Tree} (ht : t.IsPlain) {target : Path} {bytes : List UInt8}
  (htarget : t.get? target = some (.file bytes))
include ht htarget

/-- What is no directory is no hindrance. -/
theorem write_temporaryPlace (hopen : t.isLocked target.parent = false)
    (hplace : t.get? (temporaryPlace target) ≠ some .directory)
    (hshort : isTooLong (temporaryPlace target).name = false) (now : List UInt8) :
    t.write (temporaryPlace target) now = .ok (t.put (temporaryPlace target) (.file now)) := by
  have hdirect := temporaryPlace_direct (ht.direct _ _ htarget)
  cases he : t.get? (temporaryPlace target) with
  | none =>
    exact Tree.write_direct ht hdirect he (Tree.parent_beside ht htarget _) hshort
      (by rwa [temporaryPlace,Path.parent_beside]) now
  | some e =>
    cases e with
    | directory => exact absurd he hplace
    | file old => exact Tree.write_over ht hdirect he now
    | link s => exact absurd (ht.noLink _ _ he) (by simp [Entry.isLink])

/-- The new text takes the place of the file, and no temporary file is left. -/
theorem replaceFile_isRenewal (hopen : t.isLocked target.parent = false)
    (hplace : t.get? (temporaryPlace target) ≠ some .directory)
    (hshort : isTooLong (temporaryPlace target).name = false) {text : Text} {now : List UInt8}
    (hnow : Text.Utf8.bytes? text = some now) :
    ∃ u, replaceFile t target text = (u,.ok none) ∧ u.locked = t.locked ∧
      t.IsRenewal u target now := by
  have hne : temporaryPlace target ≠ [] := Path.beside_ne_nil _ _
  have hwrite := write_temporaryPlace ht htarget hopen hplace hshort now
  have hwritten := Tree.get?_put_self t (temporaryPlace target) (.file now) hne
  rcases replaceFile_of_open hopen text with ⟨now',u,hnow',hu,hreplaced⟩ | ⟨u,hnone,-⟩ | ⟨e,he,-⟩
  · obtain rfl : now = now' := Option.some.inj (hnow.symm.trans hnow')
    obtain rfl : t.put (temporaryPlace target) (.file now) = u := Except.ok.inj (hwrite.symm.trans hu)
    refine ⟨_,hreplaced,by rw [Tree.move,hwritten]; rfl,fun q => ?_⟩
    rw [Tree.get?_move _ hwritten hne (Tree.ne_nil_of_file htarget)]
    by_cases hq : q = temporaryPlace target
    · rw [if_pos hq,if_pos hq]
    · rw [if_neg hq,if_neg hq,Tree.get?_put_of_ne _ _ hq]
  · simp [hnow] at hnone
  · simp [hnow,hwrite] at he

/-- A text without bytes leaves the file, and an empty temporary file. -/
theorem replaceFile_of_unencodable (hopen : t.isLocked target.parent = false)
    (hplace : t.get? (temporaryPlace target) ≠ some .directory)
    (hshort : isTooLong (temporaryPlace target).name = false) {text : Text}
    (hnone : Text.Utf8.bytes? text = none) :
    replaceFile t target text = (t.put (temporaryPlace target) (.file []),.error .unencodable) := by
  have hwrite := write_temporaryPlace ht htarget hopen hplace hshort []
  rcases replaceFile_of_open hopen text with ⟨now,u,hnow,-⟩ | ⟨u,-,hu,hreplaced⟩ | ⟨e,he,-⟩
  · simp [hnone] at hnow
  · obtain rfl : t.put (temporaryPlace target) (.file []) = u := Except.ok.inj (hwrite.symm.trans hu)
    exact hreplaced
  · simp [hnone,hwrite] at he

omit htarget in
/-- A directory at the place of the temporary file stays, and so does the file. -/
theorem replaceFile_of_directory (hopen : t.isLocked target.parent = false)
    (hdirectory : t.get? (temporaryPlace target) = some .directory) (text : Text) :
    replaceFile t target text =
      (t,.ok (some (SystemError.isDirectory.message (temporaryPlace target)))) := by
  have hdirect := ht.direct _ _ hdirectory
  have hwrite (now : List UInt8) : t.write (temporaryPlace target) now = .error .isDirectory := by
    simp [Tree.write,Tree.follow_direct ht hdirect,hdirectory]
  have hstat : t.stat (temporaryPlace target) = .ok (some .directory) := by
    rw [Tree.stat_direct ht hdirect,hdirectory]
  rcases replaceFile_of_open hopen text with ⟨now,u,-,hu,-⟩ | ⟨u,-,hu,-⟩ | ⟨e,-,hreplaced⟩
  · simp [hwrite] at hu
  · simp [hwrite] at hu
  · rw [hreplaced]
    simp [abandon,hstat,Tree.isDirectory,hdirectory]

/-- Once a place is found the bytes of the file are put there. Whether the place lies in the workspace
is not asked before. -/
theorem Workspace.replace_of_freeBackup (w : Workspace) (hopen : t.isLocked target.parent = false)
    (text : Text) {place : Path}
    (hsearch : freeBackup t target (t.entries.length + 1) 0 = .ok place) :
    IsSpare t target place ∧ (t.put place (.file bytes)).IsPlain ∧
      w.replace t target bytes text =
        if w.root <+: place then
          ((replaceFile (t.put place (.file bytes)) target text).1,
            (replaceFile (t.put place (.file bytes)) target text).2.map (fun failure =>
              ⟨failure.isNone,some (Path.relative (place.drop w.root.length)),none,failure⟩))
        else (t.put place (.file bytes),.error (.backupOutside place)) := by
  have hspare := freeBackup_isSpare ht htarget hsearch
  have hdirect := hspare.isDirect (ht.direct _ _ htarget)
  have hparent : t.get? place.parent = some .directory := by
    rw [hspare.parent]
    exact ht.parent _ _ htarget
  have hwrite := Tree.write_direct ht hdirect hspare.free hparent hspare.short
    (hspare.parent ▸ hopen) bytes
  refine ⟨hspare,Tree.IsPlain.update ht (Tree.isUpdate_put t bytes hspare.ne_nil) hdirect hparent
    (by simp [hspare.free]),?_⟩
  simp only [replace,hsearch,hwrite,List.isPrefixOf_iff_prefix]

/-- In a locked directory neither is the backup made nor the file replaced, and both is said. -/
theorem Workspace.replace_of_locked (w : Workspace) (hlocked : t.isLocked target.parent = true)
    (text : Text) {place : Path}
    (hsearch : freeBackup t target (t.entries.length + 1) 0 = .ok place) :
    w.replace t target bytes text = (t,.ok ⟨false,none,
      some ("Backup failed: " ++ SystemError.permissionDenied.message place),
      some ("No write access to " ++ target.parent.text)⟩) := by
  have hspare := freeBackup_isSpare ht htarget hsearch
  have hparent : t.get? place.parent = some .directory := by
    rw [hspare.parent]
    exact ht.parent _ _ htarget
  have hwrite := Tree.write_locked ht (hspare.isDirect (ht.direct _ _ htarget)) hspare.free hparent
    hspare.short (hspare.parent ▸ hlocked) bytes
  simp only [replace,hsearch,hwrite,replaceFile_of_locked hlocked]
  rfl

end Plain

/-- Replacing a file is given up before anything is written, or after the backup, or the file is
written once its bytes are in the backup, or the new text has no bytes. -/
theorem Workspace.replace_cases (w : Workspace) {t : Tree} (ht : t.IsQuiet) {target : Path}
    {bytes : List UInt8} (htarget : t.get? target = some (.file bytes)) (text : Text) :
    (w.replace t target bytes text).1 = t ∨
      ∃ place b, IsSpare t target place ∧ b = t.put place (.file bytes) ∧ b.IsQuiet ∧
        ((∃ m, w.replace t target bytes text = (b,.error m)) ∨
          (∃ u effect now, w.replace t target bytes text = (u,.ok effect) ∧ effect.written = true ∧
            Text.Utf8.bytes? text = some now ∧ b.IsRenewal u target now) ∨
          (Text.Utf8.bytes? text = none ∧ t.isLocked target.parent = false ∧
            w.replace t target bytes text =
              (b.put (temporaryPlace target) (.file []),.error .unencodable))) := by
  cases hsearch : freeBackup t target (t.entries.length + 1) 0 with
  | error m => exact .inl (by simp only [replace,hsearch])
  | ok place =>
    cases hlocked : t.isLocked target.parent with
    | true => exact .inl (by rw [w.replace_of_locked ht.toIsPlain htarget hlocked text hsearch])
    | false =>
      obtain ⟨hspare,hplain,hreplace⟩ :=
        w.replace_of_freeBackup ht.toIsPlain htarget hlocked text hsearch
      have hquiet : (t.put place (.file bytes)).IsQuiet := by
        refine ht.update (Tree.isUpdate_put t bytes hspare.ne_nil)
          (hspare.isDirect (ht.direct _ _ htarget)) ?_ (by simp [hspare.free])
          (fun h => absurd h hspare.not_isTemporary)
        rw [hspare.parent]
        exact ht.parent _ _ htarget
      have hkept := Tree.get?_put_of_free hspare.free htarget (.file bytes)
      have hplace := hquiet.temporaryPlace_ne_directory target
      refine .inr ⟨place,_,hspare,rfl,hquiet,?_⟩
      by_cases hinside : w.root <+: place
      · rw [if_pos hinside] at hreplace
        cases hbytes : Text.Utf8.bytes? text with
        | some now =>
          obtain ⟨u,hu,-,hrenewal⟩ := replaceFile_isRenewal hplain hkept hlocked hplace
            hspare.isTooLong_temporaryPlace hbytes
          rw [hu] at hreplace
          exact .inr (.inl ⟨u,_,now,hreplace,rfl,rfl,hrenewal⟩)
        | none =>
          rw [replaceFile_of_unencodable hplain hkept hlocked hplace
            hspare.isTooLong_temporaryPlace hbytes] at hreplace
          exact .inr (.inr ⟨rfl,rfl,hreplace⟩)
      · rw [if_neg hinside] at hreplace
        exact .inl ⟨_,hreplace⟩

end ShortVolume
