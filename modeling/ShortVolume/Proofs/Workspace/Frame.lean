import ShortVolume.Proofs.Workspace.History
import ShortVolume.Proofs.Workspace.Refusal
set_option autoImplicit false

/-!
What processing one file touches, whatever links the file system has.

The file is written by way of a temporary one, whose place is not searched for as that of the backup
is. Where nothing is at that place, all entries but the file stay as they are, and the one that comes
is the backup, or what a link in its place leads to. Where something is at that place, it is lost
together with what a link there leads to.
-/

namespace ShortVolume

namespace Tree

def AgreesOutside (t u : Tree) (Touched : Path → Prop) : Prop :=
  ∀ p, ¬ Touched p → u.get? p = t.get? p

theorem AgreesOutside.refl (t : Tree) (Touched : Path → Prop) : t.AgreesOutside t Touched :=
  fun _ _ => rfl

theorem AgreesOutside.trans {t u v : Tree} {Touched : Path → Prop} (h : t.AgreesOutside u Touched)
    (h' : u.AgreesOutside v Touched) : t.AgreesOutside v Touched :=
  fun p hp => (h' p hp).trans (h p hp)

theorem AgreesOutside.mono {t u : Tree} {Touched Touched' : Path → Prop}
    (h : t.AgreesOutside u Touched) (himp : ∀ p, Touched p → Touched' p) :
    t.AgreesOutside u Touched' :=
  fun p hp => h p (fun htouched => hp (himp p htouched))

theorem agreesOutside_put (t : Tree) (p : Path) (e : Entry) :
    t.AgreesOutside (t.put p e) (· = p) :=
  fun _ hq => get?_put_of_ne t e hq

theorem agreesOutside_erase (t : Tree) {p : Path} (hp : p ≠ []) :
    t.AgreesOutside (t.erase p) (· = p) := by
  intro q hq
  rw [get?_erase t hp,if_neg hq]

theorem agreesOutside_move (t : Tree) {source target : Path} (hs : source ≠ []) :
    t.AgreesOutside (t.move source target) (fun p => p = target ∨ p = source) := by
  unfold move
  split
  · refine AgreesOutside.trans ((t.agreesOutside_erase hs).mono (fun _ => .inr)) ?_
    exact (agreesOutside_put _ target _).mono (fun _ => .inl)
  · exact .refl t _

theorem get?_move_source (t : Tree) {source target : Path} (hs : source ≠ [])
    (hne : source ≠ target) : (t.move source target).get? source = none := by
  unfold move
  split
  · rw [get?_put_of_ne _ _ hne,get?_erase t hs,if_pos rfl]
  · assumption

end Tree

/-! ### The place of the temporary file -/

/-- What a stem leaves off its name is nothing, or a dot and characters that are no dots. -/
theorem FileName.exists_stem_append (name : String) :
    ∃ r, name.toList = (stem name).toList ++ r ∧ '.' ∉ r.tail := by
  unfold stem
  simp only
  split
  · next h =>
    obtain ⟨hlength,-,-⟩ := h
    have hdots : '.' ∉ name.toList.reverse.takeWhile (· != '.') :=
      fun hmem => by simpa using List.all_eq_true.mp List.all_takeWhile _ hmem
    have hsplit := List.takeWhile_append_dropWhile (p := (· != '.')) (l := name.toList.reverse)
    generalize name.toList.reverse.takeWhile (· != '.') = tail at *
    generalize name.toList.reverse.dropWhile (· != '.') = front at hsplit
    have hname : name.toList = front.reverse ++ tail.reverse := by
      rw [← List.reverse_append,hsplit,List.reverse_reverse]
    have hfront : name.toList.length - tail.length - 1 + 1 = front.reverse.length := by
      have := congrArg List.length hname
      simp only [List.length_append,List.length_reverse] at this ⊢
      omega
    refine ⟨name.toList.drop (name.toList.length - tail.length - 1),?_,?_⟩
    · rw [String.toList_ofList,List.take_append_drop]
    · rw [List.tail_drop,hfront,hname,List.drop_left]
      simpa using hdots
  · exact ⟨[],by simp,by simp⟩

/-- What has a dot inside takes the place of no suffix. -/
theorem FileName.stem_append_ne {name s : String} (h : '.' ∈ s.toList.tail) :
    stem name ++ s ≠ name := by
  intro heq
  obtain ⟨r,hr,hdot⟩ := exists_stem_append name
  have hsuffix : s.toList = r := by
    have hall := (congrArg String.toList heq).trans hr
    rw [String.toList_append] at hall
    exact List.append_cancel_left hall
  exact hdot (hsuffix ▸ h)

/-- The suffix of temporary files has a dot inside, so no file is its own temporary file. -/
theorem temporaryPlace_ne (target : Path) : temporaryPlace target ≠ target := by
  intro heq
  have hname := congrArg Path.name heq
  rw [temporaryPlace,Path.name_beside] at hname
  exact FileName.stem_append_ne (by decide) hname

/-- So has that of backups, and no file is its own backup. -/
theorem backupPlace_ne (target : Path) (k : Nat) : backupPlace target k ≠ target := by
  intro heq
  have hname := congrArg Path.name heq
  rw [backupPlace,Path.name_beside,backupName,String.append_assoc] at hname
  refine FileName.stem_append_ne ?_ hname
  rw [String.toList_append]
  cases (if k = 0 then "" else "-" ++ toString k).toList with
  | nil => decide
  | cons c r => exact List.mem_append_right r (by decide)

/-! ### Replacing a file -/

theorem agreesOutside_replaceFile (t : Tree) (target : Path) (text : Text) :
    t.AgreesOutside (replaceFile t target text).1 (fun p => p = target ∨
      p = temporaryPlace target ∨ t.follow (temporaryPlace target) = some p) := by
  have hne : temporaryPlace target ≠ [] := Path.beside_ne_nil _ _
  cases hlocked : t.isLocked target.parent with
  | true =>
    rw [replaceFile_of_locked hlocked]
    exact .refl t _
  | false =>
    rcases replaceFile_of_open hlocked text with ⟨now,u,-,hwrite,hreplaced⟩ |
      ⟨u,-,hwrite,hreplaced⟩ | ⟨e,-,hreplaced⟩
    · obtain ⟨q,hfollow,-,rfl⟩ := Tree.write_eq_ok hwrite
      rw [hreplaced]
      refine Tree.AgreesOutside.trans ((t.agreesOutside_put q _).mono ?_)
        ((Tree.agreesOutside_move _ hne).mono ?_)
      · rintro p rfl
        exact .inr (.inr hfollow)
      · rintro p (hp | hp)
        · exact .inl hp
        · exact .inr (.inl hp)
    · obtain ⟨q,hfollow,-,rfl⟩ := Tree.write_eq_ok hwrite
      rw [hreplaced]
      refine (t.agreesOutside_put q _).mono ?_
      rintro p rfl
      exact .inr (.inr hfollow)
    · rw [hreplaced]
      simp only [abandon]
      split
      · split
        · exact .refl t _
        · exact (t.agreesOutside_erase hne).mono (fun p hp => .inr (.inl hp))
      · exact .refl t _
      · exact .refl t _

/-- Nothing is left at the place of the temporary file, unless nothing was done at all or the new text
has no bytes: that leaves an empty file where the temporary one was written. -/
theorem replaceFile_cases (t : Tree) (target : Path) (text : Text) :
    (replaceFile t target text).1.get? (temporaryPlace target) = none ∨
      (replaceFile t target text).1 = t ∨
      (replaceFile t target text).2 = .error .unencodable ∧
        ∃ q, t.follow (temporaryPlace target) = some q ∧
          (replaceFile t target text).1 = t.put q (.file []) := by
  have hne : temporaryPlace target ≠ [] := Path.beside_ne_nil _ _
  cases hlocked : t.isLocked target.parent with
  | true => exact .inr (.inl (by rw [replaceFile_of_locked hlocked]))
  | false =>
    rcases replaceFile_of_open hlocked text with ⟨now,u,-,-,hreplaced⟩ |
      ⟨u,-,hwrite,hreplaced⟩ | ⟨e,-,hreplaced⟩
    · exact .inl (hreplaced ▸ u.get?_move_source hne (temporaryPlace_ne target))
    · obtain ⟨q,hfollow,-,rfl⟩ := Tree.write_eq_ok hwrite
      exact .inr (.inr ⟨by rw [hreplaced],q,hfollow,by rw [hreplaced]⟩)
    · rw [hreplaced]
      simp only [abandon]
      split
      · split
        · exact .inr (.inl rfl)
        · exact .inl (by rw [t.get?_erase hne,if_pos rfl])
      · exact .inr (.inl rfl)
      · exact .inr (.inl rfl)

/-- The second tree has the bytes of a file where the place of its first free backup leads to, or it
is the first tree. -/
def IsBackedUp (t : Tree) (target : Path) (bytes : List UInt8) (u : Tree) : Prop :=
  u = t ∨ ∃ k place, (∀ j < k, IsTaken t target j) ∧
    t.follow (backupPlace target k) = some place ∧ t.get? place = none ∧
      u = t.put place (.file bytes)

section BackedUp
variable {t u : Tree} {target : Path} {bytes : List UInt8} (h : IsBackedUp t target bytes u)
include h

/-- The backup does not change where the temporary file is written. -/
theorem IsBackedUp.follow_eq (p : Path) : u.follow p = t.follow p := by
  rcases h with rfl | ⟨k,place,-,-,hfree,rfl⟩
  · rfl
  · exact (Tree.sameLinks_put hfree bytes).follow_eq p

theorem IsBackedUp.get?_eq {p : Path} {e : Entry} (hp : t.get? p = some e) :
    u.get? p = some e := by
  rcases h with rfl | ⟨k,place,-,-,hfree,rfl⟩
  · exact hp
  · exact Tree.get?_put_of_free hfree hp _

theorem IsBackedUp.exists_added : ∃ k, (∀ j < k, IsTaken t target j) ∧
    ∀ p e, t.get? p = none → u.get? p = some e →
      t.follow (backupPlace target k) = some p ∧ e = .file bytes := by
  rcases h with rfl | ⟨k,place,hbefore,hfollow,hfree,rfl⟩
  · refine ⟨0,fun j hj => absurd hj (Nat.not_lt_zero j),fun p e hnone hsome => ?_⟩
    simp [hnone] at hsome
  · refine ⟨k,hbefore,fun p e hnone hsome => ?_⟩
    by_cases hp : p = place
    · subst hp
      rw [Tree.get?_put_self _ _ _ (by rintro rfl; simp at hfree)] at hsome
      exact ⟨hfollow,(Option.some.inj hsome).symm⟩
    · simp [Tree.get?_put_of_ne _ _ hp,hnone] at hsome

end BackedUp

/-- Replacing a file ends with its backup, or goes on to the file whatever became of the backup. -/
theorem Workspace.replace_isBackedUp (w : Workspace) {t : Tree} {target : Path} (h : t.IsReal target)
    (bytes : List UInt8) (text : Text) :
    ∃ b, IsBackedUp t target bytes b ∧ ((w.replace t target bytes text).1 = b ∨
      ∃ report : Option String → Effect, w.replace t target bytes text =
        ((replaceFile b target text).1,(replaceFile b target text).2.map report)) := by
  obtain ⟨i₀,hi₀,hfree₀⟩ := exists_not_isTaken h
  rcases freeBackup_cases t target (t.entries.length + 1) 0 with ⟨i,-,hbefore,hend⟩ | hall
  · simp only [Nat.zero_add] at hbefore hend
    rcases hend with ⟨e,-,hsearch⟩ | ⟨hstat,hsearch⟩
    · exact ⟨t,.inl rfl,.inl (by simp only [replace,hsearch])⟩
    · cases hwrite : t.write (backupPlace target i) bytes with
      | error e => exact ⟨t,.inl rfl,.inr ⟨_,by simp only [replace,hsearch,hwrite]; rfl⟩⟩
      | ok u =>
        obtain ⟨place,hfollow,-,rfl⟩ := Tree.write_eq_ok hwrite
        have hfree : t.get? place = none := by
          cases he : t.get? place with
          | none => rfl
          | some e => simp [Tree.stat,hfollow,he] at hstat
        refine ⟨_,.inr ⟨i,place,hbefore,hfollow,hfree,rfl⟩,?_⟩
        by_cases hinside : w.root.isPrefixOf (backupPlace target i) = true
        · exact .inr ⟨_,by simp only [replace,hsearch,hwrite,if_pos hinside]; rfl⟩
        · refine .inl ?_
          simp only [replace,hsearch,hwrite,if_neg hinside]
  · have := hall i₀ hi₀
    rw [Nat.zero_add] at this
    exact absurd this hfree₀

/-! ### A call -/

/-- From the first tree to the third: by way of the second one, which has the backup, and by way of the
temporary file. An empty temporary file is left if the call is broken off there. -/
structure Passes (t : Tree) (target : Path) (bytes : List UInt8) (b u : Tree) (Broken : Prop) :
    Prop where
  backedUp : IsBackedUp t target bytes b
  far : ∀ p, p ≠ target → p ≠ temporaryPlace target → t.follow (temporaryPlace target) ≠ some p →
    u.get? p = b.get? p
  near : u.get? (temporaryPlace target) = none ∨ u = b ∨
    Broken ∧ ∃ q, t.follow (temporaryPlace target) = some q ∧ u = b.put q (.file [])

theorem Passes.refl (t : Tree) (target : Path) (bytes : List UInt8) (Broken : Prop) :
    Passes t target bytes t t Broken where
  backedUp := .inl rfl
  far := fun _ _ _ _ => rfl
  near := .inr (.inl rfl)

theorem Workspace.process_passes (w : Workspace) {t : Tree} {path : String} {target : Path}
    {bytes : List UInt8} (h : t.IsReal target) (hresolved : t.resolve w.root path = some target)
    (hfile : t.get? target = some (.file bytes)) (dryRun : Bool) :
    ∃ b, Passes t target bytes b (w.process t path dryRun).1
      ((w.process t path dryRun).2 = .error .unencodable) := by
  rcases w.process_cases t path dryRun with ⟨m,hsame,-⟩ | ⟨r,hsame,-⟩ |
    ⟨target',bytes',vs,present,canonical,hwants,hprocess⟩
  · exact ⟨t,hsame ▸ .refl t target bytes _⟩
  · exact ⟨t,hsame ▸ .refl t target bytes _⟩
  · obtain rfl : target = target' := Option.some.inj (hresolved.symm.trans hwants.resolved)
    obtain rfl : bytes = bytes' := by simpa [hfile] using hwants.file
    obtain ⟨b,hbacked,hcases⟩ := w.replace_isBackedUp h bytes canonical
    refine ⟨b,hbacked,fun p hp htemporary hfollow => ?_,?_⟩
    · rcases hcases with hsame | ⟨report,hreplaced⟩
      · rw [hprocess,hsame]
      · rw [hprocess,hreplaced]
        refine agreesOutside_replaceFile b target canonical p ?_
        rw [hbacked.follow_eq]
        simp [hp,htemporary,hfollow]
    · rcases hcases with hsame | ⟨report,hreplaced⟩
      · rw [hprocess,hsame]
        exact .inr (.inl rfl)
      · rw [hprocess,hreplaced]
        rcases replaceFile_cases b target canonical with hgone | hkept | ⟨hbroken,q,hfollow,hput⟩
        · exact .inl hgone
        · exact .inr (.inl hkept)
        · rw [hbacked.follow_eq] at hfollow
          refine .inr (.inr ⟨?_,q,hfollow,hput⟩)
          rw [hbroken]
          rfl

section Passes
variable {t b u : Tree} {target : Path} {bytes : List UInt8} {Broken : Prop}
  (h : Passes t target bytes b u Broken)
include h

theorem Passes.kept {p : Path} {e : Entry} (hp : t.get? p = some e) (hne : p ≠ target)
    (htemporary : p ≠ temporaryPlace target) (hfollow : t.follow (temporaryPlace target) ≠ some p) :
    u.get? p = some e := by
  rw [h.far p hne htemporary hfollow]
  exact h.backedUp.get?_eq hp

theorem Passes.gone (hfile : t.get? target = some (.file bytes)) (hwhole : ¬ Broken)
    (hchanged : u.get? target ≠ some (.file bytes)) : u.get? (temporaryPlace target) = none := by
  rcases h.near with hgone | rfl | ⟨hbroken,-⟩
  · exact hgone
  · exact absurd (h.backedUp.get?_eq hfile) hchanged
  · exact absurd hbroken hwhole

section Alone
variable (hfile : t.get? target = some (.file bytes))
  (hself : t.follow (temporaryPlace target) = some (temporaryPlace target))
include hfile hself

/-- Where the temporary file stands alone, what comes is there before it is written, or is the one that
is left. -/
theorem Passes.added {p : Path} {e : Entry} (hnone : t.get? p = none) (hsome : u.get? p = some e) :
    b.get? p = some e ∨ Broken ∧ p = temporaryPlace target ∧ e = .file [] := by
  by_cases htemporary : p = temporaryPlace target
  · subst htemporary
    rcases h.near with hgone | rfl | ⟨hbroken,q,hfollow,rfl⟩
    · simp [hgone] at hsome
    · exact .inl hsome
    · obtain rfl : temporaryPlace target = q := Option.some.inj (hself.symm.trans hfollow)
      rw [Tree.get?_put_self b (temporaryPlace target) _ (Path.beside_ne_nil _ _)] at hsome
      exact .inr ⟨hbroken,rfl,(Option.some.inj hsome).symm⟩
  · have hne : p ≠ target := by
      rintro rfl
      simp [hfile] at hnone
    rw [← h.far p hne htemporary (by simpa [hself] using Ne.symm htemporary)]
    exact .inl hsome

end Alone

end Passes

/-- What a call touches besides its file. Where nothing is at the place of the temporary file, every
other entry stays as it is, and what comes is the backup: the bytes of the file where the first free
place of a backup leads to, which is that place unless a link is there. If the new text has no bytes,
that ends the call, and an empty temporary file comes too. Otherwise the place of the temporary file and
what it leads to are touched, and whenever the file changes nothing is left there, unless the call ended
in this way. -/
theorem Workspace.process_touches (w : Workspace) {t u : Tree} (hroot : t.IsReal w.root)
    {path : String} {target : Path} {bytes : List UInt8} {x : Except Mishap Report}
    (hresolved : t.resolve w.root path = some target) (hfile : t.get? target = some (.file bytes))
    (hrun : w.process t path false = (u,x)) :
    (t.get? (temporaryPlace target) = none →
      (∀ p e, t.get? p = some e → p ≠ target → u.get? p = some e) ∧
        ∃ k, (∀ j < k, IsTaken t target j) ∧
          ∀ p e, t.get? p = none → u.get? p = some e →
            (t.follow (backupPlace target k) = some p ∧ e = .file bytes ∧
              (t.IsUnlinked (backupPlace target k) → p = backupPlace target k)) ∨
            (p = temporaryPlace target ∧ e = .file [] ∧ x = .error .unencodable)) ∧
    (∀ p e, t.get? p = some e → p ≠ target → p ≠ temporaryPlace target →
      t.follow (temporaryPlace target) ≠ some p → u.get? p = some e) ∧
    (x ≠ .error .unencodable → u.get? target ≠ some (.file bytes) →
      u.get? (temporaryPlace target) = none) := by
  have hreal : t.IsReal target := Tree.isReal_of_resolve hroot hresolved
  obtain ⟨b,hpasses⟩ := w.process_passes hreal hresolved hfile false
  rw [hrun] at hpasses
  refine ⟨fun hfree => ?_,fun p e he => hpasses.kept he,hpasses.gone hfile⟩
  -- With no link there the temporary file is written at its own place.
  have hself : t.follow (temporaryPlace target) = some (temporaryPlace target) :=
    (hreal.beside (Path.leadsOn_append (by decide)) hfree).follow_eq
  constructor
  · intro p e he hp
    have hother : p ≠ temporaryPlace target := by
      rintro rfl
      simp [hfree] at he
    exact hpasses.kept he hp hother (by simpa [hself] using hother.symm)
  · obtain ⟨k,hbefore,hadded⟩ := hpasses.backedUp.exists_added
    refine ⟨k,hbefore,fun p e hnone hsome => ?_⟩
    rcases hpasses.added hfile hself hnone hsome with hbackup | ⟨hbroken,hplace,he⟩
    · obtain ⟨hfollow,he⟩ := hadded p e hnone hbackup
      refine .inl ⟨hfollow,he,fun hunlinked => ?_⟩
      have hbackup : t.IsReal (backupPlace target k) :=
        (hreal.of_prefix target.parent_prefix).concat (Path.leadsOn_append (by decide)) hunlinked
      rw [hbackup.follow_eq] at hfollow
      exact (Option.some.inj hfollow).symm
    · exact .inr ⟨hplace,he,hbroken⟩

/-- Two files, with a link to nothing at the place where the first one has its backup. -/
def misledBackup : Tree where
  entries := [(["ws"],.directory), (["ws","a.yaml"],.file unsettled),
    (["ws","b.yaml"],.file unsettled), (["ws","a.kubeshort.backup"],.link "spare")]

/-- The backup comes where the link leads to, and the other file stays. -/
theorem Workspace.process_misledBackup :
    misledBackup.IsReal settling.root ∧
      misledBackup.resolve settling.root "a.yaml" = some ["ws","a.yaml"] ∧
      misledBackup.get? ["ws","a.yaml"] = some (.file unsettled) ∧
      misledBackup.get? (temporaryPlace ["ws","a.yaml"]) = none ∧
      ∃ u, (settling.process misledBackup "a.yaml" false).1 = u ∧
        u.get? ["ws","a.yaml"] ≠ some (.file unsettled) ∧
        u.get? (temporaryPlace ["ws","a.yaml"]) = none ∧
        u.get? ["ws","b.yaml"] = some (.file unsettled) ∧
        u.get? ["ws","spare"] = some (.file unsettled) ∧
        ∃ k, misledBackup.follow (backupPlace ["ws","a.yaml"] k) = some ["ws","spare"] := by
  have hroot : misledBackup.IsReal ([] ++ ["ws"]) := by
    refine misledBackup.isReal_nil.concat (by decide) ?_
    rintro e he
    obtain rfl : Entry.directory = e := Option.some.inj he
    rfl
  have hresolved : misledBackup.resolve settling.root "a.yaml" = some ["ws","a.yaml"] := by
    decide +kernel
  have hfile : misledBackup.get? ["ws","a.yaml"] = some (.file unsettled) := by decide +kernel
  have hother : misledBackup.get? ["ws","b.yaml"] = some (.file unsettled) := by decide +kernel
  have hfree : misledBackup.get? (temporaryPlace ["ws","a.yaml"]) = none := by decide +kernel
  have hnone : misledBackup.get? ["ws","spare"] = none := by decide +kernel
  have hchanged : (settling.process misledBackup "a.yaml" false).1.get? ["ws","a.yaml"] ≠
      some (.file unsettled) := by
    decide +kernel
  have hspare : (settling.process misledBackup "a.yaml" false).1.get? ["ws","spare"] =
      some (.file unsettled) := by
    decide +kernel
  have hreported : (settling.process misledBackup "a.yaml" false).2.toOption.isSome = true := by
    decide +kernel
  have hwhole : (settling.process misledBackup "a.yaml" false).2 ≠ .error .unencodable := by
    intro hbroken
    simp [hbroken,Except.toOption] at hreported
  have hrun := (Prod.eta (settling.process misledBackup "a.yaml" false)).symm
  obtain ⟨hframe,-,hgone⟩ := Workspace.process_touches settling hroot hresolved hfile hrun
  obtain ⟨hkept,k,-,hadded⟩ := hframe hfree
  refine ⟨hroot,hresolved,hfile,hfree,_,rfl,hchanged,hgone hwhole hchanged,
    hkept _ _ hother (by decide),hspare,k,?_⟩
  rcases hadded _ _ hnone hspare with ⟨hfollow,-⟩ | ⟨htemporary,-⟩
  · exact hfollow
  · exact absurd htemporary (by decide +kernel)

/-- A file at the place of the temporary file. -/
def busyTemporary : Tree where
  entries := [(["ws"],.directory), (["ws","a.yaml"],.file unsettled),
    (["ws","a.kubeshort.tmp"],.file [])]

/-- That file is lost, though it is not the one that is processed. -/
theorem Workspace.process_busyTemporary :
    busyTemporary.resolve settling.root "a.yaml" = some ["ws","a.yaml"] ∧
      busyTemporary.get? ["ws","a.kubeshort.tmp"] = some (.file []) ∧
      (settling.process busyTemporary "a.yaml" false).1.get? ["ws","a.kubeshort.tmp"] = none := by
  decide +kernel

end ShortVolume
