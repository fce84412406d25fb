import ShortVolume.Proofs.Workspace.Announcement
import ShortVolume.Proofs.Workspace.Frame
set_option autoImplicit false

/-!
The exact effect of a replaced file.

In a file system without links a file is replaced by the text that the writer leaves. Its bytes go to a
place beside it where nothing was, and no other entry changes. Where a directory keeps the temporary
file from being written, or the text has no bytes, the backup comes all the same, and the file stays.
In a locked directory nothing changes at all.

What the writer leaves is the canonical text, unless it has jammed: then nothing is left of the
documents, and a file that was to be brought into canonical form loses its content to the backup.
-/

namespace ShortVolume

namespace Writer

theorem writeDocuments_of_working {w : Writer} (h : w.jammed = false) (ds : List Document) :
    w.writeDocuments ds = w.format.writeDocuments ds := by
  obtain ⟨f,jammed⟩ := w
  obtain rfl : jammed = false := h
  rfl

/-- A jammed writer leaves what stands between the documents. -/
theorem writeDocuments_of_jammed {w : Writer} (h : w.jammed = true) {ds : List Document}
    {s : Text} (hs : w.writeDocuments ds = .ok s) :
    ∃ n, s = w.format.separator.intercalate (List.replicate n "") := by
  obtain ⟨vs,-,hwrite⟩ := Except.bind_eq_ok_iff.mp hs
  obtain ⟨texts,-,hs⟩ := Except.bind_eq_ok_iff.mp hwrite
  refine ⟨texts.length,?_⟩
  rw [← Except.pure_eq_ok_iff.mp hs,if_pos h,List.map_const']

end Writer

namespace Workspace

/-- What a replacement takes: a file in the workspace whose volumes are written differently, in a file
system without links and with room for the backup. -/
structure IsDue (w : Workspace) (t : Tree) (path : String) (p : Path) (bytes : List UInt8)
    (ds : List Document) (present : String) (text : Text) : Prop where
  sound : t.IsSound
  noLink : ∀ q e, t.get? q = some e → e.isLink = false
  noNul : Path.holdsNul path = false
  resolved : t.resolve w.root path = some (w.root ++ p)
  inside : p ≠ []
  file : t.get? (w.root ++ p) = some (.file bytes)
  room : HasRoom t (w.root ++ p)
  decoded : (Text.decodeFile bytes).map String.ofList = .ok present
  documents : documents present = .ok ds
  volumes : ds ≠ []
  written : w.writer.writeDocuments ds = .ok text
  differs : differs present text = true

/-- The report of a file that was to be replaced. -/
def replacement (path : String) (ds : List Document) (present : String) (text : Text) (e : Effect) :
    Report :=
  ⟨path,.accepted (acceptance (ds.map Document.volume) present text false e)⟩

section Due
variable {w : Workspace} {t : Tree} {path : String} {p : Path} {bytes : List UInt8}
  {ds : List Document} {present : String} {text : Text} (h : w.IsDue t path p bytes ds present text)
include h

theorem IsDue.isPlain : t.IsPlain where
  direct := fun q e hq name hname => (h.sound.named q e hq name hname).leadsOn
  parent := h.sound.parent
  noLink := h.noLink

theorem IsDue.examine_eq : w.examine bytes = .ok (ds.map Document.volume,present,text) :=
  examine_eq_ok_iff.mpr ⟨h.decoded,ds,h.documents,rfl,h.written⟩

theorem IsDue.isWanted : IsWanted false (ds.map Document.volume) present text :=
  ⟨rfl,h.differs,by simpa using h.volumes⟩

/-- The text that is written is the canonical one, or what a jammed writer leaves. -/
theorem IsDue.text_eq :
    (w.writer.jammed = false → transcode w.writer.format present = .ok text) ∧
      (w.writer.jammed = true →
        ∃ n, text = w.writer.format.separator.intercalate (List.replicate n "")) := by
  refine ⟨fun hworking => ?_,fun hjammed => Writer.writeDocuments_of_jammed hjammed h.written⟩
  have hwritten := h.written
  rw [Writer.writeDocuments_of_working hworking] at hwritten
  exact Except.bind_eq_ok_iff.mpr ⟨ds,h.documents,hwritten⟩

theorem IsDue.process_eq :
    w.process t path false = ((w.replace t (w.root ++ p) bytes text).1,
      (w.replace t (w.root ++ p) bytes text).2.map (replacement path ds present text)) := by
  have hreal := h.sound.isReal h.file rfl
  rw [w.process_of_resolved false h.noNul h.resolved hreal h.file,h.examine_eq]
  simp only [settle_of_wanted w t _ _ h.isWanted]
  cases (w.replace t (w.root ++ p) bytes text).2 <;> rfl

/-- In a locked directory nothing changes. -/
theorem IsDue.process_of_locked (hlocked : t.isLocked (w.root ++ p).parent = true) :
    ∃ warning message, w.process t path false =
      (t,.ok (replacement path ds present text ⟨false,none,some warning,some message⟩)) := by
  obtain ⟨warning,message,hgiven⟩ := w.replace_of_hasRoom_locked h.isPlain h.file
    (h.sound.named _ _ h.file) h.room text hlocked
  refine ⟨warning,message,?_⟩
  rw [h.process_eq,hgiven]
  rfl

/-- In any other directory the backup is written, and what follows is up to the temporary file. -/
theorem IsDue.process_of_open (hopen : t.isLocked (w.root ++ p).parent = false) :
    ∃ b b', b ≠ [] ∧ IsSpare t (w.root ++ p) (w.root ++ b) ∧
      b' = t.put (w.root ++ b) (.file bytes) ∧ b'.IsPlain ∧
      b'.get? (w.root ++ p) = some (.file bytes) ∧
      b'.get? (temporaryPlace (w.root ++ p)) = t.get? (temporaryPlace (w.root ++ p)) ∧
      w.process t path false = ((replaceFile b' (w.root ++ p) text).1,
        (replaceFile b' (w.root ++ p) text).2.map (fun failure =>
          replacement path ds present text ⟨failure.isNone,some (Path.relative b),none,failure⟩)) := by
  obtain ⟨b,hb,-,hspare,hplain,hreplace⟩ := w.replace_of_hasRoom h.isPlain h.file
    (h.sound.named _ _ h.file) h.room text h.inside hopen
  have hother : temporaryPlace (w.root ++ p) ≠ w.root ++ b := by
    intro heq
    exact hspare.not_isTemporary (heq ▸ temporaryPlace_isTemporary _)
  refine ⟨b,_,hb,hspare,rfl,hplain,Tree.get?_put_of_free hspare.free h.file (.file bytes),
    Tree.get?_put_of_ne t (.file bytes) hother,?_⟩
  rw [h.process_eq,hreplace]
  cases (replaceFile (t.put (w.root ++ b) (.file bytes)) (w.root ++ p) text).2 <;> rfl

end Due

/-- What replacing a file does. In a locked directory nothing changes, and it is reported that nothing
could be done. In any other one its bytes come to a place beside it where nothing was, under the name that
is reported. If nothing is at the place of the temporary file, and the text has bytes, the file then holds
the text that is reported; a text without bytes ends the call, and leaves an empty temporary file. If a
directory is there, the file stays, and it is reported that it could not be written. Nothing else changes.
The text is the canonical one, unless the writer has jammed, and one in YAML has bytes. -/
theorem process_replaces {w : Workspace} {t : Tree} {path : String} {p : Path} {bytes : List UInt8}
    {ds : List Document} {present : String} {text : Text}
    (h : w.IsDue t path p bytes ds present text) :
    ((w.writer.jammed = false → transcode w.writer.format present = .ok text) ∧
      (w.writer.jammed = true →
        ∃ n, text = w.writer.format.separator.intercalate (List.replicate n "")) ∧
      (w.writer.format = .yaml → ∃ now, Text.Utf8.bytes? text = some now)) ∧
    (t.isLocked (w.root ++ p).parent = true →
      ∃ r, w.process t path false = (t,.ok r) ∧ r.path = path ∧ r.success = false ∧
        ∃ warning message, r.effect = ⟨false,none,some warning,some message⟩) ∧
    (t.isLocked (w.root ++ p).parent = false →
      ∃ b u x, w.process t path false = (u,x) ∧ b ≠ [] ∧
        (w.root ++ b).parent = (w.root ++ p).parent ∧ t.get? (w.root ++ b) = none ∧
        (t.get? (temporaryPlace (w.root ++ p)) = none →
          (∀ now, Text.Utf8.bytes? text = some now →
            (∃ r, x = .ok r ∧ r.path = path ∧ r.verdict = .replaced ∧ r.success = true ∧
              r.canonical? = some text ∧ r.effect = ⟨true,some (Path.relative b),none,none⟩) ∧
            u.get? (temporaryPlace (w.root ++ p)) = none ∧
            ∀ q, u.get? q = if q = w.root ++ p then some (.file now)
              else if q = w.root ++ b then some (.file bytes) else t.get? q) ∧
          (Text.Utf8.bytes? text = none → x = .error .unencodable ∧
            ∀ q, u.get? q = if q = temporaryPlace (w.root ++ p) then some (.file [])
              else if q = w.root ++ b then some (.file bytes) else t.get? q)) ∧
        (t.get? (temporaryPlace (w.root ++ p)) = some .directory →
          (∃ r message, x = .ok r ∧ r.path = path ∧ r.success = false ∧
            r.effect = ⟨false,some (Path.relative b),none,some message⟩) ∧
          u.get? (w.root ++ p) = some (.file bytes) ∧
          ∀ q, u.get? q = if q = w.root ++ b then some (.file bytes) else t.get? q)) := by
  refine ⟨⟨h.text_eq.1,h.text_eq.2,fun hyaml => ?_⟩,fun hlocked => ?_,fun hopen => ?_⟩
  · have hwhole := Writer.isWhole_of_yaml hyaml h.written
    rwa [← Text.Utf8.isSome_bytes?,Option.isSome_iff_exists] at hwhole
  · obtain ⟨warning,message,hrun⟩ := h.process_of_locked hlocked
    exact ⟨_,hrun,rfl,rfl,warning,message,rfl⟩
  obtain ⟨b,b',hb,hspare,rfl,hplain,hfile,htemporary,hrun⟩ := h.process_of_open hopen
  have hview := Tree.get?_put t (.file bytes) hspare.ne_nil
  rcases hreplaced : replaceFile (t.put (w.root ++ b) (.file bytes)) (w.root ++ p) text with ⟨u,x⟩
  rw [hreplaced] at hrun
  refine ⟨b,u,_,hrun,hb,hspare.parent,hspare.free,fun hfree => ⟨fun now hnow => ?_,fun hnone => ?_⟩,
    fun hdirectory => ?_⟩
  · rw [hfree] at htemporary
    obtain ⟨u',hu',-,hrenewal⟩ := replaceFile_isRenewal hplain hfile hopen (by simp [htemporary])
      hspare.isTooLong_temporaryPlace hnow
    obtain ⟨rfl,rfl⟩ := Prod.mk.inj (hreplaced.symm.trans hu')
    refine ⟨⟨_,rfl,rfl,verdict_of_wanted h.isWanted _,rfl,?_,rfl⟩,?_,fun q => ?_⟩
    · simp [Report.canonical?,replacement,acceptance,h.differs]
    · rw [hrenewal,if_neg (temporaryPlace_ne _),if_pos rfl]
    · rw [hrenewal.isUpdate htemporary q,hview]
  · have hstranded := replaceFile_of_unencodable hplain hfile hopen (by simp [htemporary,hfree])
      hspare.isTooLong_temporaryPlace hnone
    obtain ⟨rfl,rfl⟩ := Prod.mk.inj (hreplaced.symm.trans hstranded)
    refine ⟨rfl,fun q => ?_⟩
    rw [Tree.get?_put _ _ (p := temporaryPlace (w.root ++ p)) (Path.beside_ne_nil _ _),hview]
  · have hkept := replaceFile_of_directory hplain hopen (htemporary.trans hdirectory) text
    obtain ⟨rfl,rfl⟩ := Prod.mk.inj (hreplaced.symm.trans hkept)
    exact ⟨⟨_,_,rfl,rfl,rfl,rfl⟩,hfile,hview⟩

/-- The text of `unsettled` with a mark before it and with two characters at the end of a line. -/
def marked : List UInt8 :=
  [0xEF,0xBB,0xBF] ++ Text.Utf8.encode "vol_type: gce_pd\r\nvol_id: d\r\nname: n\r\n".toList

/-- Two files with these bytes, one of which has a backup; a directory keeps the temporary file of the
other one from being written. -/
def hindered : Tree where
  entries := [(["ws"],.directory), (["ws","a.yaml"],.file marked),
    (["ws","a.kubeshort.backup"],.file []), (["ws","b.yaml"],.file marked),
    (["ws","b.kubeshort.tmp"],.directory)]

theorem isDue_hindered {name : String} {n : Nat} (hname : IsName name)
    (hfile : hindered.get? (settling.root ++ [name]) = some (.file marked))
    (hfree : hindered.stat (backupPlace (settling.root ++ [name]) n) = .ok none)
    (hshort : ∀ k < n + 1, isTooLong (backupName name k) = false) :
    ∃ ds, settling.IsDue hindered name [name] marked ds
      "vol_type: gce_pd\nvol_id: d\nname: n\n" "name: n\nvol_type: gce_pd\nvol_id: d\n" := by
  have hsound : hindered.IsSound := Tree.isSound_of_entries (by decide)
  have hplain : hindered.IsPlain := Tree.isPlain_of_entries (by decide)
  have hnames : ∀ other ∈ [name], IsName other := by simpa using hname
  have hcanonical : transcode .yaml "vol_type: gce_pd\nvol_id: d\nname: n\n" =
      .ok "name: n\nvol_type: gce_pd\nvol_id: d\n" :=
    Except.toOption_eq_some_iff.mp (by decide +kernel)
  obtain ⟨ds,hdocuments,hwritten⟩ := Except.bind_eq_ok_iff.mp hcanonical
  have hrelative : Path.relative [name] = name := by simp [Path.relative]
  refine ⟨ds,⟨hsound,hplain.noLink,?_,?_,List.cons_ne_nil _ _,hfile,hasRoom_of_free hfree hshort,
    Except.toOption_eq_some_iff.mp (by decide +kernel),hdocuments,?_,hwritten,by decide +kernel⟩⟩
  · exact hrelative ▸ Path.not_holdsNul_relative hnames
  · exact hrelative ▸ Tree.resolve_relative hnames (List.cons_ne_nil _ _) (hsound.isReal hfile rfl)
  · rintro rfl
    have hempty : Format.yaml.writeDocuments [] = .ok "" := rfl
    exact absurd (Except.ok.inj (hempty.symm.trans hwritten)) (by decide)

/-- The first file is replaced, and its bytes are in a second backup; the other one is left. -/
theorem process_hindered :
    (∃ u r, settling.process hindered "a.yaml" false = (u,.ok r) ∧ r.verdict = .replaced ∧
      u.get? (settling.root ++ ["a.yaml"]) =
        some (.file (Text.Utf8.encode "name: n\nvol_type: gce_pd\nvol_id: d\n".toList)) ∧
      ∃ b, hindered.get? (settling.root ++ b) = none ∧
        u.get? (settling.root ++ b) = some (.file marked)) ∧
    ∃ u r, settling.process hindered "b.yaml" false = (u,.ok r) ∧ r.success = false ∧
      u.get? (settling.root ++ ["b.yaml"]) = some (.file marked) := by
  have hfirst : hindered.get? (settling.root ++ ["a.yaml"]) = some (.file marked) := by decide +kernel
  have hsecond : hindered.get? (settling.root ++ ["b.yaml"]) = some (.file marked) := by decide +kernel
  obtain ⟨ds,hdue⟩ := isDue_hindered (n := 1) (by decide) hfirst
    (Except.toOption_eq_some_iff.mp (by decide +kernel)) (by decide +kernel)
  obtain ⟨ds',hdue'⟩ := isDue_hindered (n := 0) (by decide) hsecond
    (Except.toOption_eq_some_iff.mp (by decide +kernel)) (by decide +kernel)
  obtain ⟨-,-,hopen⟩ := process_replaces hdue
  obtain ⟨-,-,hopen'⟩ := process_replaces hdue'
  obtain ⟨b,u,x,hrun,-,-,hfree,hends,-⟩ := hopen (by decide)
  obtain ⟨b',u',x',hrun',-,-,-,-,hleft⟩ := hopen' (by decide)
  obtain ⟨⟨r,rfl,-,hverdict,-⟩,-,hview⟩ := (hends (by decide +kernel)).1 _ (Text.Utf8.bytes?_ofString _)
  obtain ⟨⟨r',message,rfl,-,hsuccess,-⟩,hkept,-⟩ := hleft (by decide +kernel)
  have hother : settling.root ++ b ≠ settling.root ++ ["a.yaml"] := by
    intro heq
    rw [heq,hfirst] at hfree
    simp at hfree
  exact ⟨⟨u,r,hrun,hverdict,(hview _).trans (if_pos rfl),b,hfree,
    (hview _).trans ((if_neg hother).trans (if_pos rfl))⟩,u',r',hrun',hsuccess,hkept⟩

/-- A disk whose partition has more digits than an integer may be written with. -/
def longPartition : Value :=
  .map [(.text "vol_type",.text "gce_pd"),(.text "vol_id",.text "d"),
    (.text "partition",.int (tenTo 4300))]

theorem exists_longPartition :
    ∃ d, Document.ofValue longPartition = .ok d ∧
      Format.yaml.writeDocuments [d] = .error (.unprintable .longInteger) := by
  have hlong : (Document.ofValue longPartition).toOption.map (fun d =>
      match Format.yaml.writeDocuments [d] with
      | .error (.unprintable .longInteger) => true
      | _ => false) = some true := by decide +kernel
  obtain ⟨d,hd,hwritten⟩ := Option.map_eq_some_iff.mp hlong
  refine ⟨d,Except.toOption_eq_some_iff.mp hd,?_⟩
  generalize Format.yaml.writeDocuments [d] = x at hwritten ⊢
  split at hwritten
  · rfl
  · exact absurd hwritten Bool.false_ne_true

/-- The workspace after a file with such a disk. -/
def jammedOn : Workspace :=
  settling.after ⟨"a.yaml",.rejected (.ofFailure Yaml.Error.report [] (.unprintable .longInteger))⟩

/-- The next file loses its content: it is reported as replaced, and nothing of its canonical text is
left. -/
theorem process_jammedOn :
    (∃ d, Document.ofValue longPartition = .ok d ∧
        Format.yaml.writeDocuments [d] = .error (.unprintable .longInteger)) ∧
      transcode .yaml "vol_type: gce_pd\nvol_id: d\nname: n\n" =
        .ok "name: n\nvol_type: gce_pd\nvol_id: d\n" ∧
      (jammedOn.process sharedNames "a.yml" false).2.toOption.map (fun r =>
        (r.verdict,r.success,r.present?,r.canonical?)) =
          some (.replaced,true,some "vol_type: gce_pd\nvol_id: d\nname: n\n",
            some ("" : Text)) ∧
      (jammedOn.process sharedNames "a.yml" false).1.get? ["ws","a.yml"] = some (.file []) :=
  ⟨exists_longPartition,Except.toOption_eq_some_iff.mp (by decide +kernel),by decide +kernel,
    by decide +kernel⟩

end Workspace

end ShortVolume
