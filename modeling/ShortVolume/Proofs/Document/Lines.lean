import ShortVolume.Proofs.Document.Rewrite
import ShortVolume.Proofs.Yaml.Load
set_option autoImplicit false

/-!
Texts of documents on lines of their own.

JSON puts nothing between documents but a line feed, which separates no documents for the reader. So
a text of one document is accepted and left as it is, and one of several documents is refused.
-/

namespace ShortVolume

/-- Where what is written is read as what it was made of, it holds the documents of the first text
and is left as it is. -/
theorem transcode_of_load {f : Format} {t u : Text} {xs : List Value}
    (h : transcode f t = .ok u) (hxs : handed t = .ok xs) (hload : Yaml.load u = .ok xs) :
    ∃ ds es, documents t = .ok ds ∧ documents u = .ok es ∧
      List.Forall₂ (fun d e => Volume.Equal e.volume d.volume.pruned ∧ e.wrapped = d.wrapped)
        ds es ∧
      transcode f u = .ok u := by
  obtain ⟨ds,vs,hds,hvs,rfl⟩ := handed_eq_ok_iff.mp hxs
  obtain ⟨hread,ws,hws,hordered⟩ := mapM_ofValue_ordered hvs
  have hdocuments : documents u = .ok (ds.map Document.arranged) :=
    documents_eq_ok_iff.mpr ⟨_,hload,hread⟩
  have hagain : handed u = handed t := by
    rw [hxs]
    exact handed_eq_ok_iff.mpr ⟨_,ws,hdocuments,hws,hordered⟩
  refine ⟨ds,_,hds,hdocuments,?_,?_⟩
  · rw [List.forall₂_map_right_iff,List.forall₂_same]
    exact fun d _ => ⟨d.volume.pruned.arranged_equal,rfl⟩
  · rw [← h,transcode_eq_rewrite,transcode_eq_rewrite,Writer.rewrite_eq,Writer.rewrite_eq,hagain]

/-! ### Lines -/

theorem Format.one_json {v : Value} (h : v.isLegibleRecord = true) :
    Format.json.one v = .ok ⟨Text.letters v.line ++ [.char '\n']⟩ := by
  obtain ⟨es,rfl,hes⟩ := Value.map_of_isLegibleRecord h
  have hprint := Value.print_eq_line ((Value.isLegible_map es).trans hes) 0
  have hrender : Json.render ⟨false,none⟩ (.map es) = .ok ⟨Text.letters (Value.map es).line⟩ := by
    rw [Json.render,show Json.print ⟨false,none⟩ 0 (.map es) = _ from hprint]
    rfl
  rw [Format.one,hrender]
  rfl

/-- The text of rows, with a line feed after each. -/
def rowsText (rows : List (List Letter)) : Text := ⟨rows.flatMap (fun row => row ++ [.char '\n'])⟩

theorem intercalate_rows (rows : List (List Letter)) :
    Text.intercalate "" (rows.map (fun row => ⟨row ++ [.char '\n']⟩)) = rowsText rows := by
  rw [Text.intercalate_empty,List.map_map,List.flatMap_def.symm]
  rfl

/-- Where each value has a row, the rows are what is written. -/
theorem setDown_rows {xs : List Value} {rows : List (List Letter)}
    (h : List.Forall₂ (fun x row => Format.json.one x = .ok ⟨row ++ [.char '\n']⟩) xs rows) :
    (Writer.new .json).setDown xs = .ok (rowsText rows) := by
  have htexts : xs.mapM Format.json.one = .ok (rows.map (fun row => ⟨row ++ [.char '\n']⟩)) := by
    rw [Except.mapM_eq_ok_iff,List.forall₂_map_right_iff]
    exact h
  rw [Writer.setDown,show (Writer.new .json).format = .json from rfl,htexts]
  exact congrArg Except.ok (intercalate_rows rows)

theorem setDown_json {xs : List Value} (h : ∀ x ∈ xs, x.isLegibleRecord = true) :
    (Writer.new .json).setDown xs = .ok (Yaml.linesText xs) := by
  have hrows : List.Forall₂ (fun x row => Format.json.one x = .ok ⟨row ++ [.char '\n']⟩)
      xs (xs.map (fun x => Text.letters x.line)) := by
    rw [List.forall₂_map_right_iff,List.forall₂_same]
    exact fun x hx => Format.one_json (h x hx)
  have htext : rowsText (xs.map (fun x => Text.letters x.line)) = Yaml.linesText xs := by
    ext1
    rw [rowsText,List.flatMap_map,Yaml.linesText,Value.lines,Text.toList_ofString,
      String.toList_ofList,Text.letters,List.map_flatMap]
    simp [Text.letters]
  rw [setDown_rows hrows,htext]

/-- What becomes of documents on lines. Where all records are legible, one document is read back and
left as it is, and more than one are not read at all; a character that is forbidden in documents but
not in JSON makes a text unreadable, and so does half of a pair. -/
theorem transcode_json {t u : Text} {xs : List Value} (h : transcode .json t = .ok u)
    (hxs : handed t = .ok xs) :
    ((∀ x ∈ xs, x.isLegibleRecord = true) → xs.length ≤ 1 →
      ∃ ds es, documents t = .ok ds ∧ documents u = .ok es ∧
        List.Forall₂ (fun d e => Volume.Equal e.volume d.volume.pruned ∧ e.wrapped = d.wrapped)
          ds es ∧
        transcode .json u = .ok u) ∧
    ((∀ x ∈ xs, x.isLegibleRecord = true) → 2 ≤ xs.length →
      ∃ e, documents u = .error (.yaml e)) ∧
    ((∃ l ∈ u.toList, l.is Yaml.isAllowed = false) →
      documents u = .error (.yaml (.of (.malformed .character)))) := by
  have hu (hlegible : ∀ x ∈ xs, x.isLegibleRecord = true) : u = Yaml.linesText xs := by
    rw [transcode_eq_rewrite,Writer.rewrite_eq,hxs] at h
    exact Except.ok.inj (h.symm.trans (setDown_json hlegible))
  refine ⟨?single,?many,?forbidden⟩
  case single =>
    intro hlegible hlength
    have hload : Yaml.load u = .ok xs := by
      rw [hu hlegible,Yaml.load_linesText hlegible hlength]
    exact transcode_of_load h hxs hload
  case many =>
    intro hlegible hlength
    obtain ⟨e,he⟩ := Yaml.load_linesText_many hlegible hlength
    exact ⟨e,by rw [documents,hu hlegible,he]⟩
  case forbidden =>
    intro hforbidden
    rw [documents,Yaml.load_forbidden hforbidden]

def diskRecord (name : Text) : Value :=
  .map [(.text "vol_type",.text "gce_pd"),(.text "vol_id",.text name)]

def oneDisk : String := "vol_type: gce_pd\nvol_id: a\n"

def oneLine : String := "\x7b\"vol_type\": \"gce_pd\", \"vol_id\": \"a\"\x7d\n"

/-- Two disks, and the lines that are no documents. -/
def twoDisks : String := "vol_type: gce_pd\nvol_id: a\n---\nvol_type: gce_pd\nvol_id: b\n"

def twoLines : String :=
  "\x7b\"vol_type\": \"gce_pd\", \"vol_id\": \"a\"\x7d\n\x7b\"vol_type\": \"gce_pd\", \"vol_id\": \"b\"\x7d\n"

/-- A disk with the character for a deletion in its name. -/
def deletedDisk : String := "vol_type: gce_pd\nvol_id: \"\\x7f\"\n"

def deletedLine : String := "\x7b\"vol_type\": \"gce_pd\", \"vol_id\": \"\x7f\"\x7d\n"

/-- A disk with half of a pair as its name. -/
def halfDisk : String := "vol_type: gce_pd\nvol_id: \"\\ud800\"\n"

def halfLine : Text := "\x7b\"vol_type\": \"gce_pd\", \"vol_id\": \"" ++ ⟨[.half 0]⟩ ++ "\"\x7d\n"

theorem transcode_diskLines :
    (transcode .json oneDisk = .ok oneLine ∧ handed oneDisk = .ok [diskRecord "a"] ∧
      ∃ ds es, documents oneDisk = .ok ds ∧ documents oneLine = .ok es ∧
        List.Forall₂ (fun d e => Volume.Equal e.volume d.volume.pruned ∧ e.wrapped = d.wrapped)
          ds es ∧
        transcode .json oneLine = .ok oneLine) ∧
    (transcode .json twoDisks = .ok twoLines ∧
      handed twoDisks = .ok [diskRecord "a",diskRecord "b"] ∧
      ∃ e, documents twoLines = .error (.yaml e)) ∧
    (transcode .json deletedDisk = .ok deletedLine ∧
      handed deletedDisk = .ok [diskRecord "\x7f"] ∧
      documents deletedLine = .error (.yaml (.of (.malformed .character)))) ∧
    transcode .json halfDisk = .ok halfLine ∧ handed halfDisk = .ok [diskRecord ⟨[.half 0]⟩] ∧
      documents halfLine = .error (.yaml (.of (.malformed .character))) := by
  have hone : (transcode .json oneDisk).toOption = some (oneLine : Text) ∧
      (handed oneDisk).toOption = some [diskRecord "a"] := by
    decide +kernel
  have htwo : (transcode .json twoDisks).toOption = some (twoLines : Text) ∧
      (handed twoDisks).toOption = some [diskRecord "a",diskRecord "b"] := by
    decide +kernel
  have hdeleted : (transcode .json deletedDisk).toOption = some (deletedLine : Text) ∧
      (handed deletedDisk).toOption = some [diskRecord "\x7f"] := by
    decide +kernel
  have hhalf : (transcode .json halfDisk).toOption = some halfLine ∧
      (handed halfDisk).toOption = some [diskRecord ⟨[.half 0]⟩] := by
    decide +kernel
  simp only [Except.toOption_eq_some_iff] at hone htwo hdeleted hhalf
  obtain ⟨hline,hrecord⟩ := hone
  obtain ⟨hlines,hrecords⟩ := htwo
  obtain ⟨hgone,hgones⟩ := hdeleted
  obtain ⟨hbroken,hbrokens⟩ := hhalf
  exact ⟨⟨hline,hrecord,(transcode_json hline hrecord).1 (by decide +kernel) (by decide)⟩,
    ⟨hlines,hrecords,(transcode_json hlines hrecords).2.1 (by decide +kernel) (by decide)⟩,
    ⟨hgone,hgones,(transcode_json hgone hgones).2.2 ⟨'\x7f',by decide +kernel,rfl⟩⟩,
    hbroken,hbrokens,(transcode_json hbroken hbrokens).2.2 ⟨.half 0,by decide +kernel,rfl⟩⟩

/-- Two documents become two lines that hold no documents. -/
theorem transcode_twoDisks :
    (transcode .json twoDisks).toOption = some (twoLines : Text) ∧ (documents twoLines).toOption.isNone := by
  decide +kernel

end ShortVolume
