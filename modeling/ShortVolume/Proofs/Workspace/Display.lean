import ShortVolume.Proofs.Console.Markup
import ShortVolume.Proofs.Document.Rewrite
import ShortVolume.Proofs.Workspace.Room
import ShortVolume.Workspace.Display
set_option autoImplicit false

/-!
When reports can be shown.

What the console shows of reports is made of texts that are taken as styled text: the words for their
outcome and their counts always are, while paths, names and errors may hold anything. If these are whole
and open no tag, the reports are shown. If all reports are shown, each of these texts is styled text, so
none of them closes a style that is not open.
-/

namespace ShortVolume.Display
open Console Markup

theorem onConsole_of_forall {lines : Marks → Except Mishap (List String)} {shown : List String}
    (h : ∀ m, lines m = .ok shown) : onConsole lines = .ok shown := by
  simp [onConsole,h,bind,Except.bind,pure,Except.pure]

theorem lines_of_onConsole {lines : Marks → Except Mishap (List String)} {shown : List String}
    (h : onConsole lines = .ok shown) : lines (marks 0) = .ok shown := by
  obtain ⟨shown',hlines,hrest⟩ := Except.bind_eq_ok_iff.mp h
  obtain ⟨_,-,hsame⟩ := Except.bind_eq_ok_iff.mp hrest
  split at hsame
  · rw [hlines,Except.pure_eq_ok_iff.mp hsame]
  · contradiction

theorem plain_ofString (m : Marks) (s : String) : plain m s = (Markup.plain s).mapError .markup := by
  simp only [plain,Text.standing_ofString]
  cases Markup.plain s <;> rfl

theorem isStyled_of_plain {m : Marks} {s : Text} {cs : List Char} (h : plain m s = .ok cs) :
    IsStyled (s.standing unreadable) := by
  obtain ⟨_,hfirst,-⟩ := Except.bind_eq_ok_iff.mp h
  cases hs : Markup.plain (s.standing unreadable) with
  | error f =>
    rw [hs] at hfirst
    contradiction
  | ok cs => exact ⟨cs,hs⟩

/-- The text is shown, and nothing of it hangs on what stands for halves. -/
def IsShown (s : Text) : Prop := ∃ cs, ∀ m, plain m s = .ok cs

theorem isShown_ofString {s : String} (h : IsStyled s) : IsShown s := by
  obtain ⟨cs,hcs⟩ := h
  refine ⟨cs,fun m => ?_⟩
  rw [plain_ofString,hcs]
  rfl

theorem IsShown.exists_print {s : Text} (h : IsShown s) : ∃ lines, print s = .ok lines := by
  obtain ⟨cs,hcs⟩ := h
  exact ⟨_,onConsole_of_forall (fun m => by rw [hcs]; rfl)⟩

theorem IsShown.exists_box {s : Text} (h : IsShown s) : ∃ lines, box s = .ok lines := by
  obtain ⟨cs,hcs⟩ := h
  exact ⟨_,onConsole_of_forall (fun m => by rw [hcs]; rfl)⟩

theorem isStyled_of_print {s : Text} {lines : List String} (h : print s = .ok lines) :
    IsStyled (s.standing unreadable) := by
  obtain ⟨cs,hcs,-⟩ := Except.bind_eq_ok_iff.mp (lines_of_onConsole h)
  exact isStyled_of_plain hcs

theorem exists_mapM {μ α β : Type} {f : μ → α → Except Mishap β} {xs : List α}
    (h : ∀ x ∈ xs, ∃ y, ∀ m, f m x = .ok y) : ∃ ys, ∀ m, xs.mapM (f m) = .ok ys := by
  induction xs with
  | nil => exact ⟨[],fun m => rfl⟩
  | cons x xs ih =>
    rw [List.forall_mem_cons] at h
    obtain ⟨⟨y,hy⟩,hrest⟩ := h
    obtain ⟨ys,hys⟩ := ih hrest
    exact ⟨y :: ys,fun m => by rw [List.mapM_cons,hy,hys]; rfl⟩

theorem exists_of_mapM {α β : Type} {f : α → Except Mishap β} {xs : List α} {ys : List β}
    (h : xs.mapM f = .ok ys) : ∀ x ∈ xs, ∃ y, f x = .ok y := by
  induction xs generalizing ys with
  | nil => simp
  | cons x xs ih =>
    rw [List.mapM_cons] at h
    obtain ⟨y,hy,hrest⟩ := Except.bind_eq_ok_iff.mp h
    obtain ⟨zs,hzs,-⟩ := Except.bind_eq_ok_iff.mp hrest
    exact List.forall_mem_cons.mpr ⟨⟨y,hy⟩,ih hzs⟩

/-! ### Texts that can always be shown -/

/-- The text is whole, and no bracket in it opens a tag. -/
def isPlain (s : Text) : Bool := s.string?.any (fun s => opensNoTag s.toList)

theorem isPlain_iff {s : Text} :
    isPlain s = true ↔ ∃ s' : String, s = s' ∧ opensNoTag s'.toList = true := by
  simp only [isPlain,Option.any_eq_true,Text.string?_eq_some_iff]

@[simp] theorem isPlain_ofString (s : String) : isPlain s = opensNoTag s.toList := by
  simp [isPlain]

theorem isPlain_append {s t : Text} (hs : isPlain s = true) (ht : isPlain t = true)
    (hhead : t.toList.head?.any (Letter.is canStartTag) = false) : isPlain (s ++ t) = true := by
  obtain ⟨s,rfl,hopens⟩ := isPlain_iff.mp hs
  obtain ⟨t,rfl,hnext⟩ := isPlain_iff.mp ht
  rw [← Text.ofString_append,isPlain_ofString,String.toList_append]
  refine opensNoTag_append hopens hnext ?_
  rw [Text.toList_ofString,Text.letters,List.head?_map] at hhead
  cases hfirst : t.toList.head? with
  | none => rfl
  | some c => simpa [hfirst] using hhead

theorem isPlain_intercalate {ts : List Text} (h : ∀ t ∈ ts, isPlain t = true) :
    isPlain (Text.intercalate ", " ts) = true := by
  induction ts with
  | nil => rfl
  | cons t ts ih =>
    rw [List.forall_mem_cons] at h
    cases ts with
    | nil => simpa [Text.intercalate] using h.1
    | cons u ts =>
      have hsplit : Text.intercalate ", " (t :: u :: ts) =
          t ++ ((", " : String) ++ Text.intercalate ", " (u :: ts)) := by
        ext1
        simp [Text.intercalate]
      rw [hsplit]
      refine isPlain_append h.1 ?_ rfl
      obtain ⟨rest,hrest,hopens⟩ := isPlain_iff.mp (ih h.2)
      rw [hrest,← Text.ofString_append,isPlain_ofString]
      simpa [opensNoTag] using hopens

/-- The styles of the console's own words. -/
def ownStyles : List String := ["green","yellow","red","bold red","bold white"]

theorem isStyle_own {style : String} (h : style ∈ ownStyles) : IsStyle style.toList := by
  have hall : ∀ style ∈ ownStyles, IsStyle style.toList := by decide +kernel
  exact hall style h

theorem isPassage_word (v : Verdict) : isPassage v.word.toList = true := by
  cases v <;> decide +kernel

theorem isShown_verdictText (r : Report) : IsShown (verdictText r.listing) := by
  have hword := isPassage_word r.verdict
  have hstyled : ∀ style ∈ ownStyles,
      IsStyled ("[" ++ style ++ "]" ++ r.verdict.word ++ "[/" ++ style ++ "]") := by
    intro style hstyle
    have hopened := opened_styled (isStyle_own hstyle) hword [] []
    refine (isStyled_iff _).mpr ⟨[],?_⟩
    simpa [styled] using hopened
  have hverdict : r.listing.verdict = r.verdict.word := rfl
  simp only [verdictText,hverdict]
  split
  · simpa only [Text.ofString_append] using isShown_ofString (hstyled "green" (by decide))
  · simpa only [Text.ofString_append] using isShown_ofString (hstyled "red" (by decide))

/-! ### One report -/

/-- The line about an error. -/
def errorText (file : String) (error : Text) : Text :=
  "[bold red]Error in " ++ file ++ ":[/bold red] " ++ error

/-- The cell of the volumes. -/
def namesText (vs : List Described) : Text :=
  if vs.isEmpty then "-" else Text.intercalate ", " (vs.map (fun v => namedVolume v.name v.source))

/-- The texts of a report that may hold anything. -/
def texts (r : Report) : List Text :=
  (shownError r.error).toList.map (errorText r.path) ++ [(r.path : Text),namesText r.volumes]

theorem mem_texts {r : Report} {s : Text} :
    s ∈ texts r ↔ (∃ e, shownError r.error = some e ∧ errorText r.path e = s) ∨
      s = r.path ∨ s = namesText r.volumes := by
  simp [texts]

/-- The path, the names and the error of a report are whole, and no bracket in them opens a tag. -/
structure IsLegible (r : Report) : Prop where
  path : isPlain r.path = true
  names : ∀ v ∈ r.volumes, isPlain (namedVolume v.name v.source) = true
  error : ∀ e ∈ r.error, isPlain e = true

instance (r : Report) : Decidable (IsLegible r) :=
  decidable_of_iff (isPlain r.path = true ∧
      (∀ v ∈ r.volumes, isPlain (namedVolume v.name v.source) = true) ∧
      ∀ e ∈ r.error, isPlain e = true)
    ⟨fun ⟨hpath,hnames,herror⟩ => ⟨hpath,hnames,herror⟩,
      fun ⟨hpath,hnames,herror⟩ => ⟨hpath,hnames,herror⟩⟩

theorem isShown_of_isPlain {s : Text} (h : isPlain s = true) : IsShown s := by
  obtain ⟨s,rfl,hopens⟩ := isPlain_iff.mp h
  exact isShown_ofString (isStyled_of_opensNoTag hopens)

theorem opened_errorText {file : String} (hfile : opensNoTag file.toList = true) (error : String) :
    opened [] ("[bold red]Error in " ++ file ++ ":[/bold red] " ++ error).toList =
      opened [] error.toList := by
  have hinner : isPassage ("Error in ".toList ++ file.toList ++ [':']) = true := by
    have hstart : opensNoTag ("Error in ".toList ++ file.toList) = true := by
      simp [opensNoTag,hfile]
    rw [isPassage,opensNoTag_append hstart rfl rfl,List.getLast?_concat]
    rfl
  have hopening : "[bold red]Error in ".toList =
      '[' :: ("bold red".toList ++ ']' :: "Error in ".toList) := rfl
  have hclosing : ":[/bold red] ".toList =
      ':' :: '[' :: ('/' :: "bold red".toList ++ ']' :: [' ']) := rfl
  have htext : ("[bold red]Error in " ++ file ++ ":[/bold red] " ++ error).toList =
      styled "bold red".toList ("Error in ".toList ++ file.toList ++ [':']) ++
        (' ' :: error.toList) := by
    simp only [String.toList_append,hopening,hclosing,styled,List.cons_append,List.append_assoc,
      List.nil_append]
  have hbold : "bold red" ∈ ownStyles := by decide
  rw [htext,opened_styled (isStyle_own hbold) hinner]
  exact opened_cons (escapedTag?_eq_none.mpr rfl) []

theorem isShown_errorText {file : String} {error : Text} (hfile : opensNoTag file.toList = true)
    (herror : isPlain error = true) : IsShown (errorText file error) := by
  obtain ⟨error,rfl,hopens⟩ := isPlain_iff.mp herror
  simp only [errorText,← Text.ofString_append]
  refine isShown_ofString ((isStyled_iff _).mpr ⟨[],?_⟩)
  rw [opened_errorText hfile]
  exact opened_of_opensNoTag hopens []

theorem IsLegible.isShown {r : Report} (h : IsLegible r) : ∀ s ∈ texts r, IsShown s := by
  have hnames : isPlain (namesText r.volumes) = true := by
    unfold namesText
    split
    · rfl
    · exact isPlain_intercalate (List.forall_mem_map.mpr h.names)
  intro s hs
  rcases mem_texts.mp hs with ⟨e,he,rfl⟩ | rfl | rfl
  · exact isShown_errorText (by simpa using h.path) (h.error e (Option.eq_some_of_filter_eq_some he))
  · exact isShown_of_isPlain h.path
  · exact isShown_of_isPlain hnames

theorem volumesText_listing (r : Report) : volumesText r.listing = .ok (namesText r.volumes) := by
  simp [volumesText,Report.listing,namesText,bind,Except.bind,pure,Except.pure]

theorem errorLines_listing (r : Report) :
    errorLines r.listing = match shownError r.error with
      | none => .ok []
      | some e => print (errorText r.path e) := by
  have herror : r.listing.error = shownError r.error := rfl
  have hfile : r.listing.file = some (r.path : Text) := rfl
  simp only [errorLines,herror,hfile]
  cases shownError r.error <;> rfl

theorem entry_eq_ok_iff {r : Report} {e : List String × List Text} :
    entry r.listing = .ok e ↔
      errorLines r.listing = .ok e.1 ∧ e.2 = row r.listing (namesText r.volumes) := by
  obtain ⟨lines,cells⟩ := e
  simp only [entry,volumesText_listing,Except.bind_eq_ok_iff,Except.pure_eq_ok_iff,Prod.mk.injEq,
    Except.ok.injEq]
  constructor
  · rintro ⟨_,hlines,_,rfl,rfl,rfl⟩
    exact ⟨hlines,rfl⟩
  · rintro ⟨hlines,rfl⟩
    exact ⟨_,hlines,_,rfl,rfl,rfl⟩

theorem exists_entry {r : Report} (h : ∀ s ∈ texts r, IsShown s) :
    ∃ e, entry r.listing = .ok e := by
  have hlines : ∃ lines, errorLines r.listing = .ok lines := by
    rw [errorLines_listing]
    split
    · exact ⟨[],rfl⟩
    · next e he => exact (h _ (mem_texts.mpr (.inl ⟨e,he,rfl⟩))).exists_print
  obtain ⟨lines,hlines⟩ := hlines
  exact ⟨⟨lines,_⟩,entry_eq_ok_iff.mpr ⟨hlines,rfl⟩⟩

theorem isShown_row {r : Report} (h : ∀ s ∈ texts r, IsShown s) :
    ∀ s ∈ row r.listing (namesText r.volumes), IsShown s := by
  have hmark : IsShown ((if r.listing.success then "✅" else "❌" : String) : Text) :=
    isShown_ofString (by split <;> exact isStyled_of_opensNoTag (by decide +kernel))
  have hpath : r.listing.file.getD Value.null.bare = r.path := rfl
  simp only [row,hpath,List.forall_mem_cons]
  exact ⟨h _ (mem_texts.mpr (.inr (.inl rfl))),h _ (mem_texts.mpr (.inr (.inr rfl))),
    isShown_verdictText r,by split <;> simp_all,by simp⟩

/-! ### The table -/

/-- The cells of the table are those of the reports, whatever is shown of errors. -/
theorem mapM_cells {β : Type} {rs : List Report} {es : List (List String × List Text)}
    (h : (rs.map Report.listing).mapM entry = .ok es) (f : List Text → Except Mishap β) :
    es.mapM (fun e => f e.2) = rs.mapM (fun r => f (row r.listing (namesText r.volumes))) := by
  induction rs generalizing es with
  | nil =>
    cases h
    rfl
  | cons r rs ih =>
    rw [List.map_cons,List.mapM_cons] at h
    obtain ⟨e,he,hrest⟩ := Except.bind_eq_ok_iff.mp h
    obtain ⟨es',hes,hpure⟩ := Except.bind_eq_ok_iff.mp hrest
    obtain rfl := Except.pure_eq_ok_iff.mp hpure
    rw [List.mapM_cons,List.mapM_cons,ih hes,(entry_eq_ok_iff.mp he).2]

/-- Reports of which each text is shown are shown. -/
theorem exists_table {rs : List Report} (h : ∀ r ∈ rs, ∀ s ∈ texts r, IsShown s) :
    ∃ lines, table (rs.map Report.listing) = .ok lines := by
  obtain ⟨es,hes⟩ : ∃ es, ∀ _ : Marks, (rs.map Report.listing).mapM entry = .ok es := by
    refine exists_mapM (List.forall_mem_map.mpr (fun r hr => ?_))
    obtain ⟨e,he⟩ := exists_entry (h r hr)
    exact ⟨e,fun _ => he⟩
  have hentries := hes unreadable
  obtain ⟨rows,hrows⟩ : ∃ rows, ∀ m,
      rs.mapM (fun r => (row r.listing (namesText r.volumes)).mapM (plain m)) = .ok rows :=
    exists_mapM (fun r hr => exists_mapM (isShown_row (h r hr)))
  have hshown : onConsole (fun m => do
      let rows ← es.mapM (fun e => e.2.mapM (plain m))
      return Table.lines ⟨"KubeShort Report",tableHeader,rows⟩) =
        .ok (Table.lines ⟨"KubeShort Report",tableHeader,rows⟩) :=
    onConsole_of_forall (fun m => by rw [mapM_cells hentries (List.mapM (plain m)),hrows m]; rfl)
  have htable : table (rs.map Report.listing) =
      .ok (es.flatMap Prod.fst ++ Table.lines ⟨"KubeShort Report",tableHeader,rows⟩) :=
    Except.bind_eq_ok_iff.mpr ⟨es,hentries,Except.bind_eq_ok_iff.mpr ⟨_,hshown,rfl⟩⟩
  exact ⟨_,htable⟩

/-- The texts of reports that are shown are styled texts. -/
theorem isStyled_of_table {rs : List Report} {lines : List String}
    (h : table (rs.map Report.listing) = .ok lines) :
    ∀ r ∈ rs, ∀ s ∈ texts r, IsStyled (s.standing unreadable) := by
  obtain ⟨es,hes,hrest⟩ := Except.bind_eq_ok_iff.mp h
  obtain ⟨shown,hshown,-⟩ := Except.bind_eq_ok_iff.mp hrest
  obtain ⟨rows,hrows,-⟩ := Except.bind_eq_ok_iff.mp (lines_of_onConsole hshown)
  rw [mapM_cells hes (List.mapM (plain (marks 0)))] at hrows
  intro r hr s hs
  rcases mem_texts.mp hs with ⟨e,he,rfl⟩ | hcell
  · obtain ⟨⟨lines,_⟩,hentry⟩ := exists_of_mapM hes _ (List.mem_map_of_mem hr)
    have hlines := (entry_eq_ok_iff.mp hentry).1
    rw [errorLines_listing,he] at hlines
    exact isStyled_of_print hlines
  · obtain ⟨cells,hcells⟩ := exists_of_mapM hrows r hr
    have hmem : s ∈ row r.listing (namesText r.volumes) := by
      have hpath : r.listing.file.getD Value.null.bare = r.path := rfl
      simp only [row,hpath,List.mem_cons]
      rcases hcell with hcell | hcell
      · exact .inl hcell
      · exact .inr (.inl hcell)
    obtain ⟨cs,hcs⟩ := exists_of_mapM hcells s hmem
    exact isStyled_of_plain hcs

/-! ### What is not shown -/

/-- The first tag in the path of a report, in its names or in its error closes a style. -/
inductive ClosesUnopened (r : Report) : Prop where
  | path (h : closesFirst r.path.toList = true)
  | names (h : closesFirst ((namesText r.volumes).standing unreadable).toList = true)
  | error {e : Text} (hpath : opensNoTag r.path.toList = true) (he : r.error = some e)
    (h : closesFirst (e.standing unreadable).toList = true)

theorem ClosesUnopened.exists_not_isStyled {r : Report} (h : ClosesUnopened r) :
    ∃ s ∈ texts r, ¬ IsStyled (s.standing unreadable) := by
  cases h with
  | path h =>
    refine ⟨_,mem_texts.mpr (.inr (.inl rfl)),?_⟩
    rw [Text.standing_ofString]
    exact not_isStyled_of_closesFirst h
  | names h => exact ⟨_,mem_texts.mpr (.inr (.inr rfl)),not_isStyled_of_closesFirst h⟩
  | @error e hpath he h =>
    have hshown : shownError r.error = some e := by
      have hne : e.isEmpty = false := by
        rw [Bool.eq_false_iff,ne_eq,Text.isEmpty_iff]
        rintro rfl
        simp [closesFirst] at h
      simp [shownError,he,hne]
    refine ⟨_,mem_texts.mpr (.inl ⟨e,hshown,rfl⟩),fun hstyled => ?_⟩
    have htext : (errorText r.path e).standing unreadable =
        "[bold red]Error in " ++ r.path ++ ":[/bold red] " ++ e.standing unreadable := by
      simp [errorText]
    obtain ⟨styles,hopened⟩ := (isStyled_iff _).mp hstyled
    obtain ⟨f,hf⟩ := exists_fault_of_closesFirst h
    rw [htext,opened_errorText hpath,hf] at hopened
    contradiction

/-! ### The counts -/

theorem opensNoTag_of_not_mem {s : List Char} (h : '[' ∉ s) : opensNoTag s = true := by
  induction s with
  | nil => rfl
  | cons c r ih =>
    rw [List.mem_cons,not_or] at h
    rw [opensNoTag,ih h.2,Bool.and_true,beq_false_of_ne (Ne.symm h.1)]
    rfl

theorem isPassage_toString (n : Nat) : isPassage (toString n).toList = true := by
  have hdigit : ∀ c ∈ (toString n).toList, c ≠ '[' ∧ c ≠ '\\' := by
    intro c hc
    have := isDigit_of_mem_toString hc
    constructor <;> rintro rfl <;> contradiction
  have hopens := opensNoTag_of_not_mem (fun hc => (hdigit _ hc).1 rfl)
  rw [isPassage,hopens,Bool.true_and]
  cases hlast : (toString n).toList.getLast? with
  | none =>
    rw [List.getLast?_eq_none_iff,Nat.toString_eq_repr,Nat.repr,String.toList_ofList] at hlast
    exact absurd hlast Nat.toDigits_ne_nil
  | some c => simpa using hdigit c (List.mem_of_getLast? hlast)

/-- The text of some counts. -/
def countsText (total successful empty rejected errors backups : String) : String :=
  "\n".intercalate [
    "[bold white]Summary Report[/bold white]",
    "Total Files:     " ++ total,
    "Success:         [green]" ++ successful ++ "[/green]",
    "Empty:           " ++ empty,
    "Rejected:        [yellow]" ++ rejected ++ "[/yellow]",
    "System Errors:   [red]" ++ errors ++ "[/red]",
    "Backups Created: " ++ backups]

theorem summary_of_counts {es : Entries} {total successful empty rejected errors backups : String}
    (htotal : count es "total_files" = .ok total)
    (hsuccessful : count es "successful" = .ok successful) (hempty : count es "empty" = .ok empty)
    (hrejected : count es "rejected" = .ok rejected)
    (herrors : count es "system_errors" = .ok errors)
    (hbackups : count es "backups_created" = .ok backups) :
    summary es = box (countsText total successful empty rejected errors backups) := by
  have htext : Text.intercalate "\n" [
      ("[bold white]Summary Report[/bold white]" : Text),
      "Total Files:     " ++ total,
      "Success:         [green]" ++ successful ++ "[/green]",
      "Empty:           " ++ empty,
      "Rejected:        [yellow]" ++ rejected ++ "[/yellow]",
      "System Errors:   [red]" ++ errors ++ "[/red]",
      "Backups Created: " ++ backups] =
        countsText total successful empty rejected errors backups := by
    ext1
    simp [Text.intercalate,countsText,Text.toList_ofString]
  simp only [summary,htotal,hsuccessful,hempty,hrejected,herrors,hbackups,bind,Except.bind,htext]

theorem isStyled_countsText {total successful empty rejected errors backups : String}
    (htotal : isPassage total.toList = true) (hsuccessful : isPassage successful.toList = true)
    (hempty : isPassage empty.toList = true) (hrejected : isPassage rejected.toList = true)
    (herrors : isPassage errors.toList = true) (hbackups : isPassage backups.toList = true) :
    IsStyled (countsText total successful empty rejected errors backups) := by
  have htext : (countsText total successful empty rejected errors backups).toList =
      styled "bold white".toList "Summary Report".toList ++ ("\nTotal Files:     ".toList ++
        (total.toList ++ ("\nSuccess:         ".toList ++
        (styled "green".toList successful.toList ++ ("\nEmpty:           ".toList ++
        (empty.toList ++ ("\nRejected:        ".toList ++
        (styled "yellow".toList rejected.toList ++ ("\nSystem Errors:   ".toList ++
        (styled "red".toList errors.toList ++ ("\nBackups Created: ".toList ++
        (backups.toList ++ [])))))))))))) := by
    simp [countsText,styled]
  refine (isStyled_iff _).mpr ⟨[],?_⟩
  have hwhite : "bold white" ∈ ownStyles := by decide
  have hgreen : "green" ∈ ownStyles := by decide
  have hyellow : "yellow" ∈ ownStyles := by decide
  have hred : "red" ∈ ownStyles := by decide
  rw [htext,opened_styled (isStyle_own hwhite) (by decide +kernel),opened_passage (by decide +kernel),
    opened_passage htotal,opened_passage (by decide +kernel),
    opened_styled (isStyle_own hgreen) hsuccessful,opened_passage (by decide +kernel),
    opened_passage hempty,opened_passage (by decide +kernel),
    opened_styled (isStyle_own hyellow) hrejected,opened_passage (by decide +kernel),
    opened_styled (isStyle_own hred) herrors,opened_passage (by decide +kernel),
    opened_passage hbackups,opened_nil]

theorem summary_entries (t : Tally) : ∃ lines, summary t.entries = .ok lines := by
  have hcounts : summary t.entries = box (countsText (toString t.total) (toString t.successful)
      (toString t.empty) (toString t.rejected) (toString t.systemErrors) (toString t.backups)) :=
    summary_of_counts rfl rfl rfl rfl rfl rfl
  have hstyled : IsStyled (countsText (toString t.total) (toString t.successful)
      (toString t.empty) (toString t.rejected) (toString t.systemErrors) (toString t.backups)) :=
    isStyled_countsText (isPassage_toString _) (isPassage_toString _) (isPassage_toString _)
      (isPassage_toString _) (isPassage_toString _) (isPassage_toString _)
  rw [hcounts]
  exact (isShown_ofString hstyled).exists_box

end ShortVolume.Display
