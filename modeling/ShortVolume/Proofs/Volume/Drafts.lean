import ShortVolume.Proofs.Record.Modes
import ShortVolume.Proofs.Volume.Typed
set_option autoImplicit false

/-!
What a draft has to be to have a record, check by check.

Of a draft whose labels are maps, whose modes are listed and whose store is named by texts, only the words
of the vocabularies and the separator are left to check: the metadata's words first, then the store. The
draft has a record exactly when all checks are met, and else the fault of the first that is not.
-/

namespace ShortVolume

namespace Value

def isMode : Value → Bool
  | term (.mode _) => true
  | _ => false

/-- A reclaim policy, or nothing. A text is none, even that of a policy. -/
def isOptionalPolicy : Value → Bool
  | null | term (.policy _) => true
  | _ => false

/-- A host path type, or nothing. A text is none, even that of a type. -/
def isOptionalPathType : Value → Bool
  | null | term (.pathType _) => true
  | _ => false

/-- The segment that a host path type adds to a selector. -/
def pathTypeSegment : Value → List Text
  | term (.pathType t) => [t.text]
  | _ => []

end Value

/-! ### Checks -/

namespace DraftMeta

/-- The modes are words of their vocabulary, each of them, and so is the reclaim policy. -/
def checks (m : DraftMeta) : List Check :=
  (m.modes.listed?.getD []).map (fun x => ⟨x.isMode,.unknownWord x .accessMode⟩) ++
    [⟨m.reclaim.isOptionalPolicy,.unknownWord m.reclaim .reclaimPolicy⟩]

end DraftMeta

namespace DraftSource

/-- No segment holds the separator. The fault has the whole selector. -/
def separatorChecks (kind : Kind) (selector : List Text) : List Check :=
  selector.map (fun s => ⟨!holdsSeparator s,.separatorInside (selector.map .text) (.text s) kind⟩)

def checks : DraftSource → List Check
  | gcePD d => separatorChecks .gcePD [d.id.text?.getD ""]
  | awsEBS d => separatorChecks .awsEBS [d.id.text?.getD ""]
  | hostPath path type =>
    ⟨type.isOptionalPathType,.unknownWord type .hostPathType⟩ ::
      separatorChecks .hostPath (path.text?.getD "" :: type.pathTypeSegment)
  | other v => [⟨false,.noSource v⟩]

end DraftSource

/-- The checks of a draft, in the order in which they are made. -/
def Draft.checks (d : Draft) : List Check := d.data.checks ++ d.source.checks

/-! ### Drafts that are typed but for their words -/

namespace DraftSource

/-- What names the store is a text, if it is a store at all. -/
def HasTextName : DraftSource → Prop
  | gcePD d | awsEBS d => d.id.IsText
  | hostPath path _ => path.IsText
  | other _ => True

/-- The type of a host path, nothing for all else. -/
def pathType : DraftSource → Value
  | hostPath _ type => type
  | _ => .null

end DraftSource

/-- Labels and annotations are maps, modes are listed and the store has a text as its name. All else may
be any value. -/
structure Draft.IsOpen (d : Draft) : Prop where
  labels : d.data.labels.isMap = true
  annotations : d.data.annotations.isMap = true
  modes : ∃ xs, d.data.modes = .list xs
  name : d.source.HasTextName

/-- The words of the draft, or what stands in their place, have no integer that is too long to show. -/
structure Draft.IsShowable (d : Draft) : Prop where
  modes : d.data.modes.isShowable = true
  reclaim : d.data.reclaim.isShowable = true
  pathType : d.source.pathType.isShowable = true

/-! ### Answers -/

theorem AccessMode.ofValues_answers (xs : List Value) :
    Except.Answers (AccessMode.ofValues xs)
      (xs.map (fun x => ⟨x.isMode,.unknownWord x .accessMode⟩)) := by
  induction xs with
  | nil => rfl
  | cons x xs ih =>
    rw [List.map_cons]
    by_cases hx : ∃ m, x = .term (.mode m)
    · obtain ⟨m,rfl⟩ := hx
      refine Except.Answers.of_met rfl ?_
      unfold Except.Answers at ih ⊢
      rw [← ih,AccessMode.ofValues]
      cases AccessMode.ofValues xs <;> rfl
    · have hother : ∀ m, x ≠ .term (.mode m) := fun m hm => hx ⟨m,hm⟩
      have hunmet : x.isMode = false := by
        unfold Value.isMode
        split
        · next m => exact absurd rfl (hother m)
        · rfl
      rw [AccessMode.ofValues_cons_of_ne hother]
      exact Except.Answers.of_unmet hunmet _

theorem ReclaimPolicy.ofValue_answers (v : Value) :
    Except.Answers (ReclaimPolicy.ofValue v)
      [⟨v.isOptionalPolicy,.unknownWord v .reclaimPolicy⟩] := by
  cases v with
  | term t => cases t <;> rfl
  | _ => rfl

theorem HostPathType.ofValue_answers (v : Value) :
    Except.Answers (HostPathType.ofValue v)
      [⟨v.isOptionalPathType,.unknownWord v .hostPathType⟩] := by
  cases v with
  | term t => cases t <;> rfl
  | _ => rfl

theorem Value.labels_answers {v : Value} (h : v.isMap = true) : Except.Answers v.labels [] := by
  obtain ⟨es,hes⟩ := Option.isSome_iff_exists.mp h
  have hlabels : ∃ ls, v.labels = .ok ls := by
    unfold Value.labels Value.listedMap
    by_cases hf : v.isFalsy
    · exact ⟨[],by rw [if_pos hf]⟩
    · exact ⟨es,by rw [if_neg hf,hes]⟩
  obtain ⟨ls,hls⟩ := hlabels
  rw [hls]
  exact Except.Answers.pure ls

theorem DraftMeta.entries_answers {m : DraftMeta} (hlabels : m.labels.isMap = true)
    (hannotations : m.annotations.isMap = true) (hmodes : ∃ xs, m.modes = .list xs) :
    Except.Answers m.entries m.checks := by
  obtain ⟨xs,hxs⟩ := hmodes
  have hrecord : Except.Answers m.record m.checks := by
    unfold DraftMeta.record DraftMeta.checks
    rw [hxs,AccessMode.ofListed_list,Value.listed?_list,Option.getD_some]
    refine (Value.labels_answers hlabels).bind fun _ _ => ?_
    refine (Value.labels_answers hannotations).bind fun _ _ => ?_
    refine (AccessMode.ofValues_answers xs).bind fun _ _ => ?_
    exact (ReclaimPolicy.ofValue_answers m.reclaim).map _
  exact hrecord.map MetaRecord.entries

theorem StoreParts.texts_answers (p : StoreParts) (ts : List Text) :
    Except.Answers (p.texts (ts.map .text))
      (ts.map (fun t => ⟨!holdsSeparator t,.separatorInside p.selector (.text t) p.kind⟩)) := by
  induction ts with
  | nil => rfl
  | cons t ts ih =>
    rw [List.map_cons,List.map_cons,StoreParts.texts,Value.holdsSeparator?_text]
    cases ht : holdsSeparator t with
    | true => exact Except.Answers.of_unmet rfl _
    | false =>
      refine Except.Answers.of_met rfl ?_
      unfold Except.Answers at ih ⊢
      rw [← ih]
      cases p.texts (ts.map .text) <;> rfl

/-- A store that is named by texts has a record unless one of them holds the separator. -/
theorem StoreParts.entries_answers (kind : Kind) (ts : List Text) (extra : Entries) :
    Except.Answers (StoreParts.entries ⟨kind,ts.map .text,extra⟩)
      (DraftSource.separatorChecks kind ts) := by
  have htexts := StoreParts.texts_answers ⟨kind,ts.map .text,extra⟩ ts
  unfold Except.Answers DraftSource.separatorChecks at *
  rw [← htexts,StoreParts.entries]
  cases StoreParts.texts ⟨kind,ts.map .text,extra⟩ (ts.map .text) <;> rfl

theorem DraftSource.entries_answers {s : DraftSource} (h : s.HasTextName) :
    Except.Answers s.entries s.checks := by
  have hdisk (kind : Kind) {id : Value} (extra : Entries) (hid : id.IsText) :
      Except.Answers (StoreParts.entries ⟨kind,[id],extra⟩)
        (separatorChecks kind [id.text?.getD ""]) := by
    obtain ⟨name,rfl⟩ := hid
    exact StoreParts.entries_answers kind [name] extra
  cases s with
  | gcePD d => exact hdisk .gcePD d.entries h
  | awsEBS d => exact hdisk .awsEBS d.entries h
  | hostPath path type =>
    obtain ⟨name,rfl⟩ := h
    have hread : entries (.hostPath (.text name) type) = HostPathType.ofValue type >>= fun t =>
        StoreParts.entries ⟨.hostPath,(name :: (t.map HostPathType.text).toList).map .text,[]⟩ := by
      simp only [DraftSource.entries,parts]
      cases HostPathType.ofValue type with
      | error f => rfl
      | ok t => cases t <;> rfl
    rw [hread]
    refine (HostPathType.ofValue_answers type).bind fun t ht => ?_
    -- The type that is read is the one whose segment is checked.
    have hsegment : type.pathTypeSegment = (t.map HostPathType.text).toList := by
      unfold HostPathType.ofValue at ht
      split at ht
      · obtain rfl := Except.ok.inj ht
        rfl
      · obtain rfl := Except.ok.inj ht
        rfl
      · contradiction
    rw [hsegment]
    exact StoreParts.entries_answers .hostPath _ []
  | other v => exact Except.Answers.of_unmet rfl _

theorem Draft.toValue_answers {d : Draft} (h : d.IsOpen) : Except.Answers d.toValue d.checks := by
  have hentries : Except.Answers d.entries d.checks := by
    refine (DraftMeta.entries_answers h.labels h.annotations h.modes).bind fun _ _ => ?_
    exact (DraftSource.entries_answers h.name).map _
  exact hentries.map Value.map

/-! ### Faults -/

theorem DraftMeta.isShowable_checks {m : DraftMeta} (hmodes : m.modes.isShowable = true)
    (hlist : ∃ xs, m.modes = .list xs) (hreclaim : m.reclaim.isShowable = true) :
    ∀ c ∈ m.checks, c.fault.isShowable = true := by
  obtain ⟨xs,hxs⟩ := hlist
  rw [hxs] at hmodes
  simp only [DraftMeta.checks,hxs,Value.listed?_list,Option.getD_some,List.forall_mem_append,
    List.forall_mem_map,List.forall_mem_singleton]
  exact ⟨Value.areShowable_iff.mp hmodes,hreclaim⟩

theorem DraftSource.isShowable_checks {s : DraftSource} (h : s.pathType.isShowable = true) :
    ∀ c ∈ s.checks, c.fault.isShowable = true := by
  have hseparator (kind : Kind) (ts : List Text) :
      ∀ c ∈ separatorChecks kind ts, c.fault.isShowable = true := by
    simp [separatorChecks,Fault.isShowable,Value.isShowable]
  cases s with
  | gcePD d => exact hseparator _ _
  | awsEBS d => exact hseparator _ _
  | hostPath path type => exact List.forall_mem_cons.mpr ⟨h,hseparator _ _⟩
  | other v => exact List.forall_mem_singleton.mpr rfl

/-- A draft with nothing unchecked but its words and the separator has a record exactly when it meets all
its checks. Else writing it reports the fault of the first check that it does not meet, as it is. -/
theorem Draft.toValue_first_fault {d : Draft} (hopen : d.IsOpen) (hshowable : d.IsShowable) :
    ((∃ es, d.toValue = .ok (.map es)) ↔ ∀ c ∈ d.checks, c.met = true) ∧
      ∀ passed c rest, d.checks = passed ++ c :: rest → (∀ p ∈ passed, p.met = true) →
        c.met = false → d.toValue = .error c.fault ∧ c.fault.reported = c.fault := by
  have hanswers := Draft.toValue_answers hopen
  unfold Except.Answers at hanswers
  constructor
  · rw [← Check.firstFault_eq_none_iff,← hanswers]
    unfold Draft.toValue
    cases d.entries with
    | ok es => exact iff_of_true ⟨es,rfl⟩ rfl
    | error f => exact iff_of_false (fun ⟨es,hes⟩ => nomatch hes) nofun
  · intro passed c rest hchecks hpassed hunmet
    rw [hchecks,Check.firstFault_of_first hpassed hunmet] at hanswers
    have hmem : c ∈ d.checks := by simp [hchecks]
    have hshown : c.fault.isShowable = true := by
      rcases List.mem_append.mp hmem with hdata | hsource
      · exact DraftMeta.isShowable_checks hshowable.modes hopen.modes hshowable.reclaim c hdata
      · exact DraftSource.isShowable_checks hshowable.pathType c hsource
    exact ⟨Except.fault?_eq_some_iff.mp hanswers,if_pos hshown⟩

/-- A path with the separator in it, and with the texts of a reclaim policy and of a host path type in the
place of these words. -/
def wordlessPath : Draft where
  data := {
    name := .text "n"
    labels := .map [(.text "a",.text "x")]
    modes := .list [.term (.mode .readWriteOnce),.term (.mode .readOnlyMany)]
    reclaim := .text "retain" }
  source := .hostPath (.text "/a:b") (.text "dir")

theorem Draft.toValue_wordlessPath :
    wordlessPath.IsOpen ∧ wordlessPath.IsShowable ∧
      wordlessPath.toValue = .error (.unknownWord (.text "retain") .reclaimPolicy) ∧
      (Fault.unknownWord (.text "retain") .reclaimPolicy).reported =
        .unknownWord (.text "retain") .reclaimPolicy := by
  have hopen : wordlessPath.IsOpen := ⟨rfl,rfl,⟨_,rfl⟩,⟨_,rfl⟩⟩
  have hshowable : wordlessPath.IsShowable := ⟨rfl,rfl,rfl⟩
  have hpassed : ∀ c ∈ wordlessPath.checks.take 2, c.met = true := by
    rw [← List.all_eq_true]
    rfl
  exact ⟨hopen,hshowable,(Draft.toValue_first_fault hopen hshowable).2 _ _
    (wordlessPath.checks.drop 3) rfl hpassed rfl⟩

end ShortVolume
