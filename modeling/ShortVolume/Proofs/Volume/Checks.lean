import ShortVolume.Proofs.Record.Checks
import ShortVolume.Proofs.Volume.Canonical
set_option autoImplicit false

/-!
What a record has to be, check by check.

The grammar of a record is a list of checks on its values, in the order in which they are made.
Reading a value gives a volume exactly when all of them are met, and else the fault of the first that
is not, with the value that was refused.
-/

namespace ShortVolume

namespace Entries

/-! ### Stores -/

/-- The identifier is a text if its key is there, even without a value. -/
def identifierCheck (es : Entries) : Check :=
  ⟨match es.lookup? "vol_id" with
    | none => true
    | some v => v.text?.isSome,.field (es.field "vol_id") "vol_id" .string⟩

/-- The segments of the identifier, none when its key is absent. -/
def identifierSegments (es : Entries) : List Text :=
  match es.lookup? "vol_id" with
  | none => []
  | some v => segments (v.text?.getD "")

def tagCheck (es : Entries) : Check :=
  ⟨(es.field "vol_type").text?.isSome,.field (es.field "vol_type") "vol_type" .string⟩

def knownTagCheck (es : Entries) : Check :=
  ⟨(Kind.all.map (fun k => Text.ofString k.tag)).contains ((es.field "vol_type").text?.getD ""),
    .unsupportedType (es.field "vol_type")⟩

/-- A disk has a name, and a path may have a type besides. -/
def segmentCheck (kind : Kind) (selector : List Text) : Check :=
  ⟨match kind with
    | .hostPath => selector.length == 1 || selector.length == 2
    | _ => selector.length == 1,.segmentCount selector kind⟩

def pathTypeChecks : List Text → List Check
  | [_, type] =>
    [⟨(HostPathType.all.map (fun t => Text.ofString t.text)).contains type,
      .unknownWord (.text type) .hostPathType⟩]
  | _ => []

/-- The fields that a kind of store has besides tag and identifier. -/
def storeChecks (es : Entries) : Kind → List Check
  | .hostPath => pathTypeChecks es.identifierSegments
  | _ => [es.kindCheck .string "fs", es.kindCheck .integer "partition", es.kindCheck .boolean "ro"]

/-- The checks that only the tag's kind of store asks for. -/
def sourceChecks (es : Entries) : List Check :=
  match (es.field "vol_type").text?.bind Kind.ofTag? with
  | some kind => segmentCheck kind es.identifierSegments :: es.storeChecks kind
  | none => []

/-! ### Metadata -/

/-- The kind of the modes is looked at before all other fields, their tokens after the storage. -/
def dataChecks (es : Entries) : List Check :=
  [[es.kindCheck .string "modes"], [es.kindCheck .string "version"],
    [es.kindCheck .string "cluster"], [es.kindCheck .string "name"],
    [es.kindCheck .string "namespace"], es.labelChecks "labels", es.labelChecks "annotations",
    [es.kindCheck .quantity "storage"], tokenChecks (es.field "modes") es.modeTokens,
    es.partChecks claimNames "claim", es.reclaimChecks, [es.kindCheck .string "storage_class"],
    [es.kindCheck .string "mount_options"], es.partChecks statusNames "status"].flatten

/-- The checks of a record, in the order in which they are made. -/
def checks (es : Entries) : List Check :=
  [es.identifierCheck] ++ ([es.tagCheck] ++ ((es.knownTagCheck :: es.sourceChecks) ++ es.dataChecks))

end Entries

/-- The checks of a value that should be a record. -/
def Value.checks (v : Value) : List Check :=
  ⟨v.isMap,.notObject v⟩ :: Entries.checks (v.entries?.getD [])

/-! ### Answers of the readers -/

namespace Entries

theorem selector_answers (es : Entries) : Except.Answers es.selector [es.identifierCheck] := by
  unfold Except.Answers selector identifierCheck field
  cases es.lookup? "vol_id" with
  | none => rfl
  | some v => cases hv : v.text? <;> simp [Check.firstFault, Except.fault?, hv]

theorem selector_eq_ok {es : Entries} {l : List Text} (h : es.selector = .ok l) :
    l = es.identifierSegments := by
  unfold selector identifierSegments at *
  cases hv : es.lookup? "vol_id" with
  | none =>
    rw [hv] at h
    exact (Except.ok.inj h).symm
  | some v =>
    rw [hv] at h
    cases hs : v.text? with
    | none => simp [hs] at h
    | some s => simpa [hs] using h.symm

theorem required_answers (es : Entries) :
    Except.Answers (es.required .string "vol_type") [es.tagCheck] := by
  unfold Except.Answers required tagCheck
  cases es.field "vol_type" <;> rfl

theorem disk_answers (id : Text) (es : Entries) :
    Except.Answers (es.disk id) [es.kindCheck .string "fs", es.kindCheck .integer "partition",
      es.kindCheck .boolean "ro"] :=
  (es.string?_answers "fs").bind fun _ _ =>
    (es.integer?_answers "partition").bind fun _ _ =>
      (es.flag_answers "ro").bind fun _ _ => Except.Answers.pure _

end Entries

namespace Source

theorem pathType_answers (path type : Text) :
    Except.Answers (pathType type) (Entries.pathTypeChecks [path,type]) := by
  have hword : (HostPathType.all.map (fun t => Text.ofString t.text)).contains type =
      (HostPathType.ofText? type).isSome := Entries.contains_map_eq _ _ _
  unfold Except.Answers pathType
  simp only [Entries.pathTypeChecks,hword]
  cases HostPathType.ofText? type <;> rfl

theorem ofRecord_answers (kind : Kind) (es : Entries) :
    Except.Answers (ofRecord kind es.identifierSegments es)
      (Entries.segmentCheck kind es.identifierSegments :: es.storeChecks kind) := by
  have hdisk (id : Text) (make : Disk → Source) :
      Except.Answers (do return make (← es.disk id)) [es.kindCheck .string "fs",
        es.kindCheck .integer "partition", es.kindCheck .boolean "ro"] :=
    (es.disk_answers id).bind fun _ _ => Except.Answers.pure _
  unfold Entries.storeChecks
  -- A selector has one segment, two, or a number that no kind has.
  match es.identifierSegments with
  | [] => cases kind <;> exact Except.Answers.of_unmet rfl _
  | [name] =>
    cases kind with
    | gcePD => exact Except.Answers.of_met rfl (hdisk name Source.gcePD)
    | awsEBS => exact Except.Answers.of_met rfl (hdisk name Source.awsEBS)
    | hostPath => exact Except.Answers.of_met rfl (Except.Answers.pure _)
  | [name,type] =>
    cases kind with
    | gcePD => exact Except.Answers.of_unmet rfl _
    | awsEBS => exact Except.Answers.of_unmet rfl _
    | hostPath =>
      exact Except.Answers.of_met rfl
        ((pathType_answers name type).bind fun _ _ => Except.Answers.pure _)
  | _ :: _ :: _ :: _ => cases kind <;> exact Except.Answers.of_unmet (by simp) _

/-- The tag is looked up before anything else is read for its kind. -/
theorem decode_answers {es : Entries} (h : es.tagCheck.met = true) :
    Except.Answers (decode (es.field "vol_type") es.identifierSegments es)
      (es.knownTagCheck :: es.sourceChecks) := by
  obtain ⟨tag,htag⟩ := Option.isSome_iff_exists.mp h
  have hkey : (es.field "vol_type").isKey = true := by
    cases hv : es.field "vol_type" <;> simp [hv,Value.text?] at htag <;> rfl
  have hknown : es.knownTagCheck.met = (Kind.ofTag? tag).isSome := by
    simp only [Entries.knownTagCheck,htag]
    exact Entries.contains_map_eq _ _ _
  rw [decode,if_pos hkey,Entries.sourceChecks,htag,Option.bind_some]
  cases hkind : Kind.ofTag? tag with
  | none => exact Except.Answers.of_unmet (hknown.trans (by rw [hkind]; rfl)) _
  | some kind =>
    exact Except.Answers.of_met (hknown.trans (by rw [hkind]; rfl)) (ofRecord_answers kind es)

end Source

theorem Claim.decode_answers (es : Entries) :
    Except.Answers (Claim.decode es)
      (Entries.claimNames.map (fun name => Entries.kindCheck .string name es)) :=
  (es.string?_answers "kind").bind fun _ _ =>
    (es.string?_answers "namespace").bind fun _ _ =>
      (es.string?_answers "name").bind fun _ _ =>
        (es.string?_answers "uid").bind fun _ _ =>
          (es.string?_answers "apiVersion").bind fun _ _ =>
            (es.string?_answers "resourceVersion").bind fun _ _ =>
              (es.string?_answers "fieldPath").bind fun _ _ => Except.Answers.pure _

theorem Status.decode_answers (es : Entries) :
    Except.Answers (Status.decode es)
      (Entries.statusNames.map (fun name => Entries.kindCheck .string name es)) :=
  (es.string?_answers "phase").bind fun _ _ =>
    (es.string?_answers "message").bind fun _ _ =>
      (es.string?_answers "reason").bind fun _ _ => Except.Answers.pure _

theorem Meta.decode_answers {es : Entries} (h : Value.entriesShowable es = true) :
    Except.Answers (Meta.decode es) es.dataChecks := by
  unfold Meta.decode Entries.dataChecks
  simp only [List.flatten_cons]
  refine (es.optional_answers .string "modes").bind fun _ _ => ?_
  refine (es.string?_answers "version").bind fun _ _ => ?_
  refine (es.string?_answers "cluster").bind fun _ _ => ?_
  refine (es.string?_answers "name").bind fun _ _ => ?_
  refine (es.string?_answers "namespace").bind fun _ _ => ?_
  refine (Entries.labels_answers h "labels").bind fun _ _ => ?_
  refine (Entries.labels_answers h "annotations").bind fun _ _ => ?_
  refine (Entries.quantity?_answers h "storage").bind fun _ _ => ?_
  refine es.modes_answers.bind fun _ _ => ?_
  refine (Entries.part_answers Claim.decode_answers es "claim").bind fun _ _ => ?_
  refine es.reclaim_answers.bind fun _ _ => ?_
  refine (es.string?_answers "storage_class").bind fun _ _ => ?_
  refine (es.string?_answers "mount_options").bind fun _ _ => ?_
  exact (Entries.part_answers Status.decode_answers es "status").bind fun _ _ =>
    Except.Answers.pure _

theorem Volume.ofRecord_answers {es : Entries} (h : Value.entriesShowable es = true) :
    Except.Answers (Volume.ofRecord es) es.checks := by
  refine es.selector_answers.bind fun selector hselector => ?_
  rw [Entries.selector_eq_ok hselector]
  refine es.required_answers.bind fun tag htag => ?_
  obtain ⟨haccepts,rfl⟩ := Entries.required_eq_ok_iff.mp htag
  have hmet : es.tagCheck.met = true := by
    unfold Entries.tagCheck
    cases hv : es.field "vol_type" <;> simp [hv,Expected.accepts,Value.text?] at haccepts ⊢
  refine (Source.decode_answers hmet).bind fun _ _ => ?_
  simpa using (Meta.decode_answers h).bind fun _ _ => Except.Answers.pure _

/-! ### Faults that are reported -/

/-- Whether readers and writers declare the fault. The others come of values that they do not
expect, and of integers of too many digits. -/
def Fault.isDeclared : Fault → Bool
  | misplaced _ | notPair _ | unwritable _ | longInteger => false
  | _ => true

/-- The fault is declared, and its message can be written. -/
structure Fault.IsReported (f : Fault) : Prop where
  declared : f.isDeclared = true
  showable : f.isShowable = true

namespace Entries

theorem isReported_kindCheck {es : Entries} (h : Value.entriesShowable es = true) (want : Expected)
    (key : String) : (es.kindCheck want key).fault.IsReported :=
  ⟨rfl,isShowable_field h key⟩

theorem isReported_labelChecks {es : Entries} (h : Value.entriesShowable es = true) (key : String) :
    ∀ c ∈ es.labelChecks key, c.fault.IsReported := by
  have hm := Value.entriesShowable_iff.mp (entriesShowable_part h key)
  intro c hc
  rcases List.mem_cons.mp hc with rfl | hc
  · exact isReported_kindCheck h .dictionary key
  · obtain ⟨e,he,rfl⟩ := List.mem_map.mp hc
    exact ⟨rfl,(hm e he).2⟩

theorem isReported_partChecks {es : Entries} (h : Value.entriesShowable es = true)
    (names : List String) (key : String) :
    ∀ c ∈ es.partChecks names key, c.fault.IsReported := by
  have hm := entriesShowable_part h key
  intro c hc
  rcases List.mem_cons.mp hc with rfl | hc
  · exact isReported_kindCheck h .dictionary key
  · obtain ⟨name,-,rfl⟩ := List.mem_map.mp hc
    exact isReported_kindCheck hm .string name

theorem isReported_sourceChecks {es : Entries} (h : Value.entriesShowable es = true) :
    ∀ c ∈ es.sourceChecks, c.fault.IsReported := by
  intro c hc
  unfold sourceChecks at hc
  split at hc
  · next kind hkind =>
    rcases List.mem_cons.mp hc with rfl | hc
    · exact ⟨rfl,rfl⟩
    · cases kind with
      | hostPath =>
        simp only [storeChecks] at hc
        unfold pathTypeChecks at hc
        split at hc
        · rw [List.mem_singleton.mp hc]
          exact ⟨rfl,rfl⟩
        · contradiction
      | _ =>
        simp only [storeChecks,List.mem_cons,List.not_mem_nil,or_false] at hc
        rcases hc with rfl | rfl | rfl <;> exact isReported_kindCheck h _ _
  · contradiction

theorem isReported_dataChecks {es : Entries} (h : Value.entriesShowable es = true) :
    ∀ c ∈ es.dataChecks, c.fault.IsReported := by
  have hone (want : Expected) (key : String) :
      ∀ c ∈ [es.kindCheck want key], c.fault.IsReported := by
    intro c hc
    rw [List.mem_singleton.mp hc]
    exact isReported_kindCheck h want key
  have htokens : ∀ c ∈ tokenChecks (es.field "modes") es.modeTokens,
      c.fault.IsReported := by
    intro c hc
    obtain ⟨token,-,rfl⟩ := List.mem_map.mp hc
    exact ⟨rfl,isShowable_field h "modes"⟩
  have hreclaim : ∀ c ∈ es.reclaimChecks, c.fault.IsReported := by
    intro c hc
    simp only [reclaimChecks,List.mem_cons,List.not_mem_nil,or_false] at hc
    rcases hc with rfl | rfl
    · exact isReported_kindCheck h _ _
    · exact ⟨rfl,isShowable_field h "reclaim"⟩
  unfold dataChecks
  simp only [List.flatten_cons,List.flatten_nil,List.append_nil,List.forall_mem_append]
  exact ⟨hone _ _,hone _ _,hone _ _,hone _ _,hone _ _,isReported_labelChecks h _,
    isReported_labelChecks h _,hone _ _,htokens,isReported_partChecks h _ _,hreclaim,hone _ _,
    hone _ _,isReported_partChecks h _ _⟩

end Entries

/-- The checks of a value have declared faults, and where its integers have a text no fault needs a
longer one. -/
theorem Value.isReported_checks {v : Value} (h : v.isShowable = true) :
    ∀ c ∈ v.checks, c.fault.IsReported := by
  have hes : Value.entriesShowable (v.entries?.getD []) = true := by
    cases hm : v.entries? with
    | none => rfl
    | some m => exact Value.entriesShowable_of_entries? h hm
  intro c hc
  simp only [Value.checks,Entries.checks,List.mem_cons,List.mem_append,List.not_mem_nil,
    or_false] at hc
  rcases hc with rfl | rfl | rfl | (rfl | hc) | hc
  · exact ⟨rfl,rfl⟩
  · exact ⟨rfl,Entries.isShowable_field hes "vol_id"⟩
  · exact ⟨rfl,Entries.isShowable_field hes "vol_type"⟩
  · exact ⟨rfl,Entries.isShowable_field hes "vol_type"⟩
  · exact Entries.isReported_sourceChecks hes c hc
  · exact Entries.isReported_dataChecks hes c hc

theorem Value.isShowable_checks {v : Value} (h : v.isShowable = true) :
    ∀ c ∈ v.checks, c.fault.isShowable = true :=
  fun c hc => (Value.isReported_checks h c hc).showable

theorem Volume.ofValue_answers {doc : Value} (h : doc.isShowable = true) :
    Except.Answers (Volume.ofValue doc) doc.checks := by
  unfold Volume.ofValue Value.checks Value.isMap
  split
  · next es hes =>
    rw [hes]
    exact Except.Answers.of_met rfl
      (Volume.ofRecord_answers (Value.entriesShowable_of_entries? h hes))
  · next hes =>
    rw [hes]
    exact Except.Answers.of_unmet rfl _

/-- A value holds a volume exactly when it meets all its checks. Else reading it reports the fault of
the first check that it does not meet, as it is. -/
theorem Volume.ofValue_first_fault {doc : Value} (h : doc.isShowable = true) :
    ((∃ v, Volume.ofValue doc = .ok v) ↔ ∀ c ∈ doc.checks, c.met = true) ∧
      ∀ passed c rest, doc.checks = passed ++ c :: rest → (∀ d ∈ passed, d.met = true) →
        c.met = false → Volume.ofValue doc = .error c.fault ∧ c.fault.reported = c.fault := by
  have hanswers := Volume.ofValue_answers h
  unfold Except.Answers at hanswers
  constructor
  · rw [← Check.firstFault_eq_none_iff,← hanswers]
    cases Volume.ofValue doc <;> simp [Except.fault?]
  · intro passed c rest hchecks hpassed hunmet
    rw [hchecks,Check.firstFault_of_first hpassed hunmet] at hanswers
    have hshown : c.fault.isShowable = true := Value.isShowable_checks h c (by simp [hchecks])
    refine ⟨?_,if_pos hshown⟩
    cases hread : Volume.ofValue doc with
    | ok v => simp [hread,Except.fault?] at hanswers
    | error f =>
      rw [hread] at hanswers
      rw [Option.some.inj hanswers]

/-- A path with an unknown token among its modes, and with a list, a number and a flag where texts
should be. -/
def troubledPath : Value :=
  .map [(.text "status",.list []), (.text "modes",.text "ro,rx"), (.text "vol_id",.text "/a:dir"),
    (.text "storage",.bool true), (.text "labels",.map [(.int 1,.text "x"), (.text "b",.int 2)]),
    (.text "fs",.int 3), (.text "vol_type",.text "hostpath"), (.text "name",.null)]

theorem Volume.ofValue_troubledPath :
    troubledPath.isShowable = true ∧
      Volume.ofValue troubledPath = .error (.field (.int 2) "labels.b" .string) ∧
      (Fault.field (.int 2) "labels.b" .string).reported = .field (.int 2) "labels.b" .string := by
  have hshowable : troubledPath.isShowable = true := by decide +kernel
  have hpassed : ∀ c ∈ troubledPath.checks.take 13, c.met = true := by
    rw [← List.all_eq_true]
    decide +kernel
  exact ⟨hshowable,(Volume.ofValue_first_fault hshowable).2 _ _ (troubledPath.checks.drop 14) rfl
    hpassed rfl⟩

end ShortVolume
