import ShortVolume.Command
set_option autoImplicit false

/-!
What command lines ask for.

Options may stand before the verb, and whatever follows the verb belongs to it. A command line whose
verb is to check asks for nothing that writes, nor does one that asks for a dry run before the first
pair of hyphens alone.
-/

namespace ShortVolume.Command

/-- The request is no task, or one that leaves files as they are. -/
def Request.IsDry : Request → Prop
  | .task asked => asked.isDry = true
  | _ => True

theorem isDry_of_ending? {ss : List Setting} {r : Request} (h : r.IsDry) :
    ((ending? ss).getD r).IsDry := by
  induction ss with
  | nil => exact h
  | cons s ss ih =>
    rw [ending?]
    split
    · trivial
    · trivial
    · exact ih

/-! ### Settings -/

theorem exists_mem_of_cluster {os : Options Meaning} {name : String} {m : Meaning} {cs : List Char}
    {ss : List Setting} (h : cluster os name m cs = some ss) : ∃ s ∈ ss, s.meaning = m := by
  cases cs with
  | nil =>
    rw [cluster] at h
    split at h
    · cases h
      exact ⟨_,List.mem_singleton_self _,rfl⟩
    · contradiction
  | cons c r =>
    rw [cluster] at h
    split at h
    · cases h
      exact ⟨_,List.mem_singleton_self _,rfl⟩
    · split at h
      · contradiction
      · dsimp only at h
        split at h
        · contradiction
        · split at h
          · split at h
            · contradiction
            · cases h
              exact ⟨_,List.mem_cons_self,rfl⟩
          · obtain ⟨rest,-,rfl⟩ := Option.map_eq_some_iff.mp h
            exact ⟨_,List.mem_cons_self,rfl⟩

/-- The words after an option are left, but for an argument that is its value. -/
theorem settings?_cases {os : Options Meaning} {name : String} {m : Meaning} {value : Option String}
    {ws rest : List (Word Meaning)} {ss : List Setting}
    (h : settings? os name m value ws = some (ss,rest)) :
    (∃ s ∈ ss, s.meaning = m) ∧ (rest = ws ∨ ∃ s, ws = .argument s :: rest) := by
  unfold settings? at h
  split at h
  · obtain ⟨ss',hss,heq⟩ := Option.map_eq_some_iff.mp h
    cases heq
    exact ⟨exists_mem_of_cluster hss,.inl rfl⟩
  · split at h
    · split at h
      · cases h
        exact ⟨⟨_,List.mem_singleton_self _,rfl⟩,.inr ⟨_,rfl⟩⟩
      · contradiction
    · cases h
      exact ⟨⟨_,List.mem_singleton_self _,rfl⟩,.inl rfl⟩

namespace Reading

theorem dryRun_set {p : Reading} {s : Setting}
    (h : p.formatting.dryRun = true ∨ s.meaning = .dryRun) : (p.set s).formatting.dryRun = true := by
  unfold set
  split <;> simp_all

theorem dryRun_setAll {p : Reading} {ss : List Setting}
    (h : p.formatting.dryRun = true ∨ ∃ s ∈ ss, s.meaning = .dryRun) :
    (p.setAll ss).formatting.dryRun = true := by
  induction ss generalizing p with
  | nil => simpa [setAll] using h
  | cons s ss ih =>
    refine ih (p := p.set s) ?_
    rcases h with hp | ⟨x,hx,hmeaning⟩
    · exact .inl (dryRun_set (.inl hp))
    · rcases List.mem_cons.mp hx with rfl | hx
      · exact .inl (dryRun_set (.inr hmeaning))
      · exact .inr ⟨x,hx,hmeaning⟩

end Reading

/-! ### After the verb -/

/-- The verb is to check, or a dry run has been asked for, or a word to come asks for it. -/
def Announces (v : Verb) (p : Reading) (ws : List (Word Meaning)) : Prop :=
  v = .check ∨ p.formatting.dryRun = true ∨ ∃ name value, Word.option name .dryRun value ∈ ws

theorem Announces.tail {v : Verb} {p q : Reading} {w : Word Meaning} {ws : List (Word Meaning)}
    (h : Announces v p (w :: ws)) (hq : q.formatting = p.formatting)
    (hw : ∀ name value, w ≠ .option name .dryRun value) : Announces v q ws := by
  rcases h with hcheck | hset | ⟨name,value,hmem⟩
  · exact .inl hcheck
  · exact .inr (.inl (hq ▸ hset))
  · rcases List.mem_cons.mp hmem with heq | hmem
    · exact absurd heq.symm (hw name value)
    · exact .inr (.inr ⟨name,value,hmem⟩)

theorem Announces.setAll {v : Verb} {p : Reading} {name : String} {m : Meaning}
    {value : Option String} {ws rest : List (Word Meaning)} {ss : List Setting}
    (h : Announces v p (.option name m value :: ws))
    (hsettings : settings? v.options name m value ws = some (ss,rest)) :
    Announces v (p.setAll ss) rest := by
  obtain ⟨⟨s,hs,hmeaning⟩,hrest⟩ := settings?_cases hsettings
  rcases h with hcheck | hset | ⟨name',value',hmem⟩
  · exact .inl hcheck
  · exact .inr (.inl (Reading.dryRun_setAll (.inl hset)))
  · rcases List.mem_cons.mp hmem with heq | hmem
    · cases heq
      exact .inr (.inl (Reading.dryRun_setAll (.inr ⟨s,hs,hmeaning⟩)))
    · refine .inr (.inr ⟨name',value',?_⟩)
      rcases hrest with rfl | ⟨a,rfl⟩
      · exact hmem
      · exact (List.mem_cons.mp hmem).resolve_left (by simp)

theorem Announces.request {v : Verb} {p : Reading} (h : Announces v p []) :
    (p.request v).IsDry := by
  unfold Reading.request
  split
  · trivial
  · split
    · trivial
    · cases v with
      | check => rfl
      | format =>
        rcases h with hcheck | hset | ⟨name,value,hmem⟩
        · contradiction
        · exact hset
        · cases hmem

theorem readTask_isDry {v : Verb} {n : Nat} {p : Reading} {ws : List (Word Meaning)}
    (hn : ws.length ≤ n) (h : Announces v p ws) : (readTask v n p ws).IsDry := by
  induction n generalizing p ws with
  | zero =>
    obtain rfl := List.eq_nil_of_length_eq_zero (Nat.le_zero.mp hn)
    exact h.request
  | succ n ih =>
    cases ws with
    | nil => exact h.request
    | cons w rest =>
      rw [List.length_cons,Nat.add_le_add_iff_right] at hn
      unfold readTask
      split
      · next name m value =>
        split
        · trivial
        · next ss left hsettings =>
          refine isDry_of_ending? (ih ?_ (h.setAll hsettings))
          obtain ⟨-,rfl | ⟨s,rfl⟩⟩ := settings?_cases hsettings
          · exact hn
          · exact Nat.le_of_succ_le hn
      · refine ih (Nat.le_of_succ_le hn) ((h.tail (q := p) rfl ?_).tail rfl ?_) <;> simp
      · exact ih hn (h.tail rfl (by simp))
      · refine ih (Nat.le_of_succ_le hn) ((h.tail (q := p) rfl ?_).tail rfl ?_) <;> simp
      · next hother _ _ _ =>
        exact ih hn (h.tail rfl (fun name value => hother name .dryRun value))

/-! ### Words -/

section Words

variable {os : Options Meaning} {s : String} {r : List String} {ws : List (Word Meaning)}

theorem words?_cons (h : os.words? (s :: r) = some ws) :
    (s = "--" ∧ ws = .separator :: r.map .argument) ∨
      s ≠ "--" ∧ ∃ w rest, os.word? s = some w ∧ os.words? r = some rest ∧ ws = w :: rest := by
  rw [Options.words?] at h
  split at h
  · next hs => exact .inl ⟨hs,(Option.some.inj h).symm⟩
  · next hs =>
    simp only [bind,Option.bind_eq_some_iff,pure,Option.some.injEq] at h
    obtain ⟨w,hw,rest,hrest,rfl⟩ := h
    exact .inr ⟨hs,w,rest,hw,hrest,rfl⟩

theorem length_of_words? (h : os.words? r = some ws) : ws.length = r.length := by
  induction r generalizing ws with
  | nil => cases h; rfl
  | cons s r ih =>
    rcases words?_cons h with ⟨-,rfl⟩ | ⟨-,w,rest,-,hrest,rfl⟩
    · simp
    · simp [ih hrest]

/-- A word before the first pair of hyphens alone is read as what it is. -/
theorem mem_words? {w : Word Meaning} (h : os.words? r = some ws)
    (hs : s ∈ r.takeWhile (· != "--")) (hw : os.word? s = some w) : w ∈ ws := by
  induction r generalizing ws with
  | nil => cases hs
  | cons a r ih =>
    rcases words?_cons h with ⟨rfl,-⟩ | ⟨ha,x,rest,hx,hrest,rfl⟩
    · simp at hs
    · rw [List.takeWhile_cons_of_pos (by simpa using ha)] at hs
      rcases List.mem_cons.mp hs with rfl | hs
      · cases hx.symm.trans hw
        exact List.mem_cons_self
      · exact List.mem_cons_of_mem _ (ih hrest hs)

end Words

/-! ### Before the verb -/

/-- The words are options of the program, with the values that they take, or such as it does not
know. -/
inductive AreFlags : List String → Prop
  | nil : AreFlags []
  | option {s name : String} {m : Meaning} {value : Option String} {r : List String}
      (hs : mainOptions.word? s = some (.option name m value))
      (hvalue : value.isSome ∨ m.takesValue = false) (hr : AreFlags r) : AreFlags (s :: r)
  | valued {s name value : String} {m : Meaning} {r : List String}
      (hs : mainOptions.word? s = some (.option name m none))
      (hvalue : mainOptions.word? value = some (.argument value)) (hm : m.takesValue = true)
      (hr : AreFlags r) : AreFlags (s :: value :: r)
  | unknown {s x : String} {r : List String} (hs : mainOptions.word? s = some (.unknown x))
      (hr : AreFlags r) : AreFlags (s :: r)

theorem settings?_of_not_takesValue {os : Options Meaning} {name : String} {m : Meaning}
    {value : Option String} {ws rest : List (Word Meaning)} {ss : List Setting}
    (hvalue : value.isSome ∨ m.takesValue = false)
    (h : settings? os name m value ws = some (ss,rest)) : rest = ws := by
  rcases value with _ | v
  · simp_all [settings?]
  · obtain ⟨x,-,hx⟩ := Option.map_eq_some_iff.mp h
    cases hx
    rfl

/-- Two hyphens may mean any of the long options. -/
theorem word?_hyphens : mainOptions.word? "--" = none :=
  Option.isNone_iff_eq_none.mp (by decide +kernel)

theorem mainWords_cons {s : String} {w : Word Meaning} {r : List String}
    {ws : List (Word Meaning)} (hs : mainOptions.word? s = some w)
    (h : mainOptions.words? (s :: r) = some ws) :
    ∃ rest, mainOptions.words? r = some rest ∧ ws = w :: rest := by
  rcases words?_cons h with ⟨rfl,-⟩ | ⟨-,x,rest,hx,hrest,rfl⟩
  · simp [word?_hyphens] at hs
  · cases hs.symm.trans hx
    exact ⟨rest,hrest,rfl⟩

/-- An option before the verb leaves the words after it, or those after its value. -/
theorem readMain_option_isDry {n : Nat} {surplus : Bool} {s name : String} {m : Meaning}
    {value : Option String} {r : List String} {ws : List (Word Meaning)}
    (hlength : ws.length = r.length)
    (h : ∀ ss left, settings? mainOptions name m value ws = some (ss,left) →
      (readMain n surplus ((r.zip ws).drop (ws.length - left.length))).IsDry) :
    (readMain (n + 1) surplus ((s,.option name m value) :: r.zip ws)).IsDry := by
  have hwords : (r.zip ws).map Prod.snd = ws := List.map_snd_zip (Nat.le_of_eq hlength)
  rw [readMain]
  simp only [hwords]
  split
  · trivial
  · next ss left hsettings =>
    refine isDry_of_ending? ?_
    simpa [hlength] using h ss left hsettings

section Verbs

variable {v : Verb} {verb : String} {after : List String}

theorem word?_of_ofWord? (hverb : Verb.ofWord? verb = some v) :
    mainOptions.word? verb = some (.argument verb) := by
  unfold Verb.ofWord? at hverb
  split at hverb
  · exact if_pos (.inr (by decide +kernel))
  · exact if_pos (.inr (by decide +kernel))
  · contradiction

/-- Flags before the verb change nothing about what follows it. -/
theorem readMain_isDry (hverb : Verb.ofWord? verb = some v)
    (hafter : ∀ surplus ws, v.options.words? after = some ws → Announces v (.initial surplus) ws)
    {before : List String} (hbefore : AreFlags before) {n : Nat} {surplus : Bool}
    {ws : List (Word Meaning)} (hws : mainOptions.words? (before ++ verb :: after) = some ws) :
    (readMain n surplus ((before ++ verb :: after).zip ws)).IsDry := by
  induction hbefore generalizing n surplus ws with
  | nil =>
    obtain ⟨rest,hrest,rfl⟩ := mainWords_cons (word?_of_ofWord? hverb) hws
    cases n with
    | zero => trivial
    | succ n =>
      have htexts : (after.zip rest).map Prod.fst = after :=
        List.map_fst_zip (Nat.le_of_eq (length_of_words? hrest).symm)
      rw [List.nil_append,List.zip_cons_cons,readMain]
      simp only [hverb,htexts]
      split
      · trivial
      · next words hwords => exact readTask_isDry (Nat.le_refl _) (hafter surplus words hwords)
  | option hs hvalue hr ih =>
    obtain ⟨rest,hrest,rfl⟩ := mainWords_cons hs hws
    cases n with
    | zero => trivial
    | succ n =>
      refine readMain_option_isDry (length_of_words? hrest) (fun ss left hsettings => ?_)
      obtain rfl := settings?_of_not_takesValue hvalue hsettings
      simpa using ih hrest
  | valued hs hvalue hm hr ih =>
    obtain ⟨rest,hrest,rfl⟩ := mainWords_cons hs hws
    obtain ⟨tail,htail,rfl⟩ := mainWords_cons hvalue hrest
    cases n with
    | zero => trivial
    | succ n =>
      refine readMain_option_isDry (length_of_words? hrest) (fun ss left hsettings => ?_)
      rw [settings?,if_pos hm] at hsettings
      cases hsettings
      simpa using ih htail
  | unknown hs hr ih =>
    obtain ⟨rest,hrest,rfl⟩ := mainWords_cons hs hws
    cases n with
    | zero => trivial
    | succ n => exact ih hrest

theorem request_isDry (hverb : Verb.ofWord? verb = some v)
    (hafter : ∀ surplus ws, v.options.words? after = some ws → Announces v (.initial surplus) ws)
    {before : List String} (hbefore : AreFlags before) :
    (request (before ++ verb :: after)).IsDry := by
  rw [request]
  split
  · trivial
  · next ws hws => exact readMain_isDry hverb hafter hbefore hws

end Verbs

theorem request_check_isDry {before : List String} (hbefore : AreFlags before)
    (after : List String) : (request (before ++ "check" :: after)).IsDry :=
  request_isDry (v := .check) rfl (fun _ _ _ => .inl rfl) hbefore

/-- Any word that means a dry run will do, also the start of the option's name. -/
theorem request_format_isDry {before after : List String} (hbefore : AreFlags before)
    {s name : String} {value : Option String} (hs : s ∈ after.takeWhile (· != "--"))
    (hword : formatOptions.word? s = some (.option name .dryRun value)) :
    (request (before ++ "fmt" :: after)).IsDry :=
  request_isDry (v := .format) rfl
    (fun _ _ hws => .inr (.inr ⟨name,value,mem_words? hws hs hword⟩)) hbefore

end ShortVolume.Command
