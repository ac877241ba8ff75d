import LinkMeter.Proofs.Settings.Store

/-! # Whether the file agrees with the settings in use

Others may change or delete the settings file between two calls of the store. A call writes the file only when its
settings differ from those of the last call that gave an answer, so settings that did not change agree with the file
after a call only if they agreed with it before. -/

namespace LinkMeter.Settings.Store

/-- A call of the store. -/
inductive Call where
  | load (hazards : Hazards)
  | save (hazards : Hazards) (fields : Json.Fields)
  | reset (hazards : Hazards)

/-- Makes the call and gives the configuration that it answers with, or that it was asked to save. -/
def Call.perform : Call → Logged Store Json.Fields
  | load hazards => do pure (← Store.load hazards).toFields
  | save hazards fields => do
    Store.save hazards fields
    pure fields
  | reset hazards => do pure (← Store.reset hazards).toFields

/-- The file holds an object whose validation is that of the configuration `c`. -/
def Agrees (files : Files) (path : Path) (c : Json.Fields) : Prop :=
  ∃ fields s, Holds files path fields ∧ validated fields = .ok s ∧ validated c = .ok s

variable {files : Files} {path : Path} {c : Json.Fields} {s : Settings} {st st' : Store}

theorem Call.perform_load (hazards : Hazards) (st : Store) :
    (load hazards).perform st = (Store.load hazards st).map toFields := Step.map_apply toFields _ st

theorem Call.perform_save (hazards : Hazards) (fields : Json.Fields) (st : Store) :
    (save hazards fields).perform st = (Store.save hazards fields st).map fun _ => fields :=
  Step.map_apply (fun _ => fields) _ st

theorem Call.perform_reset (hazards : Hazards) (st : Store) :
    (reset hazards).perform st = (Store.reset hazards st).map toFields := Step.map_apply toFields _ st

theorem agrees_of_read (hread : files.read path = .ok (content s)) (hvalid : validated c = .ok s) : Agrees files path c :=
  ⟨s.toFields, s, ⟨content s, hread, readContent_content s⟩, validated_toFields s, hvalid⟩

theorem not_agrees (h : ∀ fields, ¬ Holds files path fields) : ¬ Agrees files path c :=
  fun ⟨fields, _, hholds, _⟩ => h fields hholds

/-! ## One call -/

/-- What a call that answers with `c`, which describes the settings `s`, leaves behind. -/
structure Answered (st : Store) (c : Json.Fields) (s : Settings) (st' : Store) : Prop where
  path : st'.path = st.path
  valid : validated c = .ok s
  kept : st'.kept = some s
  agrees : st'.files.isFolder st.path = false →
    (Agrees st'.files st.path c ↔ Agrees st.files st.path c ∨ st.kept ≠ some s)

theorem Saved.answered (h : Saved s st st') (hvalid : validated c = .ok s) : Answered st c s st' := by
  cases h with
  | skipped hkept => exact ⟨rfl, hvalid, hkept, fun _ => by simp [hkept]⟩
  | written hkept hread =>
    exact ⟨rfl, hvalid, rfl, fun hfolder => iff_of_true (agrees_of_read (hread hfolder) hvalid) (.inr hkept)⟩

theorem Loaded.answered (h : Loaded s st st') : Answered st s.toFields s st' := by
  have hvalid := validated_toFields s
  cases h with
  | @read fields hholds hfields =>
    have hagrees : Agrees st.files st.path s.toFields := ⟨fields, s, hholds, hfields, hvalid⟩
    exact ⟨rfl, hvalid, rfl, fun _ => iff_of_true hagrees (.inl hagrees)⟩
  | fallback hdefault hbefore hafter hsaved =>
    -- The file held no object, neither at first nor when the defaults were saved, so only what was kept decides.
    have h := hsaved.answered hvalid
    refine ⟨h.path, hvalid, h.kept, fun hfolder => ?_⟩
    rw [h.agrees hfolder, iff_false_intro (not_agrees hafter), iff_false_intro (not_agrees hbefore)]

theorem EndsIn.map {α β : Type} {P : α → Store → Prop} {Q : β → Store → Prop} {o : Outcome Log.Record Store α} {g : α → β}
    (h : EndsIn P st o) (hQ : ∀ a st', P a st' → Q (g a) st') : EndsIn Q st (o.map g) := by
  rcases h with ⟨e, files, hresult, hstate⟩ | ⟨a, hresult, ha⟩
  · refine .inl ⟨e, files, ?_, hstate⟩
    rw [Outcome.map_result, hresult]
    rfl
  · refine .inr ⟨g a, ?_, hQ a _ ha⟩
    rw [Outcome.map_result, hresult]
    rfl

theorem Call.perform_ends (call : Call) (st : Store) :
    EndsIn (fun c st' => ∃ s, Answered st c s st') st (call.perform st) := by
  cases call with
  | load hazards =>
    rw [perform_load]
    exact (load_ends hazards st).map fun s st' h => ⟨s, h.answered⟩
  | save hazards fields =>
    rw [perform_save]
    exact (save_ends hazards fields st).map fun _ st' ⟨s, hvalid, hsaved⟩ => ⟨s, hsaved.answered hvalid⟩
  | reset hazards =>
    rw [perform_reset]
    refine (reset_ends hazards st).map ?_
    rintro s st' ⟨rfl, hsaved⟩
    exact ⟨default, hsaved.answered (validated_toFields default)⟩

/-- A load that finds no object in the file answers with the defaults. -/
theorem load_answers_default {hazards : Hazards} (h : ((Call.load hazards).perform st).result = .ok c)
    (hnone : ∀ fields, ¬ Holds st.files st.path fields) : c = default.toFields := by
  rw [Call.perform_load] at h
  obtain ⟨s, hs, rfl⟩ := Outcome.result_of_map h
  rcases load_ends hazards st with ⟨e, _, hresult, -⟩ | ⟨s', hresult, hloaded⟩
  · rw [hresult] at hs
    cases hs
  · obtain rfl : s' = s := by
      rw [hresult] at hs
      exact Except.ok.inj hs
    generalize (load hazards st).state = st' at hloaded
    cases hloaded with
    | read hholds _ => exact absurd hholds (hnone _)
    | fallback hdefault _ _ _ => rw [hdefault]

/-! ## Histories -/

/-- What happens to the store: a call, or a change to the files by others. -/
inductive Deed where
  | call (c : Call)
  | edit (change : Files → Files)

namespace Deed

/-- Lets the deed happen. -/
def perform : Deed → Logged Store Unit
  | call c => do let _ ← c.perform
  | edit change => Step.modify fun st => { st with files := change st.files }

/-- The answer to a call that does not fail. -/
def answer (st : Store) : Deed → Option Json.Fields
  | call c => (c.perform st).result.toOption
  | edit _ => none

theorem perform_call (call : Call) (st : Store) : (Deed.call call).perform st = (call.perform st).map fun _ => () :=
  Step.map_apply (fun _ => ()) _ st

end Deed

/-- The last answer that a call of the history gave. -/
def lastAnswer (st : Store) : List Deed → Option Json.Fields
  | [] => none
  | d :: rest => (lastAnswer (d.perform st).state rest).or (d.answer st)

/-- The settings that a configuration describes, if one was given as an answer. -/
def settled (answer : Option Json.Fields) : Option Settings := answer.bind fun c => (validated c).toOption

/-- The store is at `path` and keeps the settings of the answer. -/
structure Keeps (path : Path) (answer : Option Json.Fields) (st : Store) : Prop where
  path : st.path = path
  kept : st.kept = settled answer

theorem Keeps.perform {last : Option Json.Fields} (h : Keeps path last st) (d : Deed) :
    Keeps path ((d.answer st).or last) (d.perform st).state := by
  cases d with
  | edit change => exact ⟨h.path, h.kept⟩
  | call call =>
    rw [Deed.perform_call, Outcome.map_state]
    show Keeps path ((call.perform st).result.toOption.or last) _
    rcases call.perform_ends st with ⟨e, files, hresult, hstate⟩ | ⟨c, hresult, s, hanswered⟩
    · rw [hresult, hstate]
      exact ⟨h.path, h.kept⟩
    · rw [hresult]
      refine ⟨hanswered.path.trans h.path, hanswered.kept.trans ?_⟩
      show some s = (validated c).toOption
      rw [hanswered.valid]
      rfl

theorem Keeps.run {last : Option Json.Fields} (h : Keeps path last st) (deeds : List Deed) :
    Keeps path ((lastAnswer st deeds).or last) (Step.run Deed.perform deeds st).state := by
  induction deeds generalizing st last with
  | nil => exact h
  | cons d rest ih =>
    rw [Step.run_cons, Outcome.after_state, lastAnswer, Option.or_assoc]
    exact ih (h.perform d)

theorem keeps_run (path : Path) (files : Files) (deeds : List Deed) :
    Keeps path (lastAnswer (fresh path files) deeds) (Step.run Deed.perform deeds (fresh path files)).state := by
  have hstart : Keeps path none (fresh path files) := ⟨rfl, rfl⟩
  have hrun := hstart.run deeds
  rwa [Option.or_none] at hrun

theorem settled_eq_iff {last : Option Json.Fields} : settled last = some s ↔ ∃ d, last = some d ∧ validated d = .ok s := by
  cases last with
  | none => exact iff_of_false nofun fun ⟨_, hd, _⟩ => nomatch hd
  | some d =>
    show (validated d).toOption = some s ↔ _
    simp only [Option.some.injEq, exists_eq_left']
    cases validated d with
    | error e => exact iff_of_false nofun nofun
    | ok t => simp [Except.toOption]

theorem Keeps.agrees_iff {last : Option Json.Fields} {call : Call} (hkeeps : Keeps path last st)
    (h : (call.perform st).result = .ok c) (hfolder : (call.perform st).state.files.isFolder path = false) :
    Agrees (call.perform st).state.files path c ↔
      Agrees st.files path c ∨ ∀ d, last = some d → validated d ≠ validated c := by
  obtain ⟨rfl, hkept⟩ := hkeeps
  rcases call.perform_ends st with ⟨e, _, hresult, -⟩ | ⟨c', hresult, s, hanswered⟩
  · cases hresult.symm.trans h
  · obtain rfl : c' = c := Except.ok.inj (hresult.symm.trans h)
    rw [hanswered.agrees hfolder, hkept, Ne, settled_eq_iff, hanswered.valid]
    simp

/-- After a call that gives an answer the file agrees with it just if it agreed before, or if the settings are others than
those of the last answer. So a load that finds no object in the file and falls back on the defaults leaves a file of
defaults behind just if the settings of the last answer were others. -/
theorem agrees_after_call (path : Path) (files : Files) (deeds : List Deed) (call : Call)
    (h : (call.perform (Step.run Deed.perform deeds (fresh path files)).state).result = .ok c)
    (hfolder : (call.perform (Step.run Deed.perform deeds (fresh path files)).state).state.files.isFolder path = false) :
    let st := (Step.run Deed.perform deeds (fresh path files)).state
    let last := lastAnswer (fresh path files) deeds
    (Agrees (call.perform st).state.files path c ↔
      Agrees st.files path c ∨ ∀ d, last = some d → validated d ≠ validated c) ∧
    ∀ hazards, call = .load hazards → (∀ fields, ¬ Holds st.files path fields) → c = default.toFields ∧
      (Agrees (call.perform st).state.files path c ↔ ∀ d, last = some d → validated d ≠ validated c) := by
  intro st last
  have hkeeps : Keeps path last st := keeps_run path files deeds
  have hagrees := hkeeps.agrees_iff h hfolder
  refine ⟨hagrees, ?_⟩
  rintro hazards rfl hnone
  have hnone' : ∀ fields, ¬ Holds st.files st.path fields := by
    rw [hkeeps.path]
    exact hnone
  refine ⟨load_answers_default h hnone', hagrees.trans ?_⟩
  rw [iff_false_intro (not_agrees hnone), false_or]

def cfgPath : Path := ⟨1, ["cfg.json"]⟩

/-- The file was made by a load and deleted by others. -/
def deletion : List Deed :=
  [.call (.load {}), .edit fun files => (files.remove cfgPath).toOption.getD files]

/-- The store after the deletion, which began without files. -/
def deleted : Store := (Step.run Deed.perform deletion (fresh cfgPath ⟨[]⟩)).state

theorem lastAnswer_deletion : lastAnswer (fresh cfgPath ⟨[]⟩) deletion = some default.toFields := by
  have hload : (load {} (fresh cfgPath ⟨[]⟩)).result = .ok default := by decide +kernel
  simp only [deletion, lastAnswer, Deed.answer, Option.none_or]
  rw [Call.perform_load, Outcome.map_result, hload]
  rfl

/-- Other settings than those of the last answer are written to the file that was deleted. -/
theorem agrees_up_deletion :
    ((Call.save {} [("mode", .string "upstream")]).perform deleted).result = .ok [("mode", .string "upstream")] ∧
    ((Call.save {} [("mode", .string "upstream")]).perform deleted).state.files.isFolder cfgPath = false ∧
    Agrees ((Call.save {} [("mode", .string "upstream")]).perform deleted).state.files cfgPath
      [("mode", .string "upstream")] := by
  have hsave : (save {} [("mode", .string "upstream")] deleted).result = .ok () := by decide +kernel
  have hanswer : ((Call.save {} [("mode", .string "upstream")]).perform deleted).result =
      .ok [("mode", .string "upstream")] := by
    rw [Call.perform_save, Outcome.map_result, hsave]
    rfl
  have hfolder : ((Call.save {} [("mode", .string "upstream")]).perform deleted).state.files.isFolder cfgPath = false := by
    decide +kernel
  have hnew : ∀ d, lastAnswer (fresh cfgPath ⟨[]⟩) deletion = some d →
      validated d ≠ validated [("mode", .string "upstream")] := by
    intro d hd
    rw [lastAnswer_deletion] at hd
    have hup : validated [("mode", .string "upstream")] = .ok { default with mode := .up } := by decide +kernel
    rw [← Option.some.inj hd, validated_toFields, hup]
    decide
  unfold deleted at hanswer hfolder ⊢
  exact ⟨hanswer, hfolder, (agrees_after_call cfgPath ⟨[]⟩ deletion _ hanswer hfolder).1.mpr (.inr hnew)⟩

/-- A load after the deletion answers with the defaults and leaves no file behind. -/
theorem not_agrees_deletion : Step.Unfailing Deed.perform deletion (fresh cfgPath ⟨[]⟩) ∧
    ((Call.load {}).perform deleted).result = .ok default.toFields ∧
    (∀ n < 3, (Step.run Deed.perform (deletion.take n) (fresh cfgPath ⟨[]⟩)).state.files.isFolder cfgPath = false) ∧
    ((Call.load {}).perform deleted).state.files.isFolder cfgPath = false ∧
    ¬ Agrees ((Call.load {}).perform deleted).state.files cfgPath default.toFields := by
  have hload : (load {} deleted).result = .ok default := by decide +kernel
  refine ⟨by decide +kernel, ?_, by decide +kernel, by decide +kernel, not_agrees ?_⟩
  · rw [Call.perform_load, Outcome.map_result, hload]
    rfl
  · rintro fields ⟨bytes, hread, -⟩
    have hmissing : (((Call.load {}).perform deleted).state.files.read cfgPath).toOption = none := by decide +kernel
    rw [hread] at hmissing
    cases hmissing

/-! ## Others that keep their hands off the settings -/

theorem lastAnswer_append (st : Store) (deeds later : List Deed) : lastAnswer st (deeds ++ later) =
    (lastAnswer (Step.run Deed.perform deeds st).state later).or (lastAnswer st deeds) := by
  induction deeds generalizing st with
  | nil => exact (Option.or_none).symm
  | cons d deeds ih =>
    rw [List.cons_append, lastAnswer, lastAnswer, ih, Step.run_cons, Outcome.after_state, Option.or_assoc]

theorem Agrees.congr {d : Json.Fields} (h : Agrees files path d) (heq : validated d = validated c) :
    Agrees files path c := by
  obtain ⟨fields, s, hholds, hfields, hd⟩ := h
  exact ⟨fields, s, hholds, hfields, heq ▸ hd⟩

theorem Keeps.agrees_after {last : Option Json.Fields} {call : Call} (hkeeps : Keeps path last st)
    (h : (call.perform st).result = .ok c) (hfolder : (call.perform st).state.files.isFolder path = false)
    (hlast : ∀ d, last = some d → Agrees st.files path d) : Agrees (call.perform st).state.files path c := by
  rw [hkeeps.agrees_iff h hfolder]
  by_cases hnew : ∀ d, last = some d → validated d ≠ validated c
  · exact .inr hnew
  · obtain ⟨d, hd⟩ := Classical.not_forall.mp hnew
    obtain ⟨hd, heq⟩ := Classical.not_imp.mp hd
    exact .inl ((hlast d hd).congr (Classical.not_not.mp heq))

/-- If others change the files only in such a way that a file agrees with a configuration after the change if it did
before, then the file agrees with the last answer. -/
theorem agrees_with_last {deeds : List Deed} (h : Step.Unfailing Deed.perform deeds (fresh path files))
    (hedits : ∀ change, .edit change ∈ deeds → ∀ files c, Agrees files path c → Agrees (change files) path c)
    (hfolder : ∀ before, before <+: deeds →
      (Step.run Deed.perform before (fresh path files)).state.files.isFolder path = false) :
    ∀ c, lastAnswer (fresh path files) deeds = some c →
      Agrees (Step.run Deed.perform deeds (fresh path files)).state.files path c := by
  -- The part of the history so far is part of the invariant, since the path is a folder at no point of this history.
  refine h.keeps (I := fun done st => done <+: deeds → ∀ c, lastAnswer (fresh path files) done = some c →
    Agrees st.files path c) (fun _ => nofun) ?_ List.prefix_rfl
  intro done d hd hdone hok hpart c hlast
  have hbefore := hdone ((List.prefix_append done [d]).trans hpart)
  have hkeeps := keeps_run path files done
  have hfolder := hfolder _ hpart
  rw [Step.run_concat_state] at hfolder ⊢
  rw [lastAnswer_append] at hlast
  generalize (Step.run Deed.perform done (fresh path files)).state = st at hbefore hkeeps hok hfolder hlast ⊢
  cases d with
  | edit change => exact hedits change hd st.files c (hbefore c hlast)
  | call call =>
    rw [Deed.perform_call] at hok hfolder ⊢
    obtain ⟨c', hanswer, -⟩ := Outcome.result_of_map hok
    have hc : some c' = some c := by
      rw [← hlast]
      show _ = ((call.perform st).result.toOption).or _
      rw [hanswer]
      rfl
    cases hc
    exact hkeeps.agrees_after hanswer hfolder hbefore

end LinkMeter.Settings.Store
