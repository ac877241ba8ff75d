import LinkMeter.Proofs.Settings.Store
import LinkMeter.Settings.Controller

/-! # Snapshots of the settings in use

A change of the settings publishes one configuration, that of the settings in use afterwards, or it fails and publishes
nothing and leaves the settings in use alone. So the settings in use are valid whatever was changed and however the file was
treated, and the file is not watched twice. -/

namespace LinkMeter.Settings

/-! ## The path of a store -/

namespace Store
variable {st st' : Store} {s : Settings}

theorem Saved.path (h : Saved s st st') : st'.path = st.path := by
  cases h with
  | skipped _ => rfl
  | written _ _ => rfl

theorem Loaded.path (h : Loaded s st st') : st'.path = st.path := by
  cases h with
  | read _ _ => rfl
  | fallback _ _ _ hsaved => exact hsaved.path

theorem save_path (hazards : Hazards) (fields : Json.Fields) (st : Store) :
    (save hazards fields st).state.path = st.path := by
  rcases save_ends hazards fields st with ⟨e, files, -, hstate⟩ | ⟨_, -, s, -, hsaved⟩
  · rw [hstate]
  · exact hsaved.path

theorem load_path (hazards : Hazards) (st : Store) : (load hazards st).state.path = st.path := by
  rcases load_ends hazards st with ⟨e, files, -, hstate⟩ | ⟨s, -, hloaded⟩
  · rw [hstate]
  · exact hloaded.path

end Store

namespace Controller
variable {c : Controller} {α : Type}

/-- The configurations among the notices. -/
def published (notices : List Notice) : List Display.Config := notices.filterMap fun n => n.sort.getRight?

theorem published_append (notices later : List Notice) :
    published (notices ++ later) = published notices ++ published later := List.filterMap_append

theorem published_records (records : List Log.Record) : published (records.map .record) = [] := by
  unfold published
  rw [List.filterMap_map, List.filterMap_eq_nil_iff]
  exact fun _ _ => rfl

/-! ## One deed -/

/-- What happens to a controller after its first loading. -/
inductive Deed where
  | update (updates : Json.Fields) (save : Bool) (hazards : Hazards)
  | changed (told : Text) (hazards : Hazards)
  /-- The watcher forgets its paths. -/
  | dropped
  /-- Others change files. -/
  | edit (change : Files → Files)

namespace Deed

def perform : Deed → Step Notice Controller Unit
  | update updates save hazards => do let _ ← Controller.update updates save hazards
  | changed told hazards => reload told hazards
  | dropped => Step.modify forget
  | edit change => Step.modify fun c => { c with store := { c.store with files := change c.store.files } }

end Deed

/-- The outcome of a deed that published nothing and left the settings in use alone. -/
structure Unmoved (c : Controller) (o : Outcome Notice Controller α) : Prop where
  published : published o.reports = []
  current : o.state.current = c.current

/-- The outcome of a deed that put settings into use and published one configuration, theirs. -/
structure Moved (s : Settings) (o : Outcome Notice Controller α) : Prop where
  published : published o.reports = [s.toConfig]
  current : o.state.current = some s

theorem published_after {reports : List Notice} (h : published reports = []) (o : Outcome Notice Controller α) :
    published (o.after reports).reports = published o.reports := by
  rw [Outcome.after_reports, published_append, h, List.nil_append]

theorem Unmoved.after {reports : List Notice} {o : Outcome Notice Controller α} (h : Unmoved c o)
    (hreports : Controller.published reports = []) : Unmoved c (o.after reports) :=
  ⟨(published_after hreports o).trans h.published, h.current⟩

theorem Moved.after {s : Settings} {reports : List Notice} {o : Outcome Notice Controller α} (h : Moved s o)
    (hreports : Controller.published reports = []) : Moved s (o.after reports) :=
  ⟨(published_after hreports o).trans h.published, h.current⟩

theorem note_bind (level : Log.Level) (parts : List Text) (f : Unit → Step Notice Controller α) (c : Controller) :
    (note level parts >>= f) c = (f () c).after [.record ⟨level, .controller, .cat parts, none⟩] := rfl

theorem onStore_unmoved (m : Logged Store α) (c : Controller) : Unmoved c (onStore m c) :=
  ⟨published_records _, rfl⟩

theorem onStore_result (m : Logged Store α) (c : Controller) : (onStore m c).result = (m c.store).result := rfl

/-- Watching publishes nothing and does not fail. -/
theorem watch_unmoved (c : Controller) : Unmoved c (watch c) ∧ (watch c).result = .ok () := by
  unfold watch
  rw [Step.get_bind]
  split
  · split
    · exact ⟨⟨rfl, rfl⟩, rfl⟩
    · exact ⟨⟨rfl, rfl⟩, rfl⟩
  · exact ⟨⟨rfl, rfl⟩, rfl⟩

/-- A reload puts the settings that are loaded into use, or changes nothing if there are none. -/
theorem reload_cases (told : Text) (hazards : Hazards) (c : Controller) :
    (∃ e, (Store.load hazards c.store).result = .error e ∧ Unmoved c (reload told hazards c)) ∨
      ∃ s, (Store.load hazards c.store).result = .ok s ∧ (reload told hazards c).result = .ok () ∧
        Moved s (reload told hazards c) := by
  have hload := onStore_unmoved (Store.load hazards) c
  have hresult := onStore_result (Store.load hazards) c
  unfold reload
  rw [note_bind, Step.bind_of_eq_ok (Step.attempt_of_eq rfl), ← hresult]
  generalize onStore (Store.load hazards) c = loaded at hload ⊢
  obtain ⟨reports, c', result⟩ := loaded
  obtain ⟨hpublished, hcurrent⟩ := hload
  dsimp only at hpublished hcurrent ⊢
  cases result with
  | error e =>
    refine .inl ⟨e, rfl, Unmoved.after (Unmoved.after ?_ hpublished) rfl⟩
    cases e with
    | settingsLost what cause => exact ⟨rfl, hcurrent⟩
    | _ => exact ⟨rfl, hcurrent⟩
  | ok s =>
    have hadopt : (adopt s : Step Notice Controller Unit) c' = ⟨[], { c' with current := some s }, .ok ()⟩ := rfl
    obtain ⟨⟨hnone, hkept⟩, hwatched⟩ := watch_unmoved { c' with current := some s }
    dsimp only
    rw [Step.bind_of_eq_ok hadopt, Outcome.after_nil, Step.bind_of_ok hwatched]
    refine .inr ⟨s, rfl, rfl, Moved.after (Moved.after (Moved.after ⟨rfl, hkept⟩ hnone) hpublished) rfl⟩

/-- The outcome of an update: it failed and nothing moved, or it gave the configuration that it published. -/
def Ends (c : Controller) (o : Outcome Notice Controller Display.Config) : Prop :=
  (∃ e, o.result = .error e ∧ Unmoved c o) ∨ ∃ s, o.result = .ok s.toConfig ∧ Moved s o

theorem Ends.after {reports : List Notice} {o : Outcome Notice Controller Display.Config} (h : Ends c o)
    (hreports : published reports = []) : Ends c (o.after reports) := by
  rcases h with ⟨e, hresult, hunmoved⟩ | ⟨s, hresult, hmoved⟩
  · exact .inl ⟨e, hresult, hunmoved.after hreports⟩
  · exact .inr ⟨s, hresult, hmoved.after hreports⟩

theorem Ends.congr {c' : Controller} {o : Outcome Notice Controller Display.Config} (h : Ends c' o)
    (hcurrent : c'.current = c.current) : Ends c o := by
  rcases h with ⟨e, hresult, hpublished, hkept⟩ | hmoved
  · exact .inl ⟨e, hresult, hpublished, hkept.trans hcurrent⟩
  · exact .inr hmoved

/-- A work on the store may come first, since it moves nothing whether it fails or not. -/
theorem Ends.after_store {m : Logged Store α} {f : α → Step Notice Controller Display.Config}
    (hf : ∀ a, Ends (onStore m c).state (f a (onStore m c).state)) : Ends c ((onStore m >>= f) c) := by
  obtain ⟨hpublished, hcurrent⟩ := onStore_unmoved m c
  cases hresult : (onStore m c).result with
  | error e =>
    rw [Step.bind_of_error hresult]
    exact .inl ⟨e, rfl, hpublished, hcurrent⟩
  | ok a =>
    rw [Step.bind_of_ok hresult]
    exact ((hf a).after hpublished).congr hcurrent

theorem update_ends (updates : Json.Fields) (save : Bool) (hazards : Hazards) (c : Controller) :
    Ends c (update updates save hazards c) := by
  have hadopted : ∀ s c, Ends c ((do adopt s; Step.report (.published s.toConfig); pure s.toConfig :
      Step Notice Controller Display.Config) c) := fun s c => .inr ⟨s, rfl, rfl, rfl⟩
  unfold update
  rw [note_bind, Step.get_bind]
  refine Ends.after ?_ rfl
  -- Whether the settings are saved or not, all that can fail comes before they are adopted.
  cases save with
  | false => exact Ends.after_store fun s => hadopted s _
  | true => exact Ends.after_store fun _ => Ends.after_store fun s => hadopted s _

/-! ## Watching -/

/-- The settings file is watched once at most. -/
def WatchedOnce (c : Controller) : Prop := c.watched.count c.store.path ≤ 1

theorem WatchedOnce.onStore {m : Logged Store α} (hpath : ∀ st, (m st).state.path = st.path) (c : Controller)
    (h : WatchedOnce c) : WatchedOnce (Controller.onStore m c).state := by
  show c.watched.count (m c.store).state.path ≤ 1
  rw [hpath]
  exact h

theorem WatchedOnce.watch (c : Controller) (h : WatchedOnce c) : WatchedOnce (Controller.watch c).state := by
  unfold Controller.watch
  rw [Step.get_bind]
  split
  · rename_i hnot
    split
    · have hzero : c.watched.count c.store.path = 0 := List.count_eq_zero.mpr (by simpa using hnot)
      have hone : (c.watched ++ [c.store.path]).count c.store.path = 1 := by
        rw [List.count_append, hzero, List.count_singleton_self]
      exact Nat.le_of_eq hone
    · exact h
  · exact h

theorem WatchedOnce.update (updates : Json.Fields) (save : Bool) (hazards : Hazards) (c : Controller) (h : WatchedOnce c) :
    WatchedOnce (Controller.update updates save hazards c).state := by
  have hvalidated : ∀ fields c, WatchedOnce c → WatchedOnce (Controller.onStore (validate fields) c).state :=
    fun fields => WatchedOnce.onStore fun st => congrArg Store.path (validate_yields fields st).1
  have hadopted : ∀ s c, WatchedOnce c → WatchedOnce ((do adopt s; Step.report (.published s.toConfig); pure s.toConfig :
      Step Notice Controller Display.Config) c).state := fun s c h => h
  unfold Controller.update
  rw [note_bind, Step.get_bind, Outcome.after_state]
  cases save with
  | false => exact Step.bind_keeps (hvalidated _) hadopted c h
  | true =>
    exact Step.bind_keeps (WatchedOnce.onStore (Store.save_path hazards _))
      (fun _ => Step.bind_keeps (hvalidated _) hadopted) c h

theorem WatchedOnce.reload (told : Text) (hazards : Hazards) (c : Controller) (h : WatchedOnce c) :
    WatchedOnce (Controller.reload told hazards c).state := by
  unfold Controller.reload
  rw [note_bind, Outcome.after_state]
  have hload : ∀ c, WatchedOnce c → WatchedOnce (Step.attempt (Controller.onStore (Store.load hazards)) c).state :=
    WatchedOnce.onStore (Store.load_path hazards)
  refine Step.bind_keeps hload (fun r c h => ?_) c h
  cases r with
  | error e =>
    cases e with
    | settingsLost what cause => exact h
    | _ => exact h
  | ok s => exact Step.bind_keeps (fun c h => WatchedOnce.watch c h) (fun _ _ h => h) { c with current := some s } h

/-! ## Runs -/

/-- There are settings in use, and the file is watched once at most. -/
structure Sound (c : Controller) : Prop where
  inUse : ∃ s, c.current = some s
  watched : WatchedOnce c

theorem sound_of_start {store : Store} {cfg : Display.Config} (h : (start (fresh store)).result = .ok cfg) :
    Sound (start (fresh store)).state := by
  unfold start at h ⊢
  rw [note_bind] at h ⊢
  cases hload : (onStore (Store.load {}) (fresh store)).result with
  | error e =>
    rw [Step.bind_of_error hload] at h
    cases h
  | ok s =>
    have honce : WatchedOnce (onStore (Store.load {}) (fresh store)).state :=
      WatchedOnce.onStore (Store.load_path {}) (fresh store) (Nat.zero_le 1)
    rw [Step.bind_of_ok hload]
    generalize (onStore (Store.load {}) (fresh store)).state = c at honce ⊢
    obtain ⟨⟨-, hcurrent⟩, hresult⟩ := watch_unmoved { c with current := some s }
    have hwatched := WatchedOnce.watch { c with current := some s } honce
    rw [Step.modify_bind, Step.bind_of_ok hresult]
    exact ⟨⟨s, hcurrent⟩, hwatched⟩

theorem Sound.perform (d : Deed) (c : Controller) (h : Sound c) : Sound (d.perform c).state := by
  obtain ⟨⟨s, hs⟩, honce⟩ := h
  cases d with
  | update updates save hazards =>
    have hstate : ((Deed.update updates save hazards).perform c).state = (Controller.update updates save hazards c).state := by
      show ((do let _ ← Controller.update updates save hazards : Step Notice Controller Unit) c).state = _
      rw [Step.map_apply (fun _ => ()), Outcome.map_state]
    rw [hstate]
    refine ⟨?_, WatchedOnce.update updates save hazards c honce⟩
    rcases update_ends updates save hazards c with ⟨e, -, hunmoved⟩ | ⟨s', -, hmoved⟩
    · exact ⟨s, hunmoved.current.trans hs⟩
    · exact ⟨s', hmoved.current⟩
  | changed told hazards =>
    refine ⟨?_, WatchedOnce.reload told hazards c honce⟩
    rcases reload_cases told hazards c with ⟨e, -, hunmoved⟩ | ⟨s', -, -, hmoved⟩
    · exact ⟨s, hunmoved.current.trans hs⟩
    · exact ⟨s', hmoved.current⟩
  | dropped => exact ⟨⟨s, hs⟩, Nat.zero_le 1⟩
  | edit change => exact ⟨⟨s, hs⟩, honce⟩

/-- What holds of a controller whatever happened to it, and what an update or a reload makes of it then. -/
structure Consistent (c : Controller) : Prop where
  valid : (validated c.fields).map toFields = .ok c.fields
  watched : c.watched.count c.store.path ≤ 1
  update_ok : ∀ updates save hazards cfg, (update updates save hazards c).result = .ok cfg →
    published (update updates save hazards c).reports = [cfg] ∧
      Display.Config.ofSettings (update updates save hazards c).state.fields = .ok cfg
  update_error : ∀ updates save hazards e, (update updates save hazards c).result = .error e →
    published (update updates save hazards c).reports = [] ∧ (update updates save hazards c).state.fields = c.fields
  reload_ok : ∀ told hazards s, (Store.load hazards c.store).result = .ok s →
    (reload told hazards c).state.fields = s.toFields ∧ ∃ cfg, published (reload told hazards c).reports = [cfg] ∧
      Display.Config.ofSettings (reload told hazards c).state.fields = .ok cfg
  /-- A reload fails with a fault of its own or with one that it only reports. -/
  reload_error : ∀ told hazards e,
    (Store.load hazards c.store).result = .error e ∨ (reload told hazards c).result = .error e →
    published (reload told hazards c).reports = [] ∧ (reload told hazards c).state.fields = c.fields

theorem fields_of_current {s : Settings} (h : c.current = some s) : c.fields = s.toFields := by
  unfold fields
  rw [h]
  rfl

theorem Unmoved.fields {o : Outcome Notice Controller α} (h : Unmoved c o) : o.state.fields = c.fields := by
  unfold Controller.fields
  rw [h.current]

theorem Moved.ofSettings {s : Settings} {o : Outcome Notice Controller α} (h : Moved s o) :
    Display.Config.ofSettings o.state.fields = .ok s.toConfig := by
  rw [fields_of_current h.current]
  exact ofSettings_toFields s

theorem Sound.consistent (h : Sound c) : Consistent c where
  valid := by
    obtain ⟨s, hs⟩ := h.inUse
    rw [fields_of_current hs, validated_toFields]
    rfl
  watched := h.watched
  update_ok := by
    intro updates save hazards cfg hok
    rcases update_ends updates save hazards c with ⟨e, hresult, -⟩ | ⟨s, hresult, hmoved⟩
    · cases hok.symm.trans hresult
    · obtain rfl : cfg = s.toConfig := Except.ok.inj (hok.symm.trans hresult)
      exact ⟨hmoved.published, hmoved.ofSettings⟩
  update_error := by
    intro updates save hazards e herror
    rcases update_ends updates save hazards c with ⟨e, -, hunmoved⟩ | ⟨s, hresult, -⟩
    · exact ⟨hunmoved.published, hunmoved.fields⟩
    · cases herror.symm.trans hresult
  reload_ok := by
    intro told hazards s hload
    rcases reload_cases told hazards c with ⟨e, hresult, -⟩ | ⟨s', hresult, -, hmoved⟩
    · cases hload.symm.trans hresult
    · obtain rfl : s = s' := Except.ok.inj (hload.symm.trans hresult)
      exact ⟨fields_of_current hmoved.current, s.toConfig, hmoved.published, hmoved.ofSettings⟩
  reload_error := by
    intro told hazards e herror
    rcases reload_cases told hazards c with ⟨e, -, hunmoved⟩ | ⟨s, hload, hresult, -⟩
    · exact ⟨hunmoved.published, hunmoved.fields⟩
    · rcases herror with herror | herror
      · cases herror.symm.trans hload
      · cases herror.symm.trans hresult

/-- After a first loading that gave a configuration, whatever is done to the settings, the file and the watcher, the
controller is consistent. -/
theorem consistent_of_run {store : Store} {cfg : Display.Config} (h : (start (fresh store)).result = .ok cfg)
    (deeds : List Deed) : Consistent (Step.run Deed.perform deeds (start (fresh store)).state).state := by
  have hrun := Step.run_keeps (P := Sound) (R := fun _ => True) (l := deeds)
    (fun d _ c hc => ⟨Sound.perform d c hc, fun _ _ => trivial⟩) (sound_of_start h)
  exact hrun.1.consistent

theorem start_result {store : Store} {s : Settings} (h : (Store.load {} store).result = .ok s) :
    (start (fresh store)).result = .ok s.toConfig := by
  have hload : (onStore (Store.load {}) (fresh store)).result = .ok s := h
  unfold start
  rw [note_bind, Outcome.after_result, Step.bind_of_ok hload]
  generalize (onStore (Store.load {}) (fresh store)).state = c
  rw [Outcome.after_result, Step.modify_bind, Step.bind_of_ok (watch_unmoved { c with current := some s }).2]
  rfl

/-- The settings file of a user who has none yet. -/
def newStore : Store := .fresh ⟨1, ["settings.json"]⟩ ⟨[]⟩

/-- An update, a file that others broke, and an update that fails while the file is not watched. -/
def troubledDeeds : List Deed :=
  [.update [("mode", .string "upstream")] true {},
    .edit fun files => (files.write newStore.path [123]).toOption.getD files,
    .changed newStore.path.toText {},
    .dropped,
    .update [("refresh_interval", .number (.int (Nat.pow 10 400)))] true {}]

theorem consistent_troubledDeeds : (start (fresh newStore)).result = .ok default.toConfig ∧
    Consistent (Step.run Deed.perform troubledDeeds (start (fresh newStore)).state).state := by
  have hload : (Store.load {} newStore).result = .ok default := by decide +kernel
  have hstart := start_result hload
  exact ⟨hstart, consistent_of_run hstart troubledDeeds⟩

end Controller
end LinkMeter.Settings
