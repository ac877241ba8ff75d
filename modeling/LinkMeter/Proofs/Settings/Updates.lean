import Mathlib.Data.List.Nodup
import LinkMeter.Proofs.Settings.Normal
import LinkMeter.Proofs.Settings.Snapshots

/-! # Updates in a row

Each update validates all settings, those that it leaves alone as well. Two updates one after the other are still worth one
update by the merged fields, where the later entry under a name counts: validation looks at one name at a time, and it reads
its own outcome as it is, so that it was made in between cannot be told. -/

namespace LinkMeter

/-! ## Merged fields -/

namespace Json.Fields
variable {fields updates : Fields} {name : Text}

theorem names_put (name : Text) (v : Value) (fields : Fields) : (fields.put name v).map Prod.fst =
    if name ∈ fields.map Prod.fst then fields.map Prod.fst else fields.map Prod.fst ++ [name] := by
  induction fields with
  | nil => rfl
  | cons f rest ih =>
    unfold put
    by_cases heq : f.1 = name
    · simp [heq]
    · have hne : name ≠ f.1 := Ne.symm heq
      simp only [if_neg heq, List.map_cons, ih, List.mem_cons, hne, false_or]
      split <;> rfl

theorem nodup_put (h : (fields.map Prod.fst).Nodup) (name : Text) (v : Value) :
    ((fields.put name v).map Prod.fst).Nodup := by
  rw [names_put]
  split
  · exact h
  · rename_i hnew
    exact List.Nodup.append h (List.nodup_singleton name) (List.disjoint_singleton.mpr hnew)

theorem merge_cons (fields : Fields) (update : Text × Value) (rest : Fields) :
    fields.merge (update :: rest) = (fields.put update.1 update.2).merge rest := rfl

theorem nodup_merge (h : (fields.map Prod.fst).Nodup) (updates : Fields) :
    ((fields.merge updates).map Prod.fst).Nodup := by
  induction updates generalizing fields with
  | nil => exact h
  | cons update rest ih =>
    rw [merge_cons]
    exact ih (nodup_put h update.1 update.2)

/-- The values that are merged into the fields come before theirs. -/
theorem get?_merge (h : (updates.map Prod.fst).Nodup) (fields : Fields) (name : Text) :
    (fields.merge updates).get? name = (updates.get? name).or (fields.get? name) := by
  induction updates generalizing fields with
  | nil => rfl
  | cons update rest ih =>
    obtain ⟨hnew, hrest⟩ := List.nodup_cons.mp h
    have hcons : get? name (update :: rest) = if update.1 = name then some update.2 else get? name rest := rfl
    rw [merge_cons, ih hrest, get?_put, hcons]
    by_cases heq : update.1 = name
    · rw [if_pos heq, if_pos heq, Settings.get?_of_notMem (heq ▸ hnew)]
      rfl
    · rw [if_neg heq, if_neg heq]

/-- Fields with two updates merged in say what they say with the merged updates merged in. -/
theorem get?_merge_merge {later : Fields} (h : (updates.map Prod.fst).Nodup) (hlater : (later.map Prod.fst).Nodup)
    (fields : Fields) (name : Text) :
    (fields.merge (updates.merge later)).get? name = (later.get? name).or ((fields.merge updates).get? name) := by
  rw [get?_merge (nodup_merge h later), get?_merge hlater, get?_merge h, Option.or_assoc]

end Json.Fields

namespace Settings

/-! ## Validation of merged fields -/

section Merged
variable {α : Type} {fields updates later : Json.Fields} {name : Text} {s t : Settings}

theorem validated_of_readsAs (h : ReadsAs fields s) : validated fields = .ok s := by
  rw [validated_eq, readings, h.autoHide, h.showUnits, h.hideArrows, h.threshold, h.interval, h.mode, h.unit, h.location]
  rfl

theorem readsAs_toFields (s : Settings) : ReadsAs s.toFields s := readsAs_of_ok (validated_toFields s)

/-- One setting after two updates: `a` is what the first one ended in, and the second one found it as it was. -/
theorem chosen_merge {read : Reader α} {default a b : α} {between : Json.Fields}
    (h : (updates.map Prod.fst).Nodup) (hlater : (later.map Prod.fst).Nodup)
    (hfirst : chosen name read default (fields.merge updates) = .ok a) (hbetween : chosen name read default between = .ok a)
    (hsecond : chosen name read default (between.merge later) = .ok b) :
    chosen name read default (fields.merge (updates.merge later)) = .ok b := by
  have hboth := Json.Fields.get?_merge_merge h hlater fields name
  have hafter := Json.Fields.get?_merge hlater between name
  -- A value of the second update hides all before it; without one the setting is as the first update left it.
  cases hget : later.get? name with
  | some v =>
    rw [hget] at hboth hafter
    rw [chosen_congr (hboth.trans hafter.symm)]
    exact hsecond
  | none =>
    rw [hget] at hboth hafter
    rw [chosen_congr hafter, hbetween] at hsecond
    rw [chosen_congr hboth, hfirst, hsecond]

/-- The settings after two updates are those after one update by the merged fields, whatever there was before. -/
theorem validated_merge (h : (updates.map Prod.fst).Nodup) (hlater : (later.map Prod.fst).Nodup)
    (hfirst : validated (fields.merge updates) = .ok s) (hsecond : validated (s.toFields.merge later) = .ok t) :
    validated (fields.merge (updates.merge later)) = .ok t := by
  have hs := readsAs_of_ok hfirst
  have hself := readsAs_toFields s
  have ht := readsAs_of_ok hsecond
  refine validated_of_readsAs ⟨?_, ?_, ?_, ?_, ?_, ?_, ?_, ?_⟩
  · exact chosen_merge h hlater hs.location hself.location ht.location
  · exact chosen_merge h hlater hs.mode hself.mode ht.mode
  · exact chosen_merge h hlater hs.autoHide hself.autoHide ht.autoHide
  · exact chosen_merge h hlater hs.threshold hself.threshold ht.threshold
  · exact chosen_merge h hlater hs.unit hself.unit ht.unit
  · exact chosen_merge h hlater hs.showUnits hself.showUnits ht.showUnits
  · exact chosen_merge h hlater hs.interval hself.interval ht.interval
  · exact chosen_merge h hlater hs.hideArrows hself.hideArrows ht.hideArrows

/-- A setting that is not updated stays as it was, whatever the updates of the others are. -/
theorem get?_of_not_updated (h : (updates.map Prod.fst).Nodup) (hvalid : validated (s.toFields.merge updates) = .ok t)
    (hname : name ∉ updates.map Prod.fst) : t.toFields.get? name = s.toFields.get? name := by
  refine get?_of_given (readsAs_of_ok hvalid) (readsAs_toFields s) name ?_
  unfold given
  rw [Json.Fields.get?_merge h, get?_of_notMem hname, Option.none_or]

end Merged

/-! ## Updates of the settings in use -/

namespace Controller
variable {c : Controller} {fields updates later : Json.Fields} {save : Bool} {hazards : Hazards} {s : Settings}
  {cfg : Display.Config}

/-- The end of an update: the settings that the merged fields describe are put into use and published. -/
def adoptValid (merged : Json.Fields) : Step Notice Controller Display.Config := do
  let s ← onStore (validate merged)
  adopt s
  Step.report (.published s.toConfig)
  pure s.toConfig

theorem adoptValid_of_error {e : Fault} (h : validated fields = .error e) (c : Controller) :
    (adoptValid fields c).result = .error e := by
  have hvalid : (onStore (validate fields) c).result = .error e := (validate_yields fields c.store).2.trans h
  unfold adoptValid
  rw [Step.bind_of_error hvalid]

theorem adoptValid_of_ok (h : validated fields = .ok s) (c : Controller) :
    (adoptValid fields c).result = .ok s.toConfig ∧ (adoptValid fields c).state.current = some s := by
  have hvalid : (onStore (validate fields) c).result = .ok s := (validate_yields fields c.store).2.trans h
  unfold adoptValid
  rw [Step.bind_of_ok hvalid]
  exact ⟨rfl, rfl⟩

theorem update_unsaved (updates : Json.Fields) (hazards : Hazards) (c : Controller) : ∃ reports,
    update updates false hazards c = (adoptValid (c.fields.merge updates) c).after reports := ⟨_, rfl⟩

theorem update_saved (updates : Json.Fields) (hazards : Hazards) (c : Controller) : ∃ reports,
    update updates true hazards c = ((onStore (Store.save hazards (c.fields.merge updates)) >>= fun _ =>
      adoptValid (c.fields.merge updates)) c).after reports := ⟨_, rfl⟩

/-- An update that does not fail ends as the validation of the merged fields does, whether it saves them first or not. -/
theorem ends_of_update (h : (update updates save hazards c).result = .ok cfg) : ∃ c',
    (adoptValid (c.fields.merge updates) c').result = .ok cfg ∧
      (update updates save hazards c).state = (adoptValid (c.fields.merge updates) c').state := by
  cases save with
  | false =>
    obtain ⟨reports, heq⟩ := update_unsaved updates hazards c
    rw [heq] at h ⊢
    exact ⟨c, h, rfl⟩
  | true =>
    obtain ⟨reports, heq⟩ := update_saved updates hazards c
    rw [heq] at h ⊢
    cases hsave : (onStore (Store.save hazards (c.fields.merge updates)) c).result with
    | error e =>
      rw [Step.bind_of_error hsave] at h
      cases h
    | ok _ =>
      rw [Step.bind_of_ok hsave] at h ⊢
      exact ⟨_, h, rfl⟩

/-- An update that does not fail puts the settings into use that the merged fields describe. -/
theorem adopts_of_update (h : (update updates save hazards c).result = .ok cfg) :
    ∃ s, validated (c.fields.merge updates) = .ok s ∧ cfg = s.toConfig ∧
      (update updates save hazards c).state.current = some s := by
  obtain ⟨c', hresult, hstate⟩ := ends_of_update h
  cases hvalid : validated (c.fields.merge updates) with
  | error e =>
    cases (adoptValid_of_error hvalid c').symm.trans hresult
  | ok s =>
    obtain ⟨hok, hcurrent⟩ := adoptValid_of_ok hvalid c'
    exact ⟨s, rfl, Except.ok.inj (hresult.symm.trans hok), hstate ▸ hcurrent⟩

/-- An update does not fail if the merged fields can be validated and, if they are to be saved, can be saved. -/
theorem update_of_valid (hvalid : validated (c.fields.merge updates) = .ok s)
    (hsave : save = true → (Store.save hazards (c.fields.merge updates) c.store).result = .ok ()) :
    (update updates save hazards c).result = .ok s.toConfig := by
  cases save with
  | false =>
    obtain ⟨reports, heq⟩ := update_unsaved updates hazards c
    rw [heq]
    exact (adoptValid_of_ok hvalid c).1
  | true =>
    have hsaved : (onStore (Store.save hazards (c.fields.merge updates)) c).result = .ok () := hsave rfl
    obtain ⟨reports, heq⟩ := update_saved updates hazards c
    rw [heq, Outcome.after_result, Step.bind_of_ok hsaved]
    exact (adoptValid_of_ok hvalid _).1

/-- Two updates one after the other put the same settings into use and give the same configuration as one update by the
merged fields, and that one cannot fail unless it is to be saved. A setting that neither of them names keeps its value. -/
theorem update_merged (hc : c.current = some s) (hkeys : (updates.map Prod.fst).Nodup)
    (hlater : (later.map Prod.fst).Nodup) {save' : Bool} {hazards' : Hazards} {cfg' : Display.Config}
    (hfirst : (update updates save hazards c).result = .ok cfg)
    (hsecond : (update later save' hazards' (update updates save hazards c).state).result = .ok cfg') :
    let between := (update updates save hazards c).state
    let after := (update later save' hazards' between).state
    (∀ unsaved, (update (updates.merge later) false unsaved c).result = .ok cfg') ∧
      (∀ save'' hazards'' cfg'', (update (updates.merge later) save'' hazards'' c).result = .ok cfg'' → cfg'' = cfg' ∧
        (update (updates.merge later) save'' hazards'' c).state.current = after.current) ∧
      (∀ name ∉ updates.map Prod.fst, between.fields.get? name = c.fields.get? name) ∧
      ∀ name, name ∉ updates.map Prod.fst → name ∉ later.map Prod.fst →
        after.fields.get? name = c.fields.get? name := by
  intro between after
  obtain ⟨t, ht, rfl, hbetween⟩ := adopts_of_update hfirst
  obtain ⟨u, hu, rfl, hafter⟩ := adopts_of_update hsecond
  rw [fields_of_current hbetween] at hu
  have hboth := validated_merge hkeys hlater ht hu
  rw [fields_of_current hc] at ht ⊢
  refine ⟨fun unsaved => ?_, fun save'' hazards'' cfg'' hok => ?_, fun name hname => ?_, fun name hname hlatername => ?_⟩
  · exact update_of_valid hboth nofun
  · obtain ⟨u', hu', hcfg, hcurrent⟩ := adopts_of_update hok
    obtain rfl : u = u' := Except.ok.inj (hboth.symm.trans hu')
    exact ⟨hcfg, hcurrent.trans hafter.symm⟩
  · rw [fields_of_current hbetween]
    exact get?_of_not_updated hkeys ht hname
  · rw [fields_of_current hafter, get?_of_not_updated hlater hu hlatername]
    exact get?_of_not_updated hkeys ht hname

/-- A word in capitals, a number that is too large and a name that is no setting's. -/
def looseUpdates : Json.Fields := [("mode", .string "UPSTREAM"), ("refresh_interval", .number (.int 99)), ("theme", .null)]

/-- A word in mixed case, and a value that does not fit in the place of the word that was given before. -/
def looserUpdates : Json.Fields := [("units", .string "KiloBytes"), ("mode", .bool true)]

/-- The settings in use are those by default, and there is no file yet. -/
def unsettled : Controller := ⟨some default, newStore, []⟩

theorem update_merged_loose :
    (update looseUpdates true {} unsettled).result = .ok { default with mode := .up }.toConfig ∧
      (update looserUpdates true {} (update looseUpdates true {} unsettled).state).result =
        .ok { default with unit := .kilobytes }.toConfig ∧
      (update (looseUpdates.merge looserUpdates) false {} unsettled).result =
        .ok { default with unit := .kilobytes }.toConfig := by
  have hfirst : (update looseUpdates true {} unsettled).result = .ok { default with mode := .up }.toConfig :=
    update_of_valid (by decide +kernel) fun _ => by decide +kernel
  have hsecond : (update looserUpdates true {} (update looseUpdates true {} unsettled).state).result =
      .ok { default with unit := .kilobytes }.toConfig := update_of_valid (by decide +kernel) fun _ => by decide +kernel
  exact ⟨hfirst, hsecond, (update_merged rfl (by decide) (by decide) hfirst hsecond).1 {}⟩

/-! ### Any number of updates -/

theorem perform_update (updates : Json.Fields) (save : Bool) (hazards : Hazards) (c : Controller) :
    (Deed.update updates save hazards).perform c = (update updates save hazards c).map fun _ => () :=
  Step.map_apply (fun _ => ()) _ c

/-- The updates merged into one, where the later ones count. -/
def allOf (all : List Json.Fields) : Json.Fields := all.foldr Json.Fields.merge []

theorem nodup_allOf {all : List Json.Fields} (hkeys : ∀ u ∈ all, (u.map Prod.fst).Nodup) :
    ((allOf all).map Prod.fst).Nodup := by
  cases all with
  | nil => exact List.nodup_nil
  | cons u rest => exact Json.Fields.nodup_merge (hkeys u List.mem_cons_self) (allOf rest)

theorem validated_allOf (hc : c.current = some s) {all : List Json.Fields} (hkeys : ∀ u ∈ all, (u.map Prod.fst).Nodup)
    (h : Step.Unfailing Deed.perform (all.map fun u => .update u save hazards) c) :
    ∃ t, (Step.run Deed.perform (all.map fun u => .update u save hazards) c).state.current = some t ∧
      validated (s.toFields.merge (allOf all)) = .ok t := by
  induction all generalizing c s with
  | nil => exact ⟨s, hc, validated_toFields s⟩
  | cons u rest ih =>
    obtain ⟨hu, hrest⟩ := h
    have hkeysRest := fun v hv => hkeys v (List.mem_cons_of_mem u hv)
    rw [perform_update] at hu hrest
    obtain ⟨cfg, hcfg, -⟩ := Outcome.result_of_map hu
    obtain ⟨between, hbetween, -, hcurrent⟩ := adopts_of_update hcfg
    obtain ⟨t, ht, hvalid⟩ := ih hcurrent hkeysRest hrest
    rw [List.map_cons, Step.run_cons, Outcome.after_state, perform_update]
    rw [fields_of_current hc] at hbetween
    exact ⟨t, ht, validated_merge (hkeys u List.mem_cons_self) (nodup_allOf hkeysRest) hbetween hvalid⟩

/-- However many updates follow each other, one update by all of them merged is worth as much. -/
theorem current_of_updates (hc : c.current = some s) {all : List Json.Fields} (hkeys : ∀ u ∈ all, (u.map Prod.fst).Nodup)
    (h : Step.Unfailing Deed.perform (all.map fun u => .update u save hazards) c) (unsaved : Hazards) :
    ∃ t, (Step.run Deed.perform (all.map fun u => .update u save hazards) c).state.current = some t ∧
      (update (allOf all) false unsaved c).result = .ok t.toConfig := by
  obtain ⟨t, hcurrent, hvalid⟩ := validated_allOf hc hkeys h
  rw [← fields_of_current hc] at hvalid
  exact ⟨t, hcurrent, update_of_valid hvalid nofun⟩

end Controller
end Settings
end LinkMeter
