import LinkMeter.Proofs.Files.Access
import LinkMeter.Proofs.Json.RoundTrip
import LinkMeter.Proofs.Settings.Validation
import LinkMeter.Settings.Store

/-! # What saving and loading leave behind

A file of settings is read back as those settings. Saving either skips, when the settings are those last loaded or saved,
or leaves them in the file. Loading gives the settings that the file holds, or falls back on saving the defaults. -/

namespace LinkMeter.Settings

/-! ## The content of the file -/

theorem plainFields_toFields (s : Settings) : Json.PlainFields s.toFields := by
  have hnat : ∀ n : Int, 0 ≤ n → n ≤ 100000 → Json.Plain (.number (.int n)) := by
    intro n hlow hhigh
    obtain ⟨m, rfl⟩ := Int.eq_ofNat_of_zero_le hlow
    have hm : m ≤ 100000 := Int.ofNat_le.mp hhigh
    have hdigits : (Text.ofNat m).length ≤ 6 := by
      unfold Text.ofNat
      rw [List.length_map]
      exact (Nat.length_toDigits_le_iff (by decide) (by decide)).mpr (Nat.lt_of_le_of_lt hm (by decide))
    exact .nat (Nat.le_trans hdigits (by decide))
  have hmode : Json.PlainText s.mode.name := by cases s.mode <;> decide
  have hunit : Json.PlainText s.unit.name := by cases s.unit <;> decide
  have hlocation : Json.PlainText s.location.name := by cases s.location <;> decide
  unfold Json.PlainFields Settings.toFields
  simp only [List.forall_mem_cons]
  refine ⟨⟨by decide, .string hlocation⟩, ⟨by decide, .string hmode⟩, ⟨by decide, .bool _⟩, ⟨by decide, ?_⟩,
    ⟨by decide, .string hunit⟩, ⟨by decide, .bool _⟩, ⟨by decide, ?_⟩, ⟨by decide, .bool _⟩, nofun⟩
  · exact hnat _ s.threshold_mem.1 s.threshold_mem.2
  · exact hnat _ (by have := s.interval_mem; omega) (by have := s.interval_mem; omega)

namespace Store

/-- What is written for settings is read back as their fields. -/
theorem readContent_content (s : Settings) : readContent (content s) = .ok (.fields s.toFields) := by
  have hplain := plainFields_toFields s
  have hparse := Json.parse_printLines (by unfold toFields; nofun) hplain (by rw [names_toFields]; decide)
  unfold readContent content
  simp only [(Json.ascii_printLines hplain).decode_encode, hparse, bind, Except.bind]

/-- The file holds an object with these fields. -/
def Holds (files : Files) (path : Path) (fields : Json.Fields) : Prop :=
  ∃ bytes, files.read path = .ok bytes ∧ readContent bytes = .ok (.fields fields)

/-! ## Saving -/

variable {hazards : Hazards} {path beside : Path} {s : Settings} {files : Files} {st : Store} {fields : Json.Fields}

/-- Settings are written beside their file after the folders above it were made. -/
theorem writeBeside_ok (h : (writeBeside hazards path s files).result = .ok beside) :
    ∃ (reports : List Log.Record) (made : Files), Files.makeFolders path.parent files = ⟨reports, made, .ok ()⟩ ∧
      beside = path.withName made.freshName ∧ made.write beside (content s) = .ok (writeBeside hazards path s files).state := by
  unfold writeBeside at h ⊢
  rcases hfolders : (Files.makeFolders path.parent files : Outcome Log.Record Files Unit) with ⟨reports, made, e | _⟩
  · rw [Step.bind_of_eq_error hfolders] at h
    cases h
  · rw [Step.bind_of_eq_ok hfolders, Outcome.after_result] at h
    rw [Step.bind_of_eq_ok hfolders, Outcome.after_state]
    refine ⟨reports, made, rfl, ?_⟩
    cases hhazard : hazards.temporary with
    | some e =>
      rw [hhazard] at h
      cases h
    | none =>
      rw [hhazard] at h
      dsimp only at h ⊢
      rw [Step.get_bind] at h ⊢
      cases hwrite : made.write (path.withName made.freshName) (content s) with
      | error e =>
        rw [hwrite, Step.lift_error_bind] at h
        cases h
      | ok written =>
        rw [hwrite, Step.lift_ok_bind] at h
        cases h
        exact ⟨rfl, hwrite⟩

/-- What was written beside the file is moved to it. -/
theorem replace_ok (h : (replace hazards path s files).result = .ok ()) :
    ∃ beside, (writeBeside hazards path s files).result = .ok beside ∧
      (writeBeside hazards path s files).state.move beside path = .ok (replace hazards path s files).state := by
  unfold replace at h ⊢
  cases hbeside : (writeBeside hazards path s files).result with
  | error e =>
    rw [Step.bind_of_error hbeside] at h
    cases h
  | ok beside =>
    rw [Step.bind_of_ok hbeside, Outcome.after_result] at h
    rw [Step.bind_of_ok hbeside, Outcome.after_state]
    generalize (writeBeside hazards path s files).state = written at h ⊢
    rw [Step.get_bind] at h ⊢
    cases hmove : written.move beside path with
    | error e =>
      rw [hmove, Step.lift_error_bind] at h
      cases h
    | ok moved => exact ⟨beside, rfl, hmove⟩

/-- Settings that are written are in the file, unless the path leads to a folder. -/
theorem read_of_replace (h : (replace hazards path s files).result = .ok ())
    (hfolder : (replace hazards path s files).state.isFolder path = false) :
    (replace hazards path s files).state.read path = .ok (content s) := by
  obtain ⟨beside, hbeside, hmove⟩ := replace_ok h
  obtain ⟨reports, made, -, -, hwrite⟩ := writeBeside_ok hbeside
  exact Files.read_of_move hmove hfolder (Files.read_of_write hwrite)

theorem attempt_replace (hazards : Hazards) (s : Settings) (st : Store) :
    Step.attempt (onFiles (replace hazards st.path s)) st = ⟨(replace hazards st.path s st.files).reports,
      { st with files := (replace hazards st.path s st.files).state }, .ok (replace hazards st.path s st.files).result⟩ := rfl

theorem lost_fails {α : Type} (level : Log.Level) (what : Text) (e : Fault) (st : Store) (a : α) :
    ((lost level what e : Logged Store α) st).result ≠ .ok a := by
  unfold lost
  split <;> exact nofun

theorem lost_state {α : Type} (level : Log.Level) (what : Text) (e : Fault) (st : Store) :
    ((lost level what e : Logged Store α) st).state = st := by
  unfold lost
  split <;> rfl

/-- Settings other than those that are kept are written, and then they are the ones that are kept. -/
theorem save_of_replaced (hvalid : validated fields = .ok s) (hkept : st.kept ≠ some s)
    (h : (replace hazards st.path s st.files).result = .ok ()) : (save hazards fields st).result = .ok () ∧
      (save hazards fields st).state = ⟨st.path, some s, (replace hazards st.path s st.files).state⟩ := by
  obtain ⟨hstate, hresult⟩ := validate_yields fields st
  rw [hvalid] at hresult
  unfold save
  rw [Step.bind_of_ok hresult, Outcome.after_result, Outcome.after_state, hstate, Step.get_bind, if_neg hkept,
    Step.bind_of_eq_ok (attempt_replace hazards s st), h]
  exact ⟨rfl, rfl⟩

theorem save_of_not_replaced {e : Fault} (hvalid : validated fields = .ok s) (hkept : st.kept ≠ some s)
    (h : (replace hazards st.path s st.files).result = .error e) : (save hazards fields st).result ≠ .ok () ∧
      (save hazards fields st).state = { st with files := (replace hazards st.path s st.files).state } := by
  obtain ⟨hstate, hresult⟩ := validate_yields fields st
  rw [hvalid] at hresult
  unfold save
  rw [Step.bind_of_ok hresult, Outcome.after_result, Outcome.after_state, hstate, Step.get_bind, if_neg hkept,
    Step.bind_of_eq_ok (attempt_replace hazards s st), h, Outcome.after_result, Outcome.after_state]
  exact ⟨lost_fails _ _ e _ (), lost_state _ _ e _⟩

/-- How saving the settings `s` ends when it ends well. -/
inductive Saved (s : Settings) (st : Store) : Store → Prop where
  | skipped (hkept : st.kept = some s) : Saved s st st
  | written {files : Files} (hkept : st.kept ≠ some s)
      (hread : files.isFolder st.path = false → files.read st.path = .ok (content s)) : Saved s st ⟨st.path, some s, files⟩

/-- A work on the store either fails and leaves all but the files as it was, or gives a value and leaves a store of which
`P` holds. -/
def EndsIn {α : Type} (P : α → Store → Prop) (st : Store) (o : Outcome Log.Record Store α) : Prop :=
  (∃ e files, o.result = .error e ∧ o.state = { st with files }) ∨ ∃ a, o.result = .ok a ∧ P a o.state

section EndsIn
variable {α : Type} {P : α → Store → Prop} {o : Outcome Log.Record Store α}

theorem EndsIn.after (h : EndsIn P st o) (reports : List Log.Record) : EndsIn P st (o.after reports) := h

theorem lost_ends (level : Log.Level) (what : Text) (e : Fault) (files : Files) :
    EndsIn P st ((lost level what e : Logged Store α) { st with files }) := by
  unfold lost
  by_cases hsystem : e.isSystem = true
  · rw [if_pos hsystem]
    exact .inl ⟨.settingsLost what e, files, rfl, rfl⟩
  · rw [if_neg hsystem]
    exact .inl ⟨e, files, rfl, rfl⟩

theorem validate_ends {f : Settings → Logged Store α} (h : ∀ s, validated fields = .ok s → EndsIn P st (f s st)) :
    EndsIn P st ((validate fields >>= f) st) := by
  obtain ⟨hstate, hresult⟩ := validate_yields fields st
  cases hvalid : validated fields with
  | error e =>
    rw [hvalid] at hresult
    rw [Step.bind_of_error hresult, hstate]
    exact .inl ⟨e, st.files, rfl, rfl⟩
  | ok s =>
    rw [hvalid] at hresult
    rw [Step.bind_of_ok hresult, hstate]
    exact (h s hvalid).after _

end EndsIn

/-- Saving that does not fail has saved the settings that the fields describe. -/
theorem save_ends (hazards : Hazards) (fields : Json.Fields) (st : Store) :
    EndsIn (fun _ st' => ∃ s, validated fields = .ok s ∧ Saved s st st') st (save hazards fields st) := by
  unfold save
  refine validate_ends fun s hvalid => ?_
  rw [Step.get_bind]
  by_cases hkept : st.kept = some s
  · rw [if_pos hkept]
    exact .inr ⟨(), rfl, s, hvalid, .skipped hkept⟩
  · rw [if_neg hkept]
    have hread := @read_of_replace hazards st.path s st.files
    rw [Step.bind_of_eq_ok (attempt_replace hazards s st)]
    refine EndsIn.after ?_ _
    generalize replace hazards st.path s st.files = o at hread ⊢
    obtain ⟨reports, files, result⟩ := o
    cases result with
    | error e => exact lost_ends _ _ e files
    | ok _ => exact .inr ⟨(), rfl, s, hvalid, .written hkept (hread rfl)⟩

/-! ## Loading -/

theorem setAside_state (st : Store) : ∃ files, (setAside st).result = .ok () ∧ (setAside st).state = { st with files } ∧
    (files = st.files ∨ st.files.move st.path (corruptPath st.path) = .ok files) := by
  unfold setAside
  rw [Step.get_bind]
  cases hmove : st.files.move st.path (corruptPath st.path) with
  | error e => exact ⟨st.files, rfl, rfl, .inl rfl⟩
  | ok files => exact ⟨files, rfl, rfl, .inr rfl⟩

theorem readFile_ok {reading : Reading} (h : readFile hazards st = .ok reading) :
    ∃ bytes, st.files.read st.path = .ok bytes ∧ readContent bytes = .ok reading := by
  unfold readFile at h
  cases hhazard : hazards.opening with
  | some e =>
    rw [hhazard] at h
    cases h
  | none =>
    rw [hhazard] at h
    cases hread : st.files.read st.path with
    | error e =>
      rw [hread] at h
      cases h
    | ok bytes =>
      rw [hread] at h
      exact ⟨bytes, rfl, h⟩

theorem fields_of_holds {reading : Reading} (hreading : readFile hazards st = .ok reading)
    (hholds : Holds st.files st.path fields) : reading = .fields fields := by
  obtain ⟨bytes, hread, hcontent⟩ := readFile_ok hreading
  obtain ⟨bytes', hread', hcontent'⟩ := hholds
  obtain rfl : bytes = bytes' := Except.ok.inj (hread.symm.trans hread')
  exact Except.ok.inj (hcontent.symm.trans hcontent')

theorem not_holds_of_missing (h : st.files.exists? st.path = .ok false) : ∀ fields, ¬ Holds st.files st.path fields := by
  rintro fields ⟨bytes, hread, -⟩
  have hfind := Files.find_ok_iff.mpr (Files.read_ok_iff.mp hread)
  unfold Files.exists? at h
  rw [hfind] at h
  cases h

/-- A corrupt file holds no object after it was set aside either. -/
theorem not_holds_setAside (hcorrupt : readFile hazards st = .ok .corrupt) :
    ∀ fields, ¬ Holds (setAside st).state.files st.path fields := by
  rintro fields ⟨bytes', hread', hfields⟩
  obtain ⟨bytes, hread, hcontent⟩ := readFile_ok hcorrupt
  obtain ⟨files, -, hstate, hfiles⟩ := setAside_state st
  rw [hstate] at hread'
  obtain rfl : bytes' = bytes := by
    rcases hfiles with rfl | hmove
    · exact Except.ok.inj (hread'.symm.trans hread)
    · exact Files.read_source_of_move hmove hread hread'
  rw [hcontent] at hfields
  cases hfields

/-- How loading ends when it ends well with the settings `s`. -/
inductive Loaded (s : Settings) (st : Store) : Store → Prop where
  | read {fields : Json.Fields} (hholds : Holds st.files st.path fields) (hvalid : validated fields = .ok s) :
    Loaded s st { st with kept := some s }
  | fallback {files : Files} {st' : Store} (hdefault : s = default) (hbefore : ∀ fields, ¬ Holds st.files st.path fields)
      (hafter : ∀ fields, ¬ Holds files st.path fields) (hsaved : Saved s { st with files } st') : Loaded s st st'

theorem reset_ends (hazards : Hazards) (st : Store) :
    EndsIn (fun s st' => s = default ∧ Saved s st st') st (reset hazards st) := by
  unfold reset
  rw [Step.write_bind]
  refine EndsIn.after ?_ _
  have hsave := save_ends hazards default.toFields st
  rcases hsave with ⟨e, files, hresult, hstate⟩ | ⟨_, hresult, s, hvalid, hsaved⟩
  · rw [Step.bind_of_error hresult, hstate]
    exact .inl ⟨e, files, rfl, rfl⟩
  · obtain rfl : default = s := Except.ok.inj ((validated_toFields default).symm.trans hvalid)
    rw [Step.bind_of_ok hresult]
    refine EndsIn.after ?_ _
    generalize (save hazards default.toFields st).state = saved at hsaved ⊢
    exact .inr ⟨default, rfl, rfl, hsaved⟩

/-- Going back to the defaults after the file turned out to hold no object. -/
theorem fallback_ends {files : Files} (hbefore : ∀ fields, ¬ Holds st.files st.path fields)
    (hafter : ∀ fields, ¬ Holds files st.path fields) (hazards : Hazards) :
    EndsIn (fun s => Loaded s st) st (reset hazards { st with files }) := by
  rcases reset_ends hazards { st with files } with ⟨e, files', hresult, hstate⟩ | ⟨s, hresult, hdefault, hsaved⟩
  · exact .inl ⟨e, files', hresult, hstate⟩
  · exact .inr ⟨s, hresult, .fallback hdefault hbefore hafter hsaved⟩

theorem load_ends (hazards : Hazards) (st : Store) : EndsIn (fun s => Loaded s st) st (load hazards st) := by
  unfold load
  rw [Step.get_bind]
  cases hexists : st.files.exists? st.path with
  | error e => exact .inl ⟨e, st.files, rfl, rfl⟩
  | ok found =>
    rw [Step.lift_ok_bind]
    cases found with
    | false => exact (fallback_ends (not_holds_of_missing hexists) (not_holds_of_missing hexists) hazards).after _
    | true =>
      rw [if_neg (by decide)]
      cases hreading : readFile hazards st with
      | error e => exact lost_ends _ _ e st.files
      | ok reading =>
        have hfields := fun fields => @fields_of_holds hazards st fields reading hreading
        cases reading with
        | fields fields =>
          obtain ⟨bytes, hread, hcontent⟩ := readFile_ok hreading
          exact validate_ends fun s hvalid => .inr ⟨s, rfl, .read ⟨bytes, hread, hcontent⟩ hvalid⟩
        | noObject =>
          have hnone : ∀ fields, ¬ Holds st.files st.path fields := fun fields h => nomatch hfields fields h
          exact (fallback_ends hnone hnone hazards).after _
        | corrupt =>
          have hnone : ∀ fields, ¬ Holds st.files st.path fields := fun fields h => nomatch hfields fields h
          have hafter := not_holds_setAside hreading
          obtain ⟨files, haside, hstate, -⟩ := setAside_state st
          rw [hstate] at hafter
          dsimp only
          rw [Step.write_bind, Step.bind_of_ok haside, hstate]
          exact ((fallback_ends hnone hafter hazards).after _).after _

end Store
end LinkMeter.Settings
