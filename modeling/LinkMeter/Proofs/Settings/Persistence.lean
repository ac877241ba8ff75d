import LinkMeter.Proofs.Settings.Corruption

/-! # Settings that last

What one store has saved, another one loads. Saving leaves the settings in their file and no other file that was not there
before, and loading finds text that it takes for settings, so it has nothing to set aside and nothing to write. -/

namespace LinkMeter.Settings.Store
variable {hazards : Hazards} {path : Path} {files : Files} {s : Settings} {fields : Json.Fields} {bytes : Bytes}

/-! ## The files after saving -/

/-- The settings are in their file, and all other files are those that were there before. -/
structure Replaced (path : Path) (s : Settings) (before after : Files) (place : Place) : Prop where
  leads : after.place path = .ok place
  content : after.at? place = some (.file (content s))
  others : ∀ other, other ≠ place → ∀ bytes, after.at? other = some (.file bytes) ↔ before.at? other = some (.file bytes)

theorem replaced_of_replace (h : (replace hazards path s files).result = .ok ())
    (hfolder : (replace hazards path s files).state.isFolder path = false) :
    ∃ place, Replaced path s files (replace hazards path s files).state place := by
  obtain ⟨beside, hbeside, hmove⟩ := replace_ok h
  obtain ⟨reports, made, hmade, rfl, hwrite⟩ := writeBeside_ok hbeside
  obtain ⟨hgrown, hopens⟩ := Files.makes_of_makeFolders hmade
  obtain ⟨free, hfree, hnot, hwritten⟩ := Files.write_ok_iff.mp hwrite
  obtain ⟨source, target, moved, hsource, hat, htarget, htargetNot, hafter⟩ := Files.move_onto hmove hfolder
  rw [hwritten] at hsource hat htarget htargetNot hafter
  obtain rfl : free = source := Except.ok.inj (((Files.foldersIn_put hnot _).leads hfree).symm.trans hsource)
  obtain rfl : content s = moved := by
    rw [Files.at?_put made _ (Files.ne_root_of_not_folder hnot)] at hat
    cases hat
    rfl
  -- The temporary file is where nothing was, neither before nor after the folders were made.
  have hnone : made.at? free = none := Files.at?_of_opens hopens hfree
  rw [hafter]
  refine ⟨target, (Files.foldersIn_put htargetNot _).leads htarget,
    Files.at?_put _ _ (Files.ne_root_of_not_folder htargetNot), fun other hother bytes => ?_⟩
  rw [Files.at?_put_of_ne _ _ hother]
  by_cases heq : other = free
  · rw [heq, Files.at?_erase _ (Files.ne_root_of_not_folder hnot), hgrown.at?_of_none hnone]
  · rw [Files.at?_erase_of_ne _ heq, Files.at?_put_of_ne _ _ heq]
    exact hgrown.file_iff

/-- The only folders that come with the settings are those above their file. -/
theorem grown_of_replace (h : (replace hazards path s files).result = .ok ()) :
    ∃ made, Files.Grown path.parent.parts.length files made ∧ Files.FoldersIn (replace hazards path s files).state made := by
  obtain ⟨beside, hbeside, hmove⟩ := replace_ok h
  obtain ⟨reports, made, hmade, -, hwrite⟩ := writeBeside_ok hbeside
  obtain ⟨free, -, hnot, hwritten⟩ := Files.write_ok_iff.mp hwrite
  refine ⟨made, (Files.makes_of_makeFolders hmade).1, (Files.foldersIn_move hmove).2.trans ?_⟩
  rw [hwritten]
  exact Files.foldersIn_of_put hnot _

/-- A store that has neither loaded nor saved has to write what it saves. -/
theorem replace_of_save (hvalid : validated fields = .ok s) (h : (save hazards fields (fresh path files)).result = .ok ()) :
    (replace hazards path s files).result = .ok () ∧
      (save hazards fields (fresh path files)).state.files = (replace hazards path s files).state := by
  have hnone : (fresh path files).kept ≠ some s := nofun
  cases hreplace : (replace hazards path s files).result with
  | ok _ =>
    obtain ⟨-, hstate⟩ := save_of_replaced hvalid hnone hreplace
    exact ⟨rfl, congrArg Store.files hstate⟩
  | error e => exact absurd h (save_of_not_replaced hvalid hnone hreplace).1

/-- Saving makes no folder at the end of a path that leads downwards only. One with two dots may come to lead to a folder
that was made on the way. -/
theorem isFolder_of_save (hvalid : validated fields = .ok s)
    (hsaved : (save hazards fields (fresh path files)).result = .ok ()) (htree : files.IsTree)
    (hdescends : Files.Descends path)
    (hfolder : (save hazards fields (fresh path files)).state.files.isFolder path = true) :
    files.isFolder path = true := by
  obtain ⟨hreplace, hfiles⟩ := replace_of_save hvalid hsaved
  obtain ⟨made, hgrown, hkept⟩ := grown_of_replace hreplace
  rw [hfiles] at hfolder
  refine hgrown.isFolder htree hdescends ?_ (hkept.isFolder hfolder)
  have hparent : path.parent.parts.length = path.parts.length - 1 := List.length_dropLast
  cases hparts : path.parts with
  | nil => exact .inl rfl
  | cons c rest =>
    rw [hparts, List.length_cons] at hparent
    exact .inr (by rw [hparent, List.length_cons]; omega)

/-! ## Loading what was saved -/

theorem load_of_fields (hread : files.read path = .ok bytes) (hcontent : readContent bytes = .ok (.fields fields))
    (hvalid : validated fields = .ok s) :
    (load {} (fresh path files)).result = .ok s ∧ (load {} (fresh path files)).state.files = files := by
  have hexists : (fresh path files).files.exists? (fresh path files).path = .ok true := exists_of_read hread
  have hreading : readFile {} (fresh path files) = .ok (.fields fields) := by
    rw [readFile_of_read hread, hcontent]
  obtain ⟨hstate, hresult⟩ := validate_yields fields (fresh path files)
  rw [hvalid] at hresult
  unfold load
  rw [Step.get_bind, hexists, Step.lift_ok_bind, if_neg (by decide), hreading]
  dsimp only
  rw [Step.bind_of_ok hresult, hstate]
  exact ⟨rfl, rfl⟩

/-- Fields that can be validated, and that a fresh store saves without a fault, are loaded by another fresh store as the
settings that they were validated to, and loading touches no file. Whatever was in the settings file before, it holds
their text, and no other file has come or gone. The path must not lead to a folder; if it has two dots, by which it may come
to lead to one when the folders above it are made, it must not do so afterwards. -/
theorem load_of_save (hvalid : (validate fields (fresh path files)).result = .ok s)
    (hsaved : (save hazards fields (fresh path files)).result = .ok ()) (hfolder : files.isFolder path = false)
    (hafter : files.IsTree ∧ Files.Descends path ∨
      (save hazards fields (fresh path files)).state.files.isFolder path = false) :
    let saved := (save hazards fields (fresh path files)).state.files
    (load {} (fresh path saved)).result = .ok s ∧ (load {} (fresh path saved)).state.files = saved ∧
      saved.read path = .ok (content s) ∧ readContent (content s) = .ok (.fields s.toFields) ∧
      ∃ place, saved.place path = .ok place ∧ ∀ other, other ≠ place → ∀ bytes,
        saved.at? other = some (.file bytes) ↔ files.at? other = some (.file bytes) := by
  intro saved
  have hvalidated : validated fields = .ok s := (validate_yields fields (fresh path files)).2.symm.trans hvalid
  have hkeeps : saved.isFolder path = false := by
    rcases hafter with ⟨htree, hdescends⟩ | hafter
    · refine Bool.eq_false_iff.mpr fun h => ?_
      rw [isFolder_of_save hvalidated hsaved htree hdescends h] at hfolder
      cases hfolder
    · exact hafter
  obtain ⟨hreplace, hfiles⟩ := replace_of_save hvalidated hsaved
  have hsame : saved = (replace hazards path s files).state := hfiles
  rw [hsame] at hkeeps ⊢
  obtain ⟨place, hreplaced⟩ := replaced_of_replace hreplace hkeeps
  have hread := Files.read_ok_iff.mpr ⟨place, hreplaced.leads, hreplaced.content⟩
  obtain ⟨hloaded, hkept⟩ := load_of_fields hread (readContent_content s) (validated_toFields s)
  exact ⟨hloaded, hkept, hread, readContent_content s, place, hreplaced.leads, hreplaced.others⟩

theorem isTree_holding (bytes : Bytes) : (holding bytes).IsTree := by
  intro place e h
  by_cases hroot : place = .root
  · rw [hroot]
    exact Files.at?_root _
  · rw [Files.at?_of_ne_root _ hroot] at h
    unfold holding at h
    rw [List.lookup_cons] at h
    by_cases hplace : place = .ofNames ["settings.json"]
    · rw [hplace]
      exact Files.at?_root _
    · rw [beq_false_of_ne hplace] at h
      cases h

/-- One word in capitals, an interval that is too long and a name that is no setting's. -/
def looseFields : Json.Fields :=
  [("mode", .string "UPSTREAM"), ("refresh_interval", .number (.int 99)), ("colour", .string "red")]

/-- They are saved over a file that is no JSON, and loaded with the default interval. -/
theorem load_looseFields :
    (save {} looseFields (fresh settingsPath (holding [123]))).result = .ok () ∧
      (load {} (fresh settingsPath (save {} looseFields (fresh settingsPath (holding [123]))).state.files)).result =
        .ok { default with mode := .up } := by
  have hvalid : (validate looseFields (fresh settingsPath (holding [123]))).result = .ok { default with mode := .up } := by
    decide +kernel
  have hsaved : (save {} looseFields (fresh settingsPath (holding [123]))).result = .ok () := by decide +kernel
  have hdescends : Files.Descends settingsPath := by
    unfold Files.Descends
    decide +kernel
  exact ⟨hsaved, (load_of_save hvalid hsaved (by decide +kernel) (.inl ⟨isTree_holding [123], hdescends⟩)).1⟩

end LinkMeter.Settings.Store
