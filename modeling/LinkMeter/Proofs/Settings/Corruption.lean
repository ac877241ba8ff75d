import LinkMeter.Proofs.Files.Placing
import LinkMeter.Proofs.Json.Limits
import LinkMeter.Proofs.Settings.Store

/-! # Corrupt files

A settings file that holds text which is no JSON is set aside byte by byte and gives way to the defaults. One that holds no
text, or text beyond a limit of the reader, is a fault instead: nothing is set aside and nothing is written. -/

namespace LinkMeter

/-- The path leads to a place where nothing is. -/
def Files.Free (files : Files) (p : Path) : Prop := ∃ place, files.place p = .ok place ∧ files.at? place = none

namespace Settings.Store
variable {path : Path} {files : Files} {place beside : Place} {bytes : Bytes} {s : Settings}

/-! ## What is read -/

/-- The bytes are the text of a JSON value. -/
def IsDocument (bytes : Bytes) : Prop := ∃ t v, Utf8.decode bytes = .ok t ∧ Json.Parser.parse t = .ok v

/-- The bytes are a text that is no JSON. -/
def IsMalformed (bytes : Bytes) : Prop := ∃ t, Utf8.decode bytes = .ok t ∧ Json.Parser.parse t = .error .malformed

/-- Why bytes are a fault: they are no text, or their text goes beyond a limit of the reader. -/
inductive Unread (bytes : Bytes) : Fault → Prop where
  | noText {error : Utf8Error} {first last byte : Nat}
    (h : Utf8.decode bytes = .error (.undecodable error first last byte)) : Unread bytes (.undecodable error first last byte)
  | beyond {t : Text} {e : Fault} (ht : Utf8.decode bytes = .ok t) (h : Json.Parser.parse t = .error (.fault e))
    (hlimit : Json.Parser.IsLimit e) : Unread bytes e

theorem Unread.isSystem {e : Fault} (h : Unread bytes e) : e.isSystem = false := by
  cases h with
  | noText h => rfl
  | beyond ht h hlimit => cases hlimit <;> rfl

theorem readContent_of_malformed (h : IsMalformed bytes) : readContent bytes = .ok .corrupt := by
  obtain ⟨t, hdecode, hparse⟩ := h
  unfold readContent
  simp only [hdecode, hparse, bind, Except.bind]

theorem readContent_of_unread {e : Fault} (h : Unread bytes e) : readContent bytes = .error e := by
  unfold readContent
  cases h with
  | noText hdecode => simp only [hdecode, bind, Except.bind]
  | beyond hdecode hparse hlimit => simp only [hdecode, hparse, bind, Except.bind]

/-- Bytes that are no document are either malformed or a fault. -/
theorem malformed_or_unread (h : ¬ IsDocument bytes) : IsMalformed bytes ∨ ∃ e, Unread bytes e := by
  cases hdecode : Utf8.decode bytes with
  | error e =>
    obtain ⟨error, first, last, byte, rfl⟩ := Utf8.collect_error hdecode
    exact .inr ⟨_, .noText hdecode⟩
  | ok t =>
    cases hparse : Json.Parser.parse t with
    | ok v => exact absurd ⟨t, v, hdecode, hparse⟩ h
    | error f =>
      cases f with
      | malformed => exact .inl ⟨t, hdecode, hparse⟩
      | fault e => exact .inr ⟨e, .beyond hdecode hparse (Json.Parser.parse_limited t e hparse)⟩

/-! ## What is written -/

/-- The path of the temporary file by way of which settings are written. -/
def temporaryPath (path : Path) (files : Files) : Path := path.withName files.freshName

/-- Settings are written to a free place and moved to theirs from there; nothing is changed anywhere else. -/
theorem replace_of_room (s : Settings) (hfolder : files.isFolder path.parent = true) (hplace : files.place path = .ok place)
    (hat : files.at? place ≠ some .folder) (hbeside : files.place (temporaryPath path files) = .ok beside) :
    ∃ files', replace {} path s files = ⟨[], files', .ok ()⟩ ∧ Files.FoldersIn files files' ∧
      files'.read path = .ok (content s) ∧ ∀ other, other ≠ place → other ≠ beside → files'.at? other = files.at? other := by
  have hnot := Files.not_folder_of_none (Files.at?_of_freshName hfolder hbeside)
  have hwrite : files.write (temporaryPath path files) (content s) = .ok (files.put beside (.file (content s))) :=
    Files.write_ok_iff.mpr ⟨beside, hbeside, hnot, rfl⟩
  have hwritten : writeBeside {} path s files =
      ⟨[], files.put beside (.file (content s)), .ok (temporaryPath path files)⟩ := by
    unfold writeBeside
    rw [Step.bind_of_eq_ok (Files.makeFolders_of_folder hfolder), Outcome.after_nil]
    dsimp only
    rw [Step.get_bind]
    show (Step.lift (files.write (temporaryPath path files) (content s)) >>= _ : Logged Files Path) files = _
    rw [hwrite, Step.lift_ok_bind]
    rfl
  have hkept : Files.FoldersIn files (files.put beside (.file (content s))) := Files.foldersIn_put hnot _
  have hmove : (files.put beside (.file (content s))).move (temporaryPath path files) path =
      .ok (((files.put beside (.file (content s))).erase beside).put place (.file (content s))) :=
    Files.move_eq (hkept.leads hbeside) (Files.at?_put files _ (Files.ne_root_of_not_folder hnot)) (hkept.leads hplace)
      fun h => hat (Files.foldersIn_of_put hnot _ place h)
  have hmoved := hkept.trans (Files.foldersIn_move hmove).1
  refine ⟨_, ?_, hmoved, ?_, fun other hother hbeside => ?_⟩
  · unfold replace
    rw [Step.bind_of_eq_ok hwritten, Step.get_bind, hmove]
    rfl
  · exact Files.read_ok_iff.mpr ⟨place, hmoved.leads hplace, Files.at?_put _ _ (Files.ne_root_of_not_folder hat)⟩
  · rw [Files.at?_put_of_ne _ _ hother, Files.at?_erase_of_ne _ hbeside, Files.at?_put_of_ne _ _ hbeside]

/-- A store without settings falls back on the defaults by writing them. -/
theorem reset_of_replace {files' : Files} (h : replace {} path default files = ⟨[], files', .ok ()⟩) :
    (reset {} (fresh path files)).result = .ok default ∧ (reset {} (fresh path files)).state.files = files' := by
  have hnone : (fresh path files).kept ≠ some default := nofun
  have hwritten : (replace {} path default files).result = .ok () := by rw [h]
  obtain ⟨hresult, hstate⟩ := save_of_replaced (validated_toFields default) hnone hwritten
  have hfiles : (save {} default.toFields (fresh path files)).state.files = files' := by
    rw [hstate]
    exact congrArg Outcome.state h
  unfold reset
  rw [Step.write_bind, Step.bind_of_ok hresult]
  generalize (save {} default.toFields (fresh path files)).state = saved at hfiles ⊢
  exact ⟨rfl, hfiles⟩

/-! ## Loading -/

theorem exists_of_read (hread : files.read path = .ok bytes) : files.exists? path = .ok true := by
  unfold Files.exists?
  rw [Files.find_ok_iff.mpr (Files.read_ok_iff.mp hread)]

theorem readFile_of_read (hread : files.read path = .ok bytes) : readFile {} (fresh path files) = readContent bytes := by
  show files.read path >>= readContent = _
  rw [hread]
  rfl

/-- A malformed file is set aside, and the store goes on from there. -/
theorem load_of_setAside {files' : Files} (hread : files.read path = .ok bytes) (hmalformed : IsMalformed bytes)
    (haside : setAside (fresh path files) = ⟨[], fresh path files', .ok ()⟩) :
    (load {} (fresh path files)).result = (reset {} (fresh path files')).result ∧
      (load {} (fresh path files)).state = (reset {} (fresh path files')).state := by
  have hexists : (fresh path files).files.exists? (fresh path files).path = .ok true := exists_of_read hread
  have hreading : readFile {} (fresh path files) = .ok .corrupt := by
    rw [readFile_of_read hread, readContent_of_malformed hmalformed]
  unfold load
  rw [Step.get_bind, hexists, Step.lift_ok_bind, if_neg (by decide), hreading]
  dsimp only
  rw [Step.write_bind, Step.bind_of_eq_ok haside]
  generalize reset {} (fresh path files') = o
  exact ⟨rfl, rfl⟩

/-- A file that is a fault is left alone. -/
theorem load_of_unread {e : Fault} (hread : files.read path = .ok bytes) (h : Unread bytes e) :
    (load {} (fresh path files)).result = .error e ∧ (load {} (fresh path files)).state = fresh path files := by
  have hexists : (fresh path files).files.exists? (fresh path files).path = .ok true := exists_of_read hread
  have hreading : readFile {} (fresh path files) = .error e := by
    rw [readFile_of_read hread, readContent_of_unread h]
  unfold load
  rw [Step.get_bind, hexists, Step.lift_ok_bind, if_neg (by decide), hreading]
  dsimp only
  unfold lost
  rw [h.isSystem]
  exact ⟨rfl, rfl⟩

/-- A malformed file is found unchanged beside the defaults, if there is room for it and for a temporary file. -/
theorem load_of_malformed (hread : files.read path = .ok bytes) (hmalformed : IsMalformed bytes)
    (hfolder : files.isFolder path.parent = true) (hfree : files.Free (corruptPath path))
    (hroom : ∃ beside, (setAside (fresh path files)).state.files.place
      (temporaryPath path (setAside (fresh path files)).state.files) = .ok beside) :
    (load {} (fresh path files)).result = .ok default ∧
      (load {} (fresh path files)).state.files.read (corruptPath path) = .ok bytes ∧
      (load {} (fresh path files)).state.files.read path = .ok (content default) := by
  obtain ⟨source, hsource, hat⟩ := Files.read_ok_iff.mp hread
  obtain ⟨aside, haside, hnone⟩ := hfree
  have hsourceFile := Files.not_folder_of_file hat
  have hasideFile := Files.not_folder_of_none hnone
  have hdiffer : aside ≠ source := by
    rintro rfl
    rw [hat] at hnone
    cases hnone
  have hmove : (fresh path files).files.move (fresh path files).path (corruptPath (fresh path files).path) =
      .ok ((files.erase source).put aside (.file bytes)) := Files.move_eq hsource hat haside hasideFile
  have hset : setAside (fresh path files) = ⟨[], fresh path ((files.erase source).put aside (.file bytes)), .ok ()⟩ := by
    unfold setAside
    rw [Step.get_bind, hmove]
    rfl
  rw [hset] at hroom
  obtain ⟨beside, hbeside⟩ := hroom
  -- Where the paths lead is decided by the folders, which the move leaves where they are.
  obtain ⟨hkept, hback⟩ := Files.foldersIn_move hmove
  have hfolder' := hkept.isFolder hfolder
  have hbytes := Files.at?_put (files.erase source) (.file bytes) (Files.ne_root_of_not_folder hasideFile)
  obtain ⟨files', hreplace, hfolders, hdefault, helsewhere⟩ :=
    replace_of_room default hfolder' (hkept.leads hsource) (fun h => hsourceFile (hback source h)) hbeside
  have hasideBeside : aside ≠ beside := by
    rintro rfl
    rw [Files.at?_of_freshName hfolder' hbeside] at hbytes
    cases hbytes
  obtain ⟨hloaded, hstate⟩ := load_of_setAside hread hmalformed hset
  obtain ⟨hresult, hfiles⟩ := reset_of_replace hreplace
  rw [hloaded, hstate, hfiles]
  refine ⟨hresult, Files.read_ok_iff.mpr ⟨aside, hfolders.leads (hkept.leads haside), ?_⟩, hdefault⟩
  rw [helsewhere aside hdiffer hasideBeside, hbytes]

/-- How a file that is no document is loaded by a store that has not loaded yet. Malformed text is found unchanged beside
the defaults; what cannot be read is a fault and stays where it is. -/
theorem load_of_not_document (hread : files.read path = .ok bytes) (hbad : ¬ IsDocument bytes)
    (hfolder : files.isFolder path.parent = true) (hfree : files.Free (corruptPath path))
    (hroom : ∃ beside, (setAside (fresh path files)).state.files.place
      (temporaryPath path (setAside (fresh path files)).state.files) = .ok beside) :
    IsMalformed bytes ∧ (load {} (fresh path files)).result = .ok default ∧
        (load {} (fresh path files)).state.files.read (corruptPath path) = .ok bytes ∧
        (load {} (fresh path files)).state.files.read path = .ok (content default) ∨
      ∃ e, Unread bytes e ∧ (load {} (fresh path files)).result = .error e ∧
        (load {} (fresh path files)).state = fresh path files := by
  rcases malformed_or_unread hbad with hmalformed | ⟨e, hunread⟩
  · exact .inl ⟨hmalformed, load_of_malformed hread hmalformed hfolder hfree hroom⟩
  · exact .inr ⟨e, hunread, load_of_unread hread hunread⟩

def settingsPath : Path := ⟨1, ["settings.json"]⟩

/-- A settings file and nothing else. -/
def holding (bytes : Bytes) : Files := ⟨[(.ofNames ["settings.json"], .file bytes)]⟩

/-- An opening brace alone is set aside. -/
theorem load_openBrace : (holding [123]).read settingsPath = .ok [123] ∧
    (load {} (fresh settingsPath (holding [123]))).result = .ok default ∧
    (load {} (fresh settingsPath (holding [123]))).state.files.read (corruptPath settingsPath) = .ok [123] ∧
    (load {} (fresh settingsPath (holding [123]))).state.files.read settingsPath = .ok (content default) := by
  have hread : (holding [123]).read settingsPath = .ok [123] := by decide +kernel
  have hdecode : Utf8.decode [123] = .ok [123] := by decide +kernel
  have hparse : Json.Parser.parse [123] = .error .malformed := rfl
  have hbad : ¬ IsDocument [123] := by
    rintro ⟨t, v, ht, hv⟩
    obtain rfl : [123] = t := Except.ok.inj (hdecode.symm.trans ht)
    rw [hparse] at hv
    cases hv
  have hroom : ∃ beside, (setAside (fresh settingsPath (holding [123]))).state.files.place
      (temporaryPath settingsPath (setAside (fresh settingsPath (holding [123]))).state.files) = .ok beside :=
    ⟨.ofNames ["tmp00000000"], by decide +kernel⟩
  have hfree : (holding [123]).Free (corruptPath settingsPath) :=
    ⟨.ofNames ["settings.json.corrupt"], by decide +kernel, by decide +kernel⟩
  rcases load_of_not_document hread hbad (by decide +kernel) hfree hroom with
    ⟨_, hload⟩ | ⟨e, hunread, _⟩
  · exact ⟨hread, hload⟩
  · cases hunread with
    | noText h =>
      rw [hdecode] at h
      cases h
    | beyond ht h _ =>
      obtain rfl := Except.ok.inj (hdecode.symm.trans ht)
      rw [hparse] at h
      cases h

/-- A single byte that is no text is not set aside; the load fails. -/
theorem load_strayByte : (holding [255]).read settingsPath = .ok [255] ∧ ¬ IsDocument [255] ∧
    (holding [255]).isFolder settingsPath.parent = true ∧ (holding [255]).Free (corruptPath settingsPath) ∧
    (load {} (fresh settingsPath (holding [255]))).result = .error (.undecodable .badStart 0 0 255) ∧
    (load {} (fresh settingsPath (holding [255]))).state.files.read settingsPath = .ok [255] ∧
    (load {} (fresh settingsPath (holding [255]))).state.files.Free (corruptPath settingsPath) := by
  have hdecode : Utf8.decode [255] = .error (.undecodable .badStart 0 0 255) := by decide +kernel
  have hbad : ¬ IsDocument [255] := by
    rintro ⟨t, v, ht, -⟩
    rw [hdecode] at ht
    cases ht
  refine ⟨by decide +kernel, hbad, by decide +kernel, ?_, by decide +kernel, by decide +kernel, ?_⟩
  · exact ⟨.ofNames ["settings.json.corrupt"], by decide +kernel, by decide +kernel⟩
  · exact ⟨.ofNames ["settings.json.corrupt"], by decide +kernel, by decide +kernel⟩

end Settings.Store
end LinkMeter
