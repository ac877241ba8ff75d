import LinkMeter.Proofs.Files.Folders
import LinkMeter.Proofs.Settings.Persistence

/-! # Saves that fail

A save that fails before there is a temporary file leaves behind at most folders above the settings file. The store has no
use for them but to write, and then it makes them itself if they are not there, so from then on nothing tells that the save
was tried. -/

namespace LinkMeter.Settings.Store
variable {α β : Type} {hazards : Hazards} {path : Path} {files : Files} {s : Settings} {fields : Json.Fields}
  {st st' : Store}

/-! ## Stores that are alike -/

/-- Files that differ at most in that the folders above the settings file were made, without the path having come to lead to
something. -/
inductive Unseen (path : Path) (files : Files) : Files → Prop where
  | same : Unseen path files files
  | prepared (hmade : (Files.makeFolders path.parent files : Outcome Log.Record Files Unit).result = .ok ())
      (hexists : (Files.makeFolders path.parent files : Outcome Log.Record Files Unit).state.exists? path =
        files.exists? path)
      (hmissing : files.exists? path ≠ .ok true) :
    Unseen path files (Files.makeFolders path.parent files : Outcome Log.Record Files Unit).state

/-- The second store is as the first one but for such folders. -/
structure Alike (st st' : Store) : Prop where
  path : st'.path = st.path
  kept : st'.kept = st.kept
  files : Unseen st.path st.files st'.files

/-- The second outcome is as the first one but for such folders. -/
structure Matches (o o' : Outcome Log.Record Store α) : Prop where
  result : o'.result = o.result
  state : Alike o.state o'.state

theorem Alike.refl (st : Store) : Alike st st := ⟨rfl, rfl, .same⟩

theorem Matches.refl (o : Outcome Log.Record Store α) : Matches o o := ⟨rfl, .refl o.state⟩

theorem Matches.after {o o' : Outcome Log.Record Store α} (h : Matches o o') (reports reports' : List Log.Record) :
    Matches (o.after reports) (o'.after reports') := ⟨h.result, h.state⟩

theorem Matches.bind {m : Logged Store α} {f : α → Logged Store β} (hm : Matches (m st) (m st'))
    (hf : ∀ a st st', Alike st st' → Matches (f a st) (f a st')) : Matches ((m >>= f) st) ((m >>= f) st') := by
  cases hresult : (m st).result with
  | error e =>
    rw [Step.bind_of_error hresult, Step.bind_of_error (hm.result.trans hresult)]
    exact ⟨rfl, hm.state⟩
  | ok a =>
    rw [Step.bind_of_ok hresult, Step.bind_of_ok (hm.result.trans hresult)]
    exact (hf a _ _ hm.state).after _ _

theorem validate_matches (fields : Json.Fields) (h : Alike st st') : Matches (validate fields st) (validate fields st') := by
  obtain ⟨hstate, hresult⟩ := validate_yields fields st
  obtain ⟨hstate', hresult'⟩ := validate_yields fields st'
  refine ⟨hresult'.trans hresult.symm, ?_⟩
  rw [hstate, hstate']
  exact h

/-! ## What the store does -/

/-- What follows a step depends on where it ends, not on where it starts. -/
theorem bind_same {σ : Type} {m : Logged σ α} {f : α → Logged σ β} {s s' : σ} (hresult : (m s').result = (m s).result)
    (hstate : (m s').state = (m s).state) : ((m >>= f) s').result = ((m >>= f) s).result ∧
      ((m >>= f) s').state = ((m >>= f) s).state := by
  cases hm : (m s).result with
  | error e =>
    rw [Step.bind_of_error hm, Step.bind_of_error (hresult.trans hm)]
    exact ⟨rfl, hstate⟩
  | ok a =>
    rw [Step.bind_of_ok hm, Step.bind_of_ok (hresult.trans hm), hstate]
    exact ⟨rfl, rfl⟩

/-- The first thing that writing does is to make the folders, so it makes no difference if they were made before. -/
theorem replace_unseen {files' : Files} (h : Unseen path files files') (s : Settings) :
    (replace {} path s files').result = (replace {} path s files).result ∧
      (replace {} path s files').state = (replace {} path s files).state := by
  cases h with
  | same => exact ⟨rfl, rfl⟩
  | prepared hmade _ _ =>
    obtain ⟨hagain, hstate⟩ := Files.makeFolders_again hmade
    obtain ⟨hresult, hwritten⟩ := bind_same (m := Files.makeFolders path.parent) (hagain.trans hmade.symm) hstate
    exact bind_same (m := writeBeside {} path s) hresult hwritten

theorem replace_matches (h : Alike st st') (s : Settings) :
    Matches (Step.attempt (onFiles (replace {} st.path s)) st) (Step.attempt (onFiles (replace {} st.path s)) st') := by
  obtain ⟨hresult, hfiles⟩ := replace_unseen h.files s
  refine ⟨congrArg Except.ok hresult, h.path, h.kept, ?_⟩
  show Unseen _ _ (replace {} st.path s st'.files).state
  rw [hfiles]
  exact .same

theorem lost_matches (level : Log.Level) (what : Text) (e : Fault) (h : Alike st st') :
    Matches ((lost level what e : Logged Store α) st) ((lost level what e : Logged Store α) st') := by
  unfold lost
  cases e.isSystem with
  | false => exact ⟨rfl, h⟩
  | true => exact ⟨rfl, h⟩

theorem save_matches (fields : Json.Fields) (h : Alike st st') : Matches (save {} fields st) (save {} fields st') := by
  unfold save
  refine (validate_matches fields h).bind fun s st st' h => ?_
  rw [Step.get_bind, Step.get_bind, h.kept, h.path]
  by_cases hkept : st.kept = some s
  · rw [if_pos hkept]
    exact ⟨rfl, h⟩
  · rw [if_neg hkept]
    refine (replace_matches h s).bind fun result after after' hafter => ?_
    cases result with
    | error e => exact lost_matches _ _ e hafter
    | ok _ => exact ⟨rfl, hafter.path, rfl, hafter.files⟩

theorem reset_matches (h : Alike st st') : Matches (reset {} st) (reset {} st') := by
  unfold reset
  rw [Step.write_bind, Step.write_bind]
  exact ((save_matches default.toFields h).bind fun _ _ _ hafter => ⟨rfl, hafter⟩).after _ _

theorem load_matches (h : Alike st st') : Matches (load {} st) (load {} st') := by
  obtain ⟨hpath, hkept, hfiles⟩ := h
  obtain ⟨path, kept, files⟩ := st
  obtain ⟨path', kept', files'⟩ := st'
  obtain rfl : path' = path := hpath
  obtain rfl : kept' = kept := hkept
  have halike : Alike ⟨path', kept', files⟩ ⟨path', kept', files'⟩ := ⟨rfl, rfl, hfiles⟩
  cases hfiles with
  | same => exact .refl _
  | prepared _ hexists hmissing =>
    -- Both stores find no file, so both save the defaults.
    unfold load
    rw [Step.get_bind, Step.get_bind]
    dsimp only
    rw [hexists]
    cases hfound : files.exists? path' with
    | error e => exact ⟨rfl, halike⟩
    | ok found =>
      cases found with
      | true => exact absurd hfound hmissing
      | false => exact ((reset_matches halike).after _ _).after _ _

/-! ## Requests -/

/-- What is asked of a store around which nothing goes wrong. -/
inductive Request where
  | load
  | save (fields : Json.Fields)
  | reset
  | validate (fields : Json.Fields)

/-- Answers a request, with settings unless it is to save some. -/
def Request.answer : Request → Logged Store (Option Settings)
  | load => do pure (some (← Store.load {}))
  | save fields => do
    Store.save {} fields
    pure none
  | reset => do pure (some (← Store.reset {}))
  | validate fields => do pure (some (← Settings.validate fields))

/-- The outcomes of requests one after the other. One that fails leaves its state behind, and the next is made on it. -/
def serve : List Request → Store → List (Outcome Log.Record Store (Option Settings))
  | [], _ => []
  | r :: rest, st => r.answer st :: serve rest (r.answer st).state

/-- The outcomes have the same result, and all files have the same content. -/
structure Indistinct (o o' : Outcome Log.Record Store (Option Settings)) : Prop where
  result : o'.result = o.result
  read : ∀ bytes, o'.state.files.read o'.state.path = .ok bytes ↔ o.state.files.read o.state.path = .ok bytes
  contents : ∀ place bytes,
    o'.state.files.at? place = some (.file bytes) ↔ o.state.files.at? place = some (.file bytes)

section Unseen
variable {files' : Files}

theorem Unseen.contents (h : Unseen path files files') (place : Place) (bytes : Bytes) :
    files'.at? place = some (.file bytes) ↔ files.at? place = some (.file bytes) := by
  cases h with
  | same => exact Iff.rfl
  | prepared _ _ _ => exact (Files.makeFolders_makes path.parent files).1.file_iff

theorem Unseen.read (h : Unseen path files files') (bytes : Bytes) :
    files'.read path = .ok bytes ↔ files.read path = .ok bytes := by
  cases h with
  | same => exact Iff.rfl
  | prepared _ hexists hmissing =>
    exact ⟨fun hread => absurd (hexists.symm.trans (exists_of_read hread)) hmissing,
      fun hread => absurd (exists_of_read hread) hmissing⟩

theorem Matches.indistinct {o o' : Outcome Log.Record Store (Option Settings)} (h : Matches o o') : Indistinct o o' where
  result := h.result
  read bytes := by
    rw [h.state.path]
    exact h.state.files.read bytes
  contents := h.state.files.contents

end Unseen

theorem answer_matches (r : Request) (h : Alike st st') : Matches (r.answer st) (r.answer st') := by
  cases r with
  | load => exact (load_matches h).bind fun _ _ _ hafter => ⟨rfl, hafter⟩
  | save fields => exact (save_matches fields h).bind fun _ _ _ hafter => ⟨rfl, hafter⟩
  | reset => exact (reset_matches h).bind fun _ _ _ hafter => ⟨rfl, hafter⟩
  | validate fields => exact (validate_matches fields h).bind fun _ _ _ hafter => ⟨rfl, hafter⟩

theorem serve_indistinct (requests : List Request) (h : Alike st st') :
    List.Forall₂ Indistinct (serve requests st) (serve requests st') := by
  induction requests generalizing st st' with
  | nil => exact .nil
  | cons r rest ih =>
    have hr := answer_matches r h
    exact .cons hr.indistinct (ih hr.state)

/-! ## Failing -/

section Failing
variable {cause : Fault}

/-- Where writing fails, nothing but folders was made. -/
theorem writeBeside_fails (h : (writeBeside hazards path s files).result = .error cause) :
    (writeBeside hazards path s files).state =
      (Files.makeFolders path.parent files : Outcome Log.Record Files Unit).state := by
  unfold writeBeside at h ⊢
  cases hmade : (Files.makeFolders path.parent files : Outcome Log.Record Files Unit).result with
  | error e => rw [Step.bind_of_error hmade]
  | ok _ =>
    rw [Step.bind_of_ok hmade, Outcome.after_result] at h
    rw [Step.bind_of_ok hmade, Outcome.after_state]
    generalize (Files.makeFolders path.parent files : Outcome Log.Record Files Unit).state = made at h ⊢
    cases hhazard : hazards.temporary with
    | some e => rfl
    | none =>
      rw [hhazard] at h
      dsimp only at h ⊢
      rw [Step.get_bind] at h ⊢
      cases hwrite : made.write (path.withName made.freshName) (content s) with
      | error e => rw [Step.lift_error_bind]
      | ok written =>
        rw [hwrite, Step.lift_ok_bind] at h
        cases h

theorem not_kept_of_error (hvalid : validated fields = .ok s) (h : (save hazards fields st).result = .error cause) :
    st.kept ≠ some s := by
  intro hkept
  obtain ⟨hstate, hresult⟩ := validate_yields fields st
  rw [hvalid] at hresult
  unfold save at h
  rw [Step.bind_of_ok hresult, hstate, Outcome.after_result, Step.get_bind, if_pos hkept] at h
  cases h

/-- A save that fails before there is a temporary file leaves a store that is as it was but for folders above the file. -/
theorem alike_of_failed (hvalid : validated fields = .ok s) (hkept : st.kept ≠ some s)
    (hbeside : (writeBeside hazards st.path s st.files).result = .error cause)
    (hpath : st.files.isFolder st.path.parent = true ∨ st.files.IsTree ∧ st.files.Clear st.path) :
    Alike st (save hazards fields st).state := by
  have hreplace : replace hazards st.path s st.files =
      ⟨(writeBeside hazards st.path s st.files).reports, (writeBeside hazards st.path s st.files).state, .error cause⟩ :=
    Step.bind_of_error hbeside
  rw [(save_of_not_replaced hvalid hkept (by rw [hreplace])).2, hreplace, writeBeside_fails hbeside]
  refine ⟨rfl, rfl, ?_⟩
  show Unseen st.path st.files (Files.makeFolders st.path.parent st.files : Outcome Log.Record Files Unit).state
  have hsame : (Files.makeFolders st.path.parent st.files : Outcome Log.Record Files Unit).state = st.files →
      Unseen st.path st.files (Files.makeFolders st.path.parent st.files : Outcome Log.Record Files Unit).state := by
    intro h
    rw [h]
    exact .same
  rcases hpath with hfolder | ⟨htree, hclear⟩
  · exact hsame (Files.makeFolders_of_opens (Files.opens_of_isFolder hfolder))
  · rcases Files.makeFolders_above htree hclear with h | ⟨hmade, hexists, hmissing⟩
    · exact hsame h
    · exact .prepared hmade hexists hmissing

/-- There is room for the settings file and for a temporary one beside it. -/
structure HasRoom (path : Path) (files : Files) : Prop where
  folder : files.isFolder path.parent = true
  target : ∃ place, files.place path = .ok place ∧ files.at? place ≠ some .folder
  temporary : ∃ beside, files.place (temporaryPath path files) = .ok beside

theorem save_of_room (hvalid : validated fields = .ok s) (hkept : st.kept ≠ some s) (h : HasRoom st.path st.files) :
    (save {} fields st).result = .ok () ∧ (save {} fields st).state.files.read st.path = .ok (content s) := by
  obtain ⟨place, hplace, hat⟩ := h.target
  obtain ⟨beside, hbeside⟩ := h.temporary
  obtain ⟨files', hreplace, -, hread, -⟩ := replace_of_room s h.folder hplace hat hbeside
  have hwritten : (replace {} st.path s st.files).result = .ok () := by rw [hreplace]
  obtain ⟨hresult, hstate⟩ := save_of_replaced hvalid hkept hwritten
  refine ⟨hresult, ?_⟩
  rw [hstate, hreplace]
  exact hread

theorem save_writes (hvalid : validated fields = .ok s) (hkept : st.kept ≠ some s)
    (hok : (save {} fields st).result = .ok ()) (hfolder : (save {} fields st).state.files.isFolder st.path = false) :
    (save {} fields st).state.files.read st.path = .ok (content s) := by
  rcases save_ends {} fields st with ⟨e, -, herror, -⟩ | ⟨_, -, s', hvalid', hsaved⟩
  · cases hok.symm.trans herror
  · obtain rfl : s = s' := Except.ok.inj (hvalid.symm.trans hvalid')
    generalize (save {} fields st).state = saved at hfolder hsaved ⊢
    cases hsaved with
    | skipped h => exact absurd h hkept
    | written _ hread => exact hread hfolder

/-- A save that fails because the folder of the settings file cannot be made or because the temporary file cannot, is not
seen afterwards. No file has come, gone or changed; any requests have the same results and leave the same files as if there
had been no such save, and the same save is not skipped when it is tried again. The folder is there already, or no component
of the path that comes after a missing folder leads back up or has too long a name. -/
theorem unseen_of_failed {what : Text} (hfails : (save hazards fields st).result = .error (.settingsLost what cause))
    (hvalid : (validate fields st).result = .ok s)
    (hbeside : (writeBeside hazards st.path s st.files).result = .error cause)
    (hpath : st.files.isFolder st.path.parent = true ∨ st.files.IsTree ∧ st.files.Clear st.path) :
    let after := (save hazards fields st).state
    after.path = st.path ∧ (∀ bytes, after.files.read st.path = .ok bytes ↔ st.files.read st.path = .ok bytes) ∧
      (∀ place bytes, after.files.at? place = some (.file bytes) ↔ st.files.at? place = some (.file bytes)) ∧
      (∀ requests, List.Forall₂ Indistinct (serve requests st) (serve requests after)) ∧
      (HasRoom st.path after.files → (save {} fields after).result = .ok ()) ∧
      ((save {} fields after).result = .ok () → (save {} fields after).state.files.isFolder st.path = false →
        (save {} fields after).state.files.read st.path = .ok (content s)) := by
  intro after
  have hvalidated : validated fields = .ok s := (validate_yields fields st).2.symm.trans hvalid
  have hkept := not_kept_of_error hvalidated hfails
  have halike : Alike st after := alike_of_failed hvalidated hkept hbeside hpath
  have hkept' : after.kept ≠ some s := halike.kept ▸ hkept
  refine ⟨halike.path, halike.files.read, halike.files.contents, fun requests => serve_indistinct requests halike,
    fun hroom => ?_, fun hok hfolder => ?_⟩
  · rw [← halike.path] at hroom
    exact (save_of_room hvalidated hkept' hroom).1
  · rw [← halike.path] at hfolder ⊢
    exact save_writes hvalidated hkept' hok hfolder

end Failing

/-! ## Two failed saves -/

def noSpace : Fault := .host .system "No space left on device"

/-- No temporary file can be made. -/
def fullDisk : Hazards := { temporary := some noSpace }

/-- A store whose settings file is to be in a folder that is not there. -/
def emptyStore : Store := fresh ⟨1, ["settings", "settings.json"]⟩ ⟨[]⟩

theorem isTree_empty : Files.IsTree ⟨[]⟩ := by
  intro place e h
  by_cases hroot : place = .root
  · rw [hroot]
    exact Files.at?_root _
  · rw [Files.at?_of_ne_root _ hroot] at h
    cases h

/-- The folder was made, and the same save succeeds when there is space again. -/
theorem unseen_emptyStore :
    (save fullDisk [("mode", .string "downstream")] emptyStore).result = .error (.settingsLost
      (.cat ["Failed to save configuration to ", "/settings/settings.json"]) noSpace) ∧
    (save {} [("mode", .string "downstream")]
      (save fullDisk [("mode", .string "downstream")] emptyStore).state).result = .ok () := by
  have hfails : (save fullDisk [("mode", .string "downstream")] emptyStore).result = .error (.settingsLost
      (.cat ["Failed to save configuration to ", "/settings/settings.json"]) noSpace) := by decide +kernel
  have hvalid : (validate [("mode", .string "downstream")] emptyStore).result = .ok { default with mode := .down } := by
    decide +kernel
  have hbeside : (writeBeside fullDisk emptyStore.path { default with mode := .down } emptyStore.files).result =
      .error noSpace := by decide +kernel
  have hclear : Files.Clear ⟨[]⟩ emptyStore.path := Files.clear_of_plain (by decide +kernel) _
  obtain ⟨-, -, -, -, hretry, -⟩ := unseen_of_failed hfails hvalid hbeside (.inr ⟨isTree_empty, hclear⟩)
  refine ⟨hfails, hretry ⟨by decide +kernel, ⟨.ofNames ["settings.json", "settings"], by decide +kernel, by decide +kernel⟩,
    ⟨.ofNames ["tmp00000000", "settings"], by decide +kernel⟩⟩⟩

/-- The path to a settings file leads through a folder that is not there and back up. -/
def upwardStore : Store := fresh ⟨1, ["x", "..", "settings.json"]⟩ (holding (content { default with mode := .up }))

/-- The path leads through a folder that is not there and by a name that is too long. -/
def longStore : Store := fresh ⟨1, ["x", List.replicate 256 110, "settings.json"]⟩ ⟨[]⟩

/-- A failed save shows if it makes a folder that two dots lead out of: the path leads to a file then. It also shows if the
folder is one that a name which is too long is looked for in: then that is what a load fails of. -/
theorem seen_of_failed :
    ((save fullDisk [("mode", .string "downstream")] upwardStore).result = .error (.settingsLost
        (.cat ["Failed to save configuration to ", upwardStore.path.toText]) noSpace) ∧
      (upwardStore.files.read upwardStore.path).toOption = none ∧
      ((save fullDisk [("mode", .string "downstream")] upwardStore).state.files.read upwardStore.path).toOption =
        some (content { default with mode := .up }) ∧
      (load {} upwardStore).result = .ok default ∧
      (load {} (save fullDisk [("mode", .string "downstream")] upwardStore).state).result =
        .ok { default with mode := .up }) ∧
    (save {} [("mode", .string "downstream")] longStore).result = .error (.settingsLost
        (.cat ["Failed to save configuration to ", longStore.path.toText])
        (.file .nameTooLong longStore.path.parent.toText)) ∧
      (load {} longStore).result = .error (.settingsLost
        (.cat ["Failed to save configuration to ", longStore.path.toText])
        (.file .nameTooLong longStore.path.parent.toText)) ∧
      (load {} (save {} [("mode", .string "downstream")] longStore).state).result =
        .error (.file .nameTooLong longStore.path.toText) := by
  refine ⟨⟨?_, ?_, ?_, ?_, ?_⟩, ?_, ?_, ?_⟩
  all_goals decide +kernel

end LinkMeter.Settings.Store
