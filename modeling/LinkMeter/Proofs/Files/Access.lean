import LinkMeter.Files.Basic

/-! # Reading, writing and moving files

Where a path leads is decided by the folders alone, so writing, taking away and moving files leaves it where it is. What was
written is read back, and after a move the content is at the target. -/

namespace LinkMeter.Files
variable {fs fs' : Files} {place other : Place} {e : Entry} {p q : Path} {content : Bytes}

/-! ## What is at a place -/

theorem at?_root (fs : Files) : fs.at? .root = some .folder := if_pos rfl

theorem at?_of_ne_root (fs : Files) (h : place ≠ .root) : fs.at? place = fs.entries.lookup place := if_neg h

theorem lookup_filter_place (f : Place → Bool) (entries : List (Place × Entry)) :
    (entries.filter fun entry => f entry.1).lookup place = if f place then entries.lookup place else none := by
  induction entries with
  | nil => simp
  | cons entry rest ih =>
    obtain ⟨here, e⟩ := entry
    rw [List.filter_cons]
    by_cases hplace : place = here
    · subst hplace
      cases hf : f place <;> simp [hf, ih]
    · have hno : (place == here) = false := beq_false_of_ne hplace
      cases hf : f here <;> simp [List.lookup_cons, hno, ih]

theorem at?_erase (fs : Files) (h : place ≠ .root) : (fs.erase place).at? place = none := by
  rw [at?_of_ne_root _ h]
  exact (lookup_filter_place (fun other => decide (other ≠ place)) fs.entries).trans (by simp)

theorem at?_erase_of_ne (fs : Files) (h : other ≠ place) : (fs.erase place).at? other = fs.at? other := by
  by_cases hroot : other = .root
  · rw [hroot, at?_root, at?_root]
  · rw [at?_of_ne_root _ hroot, at?_of_ne_root _ hroot]
    exact (lookup_filter_place (fun other => decide (other ≠ place)) fs.entries).trans (by simp [h])

theorem at?_put (fs : Files) (e : Entry) (h : place ≠ .root) : (fs.put place e).at? place = some e := by
  rw [at?_of_ne_root _ h]
  exact List.lookup_cons_self

theorem at?_put_of_ne (fs : Files) (e : Entry) (h : other ≠ place) : (fs.put place e).at? other = fs.at? other := by
  refine Eq.trans ?_ (at?_erase_of_ne fs h)
  by_cases hroot : other = .root
  · rw [hroot, at?_root, at?_root]
  · rw [at?_of_ne_root _ hroot, at?_of_ne_root _ hroot]
    show List.lookup other ((place, e) :: (fs.erase place).entries) = _
    rw [List.lookup_cons, beq_false_of_ne h]

/-! ## Where a path leads -/

/-- All folders of `fs` are folders of `fs'` too. -/
def FoldersIn (fs fs' : Files) : Prop := ∀ place, fs.at? place = some .folder → fs'.at? place = some .folder

theorem FoldersIn.trans {fs'' : Files} (h : FoldersIn fs fs') (h' : FoldersIn fs' fs'') : FoldersIn fs fs'' :=
  fun place hplace => h' place (h place hplace)

theorem FoldersIn.enter (h : FoldersIn fs fs') (hok : fs.enter place = .ok ()) : fs'.enter place = .ok () := by
  unfold Files.enter at hok ⊢
  cases hdepth : place.depth with
  | zero => rfl
  | succ depth =>
    rw [hdepth] at hok
    unfold enterWithin at hok ⊢
    cases hentry : fs.at? place with
    | none =>
      -- Nothing is there, so the way in fails, whatever is around it.
      rw [hentry] at hok
      dsimp only at hok
      cases hin : fs.enterWithin depth place.around with
      | error e => rw [hin] at hok; cases hok
      | ok _ => rw [hin] at hok; cases hok
    | some entry =>
      rw [hentry] at hok
      cases entry with
      | folder => rw [h place hentry]
      | file content => cases hok

/-- The walk from a folder that was gone into, or did not have to be. -/
def onward (fs : Files) (folder : Place) (c : Text) (rest : List Text) : Except FileError Place :=
  if c = ".." then fs.walk folder.around rest
  else if longestName < (Utf8.toSystem c).length then .error .nameTooLong
  else fs.walk (folder.child c) rest

theorem walk_cons (fs : Files) (folder : Place) (c : Text) (rest : List Text) : fs.walk folder (c :: rest) =
    if c = ".." || longestName < (Utf8.toSystem c).length || rest.isEmpty then
      fs.enter folder >>= fun _ => fs.onward folder c rest
    else fs.onward folder c rest := rfl

theorem onward_of_walk {c : Text} {rest : List Text} {folder : Place} (hok : fs.walk folder (c :: rest) = .ok place) :
    fs.onward folder c rest = .ok place ∧
      ((c = ".." || longestName < (Utf8.toSystem c).length || rest.isEmpty) = true → fs.enter folder = .ok ()) := by
  rw [walk_cons] at hok
  split at hok
  · obtain ⟨_, hin, hok⟩ := of_bind_ok hok
    exact ⟨hok, fun _ => hin⟩
  · rename_i hstay
    exact ⟨hok, fun henter => absurd henter hstay⟩

/-- What is so for the walks of the rest is so after the next component. -/
theorem onward_of_rest {c : Text} {rest rest' : List Text} {folder : Place} {r : Except FileError Place}
    (hrest : ∀ folder, fs.walk folder rest = .ok place → fs'.walk folder rest' = r)
    (hok : fs.onward folder c rest = .ok place) : fs'.onward folder c rest' = r := by
  unfold onward at hok ⊢
  by_cases hup : c = ".."
  · rw [if_pos hup] at hok ⊢
    exact hrest _ hok
  · rw [if_neg hup] at hok ⊢
    by_cases hlong : longestName < (Utf8.toSystem c).length
    · rw [if_pos hlong] at hok
      cases hok
    · rw [if_neg hlong] at hok ⊢
      exact hrest _ hok

theorem FoldersIn.walk (h : FoldersIn fs fs') {parts : List Text} {folder : Place} (hok : fs.walk folder parts = .ok place) :
    fs'.walk folder parts = .ok place := by
  induction parts generalizing folder with
  | nil => exact hok
  | cons c rest ih =>
    obtain ⟨honward, henter⟩ := onward_of_walk hok
    have honward' := onward_of_rest (fun _ => ih) honward
    rw [walk_cons]
    split
    · rename_i hneeded
      rw [h.enter (henter hneeded)]
      exact honward'
    · exact honward'

theorem FoldersIn.leads (h : FoldersIn fs fs') (hok : fs.place p = .ok place) : fs'.place p = .ok place := by
  unfold Files.place at hok ⊢
  cases hflaw : p.flaw? with
  | some e =>
    rw [hflaw] at hok
    cases hok
  | none =>
    rw [hflaw] at hok
    exact h.walk hok

/-- What is at the end of a path is at the place to which it leads. -/
theorem find_ok_iff : fs.find p = .ok e ↔ ∃ place, fs.place p = .ok place ∧ fs.at? place = some e := by
  unfold find
  cases hplace : fs.place p with
  | error f => simp [bind, Except.bind]
  | ok place =>
    simp only [bind, Except.bind, Except.ok.injEq, exists_eq_left']
    cases fs.at? place <;> simp

theorem isFolder_iff : fs.isFolder p = true ↔ ∃ place, fs.place p = .ok place ∧ fs.at? place = some .folder := by
  rw [← find_ok_iff]
  unfold isFolder
  cases hfind : fs.find p with
  | error f => simp
  | ok e => cases e <;> simp

theorem read_ok_iff : fs.read p = .ok content ↔ ∃ place, fs.place p = .ok place ∧ fs.at? place = some (.file content) := by
  rw [← find_ok_iff]
  unfold read
  cases hfind : fs.find p with
  | error f => simp
  | ok e => cases e <;> simp

theorem FoldersIn.isFolder (h : FoldersIn fs fs') (hfolder : fs.isFolder p = true) : fs'.isFolder p = true := by
  obtain ⟨place, hplace, hat⟩ := isFolder_iff.mp hfolder
  exact isFolder_iff.mpr ⟨place, h.leads hplace, h place hat⟩

/-! ## Changing files -/

theorem not_folder_of_file (h : fs.at? place = some (.file content)) : fs.at? place ≠ some .folder :=
  fun hfolder => nomatch h.symm.trans hfolder

theorem not_folder_of_none (h : fs.at? place = none) : fs.at? place ≠ some .folder :=
  fun hfolder => nomatch h.symm.trans hfolder

theorem ne_root_of_not_folder (h : fs.at? place ≠ some .folder) : place ≠ .root := by
  rintro rfl
  exact h (at?_root fs)

theorem foldersIn_put (h : fs.at? place ≠ some .folder) (e : Entry) : FoldersIn fs (fs.put place e) := by
  intro other hother
  have hne : other ≠ place := by
    rintro rfl
    exact h hother
  rwa [at?_put_of_ne fs e hne]

theorem foldersIn_of_put (h : fs.at? place ≠ some .folder) (content : Bytes) :
    FoldersIn (fs.put place (.file content)) fs := by
  intro other hother
  by_cases heq : other = place
  · rw [heq, at?_put fs _ (ne_root_of_not_folder h)] at hother
    cases hother
  · rwa [at?_put_of_ne fs _ heq] at hother

theorem foldersIn_erase (h : fs.at? place ≠ some .folder) : FoldersIn fs (fs.erase place) := by
  intro other hother
  have hne : other ≠ place := by
    rintro rfl
    exact h hother
  rwa [at?_erase_of_ne fs hne]

theorem foldersIn_of_erase (h : fs.at? place ≠ some .folder) : FoldersIn (fs.erase place) fs := by
  intro other hother
  by_cases heq : other = place
  · rw [heq, at?_erase fs (ne_root_of_not_folder h)] at hother
    cases hother
  · rwa [at?_erase_of_ne fs heq] at hother

theorem write_ok_iff : fs.write p content = .ok fs' ↔
    ∃ place, fs.place p = .ok place ∧ fs.at? place ≠ some .folder ∧ fs' = fs.put place (.file content) := by
  unfold write
  cases hplace : fs.place p with
  | error f => simp
  | ok place =>
    dsimp only
    rcases hat : fs.at? place with _ | ⟨⟩ | old <;> simp [hat, eq_comm]

theorem remove_ok_iff : fs.remove p = .ok fs' ↔
    ∃ place content, fs.place p = .ok place ∧ fs.at? place = some (.file content) ∧ fs' = fs.erase place := by
  unfold remove
  cases hplace : fs.place p with
  | error f => simp
  | ok place =>
    dsimp only
    rcases hat : fs.at? place with _ | ⟨⟩ | old <;> simp [hat, eq_comm]

theorem read_of_write (h : fs.write p content = .ok fs') : fs'.read p = .ok content := by
  obtain ⟨place, hplace, hat, rfl⟩ := write_ok_iff.mp h
  exact read_ok_iff.mpr ⟨place, (foldersIn_put hat _).leads hplace, at?_put fs _ (ne_root_of_not_folder hat)⟩

/-- A move takes the content from the place of the source and writes it at the destination. -/
theorem move_ok (h : fs.move p q = .ok fs') : ∃ target content place, fs.destination p q = .ok target ∧
    fs.place p = .ok place ∧ fs.at? place = some (.file content) ∧ (fs.erase place).write target content = .ok fs' := by
  unfold move at h
  obtain ⟨target, hdestination, h⟩ := of_bind_ok h
  obtain ⟨content, hread, h⟩ := of_bind_ok h
  obtain ⟨rest, hremove, h⟩ := of_bind_ok h
  obtain ⟨place, content', hplace, hat, rfl⟩ := remove_ok_iff.mp hremove
  obtain ⟨place', hplace', hat'⟩ := read_ok_iff.mp hread
  obtain rfl : place = place' := Except.ok.inj (hplace.symm.trans hplace')
  exact ⟨target, content, place, hdestination, hplace, hat', h⟩

theorem foldersIn_move (h : fs.move p q = .ok fs') : FoldersIn fs fs' ∧ FoldersIn fs' fs := by
  obtain ⟨target, content, place, -, -, hat, hwrite⟩ := move_ok h
  have hfile := not_folder_of_file hat
  obtain ⟨place', -, hat', rfl⟩ := write_ok_iff.mp hwrite
  exact ⟨(foldersIn_erase hfile).trans (foldersIn_put hat' _), (foldersIn_of_put hat' _).trans (foldersIn_of_erase hfile)⟩

/-- What a move onto a path that leads to no folder has done. -/
theorem move_onto (h : fs.move p q = .ok fs') (hq : fs'.isFolder q = false) : ∃ source target content,
    fs.place p = .ok source ∧ fs.at? source = some (.file content) ∧ (fs.erase source).place q = .ok target ∧
      (fs.erase source).at? target ≠ some .folder ∧ fs' = (fs.erase source).put target (.file content) := by
  obtain ⟨path, content, source, hdestination, hplace, hat, hwrite⟩ := move_ok h
  have hnot : ¬ fs.isFolder q = true := by
    intro hfolder
    rw [(foldersIn_move h).1.isFolder hfolder] at hq
    cases hq
  unfold destination at hdestination
  rw [if_neg hnot] at hdestination
  cases hdestination
  obtain ⟨target, htarget, hfree, hmoved⟩ := write_ok_iff.mp hwrite
  exact ⟨source, target, content, hplace, hat, htarget, hfree, hmoved⟩

/-- After a move the content of the source is at the target, unless that is a folder. -/
theorem read_of_move (h : fs.move p q = .ok fs') (hq : fs'.isFolder q = false) (hp : fs.read p = .ok content) :
    fs'.read q = .ok content := by
  obtain ⟨source, target, moved, hplace, hat, htarget, hfree, rfl⟩ := move_onto h hq
  obtain ⟨source', hplace', hat'⟩ := read_ok_iff.mp hp
  obtain rfl : source = source' := Except.ok.inj (hplace.symm.trans hplace')
  obtain rfl : moved = content := by
    rw [hat] at hat'
    cases hat'
    rfl
  exact read_ok_iff.mpr ⟨target, (foldersIn_put hfree _).leads htarget, at?_put _ _ (ne_root_of_not_folder hfree)⟩

/-- Nothing but what was moved is at the source after a move, if something is. -/
theorem read_source_of_move {after : Bytes} (h : fs.move p q = .ok fs') (hp : fs.read p = .ok content)
    (hafter : fs'.read p = .ok after) : after = content := by
  obtain ⟨target, moved, place, -, hplace, hat, hwrite⟩ := move_ok h
  obtain ⟨place₁, hplace₁, hat₁⟩ := read_ok_iff.mp hp
  obtain ⟨place₂, hplace₂, hat₂⟩ := read_ok_iff.mp hafter
  obtain rfl : place = place₁ := Except.ok.inj (hplace.symm.trans hplace₁)
  obtain rfl : place = place₂ := Except.ok.inj (hplace.symm.trans ((foldersIn_move h).2.leads hplace₂))
  obtain rfl : moved = content := by
    rw [hat] at hat₁
    cases hat₁
    rfl
  have hroot : place ≠ .root := ne_root_of_not_folder (not_folder_of_file hat)
  obtain ⟨place', -, -, rfl⟩ := write_ok_iff.mp hwrite
  by_cases hsame : place = place'
  · subst hsame
    rw [at?_put _ _ hroot] at hat₂
    cases hat₂
    rfl
  · rw [at?_put_of_ne _ _ hsame, at?_erase _ hroot] at hat₂
    cases hat₂

end LinkMeter.Files
