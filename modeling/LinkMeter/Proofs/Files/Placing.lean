import LinkMeter.Proofs.Files.Access
import LinkMeter.Proofs.Json.Digits
import LinkMeter.Proofs.Step
import LinkMeter.Proofs.Text.Ascii
import Mathlib.Data.List.Nodup
import Mathlib.Data.List.Perm.Subperm

/-! # Files beside each other

A path into a folder leads to the place of its name there. The name that is chosen for a temporary file is nobody's, so
its place is free; and a file that is moved to a path that leads to no folder is at the place of that path and nowhere
else. -/

namespace LinkMeter.Files
variable {fs fs' fs'' : Files} {place folder source target : Place} {p q : Path} {content : Bytes} {ω : Type}

/-! ## Paths into a folder -/

theorem enter_of_folder (h : fs.at? folder = some .folder) : fs.enter folder = .ok () := by
  unfold enter
  cases folder.depth with
  | zero => rfl
  | succ depth =>
    unfold enterWithin
    rw [h]

/-- The walk past a folder goes on from there. -/
theorem walk_append {start : Place} {parts : List Text} (rest : List Text) (hwalk : fs.walk start parts = .ok folder)
    (hfolder : fs.at? folder = some .folder) : fs.walk start (parts ++ rest) = fs.walk folder rest := by
  induction parts generalizing start with
  | nil =>
    obtain rfl : start = folder := Except.ok.inj hwalk
    rfl
  | cons d more ih =>
    obtain ⟨honward, henter⟩ := onward_of_walk hwalk
    cases rest with
    | nil =>
      rw [List.append_nil, hwalk]
      rfl
    | cons c rest =>
      have honward' := onward_of_rest (fun _ => ih) honward
      rw [List.cons_append, walk_cons]
      split
      · rename_i hneeded
        -- There is more to come, so only two dots or a name that is too long need the folder.
        have hneeded' : (d = ".." || longestName < (Utf8.toSystem d).length || more.isEmpty) = true := by
          have hmore : (more ++ c :: rest).isEmpty = false :=
            List.isEmpty_eq_false_iff.mpr (List.append_ne_nil_of_right_ne_nil more nofun)
          rw [hmore, Bool.or_false] at hneeded
          rw [hneeded, Bool.true_or]
        rw [henter hneeded']
        exact honward'
      · exact honward'

/-- The walk from a folder that is there. -/
theorem walk_of_folder (h : fs.at? folder = some .folder) (c : Text) (rest : List Text) :
    fs.walk folder (c :: rest) = fs.onward folder c rest := by
  rw [walk_cons]
  split
  · rw [enter_of_folder h]
    rfl
  · rfl

theorem walk_of_place (h : fs.place p = .ok place) : fs.walk .root (p.parts.map Utf8.throughSystem) = .ok place := by
  unfold Files.place at h
  cases hflaw : p.flaw? with
  | some e =>
    rw [hflaw] at h
    cases h
  | none =>
    rw [hflaw] at h
    exact h

/-- The components of the path lead to a folder. -/
def Opens (fs : Files) (p : Path) : Prop :=
  ∃ folder, fs.walk .root (p.parts.map Utf8.throughSystem) = .ok folder ∧ fs.at? folder = some .folder

theorem opens_of_isFolder (h : fs.isFolder p = true) : fs.Opens p := by
  obtain ⟨place, hplace, hat⟩ := isFolder_iff.mp h
  exact ⟨place, walk_of_place hplace, hat⟩

/-- A path into a folder leads there or up, if its name is not too long. -/
theorem place_withName {name : Text} (hwalk : fs.walk .root (p.parent.parts.map Utf8.throughSystem) = .ok folder)
    (hfolder : fs.at? folder = some .folder) (hflaw : (p.withName name).flaw? = none) :
    fs.place (p.withName name) = fs.onward folder (Utf8.throughSystem name) [] := by
  unfold Files.place
  rw [hflaw]
  show fs.walk .root ((p.parent.parts ++ [name]).map Utf8.throughSystem) = _
  rw [List.map_append, walk_append _ hwalk hfolder]
  exact walk_of_folder hfolder _ []

theorem flaw_of_place (h : fs.place p = .ok place) : p.flaw? = none := by
  unfold Files.place at h
  cases hflaw : p.flaw? with
  | none => rfl
  | some e =>
    rw [hflaw] at h
    cases h

theorem depth_of_walk {start : Place} {parts : List Text} (h : fs.walk start parts = .ok place) :
    place.depth ≤ start.depth + parts.length ∧
      ((∀ c ∈ parts, c ≠ "..") → place.depth = start.depth + parts.length) := by
  induction parts generalizing start with
  | nil =>
    cases h
    exact ⟨Nat.le_refl _, fun _ => rfl⟩
  | cons c rest ih =>
    have honward := (onward_of_walk h).1
    unfold onward at honward
    rw [List.length_cons]
    by_cases hup : c = ".."
    · rw [if_pos hup] at honward
      have hdepth : start.around.depth = start.depth - 1 := rfl
      exact ⟨by have := (ih honward).1; omega, fun hdots => absurd hup (hdots c List.mem_cons_self)⟩
    · rw [if_neg hup] at honward
      split at honward
      · cases honward
      · obtain ⟨hle, heq⟩ := ih honward
        have hdepth : (start.child c).depth = start.depth + 1 := rfl
        refine ⟨by omega, fun hdots => ?_⟩
        have hrest := heq fun d hd => hdots d (List.mem_cons_of_mem c hd)
        omega

/-- No component of the path leads back up. -/
def Descends (p : Path) : Prop := ∀ c ∈ p.parts.map Utf8.throughSystem, c ≠ ".."

theorem depth_of_place (h : fs.place p = .ok place) : place.depth ≤ p.parts.length := by
  have hdepth := (depth_of_walk (walk_of_place h)).1
  have hroot : Place.root.depth = 0 := rfl
  rwa [List.length_map, hroot, Nat.zero_add] at hdepth

/-- A walk without two dots goes into no folder but the one around its end. -/
theorem walk_of_around {start : Place} {parts : List Text} (hdots : ∀ c ∈ parts, c ≠ "..")
    (h : fs'.walk start parts = .ok place) (haround : parts ≠ [] → fs.at? place.around = some .folder) :
    fs.walk start parts = .ok place := by
  induction parts generalizing start with
  | nil => exact h
  | cons c rest ih =>
    have hrest : ∀ d ∈ rest, d ≠ ".." := fun d hd => hdots d (List.mem_cons_of_mem c hd)
    have hup : c ≠ ".." := hdots c List.mem_cons_self
    have honward := (onward_of_walk h).1
    have honward' : fs.onward start c rest = .ok place := by
      refine onward_of_rest (fun folder hwalk => ih hrest hwalk fun _ => haround (List.cons_ne_nil c rest)) honward
    rw [walk_cons]
    split
    · rename_i hneeded
      unfold onward at honward
      rw [if_neg hup] at honward
      by_cases hlong : longestName < (Utf8.toSystem c).length
      · rw [if_pos hlong] at honward
        cases honward
      · rw [if_neg hlong] at honward
        have hlast : rest = [] := by simpa [hup, hlong] using hneeded
        subst hlast
        obtain rfl : start.child c = place := Except.ok.inj honward
        have henter : fs.enter start = .ok () := enter_of_folder (haround (List.cons_ne_nil c []))
        rw [henter]
        exact honward'
    · exact honward'

/-! ## A name of its own -/

theorem hasName_iff {name : Text} : fs.hasName name = true ↔ ∃ e ∈ fs.entries, e.1.names.head? = some name := by
  unfold hasName
  rw [List.any_eq_true]
  simp only [beq_iff_eq]

theorem at?_child {name : Text} (h : fs.hasName name = false) : fs.at? (folder.child name) = none := by
  have hroot : folder.child name ≠ .root := fun heq => nomatch congrArg Place.names heq
  rw [at?_of_ne_root fs hroot]
  refine List.lookup_eq_none_iff.mpr fun e he => ?_
  have hne : folder.child name ≠ e.1 := by
    intro heq
    have hname : fs.hasName name = true := hasName_iff.mpr ⟨e, he, heq ▸ rfl⟩
    rw [h] at hname
    cases hname
  exact bne_iff_ne.mpr hne

/-- The names that are tried for a temporary file. -/
def triedNames (fs : Files) : List Text := (List.range (fs.entries.length + 1)).map fun n => Text.cat ["tmp", .padded 8 n]

theorem nodup_triedNames (fs : Files) : fs.triedNames.Nodup := by
  refine List.Nodup.map (fun m n h => ?_) List.nodup_range
  have htail : Text.cat [.padded 8 m] = Text.cat [.padded 8 n] := List.append_cancel_left h
  have hpadded : Text.padded 8 m = Text.padded 8 n := by simpa [Text.cat] using htail
  exact Binary64.padded_injective hpadded

/-- More names are tried than there are, so one of them is free. -/
theorem exists_free (fs : Files) : ∃ name ∈ fs.triedNames, fs.hasName name = false := by
  refine Classical.byContradiction fun hnone => ?_
  have htaken : fs.triedNames ⊆ fs.entries.filterMap fun e => e.1.names.head? := by
    intro name hname
    have htaken : fs.hasName name = true := by
      refine Bool.not_eq_false _ ▸ fun hfree => hnone ⟨name, hname, hfree⟩
    obtain ⟨e, he, hhead⟩ := hasName_iff.mp htaken
    exact List.mem_filterMap.mpr ⟨e, he, hhead⟩
  have hlength := (List.subperm_of_subset fs.nodup_triedNames htaken).length_le
  have htried : fs.triedNames.length = fs.entries.length + 1 := by
    unfold triedNames
    rw [List.length_map, List.length_range]
  have hnames := List.length_filterMap_le (fun e : Place × Entry => e.1.names.head?) fs.entries
  omega

theorem freshName_mem (fs : Files) : fs.freshName ∈ fs.triedNames ∧ fs.hasName fs.freshName = false := by
  have hfresh : fs.freshName = (fs.triedNames.find? fun n => !fs.hasName n).getD "tmp" := rfl
  rw [hfresh]
  cases hfind : fs.triedNames.find? fun n => !fs.hasName n with
  | none =>
    obtain ⟨name, hname, hfree⟩ := fs.exists_free
    have htaken := List.find?_eq_none.mp hfind name hname
    rw [hfree] at htaken
    exact absurd rfl htaken
  | some name =>
    have hfree := List.find?_some hfind
    exact ⟨List.mem_of_find?_eq_some hfind, (Bool.not_eq_true' _).mp hfree⟩

theorem freshName_ascii (fs : Files) : Text.Ascii fs.freshName := by
  obtain ⟨n, -, hname⟩ := List.mem_map.mp fs.freshName_mem.1
  rw [← hname]
  refine Text.Ascii.cat ?_
  simp only [List.forall_mem_cons]
  refine ⟨by decide, ?_, nofun⟩
  exact (Text.Ascii.replicate (by decide) _).append fun c hc => Nat.lt_of_le_of_lt (Binary64.mem_ofNat hc).2 (by decide)

theorem freshName_ne_up (fs : Files) : fs.freshName ≠ (".." : Text) := by
  obtain ⟨n, -, hname⟩ := List.mem_map.mp fs.freshName_mem.1
  intro heq
  rw [heq] at hname
  cases hname

/-- Nothing is where a path with a name of its own leads. -/
theorem at?_of_opens (hopens : fs.Opens p.parent) (hplace : fs.place (p.withName fs.freshName) = .ok place) :
    fs.at? place = none := by
  obtain ⟨folder, hwalk, hat⟩ := hopens
  rw [place_withName hwalk hat (flaw_of_place hplace), fs.freshName_ascii.throughSystem] at hplace
  unfold onward at hplace
  rw [if_neg fs.freshName_ne_up] at hplace
  split at hplace
  · cases hplace
  · cases hplace
    exact at?_child fs.freshName_mem.2

theorem at?_of_freshName (hfolder : fs.isFolder p.parent = true) (hplace : fs.place (p.withName fs.freshName) = .ok place) :
    fs.at? place = none :=
  at?_of_opens (opens_of_isFolder hfolder) hplace

/-! ## Making folders -/

/-- Nothing was changed but that folders were made where nothing was, and none deeper than `depth`. -/
def Grown (depth : Nat) (fs fs' : Files) : Prop :=
  ∀ place, fs'.at? place = fs.at? place ∨ fs.at? place = none ∧ fs'.at? place = some .folder ∧ place.depth ≤ depth

section Grown
variable {depth depth' : Nat}

theorem Grown.refl (depth : Nat) (fs : Files) : Grown depth fs fs := fun _ => .inl rfl

theorem Grown.mono (h : Grown depth fs fs') (hdepth : depth ≤ depth') : Grown depth' fs fs' := by
  intro place
  rcases h place with heq | ⟨hnone, hfolder, hle⟩
  · exact .inl heq
  · exact .inr ⟨hnone, hfolder, Nat.le_trans hle hdepth⟩

theorem Grown.trans (h : Grown depth fs fs') (h' : Grown depth fs' fs'') : Grown depth fs fs'' := by
  intro place
  rcases h' place with heq | ⟨hnone, hfolder, hle⟩
  · rw [heq]
    exact h place
  · rcases h place with heq | ⟨-, hfolder', -⟩
    · exact .inr ⟨heq ▸ hnone, hfolder, hle⟩
    · rw [hnone] at hfolder'
      cases hfolder'

theorem Grown.at?_of_none (h : Grown depth fs fs') (hnone : fs'.at? place = none) : fs.at? place = none := by
  rcases h place with heq | ⟨hbefore, -⟩
  · rw [← heq, hnone]
  · exact hbefore

theorem Grown.file_iff (h : Grown depth fs fs') :
    fs'.at? place = some (.file content) ↔ fs.at? place = some (.file content) := by
  rcases h place with heq | ⟨hnone, hfolder, -⟩
  · rw [heq]
  · rw [hnone, hfolder]
    exact ⟨nofun, nofun⟩

/-- Every folder and every file is in a folder. -/
def IsTree (fs : Files) : Prop := ∀ place e, fs.at? place = some e → fs.at? place.around = some .folder

/-- A path that leads deeper than all folders that were made leads to none of them. It leads downwards from `start`. -/
theorem Grown.find_below {start : Place} {parts : List Text} {e : Entry} (h : Grown depth fs fs') (htree : fs.IsTree)
    (hdots : ∀ c ∈ parts, c ≠ "..") (hdepth : depth < start.depth + parts.length)
    (hwalk : fs.walk .root (p.parts.map Utf8.throughSystem) = fs.walk start parts)
    (hwalk' : fs'.walk .root (p.parts.map Utf8.throughSystem) = fs'.walk start parts)
    (hfind : fs'.find p = .ok e) : fs.find p = .ok e := by
  obtain ⟨place, hplace, hat⟩ := find_ok_iff.mp hfind
  have hleads : fs'.walk start parts = .ok place := hwalk'.symm.trans (walk_of_place hplace)
  have hlength := (depth_of_walk hleads).2 hdots
  have hbefore : fs.at? place = some e := by
    rcases h place with heq | ⟨-, -, hle⟩
    · rw [← heq, hat]
    · omega
  have hthere : fs.walk start parts = .ok place := walk_of_around hdots hleads fun _ => htree place e hbefore
  refine find_ok_iff.mpr ⟨place, ?_, hbefore⟩
  unfold Files.place
  rw [flaw_of_place hplace]
  exact hwalk.trans hthere

theorem find_of_nil (hnil : p.parts = []) (hflaw : p.flaw? = none) (fs : Files) : fs.find p = .ok .folder := by
  refine find_ok_iff.mpr ⟨.root, ?_, at?_root fs⟩
  unfold Files.place
  rw [hflaw, hnil]
  rfl

theorem Grown.find {e : Entry} (h : Grown depth fs fs') (htree : fs.IsTree) (hdescends : Descends p)
    (hdepth : p.parts = [] ∨ depth < p.parts.length) (hfind : fs'.find p = .ok e) : fs.find p = .ok e := by
  rcases hdepth with hnil | hlt
  · obtain ⟨place, hplace, -⟩ := find_ok_iff.mp hfind
    rw [find_of_nil hnil (flaw_of_place hplace)] at hfind ⊢
    exact hfind
  · refine h.find_below htree hdescends ?_ rfl rfl hfind
    have hroot : Place.root.depth = 0 := rfl
    rwa [hroot, List.length_map, Nat.zero_add]

theorem Grown.isFolder (h : Grown depth fs fs') (htree : fs.IsTree) (hdescends : Descends p)
    (hdepth : p.parts = [] ∨ depth < p.parts.length) (hfolder : fs'.isFolder p = true) : fs.isFolder p = true :=
  isFolder_iff.mpr (find_ok_iff.mp (h.find htree hdescends hdepth (find_ok_iff.mpr (isFolder_iff.mp hfolder))))

theorem makeFolder_ok (h : fs.makeFolder p = .ok fs') :
    ∃ place, fs.place p = .ok place ∧ Grown place.depth fs fs' ∧ fs'.isFolder p = true := by
  unfold makeFolder at h
  obtain ⟨place, hplace, h⟩ := of_bind_ok h
  cases hat : fs.at? place with
  | some e =>
    rw [hat] at h
    cases h
  | none =>
    rw [hat] at h
    cases h
    have hnot := not_folder_of_none hat
    have hfolder := at?_put fs .folder (ne_root_of_not_folder hnot)
    refine ⟨place, hplace, fun other => ?_, isFolder_iff.mpr ⟨place, (foldersIn_put hnot _).leads hplace, hfolder⟩⟩
    by_cases hother : other = place
    · rw [hother]
      exact .inr ⟨hat, hfolder, Nat.le_refl _⟩
    · exact .inl (at?_put_of_ne fs _ hother)

end Grown

theorem settle_error (p : Path) (e : FileError) (fs : Files) :
    ((settle p (.error e) : Step ω Files Unit) fs).state = fs ∧
      (((settle p (.error e) : Step ω Files Unit) fs).result = .ok () → fs.isFolder p = true) := by
  have hsettle : (settle p (.error e) : Step ω Files Unit) fs =
      if e = .missing ∨ !fs.isFolder p then ⟨[], fs, .error (.file e p.toText)⟩ else ⟨[], fs, .ok ()⟩ := by
    show (if e = .missing ∨ !fs.isFolder p then _ else _ : Step ω Files Unit) fs = _
    split <;> rfl
  rw [hsettle]
  split
  · exact ⟨rfl, nofun⟩
  · rename_i hnot
    exact ⟨rfl, fun _ => by simpa using (not_or.mp hnot).2⟩

theorem settle_grown {depth : Nat} (h : ∀ made, fs.makeFolder p = .ok made → Grown depth fs made) :
    Grown depth fs ((settle p (fs.makeFolder p) : Step ω Files Unit) fs).state := by
  cases hmade : fs.makeFolder p with
  | ok made => exact h made hmade
  | error e =>
    rw [(settle_error p e fs).1]
    exact .refl depth fs

theorem settle_opens (h : ((settle p (fs.makeFolder p) : Step ω Files Unit) fs).result = .ok ()) :
    ((settle p (fs.makeFolder p) : Step ω Files Unit) fs).state.Opens p := by
  cases hmade : fs.makeFolder p with
  | ok made =>
    obtain ⟨place, -, -, hfolder⟩ := makeFolder_ok hmade
    exact opens_of_isFolder hfolder
  | error e =>
    rw [hmade] at h
    rw [(settle_error p e fs).1]
    exact opens_of_isFolder ((settle_error p e fs).2 h)

section Above
variable {strokes : Nat} {c : Text} {above : List Text}

theorem makeAll_nil (strokes room : Nat) (fs : Files) :
    (makeAll strokes room [] : Step ω Files Unit) fs = ⟨[], fs, .ok ()⟩ := by
  cases room <;> rfl

/-- The folder can be made, or is there, or is in the way of something, but nothing is missing above it. -/
theorem makeAll_of_above (h : fs.makeFolder ⟨strokes, (c :: above).reverse⟩ ≠ .error .missing) (room : Nat) :
    (makeAll strokes (room + 1) (c :: above) : Step ω Files Unit) fs =
      settle ⟨strokes, (c :: above).reverse⟩ (fs.makeFolder ⟨strokes, (c :: above).reverse⟩) fs := by
  unfold makeAll
  rw [Step.get_bind]
  cases hmade : fs.makeFolder ⟨strokes, (c :: above).reverse⟩ with
  | ok made => rfl
  | error e =>
    cases e with
    | missing => exact absurd hmade h
    | _ => rfl

/-- The folder above is not there either, and this one is made once it is. -/
theorem makeAll_of_missing (h : fs.makeFolder ⟨strokes, (c :: above).reverse⟩ = .error .missing) (room : Nat) :
    (makeAll strokes (room + 1) (c :: above) : Step ω Files Unit) fs = (makeAll strokes room above >>= fun _ =>
      Step.get >>= fun made => settle ⟨strokes, (c :: above).reverse⟩
        (made.makeFolder ⟨strokes, (c :: above).reverse⟩)) fs := by
  show (Step.get >>= _ : Step ω Files Unit) fs = _
  rw [Step.get_bind, h]

/-- What is made for a folder is what is made for those above it, and then the folder. -/
theorem makeAll_cons_grown {depth room : Nat}
    (habove : Grown depth fs (makeAll strokes room above fs : Outcome ω Files Unit).state)
    (hfolder : ∀ fs' made, Grown depth fs fs' → fs'.makeFolder ⟨strokes, (c :: above).reverse⟩ = .ok made →
      Grown depth fs' made) : Grown depth fs (makeAll strokes (room + 1) (c :: above) fs : Outcome ω Files Unit).state := by
  by_cases hmissing : fs.makeFolder ⟨strokes, (c :: above).reverse⟩ = .error .missing
  · rw [makeAll_of_missing hmissing]
    cases hresult : (makeAll strokes room above fs : Outcome ω Files Unit).result with
    | error e =>
      rw [Step.bind_of_error hresult]
      exact habove
    | ok _ =>
      rw [Step.bind_of_ok hresult, Step.get_bind]
      exact habove.trans (settle_grown fun made => hfolder _ made habove)
  · rw [makeAll_of_above hmissing]
    exact settle_grown fun made => hfolder fs made (.refl depth fs)

end Above

theorem makeAll_grown (strokes room : Nat) (parts : List Text) (fs : Files) :
    Grown parts.length fs (makeAll strokes room parts fs : Outcome ω Files Unit).state := by
  induction parts generalizing room with
  | nil =>
    rw [makeAll_nil]
    exact .refl _ fs
  | cons c above ih =>
    cases room with
    | zero => exact .refl _ fs
    | succ room =>
      refine makeAll_cons_grown ((ih room).mono (Nat.le_succ _)) fun fs' made _ hmade => ?_
      obtain ⟨place, hplace, hgrown, -⟩ := makeFolder_ok hmade
      have hdepth := depth_of_place hplace
      rw [List.length_reverse] at hdepth
      exact hgrown.mono hdepth

theorem makeAll_opens (strokes room : Nat) (parts : List Text) (fs : Files)
    (h : (makeAll strokes room parts fs : Outcome ω Files Unit).result = .ok ()) :
    (makeAll strokes room parts fs : Outcome ω Files Unit).state.Opens ⟨strokes, parts.reverse⟩ := by
  cases parts with
  | nil =>
    rw [makeAll_nil]
    exact ⟨.root, rfl, at?_root fs⟩
  | cons c above =>
    cases room with
    | zero => cases h
    | succ room =>
      by_cases hmissing : fs.makeFolder ⟨strokes, (c :: above).reverse⟩ = .error .missing
      · rw [makeAll_of_missing hmissing] at h ⊢
        cases habove : (makeAll strokes room above fs : Outcome ω Files Unit).result with
        | error e =>
          rw [Step.bind_of_error habove] at h
          cases h
        | ok _ =>
          rw [Step.bind_of_ok habove, Step.get_bind] at h ⊢
          exact settle_opens h
      · rw [makeAll_of_above hmissing] at h ⊢
        exact settle_opens h

theorem path_reversed (p : Path) : (⟨p.strokes, p.parts.reverse.reverse⟩ : Path) = p := by rw [List.reverse_reverse]

/-- However making folders ends, nothing else is changed, and the folder is there if it ends well. -/
def Makes (p : Path) (fs : Files) (o : Outcome ω Files Unit) : Prop :=
  Grown p.parts.length fs o.state ∧ (o.result = .ok () → o.state.Opens p)

theorem makeFolders_makes (p : Path) (fs : Files) : Makes p fs (makeFolders p fs : Outcome ω Files Unit) := by
  refine ⟨?_, fun h => ?_⟩
  · have hgrown := @makeAll_grown ω p.strokes deepest p.parts.reverse fs
    rwa [List.length_reverse] at hgrown
  · have hopens := @makeAll_opens ω p.strokes deepest p.parts.reverse fs h
    rwa [path_reversed] at hopens

theorem makes_of_makeFolders {reports : List ω} (h : (makeFolders p : Step ω Files Unit) fs = ⟨reports, fs', .ok ()⟩) :
    Grown p.parts.length fs fs' ∧ fs'.Opens p := by
  have hmakes := @makeFolders_makes ω p fs
  rw [h] at hmakes
  exact ⟨hmakes.1, hmakes.2 rfl⟩

/-- Making a folder failed otherwise than by what is missing above it, so nothing is made. -/
theorem makeFolders_of_error {e : FileError} (hparts : p.parts ≠ []) (hmade : fs.makeFolder p = .error e)
    (habove : e ≠ .missing) : (makeFolders p : Step ω Files Unit) fs = settle p (.error e) fs := by
  unfold makeFolders
  cases hreversed : p.parts.reverse with
  | nil => exact absurd (List.reverse_eq_nil_iff.mp hreversed) hparts
  | cons c above =>
    have hpath : (⟨p.strokes, (c :: above).reverse⟩ : Path) = p := by rw [← hreversed, path_reversed]
    have hmissing : fs.makeFolder ⟨p.strokes, (c :: above).reverse⟩ ≠ .error .missing := by
      rw [hpath, hmade]
      exact fun heq => habove (Except.error.inj heq)
    refine (makeAll_of_above hmissing (deepest - 1)).trans ?_
    rw [hpath, hmade]

theorem makeFolders_of_folder (h : fs.isFolder p = true) : (makeFolders p : Step ω Files Unit) fs = ⟨[], fs, .ok ()⟩ := by
  obtain ⟨place, hplace, hat⟩ := isFolder_iff.mp h
  by_cases hparts : p.parts = []
  · unfold makeFolders
    rw [hparts]
    rfl
  · have hmade : fs.makeFolder p = .error .occupied := by
      unfold makeFolder
      simp only [hplace, bind, Except.bind, hat]
    rw [makeFolders_of_error hparts hmade nofun]
    show (if FileError.occupied = .missing ∨ !fs.isFolder p then _ else _ : Step ω Files Unit) fs = _
    rw [h]
    rfl

/-! ## Moving -/

/-- What a move onto a path that leads to no folder leaves behind. -/
theorem move_eq (hsource : fs.place p = .ok source) (hat : fs.at? source = some (.file content))
    (htarget : fs.place q = .ok target) (hfolder : fs.at? target ≠ some .folder) :
    fs.move p q = .ok ((fs.erase source).put target (.file content)) := by
  have hdestination : fs.destination p q = .ok q := if_neg fun h => by
    obtain ⟨target', htarget', hat'⟩ := isFolder_iff.mp h
    obtain rfl : target = target' := Except.ok.inj (htarget.symm.trans htarget')
    exact hfolder hat'
  have hread : fs.read p = .ok content := read_ok_iff.mpr ⟨source, hsource, hat⟩
  have hremove : fs.remove p = .ok (fs.erase source) := remove_ok_iff.mpr ⟨source, content, hsource, hat, rfl⟩
  have hnot := not_folder_of_file hat
  have hwrite : (fs.erase source).write q content = .ok ((fs.erase source).put target (.file content)) := by
    refine write_ok_iff.mpr ⟨target, (foldersIn_erase hnot).leads htarget, fun h => ?_, rfl⟩
    exact hfolder (foldersIn_of_erase hnot target h)
  unfold move
  rw [hdestination, hread, hremove]
  exact hwrite

end LinkMeter.Files
