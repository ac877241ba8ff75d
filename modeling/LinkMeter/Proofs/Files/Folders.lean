import LinkMeter.Proofs.Files.Placing

/-! # Folders made for a file

The folders above a file are made before it is written, and they stay if it is not written after all. That does not show
where no component that comes after a missing folder leads back up or has too long a name: either all of the folders are
made or none, and the path leads to something afterwards only if it did before. -/

namespace LinkMeter.Files
variable {fs fs' : Files} {start next place base : Place} {p : Path} {parts above below : List Text} {c : Text}
  {strokes : Nat} {e : FileError} {ω : Type}

/-! ## Ways that fail -/

theorem enterWithin_error {depth : Nat} (h : fs.enterWithin depth place = .error e) : e = .notFolder ∨ e = .missing := by
  induction depth generalizing place with
  | zero => cases h
  | succ depth ih =>
    unfold enterWithin at h
    cases hat : fs.at? place with
    | none =>
      rw [hat] at h
      dsimp only at h
      cases haround : fs.enterWithin depth place.around with
      | error e' =>
        rw [haround] at h
        cases h
        exact ih haround
      | ok _ =>
        rw [haround] at h
        cases h
        exact .inr rfl
    | some entry =>
      rw [hat] at h
      cases entry with
      | folder => cases h
      | file content =>
        cases h
        exact .inl rfl

/-- A walk over names that are not too long fails only where a folder is missing or where something else is in its place. -/
theorem walk_error (hshort : ∀ c ∈ parts, (Utf8.toSystem c).length ≤ longestName) (h : fs.walk start parts = .error e) :
    e = .notFolder ∨ e = .missing := by
  induction parts generalizing start with
  | nil => cases h
  | cons c rest ih =>
    have hrest := fun {start} => @ih start fun d hd => hshort d (List.mem_cons_of_mem c hd)
    have hfits : ¬ longestName < (Utf8.toSystem c).length := Nat.not_lt.mpr (hshort c List.mem_cons_self)
    have honward : fs.onward start c rest = .error e → e = .notFolder ∨ e = .missing := by
      intro honward
      unfold onward at honward
      rw [if_neg hfits] at honward
      split at honward
      · exact hrest honward
      · exact hrest honward
    rw [walk_cons] at h
    split at h
    · cases henter : fs.enter start with
      | error e' =>
        rw [henter] at h
        cases h
        exact enterWithin_error henter
      | ok _ =>
        rw [henter] at h
        exact honward h
    · exact honward h

theorem find_of_flaw (h : p.flaw? = some e) (fs : Files) : fs.find p = .error e := by
  unfold find place
  rw [h]
  rfl

/-! ## How far a path leads -/

/-- The component neither leads back up nor has too long a name. -/
def IsPlain (c : Text) : Prop :=
  Utf8.throughSystem c ≠ ".." ∧ (Utf8.toSystem (Utf8.throughSystem c)).length ≤ longestName

instance (c : Text) : Decidable (IsPlain c) := inferInstanceAs (Decidable (_ ∧ _))

theorem walk_of_plain (hfolder : fs.at? start = some .folder) (hplain : IsPlain c) (rest : List Text) :
    fs.walk start (Utf8.throughSystem c :: rest) = fs.walk (start.child (Utf8.throughSystem c)) rest := by
  rw [walk_of_folder hfolder]
  unfold onward
  rw [if_neg hplain.1, if_neg (Nat.not_lt.mpr hplain.2)]

theorem around_child (place : Place) (c : Text) : (place.child c).around = place := Place.ext_names rfl

theorem enter_of_file {content : Bytes} (h : fs.at? place = some (.file content)) : fs.enter place = .error .notFolder := by
  unfold enter
  cases hdepth : place.depth with
  | zero =>
    have hroot : place = .root := Place.ext_names (List.length_eq_zero_iff.mp (place.depth_eq.symm.trans hdepth))
    rw [hroot, at?_root] at h
    cases h
  | succ depth =>
    unfold enterWithin
    rw [h]

/-- Where nothing is, the folder around decides. -/
theorem enter_child (h : fs.at? (place.child c) = none) :
    fs.enter (place.child c) = fs.enter place >>= fun _ => .error .missing := by
  show fs.enterWithin (place.depth + 1) (place.child c) = _
  unfold enterWithin
  rw [h, around_child]
  rfl

/-- Where a folder cannot be gone into, every walk on from there fails for the same reason. -/
theorem walk_of_enter_error (htree : fs.IsTree) (h : fs.enter start = .error e) (c : Text) (rest : List Text) :
    fs.walk start (c :: rest) = .error e := by
  induction rest generalizing start c with
  | nil =>
    rw [walk_cons, if_pos (by simp), h]
    rfl
  | cons d rest ih =>
    rw [walk_cons]
    split
    · rw [h]
      rfl
    · rename_i hneeded
      simp only [Bool.or_eq_true, decide_eq_true_eq, not_or] at hneeded
      obtain ⟨⟨hup, hlong⟩, -⟩ := hneeded
      -- Nothing is in a folder that is not there.
      have hnone : fs.at? (start.child c) = none := by
        cases hat : fs.at? (start.child c) with
        | none => rfl
        | some entry =>
          have hstart := htree (start.child c) entry hat
          rw [around_child] at hstart
          cases (enter_of_folder hstart).symm.trans h
      unfold onward
      rw [if_neg hup, if_neg hlong]
      refine ih ?_ d
      rw [enter_child hnone, h]
      rfl

/-- The components lead to a folder in which the component `c` is missing. -/
structure Breaks (fs : Files) (start : Place) (above : List Text) (c : Text) (base : Place) : Prop where
  leads : fs.walk start (above.map Utf8.throughSystem) = .ok base
  folder : fs.at? base = some .folder
  plain : IsPlain c
  missing : fs.at? (base.child (Utf8.throughSystem c)) = none

/-- How far components lead from a folder. -/
inductive Way (fs : Files) (start : Place) (parts : List Text) : Prop where
  | leads {place : Place} {entry : Entry} (hwalk : fs.walk start (parts.map Utf8.throughSystem) = .ok place)
      (hat : fs.at? place = some entry)
  | barred {e : FileError} (hwalk : fs.walk start (parts.map Utf8.throughSystem) = .error e) (he : e ≠ .missing)
  | breaks {above : List Text} {c : Text} {below : List Text} {base : Place} (hparts : parts = above ++ c :: below)
      (hbreaks : fs.Breaks start above c base)

theorem Way.cons (h : Way fs next parts) (hnext : ∀ rest, fs.walk start (Utf8.throughSystem c :: rest) = fs.walk next rest) :
    Way fs start (c :: parts) := by
  cases h with
  | leads hwalk hat => exact .leads ((hnext _).trans hwalk) hat
  | barred hwalk he => exact .barred ((hnext _).trans hwalk) he
  | @breaks above d below base hparts hbreaks =>
    have hfirst : c :: parts = (c :: above) ++ d :: below := congrArg (c :: ·) hparts
    have hbase : fs.walk start ((c :: above).map Utf8.throughSystem) = .ok base := (hnext _).trans hbreaks.leads
    exact .breaks hfirst ⟨hbase, hbreaks.folder, hbreaks.plain, hbreaks.missing⟩

theorem way (htree : fs.IsTree) (hstart : fs.at? start = some .folder) (parts : List Text) : Way fs start parts := by
  induction parts generalizing start with
  | nil => exact .leads rfl hstart
  | cons c rest ih =>
    have honward := walk_of_folder hstart (Utf8.throughSystem c)
    unfold onward at honward
    by_cases hup : Utf8.throughSystem c = ".."
    · simp only [if_pos hup] at honward
      exact (ih (htree start _ hstart)).cons honward
    · simp only [if_neg hup] at honward
      by_cases hlong : longestName < (Utf8.toSystem (Utf8.throughSystem c)).length
      · simp only [if_pos hlong] at honward
        exact .barred (honward _) nofun
      · have hplain : IsPlain c := ⟨hup, Nat.not_lt.mp hlong⟩
        cases hat : fs.at? (start.child (Utf8.throughSystem c)) with
        | none => exact .breaks (List.nil_append _).symm ⟨rfl, hstart, hplain, hat⟩
        | some entry =>
          refine Way.cons ?_ (walk_of_plain hstart hplain)
          cases entry with
          | folder => exact ih hat
          | file content =>
            -- A file can be the end of a path, but nothing comes after it.
            cases rest with
            | nil => exact .leads rfl hat
            | cons d rest => exact .barred (walk_of_enter_error htree (enter_of_file hat) _ _) nofun

/-- The components lead to nothing, be it because a folder on the way is missing. -/
def LeadsNowhere (fs : Files) (parts : List Text) : Prop :=
  fs.walk .root (parts.map Utf8.throughSystem) = .error .missing ∨
    ∃ place, fs.walk .root (parts.map Utf8.throughSystem) = .ok place ∧ fs.at? place = none

theorem LeadsNowhere.not_found (h : fs.LeadsNowhere p.parts) (entry : Entry) : fs.find p ≠ .ok entry := by
  intro hfind
  obtain ⟨place, hplace, hat⟩ := find_ok_iff.mp hfind
  rcases h with hwalk | ⟨place', hwalk, hnone⟩
  · cases (walk_of_place hplace).symm.trans hwalk
  · obtain rfl : place = place' := Except.ok.inj ((walk_of_place hplace).symm.trans hwalk)
    cases hat.symm.trans hnone

/-- No component that comes after a missing folder leads back up or has too long a name. -/
def Clear (fs : Files) (p : Path) : Prop :=
  ∀ above c below, p.parts = above ++ c :: below → fs.LeadsNowhere above → IsPlain c

/-- So it is with a path of which no component leads back up or has too long a name. -/
theorem clear_of_plain (h : ∀ c ∈ p.parts, IsPlain c) (fs : Files) : fs.Clear p :=
  fun _ c _ hparts _ => h c (hparts ▸ List.mem_append_right _ List.mem_cons_self)

/-! ## Below a folder -/

/-- The first components lead to a folder, and the others from there downwards by names that are not too long. -/
structure Stem (fs : Files) (above : List Text) (base : Place) (below : List Text) : Prop where
  leads : fs.walk .root (above.map Utf8.throughSystem) = .ok base
  folder : fs.at? base = some .folder
  plain : ∀ c ∈ below, IsPlain c

section Stem
variable {depth : Nat}

theorem Breaks.leadsNowhere (htree : fs.IsTree) (h : fs.Breaks .root above c base) (below : List Text) :
    fs.LeadsNowhere (above ++ c :: below) := by
  have hchild : fs.walk .root ((above ++ c :: below).map Utf8.throughSystem) =
      fs.walk (base.child (Utf8.throughSystem c)) (below.map Utf8.throughSystem) := by
    rw [List.map_append, walk_append _ h.leads h.folder, List.map_cons, walk_of_plain h.folder h.plain]
  unfold LeadsNowhere
  rw [hchild]
  cases below with
  | nil => exact .inr ⟨_, rfl, h.missing⟩
  | cons d below =>
    have henter : fs.enter (base.child (Utf8.throughSystem c)) = .error .missing := by
      rw [enter_child h.missing, enter_of_folder h.folder]
      rfl
    exact .inl (walk_of_enter_error htree henter _ _)

theorem Breaks.stem (htree : fs.IsTree) (h : fs.Breaks .root above c base) (hclear : fs.Clear p)
    (hparts : p.parts = above ++ c :: below) : Stem fs above base (c :: below) where
  leads := h.leads
  folder := h.folder
  plain := by
    intro d hd
    rcases List.mem_cons.mp hd with rfl | hd
    · exact h.plain
    · obtain ⟨first, last, rfl⟩ := List.append_of_mem hd
      refine hclear (above ++ c :: first) d last ?_ (h.leadsNowhere htree first)
      rw [hparts, List.append_assoc, List.cons_append]

theorem Stem.walk (h : Stem fs above base below) (parts : List Text) :
    fs.walk .root ((above ++ parts).map Utf8.throughSystem) = fs.walk base (parts.map Utf8.throughSystem) := by
  rw [List.map_append, walk_append _ h.leads h.folder]

theorem Stem.init {last : List Text} (h : Stem fs above base (below ++ last)) : Stem fs above base below :=
  ⟨h.leads, h.folder, fun c hc => h.plain c (List.mem_append_left last hc)⟩

theorem Grown.foldersIn (h : Grown depth fs fs') : FoldersIn fs fs' := by
  intro place hplace
  rcases h place with heq | ⟨hnone, -⟩
  · rw [heq, hplace]
  · rw [hnone] at hplace
    cases hplace

theorem Stem.grown (h : Stem fs above base below) (hgrown : Grown depth fs fs') : Stem fs' above base below :=
  ⟨hgrown.foldersIn.walk h.leads, hgrown.foldersIn base h.folder, h.plain⟩

theorem Stem.descends (h : Stem fs above base below) : ∀ c ∈ below.map Utf8.throughSystem, c ≠ ".." :=
  List.forall_mem_map.mpr fun c hc => (h.plain c hc).1

theorem Stem.depth_eq (h : Stem fs above base below) (hwalk : fs.walk base (below.map Utf8.throughSystem) = .ok place) :
    place.depth = base.depth + below.length := by
  rw [(depth_of_walk hwalk).2 h.descends, List.length_map]

theorem Stem.find_error (h : Stem fs above base below) (hflaw : (⟨strokes, above ++ below⟩ : Path).flaw? = none)
    (herror : fs.find ⟨strokes, above ++ below⟩ = .error e) : e = .notFolder ∨ e = .missing := by
  unfold find place at herror
  rw [hflaw] at herror
  dsimp only at herror
  rw [h.walk] at herror
  cases hwalk : fs.walk base (below.map Utf8.throughSystem) with
  | error e' =>
    rw [hwalk] at herror
    cases herror
    exact walk_error (List.forall_mem_map.mpr fun c hc => (h.plain c hc).2) hwalk
  | ok place =>
    rw [hwalk] at herror
    simp only [bind, Except.bind] at herror
    cases hat : fs.at? place with
    | none =>
      rw [hat] at herror
      cases herror
      exact .inr rfl
    | some entry =>
      rw [hat] at herror
      cases herror

/-- Where nothing is found, whether that is an answer depends on the path alone. -/
theorem Stem.exists_of_not_found (h : Stem fs above base below) (h' : Stem fs' above base below)
    (hnot : ∀ entry, fs.find ⟨strokes, above ++ below⟩ ≠ .ok entry)
    (hnot' : ∀ entry, fs'.find ⟨strokes, above ++ below⟩ ≠ .ok entry) :
    fs'.exists? ⟨strokes, above ++ below⟩ = fs.exists? ⟨strokes, above ++ below⟩ ∧
      fs.exists? ⟨strokes, above ++ below⟩ ≠ .ok true := by
  have hfails : ∀ fs : Files, (∀ entry, fs.find ⟨strokes, above ++ below⟩ ≠ .ok entry) →
      ∃ e, fs.find ⟨strokes, above ++ below⟩ = .error e := by
    intro fs hnot
    cases hfind : fs.find ⟨strokes, above ++ below⟩ with
    | error e => exact ⟨e, rfl⟩
    | ok entry => exact absurd hfind (hnot entry)
  obtain ⟨e, he⟩ := hfails fs hnot
  obtain ⟨e', he'⟩ := hfails fs' hnot'
  unfold exists?
  rw [he, he']
  cases hflaw : (⟨strokes, above ++ below⟩ : Path).flaw? with
  | some flaw =>
    obtain rfl : flaw = e := Except.error.inj ((find_of_flaw hflaw fs).symm.trans he)
    obtain rfl : flaw = e' := Except.error.inj ((find_of_flaw hflaw fs').symm.trans he')
    refine ⟨rfl, ?_⟩
    cases flaw <;> exact nofun
  | none =>
    rcases h.find_error hflaw he with rfl | rfl
    · rcases h'.find_error hflaw he' with rfl | rfl <;> exact ⟨rfl, nofun⟩
    · rcases h'.find_error hflaw he' with rfl | rfl <;> exact ⟨rfl, nofun⟩

/-- What lies deeper than all folders that were made was there before. -/
theorem Stem.find_of_grown {entry : Entry} (htree : fs.IsTree) (h : Stem fs above base below) (hgrown : Grown depth fs fs')
    (hdepth : depth < base.depth + below.length) (hfind : fs'.find ⟨strokes, above ++ below⟩ = .ok entry) :
    fs.find ⟨strokes, above ++ below⟩ = .ok entry := by
  refine hgrown.find_below htree h.descends ?_ (h.walk below) ((h.grown hgrown).walk below) hfind
  rwa [List.length_map]

end Stem

/-! ## Making folders -/

theorem flaw_ne_missing (p : Path) : p.flaw? ≠ some .missing := by
  unfold Path.flaw?
  dsimp only
  split
  · exact nofun
  · split
    · exact nofun
    · split <;> exact nofun

theorem makeFolder_of_flaw (h : p.flaw? = some e) (fs : Files) : fs.makeFolder p = .error e := by
  unfold makeFolder place
  rw [h]
  rfl

/-- Where the path leads to something already, or something is in the way, nothing is missing above its end. -/
theorem makeFolder_of_walk (h : (∃ place entry, fs.walk .root (p.parts.map Utf8.throughSystem) = .ok place ∧
    fs.at? place = some entry) ∨ ∃ e, fs.walk .root (p.parts.map Utf8.throughSystem) = .error e ∧ e ≠ .missing) :
    ∃ e, fs.makeFolder p = .error e ∧ e ≠ .missing := by
  cases hflaw : p.flaw? with
  | some e => exact ⟨e, makeFolder_of_flaw hflaw fs, fun heq => flaw_ne_missing p (heq ▸ hflaw)⟩
  | none =>
    unfold makeFolder place
    rw [hflaw]
    rcases h with ⟨place, entry, hwalk, hat⟩ | ⟨e, hwalk, he⟩
    · simp only [hwalk, hat, bind, Except.bind]
      exact ⟨_, rfl, nofun⟩
    · simp only [hwalk, bind, Except.bind]
      exact ⟨e, rfl, he⟩

theorem makeAll_of_error (hmade : fs.makeFolder ⟨strokes, parts.reverse⟩ = .error e) (he : e ≠ .missing) (room : Nat) :
    (makeAll strokes room parts fs : Outcome ω Files Unit).state = fs := by
  cases parts with
  | nil => rw [makeAll_nil]
  | cons c above =>
    cases room with
    | zero => rfl
    | succ room =>
      have hmissing : fs.makeFolder ⟨strokes, (c :: above).reverse⟩ ≠ .error .missing := by
        rw [hmade]
        exact fun heq => he (Except.error.inj heq)
      rw [makeAll_of_above hmissing, hmade]
      exact (settle_error _ e fs).1

theorem makeAll_of_opens (h : fs.Opens ⟨strokes, parts.reverse⟩) (room : Nat) :
    (makeAll strokes room parts fs : Outcome ω Files Unit).state = fs := by
  obtain ⟨folder, hwalk, hat⟩ := h
  obtain ⟨e, hmade, he⟩ := makeFolder_of_walk (.inl ⟨folder, _, hwalk, hat⟩)
  exact makeAll_of_error hmade he room

section Stem
variable {ups : List Text}

theorem Stem.opens (h : Stem fs above base below) (strokes : Nat) : fs.Opens ⟨strokes, above.reverse.reverse⟩ := by
  rw [List.reverse_reverse]
  exact ⟨base, h.leads, h.folder⟩

theorem reverse_cons_append (c : Text) (ups above : List Text) :
    (c :: (ups ++ above.reverse)).reverse = above ++ (ups.reverse ++ [c]) := by
  rw [List.reverse_cons, List.reverse_append, List.reverse_reverse, List.append_assoc]

/-- None of the folders that are made below another one lies deeper than the end of the path. -/
theorem Stem.makeAll_grown (h : Stem fs above base ups.reverse) (strokes room : Nat) :
    Grown (base.depth + ups.length) fs (makeAll strokes room (ups ++ above.reverse) fs : Outcome ω Files Unit).state := by
  induction ups generalizing room with
  | nil =>
    rw [List.nil_append, makeAll_of_opens (h.opens strokes)]
    exact .refl _ fs
  | cons c ups ih =>
    cases room with
    | zero => exact .refl _ fs
    | succ room =>
      rw [List.reverse_cons] at h
      rw [List.cons_append]
      refine makeAll_cons_grown ((ih h.init room).mono (Nat.le_succ _)) fun fs' made hgrown hmade => ?_
      rw [reverse_cons_append] at hmade
      obtain ⟨place, hplace, hmore, -⟩ := makeFolder_ok hmade
      have hstem := h.grown hgrown
      have hdepth := hstem.depth_eq ((hstem.walk _).symm.trans (walk_of_place hplace))
      rw [List.length_append, List.length_reverse] at hdepth
      exact hdepth ▸ hmore

/-- What is missing above the folder was made, so nothing is in the way of making it. -/
theorem Stem.makeFolder_of_grown (htree : fs.IsTree) (h : Stem fs above base (below ++ [c]))
    (hmissing : fs.makeFolder ⟨strokes, above ++ (below ++ [c])⟩ = .error .missing)
    (hgrown : Grown (base.depth + below.length) fs fs') (hopens : fs'.Opens ⟨strokes, above ++ below⟩) :
    ∃ made, fs'.makeFolder ⟨strokes, above ++ (below ++ [c])⟩ = .ok made := by
  have hstem := h.grown hgrown
  obtain ⟨folder, hwalk, hat⟩ := hopens
  rw [hstem.walk] at hwalk
  have hflaw : (⟨strokes, above ++ (below ++ [c])⟩ : Path).flaw? = none := by
    cases hflaw : (⟨strokes, above ++ (below ++ [c])⟩ : Path).flaw? with
    | none => rfl
    | some e =>
      obtain rfl : e = .missing := Except.error.inj ((makeFolder_of_flaw hflaw fs).symm.trans hmissing)
      exact absurd hflaw (flaw_ne_missing _)
  have hplain : IsPlain c := h.plain c (List.mem_append_right below List.mem_cons_self)
  have hwhole : fs'.walk base ((below ++ [c]).map Utf8.throughSystem) = .ok (folder.child (Utf8.throughSystem c)) := by
    rw [List.map_append, walk_append _ hwalk hat]
    exact walk_of_plain hat hplain []
  have hnone : fs'.at? (folder.child (Utf8.throughSystem c)) = none := by
    rcases hgrown (folder.child (Utf8.throughSystem c)) with heq | ⟨-, -, hle⟩
    · rw [heq]
      cases hbefore : fs.at? (folder.child (Utf8.throughSystem c)) with
      | none => rfl
      | some entry =>
        have hthere := walk_of_around h.descends hwhole fun _ => htree _ _ hbefore
        have hwalk' := (h.walk (below ++ [c])).trans hthere
        obtain ⟨e, hmade, he⟩ :=
          makeFolder_of_walk (p := ⟨strokes, above ++ (below ++ [c])⟩) (.inl ⟨_, entry, hwalk', hbefore⟩)
        exact absurd (Except.error.inj (hmade.symm.trans hmissing)) he
    · have hdepth := hstem.depth_eq hwhole
      rw [List.length_append, List.length_singleton] at hdepth
      omega
  refine ⟨fs'.put (folder.child (Utf8.throughSystem c)) .folder, ?_⟩
  unfold makeFolder place
  rw [hflaw]
  simp only [hstem.walk, hwhole, hnone, bind, Except.bind]

/-- Either all folders below another one are made or none. -/
theorem Stem.makeAll_fails (htree : fs.IsTree) (h : Stem fs above base ups.reverse) {room : Nat} {f : Fault}
    (hfails : (makeAll strokes room (ups ++ above.reverse) fs : Outcome ω Files Unit).result = .error f) :
    (makeAll strokes room (ups ++ above.reverse) fs : Outcome ω Files Unit).state = fs := by
  induction ups generalizing room f with
  | nil => rw [List.nil_append, makeAll_of_opens (h.opens strokes)]
  | cons c ups ih =>
    cases room with
    | zero => rfl
    | succ room =>
      rw [List.reverse_cons] at h
      by_cases hmissing : fs.makeFolder ⟨strokes, (c :: (ups ++ above.reverse)).reverse⟩ = .error .missing
      · rw [List.cons_append, makeAll_of_missing hmissing] at hfails ⊢
        cases habove : (makeAll strokes room (ups ++ above.reverse) fs : Outcome ω Files Unit).result with
        | error f' =>
          rw [Step.bind_of_error habove]
          exact ih h.init habove
        | ok _ =>
          -- With the folders above there, nothing is in the way of this one, so it is made.
          have hgrown := @Stem.makeAll_grown _ _ _ ω _ h.init strokes room
          have hopens := makeAll_opens strokes room (ups ++ above.reverse) fs habove
          rw [List.reverse_append, List.reverse_reverse] at hopens
          rw [reverse_cons_append] at hmissing
          rw [← List.length_reverse] at hgrown
          obtain ⟨made, hmade⟩ := h.makeFolder_of_grown htree hmissing hgrown hopens
          rw [Step.bind_of_ok habove, Step.get_bind, reverse_cons_append, hmade] at hfails
          cases hfails
      · rw [List.cons_append, makeAll_of_above hmissing] at hfails ⊢
        cases hmade : fs.makeFolder ⟨strokes, (c :: (ups ++ above.reverse)).reverse⟩ with
        | ok made =>
          rw [hmade] at hfails
          cases hfails
        | error e => exact (settle_error _ e fs).1

end Stem

/-- The folders above a path, from the innermost one. -/
theorem makeFolders_eq (p : Path) : (makeFolders p : Step ω Files Unit) = makeAll p.strokes deepest p.parts.reverse := rfl

/-- Where there is a folder, nothing is made. -/
theorem makeFolders_of_opens (h : fs.Opens p) : (makeFolders p fs : Outcome ω Files Unit).state = fs := by
  rw [← path_reversed p] at h
  exact makeAll_of_opens h deepest

theorem flaw_of_makeFolders (h : (makeFolders p fs : Outcome ω Files Unit).result = .ok ()) (hparts : p.parts ≠ []) :
    p.flaw? = none := by
  cases hflaw : p.flaw? with
  | none => rfl
  | some e =>
    have hmissing : e ≠ .missing := fun heq => flaw_ne_missing p (heq ▸ hflaw)
    rw [makeFolders_of_error hparts (makeFolder_of_flaw hflaw fs) hmissing] at h
    obtain ⟨place, hplace, -⟩ := isFolder_iff.mp ((settle_error p e fs).2 h)
    exact hflaw.symm.trans (flaw_of_place hplace)

/-- Folders that were made are there, so making them again changes nothing. -/
theorem makeFolders_again (h : (makeFolders p fs : Outcome ω Files Unit).result = .ok ()) :
    (makeFolders p (makeFolders p fs : Outcome ω Files Unit).state : Outcome ω Files Unit).result = .ok () ∧
      (makeFolders p (makeFolders p fs : Outcome ω Files Unit).state : Outcome ω Files Unit).state =
        (makeFolders p fs : Outcome ω Files Unit).state := by
  have hopens := (makeFolders_makes p fs).2 h
  refine ⟨?_, makeFolders_of_opens hopens⟩
  by_cases hparts : p.parts = []
  · rw [makeFolders_eq, hparts, List.reverse_nil, makeAll_nil]
  · obtain ⟨folder, hwalk, hat⟩ := hopens
    have hplace : (makeFolders p fs : Outcome ω Files Unit).state.place p = .ok folder := by
      unfold place
      rw [flaw_of_makeFolders h hparts]
      exact hwalk
    rw [makeFolders_of_folder (isFolder_iff.mpr ⟨folder, hplace, hat⟩)]

/-- Either the folders above a path are not made, or they are all made and the path leads to nothing, neither before nor
afterwards. -/
theorem makeFolders_above (htree : fs.IsTree) (hclear : fs.Clear p) :
    (makeFolders p.parent fs : Outcome ω Files Unit).state = fs ∨
      (makeFolders p.parent fs : Outcome ω Files Unit).result = .ok () ∧
        (makeFolders p.parent fs : Outcome ω Files Unit).state.exists? p = fs.exists? p ∧ fs.exists? p ≠ .ok true := by
  have hunmade : ∀ e, fs.makeFolder p.parent = .error e → e ≠ .missing →
      (makeFolders p.parent fs : Outcome ω Files Unit).state = fs := by
    intro e hmade he
    rw [← path_reversed p.parent] at hmade
    exact makeAll_of_error hmade he deepest
  cases way htree (at?_root fs) p.parent.parts with
  | leads hwalk hat =>
    obtain ⟨e, hmade, he⟩ := makeFolder_of_walk (.inl ⟨_, _, hwalk, hat⟩)
    exact .inl (hunmade e hmade he)
  | barred hwalk he =>
    obtain ⟨e, hmade, he⟩ := makeFolder_of_walk (.inr ⟨_, hwalk, he⟩)
    exact .inl (hunmade e hmade he)
  | @breaks above c below base hparts hbreaks =>
    obtain ⟨strokes, parts⟩ := p
    obtain ⟨last, rfl⟩ : ∃ last, parts = above ++ (c :: below ++ [last]) := by
      have hne : parts ≠ [] := by
        rintro rfl
        cases above <;> cases hparts
      refine ⟨parts.getLast hne, ?_⟩
      rw [← List.append_assoc, ← hparts]
      exact (List.dropLast_append_getLast hne).symm
    have hstem : Stem fs above base (c :: below ++ [last]) := hbreaks.stem htree hclear rfl
    have hinit : Stem fs above base (c :: below).reverse.reverse := by
      rw [List.reverse_reverse]
      exact hstem.init
    have hmakes : (makeFolders (⟨strokes, above ++ (c :: below ++ [last])⟩ : Path).parent : Step ω Files Unit) =
        makeAll strokes deepest ((c :: below).reverse ++ above.reverse) := by
      rw [makeFolders_eq, hparts, List.reverse_append]
      rfl
    rw [hmakes]
    cases hresult : (makeAll strokes deepest ((c :: below).reverse ++ above.reverse) fs : Outcome ω Files Unit).result with
    | error f => exact .inl (hinit.makeAll_fails htree hresult)
    | ok _ =>
      have hgrown := @Stem.makeAll_grown _ _ _ ω _ hinit strokes deepest
      have hnot : ∀ entry, fs.find ⟨strokes, above ++ (c :: below ++ [last])⟩ ≠ .ok entry :=
        (hbreaks.leadsNowhere htree (below ++ [last])).not_found
      refine .inr ⟨rfl, hstem.exists_of_not_found (hstem.grown hgrown) hnot fun entry hfind => ?_⟩
      refine hnot entry (hstem.find_of_grown htree hgrown ?_ hfind)
      rw [List.length_reverse, List.length_append, List.length_singleton]
      omega

end LinkMeter.Files
