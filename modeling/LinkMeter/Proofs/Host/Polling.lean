import LinkMeter.Proofs.Host.Connectivity

/-! # Polling

A poll that the host answers tells which links are lost and which are new or have other addresses, and remembers the links
of the host; one that it does not answer tells nothing and remembers what it knew. A poll that tells nothing found the
links that it knew (`mem_iff_of_silent`). -/

namespace LinkMeter.Host

/-- The events among the sightings, in order. -/
def eventsOf (sightings : List Sighting) : List Event := (sightings.map Sighting.sort).filterMap Sum.getRight?

@[simp] theorem eventsOf_nil : eventsOf [] = [] := rfl

@[simp] theorem eventsOf_record (r : Log.Record) (l : List Sighting) : eventsOf (.record r :: l) = eventsOf l := rfl

@[simp] theorem eventsOf_event (e : Event) (l : List Sighting) : eventsOf (.event e :: l) = e :: eventsOf l := rfl

theorem eventsOf_append (l l' : List Sighting) : eventsOf (l ++ l') = eventsOf l ++ eventsOf l' := by
  unfold eventsOf
  rw [List.map_append, List.filterMap_append]

theorem eventsOf_flatMap {α : Type} (f : α → List Sighting) (l : List α) :
    eventsOf (l.flatMap f) = l.flatMap fun a => eventsOf (f a) := by
  induction l with
  | nil => rfl
  | cons a l ih => rw [List.flatMap_cons, List.flatMap_cons, eventsOf_append, ih]

namespace Watcher

/-! ## What a poll tells -/

def lostSightings (name : Text) : List Sighting :=
  [.record ⟨.info, .watcher, .cat ["Link '", name, "' lost"], none⟩, .event (.lost name)]

def foundSightings (known : Links) (link : Text × List Text) : List Sighting :=
  match known.lookup link.1 with
  | none => [.record ⟨.info, .watcher, .cat ["Link '", link.1, "' available"], none⟩, .event (.updated link.1)]
  | some before =>
    if before ≠ link.2 then
      [.record ⟨.debug, .watcher, .cat ["Link '", link.1, "' addresses changed"], none⟩, .event (.updated link.1)]
    else []

theorem tellFound_apply (known : Links) (link : Text × List Text) (w : Watcher) :
    tellFound known link w = ⟨foundSightings known link, w, .ok ()⟩ := by
  unfold tellFound foundSightings
  obtain ⟨name, addresses⟩ := link
  dsimp only
  cases known.lookup name with
  | none => rfl
  | some before =>
    dsimp only
    by_cases h : before ≠ addresses
    · rw [if_pos h, if_pos h]
      rfl
    · rw [if_neg h, if_neg h]
      rfl

/-- The names that were known and are no link's any more. -/
def lostNames (known current : Links) : List Text :=
  (known.map Prod.fst).filter fun name => (current.lookup name).isNone

/-- What a poll tells that finds the given links. -/
def sightings (known current : Links) : List Sighting :=
  (lostNames known current).flatMap lostSightings ++ current.flatMap (foundSightings known)

section Poll
variable {host : Interfaces} {states : List (Text × Bool)} {addresses : List (Text × List Address)}

theorem poll_of_ok (h : host.answers = .ok (states, addresses)) (w : Watcher) :
    poll host w =
      ⟨sightings w.known (linksOf states addresses), { w with known := linksOf states addresses }, .ok ()⟩ := by
  have hlost : Step.each tellLost (lostNames w.known (linksOf states addresses)) w =
      ⟨(lostNames w.known (linksOf states addresses)).flatMap lostSightings, w, .ok ()⟩ :=
    Step.each_apply fun _ _ => rfl
  have hfound : Step.each (tellFound w.known) (linksOf states addresses) w =
      ⟨(linksOf states addresses).flatMap (foundSightings w.known), w, .ok ()⟩ :=
    Step.each_apply fun link _ => tellFound_apply w.known link w
  unfold poll
  rw [h, Step.lift_ok_bind]
  show (Step.each tellLost (lostNames w.known (linksOf states addresses)) >>= fun _ =>
    Step.each (tellFound w.known) (linksOf states addresses) >>= fun _ =>
      Step.modify fun w => { w with known := linksOf states addresses } : Step Sighting Watcher Unit) w = _
  rw [Step.bind_of_eq_ok hlost, Step.bind_of_eq_ok hfound, Outcome.after_after, Step.modify_apply]
  unfold Outcome.after sightings
  rw [List.append_nil]

theorem poll_of_error {e : Fault} (h : host.answers = .error e) (w : Watcher) : poll host w = ⟨[], w, .error e⟩ := by
  unfold poll
  rw [h, Step.lift_error_bind]

end Poll

/-- Whether a link is new or has other addresses than it had. -/
def isNews (known : Links) (link : Text × List Text) : Bool := known.lookup link.1 != some link.2

theorem eventsOf_foundSightings (known : Links) (link : Text × List Text) :
    eventsOf (foundSightings known link) = if isNews known link then [.updated link.1] else [] := by
  unfold foundSightings isNews
  cases known.lookup link.1 with
  | none => rfl
  | some before =>
    dsimp only
    by_cases h : before = link.2 <;> simp [h]

theorem eventsOf_found (known links : Links) : eventsOf (links.flatMap (foundSightings known)) =
    (links.filter (isNews known)).map fun link => .updated link.1 := by
  rw [eventsOf_flatMap]
  induction links with
  | nil => rfl
  | cons link rest ih =>
    rw [List.flatMap_cons, eventsOf_foundSightings, ih, List.filter_cons]
    cases isNews known link <;> rfl

theorem eventsOf_lost (names : List Text) : eventsOf (names.flatMap lostSightings) = names.map .lost := by
  rw [eventsOf_flatMap, List.map_eq_flatMap]
  rfl

/-- The events of a poll: first the lost links by name, then the new and changed ones. -/
theorem eventsOf_sightings (known current : Links) : eventsOf (sightings known current) =
    (lostNames known current).map .lost ++ (current.filter (isNews known)).map fun link => .updated link.1 := by
  unfold sightings
  rw [eventsOf_append, eventsOf_lost, eventsOf_found]

/-! ## A poll that tells nothing -/

/-- Every link is found under its name. -/
def Consistent (links : Links) : Prop := ∀ l ∈ links, links.lookup l.1 = some l.2

theorem mem_of_lookup {links : Links} {name : Text} {addresses : List Text} (h : links.lookup name = some addresses) :
    (name, addresses) ∈ links := by
  obtain ⟨before, after, rfl, -⟩ := List.lookup_eq_some_iff.mp h
  exact List.mem_append_right _ List.mem_cons_self

theorem Consistent.linksOf (states : List (Text × Bool)) (addresses : List (Text × List Address)) :
    Consistent (linksOf states addresses) := by
  intro l hl
  have hsome : ((Watcher.linksOf states addresses).lookup l.1).isSome :=
    List.lookup_isSome_iff.mpr ⟨l, hl, beq_self_eq_true l.1⟩
  obtain ⟨found, hfound⟩ := Option.isSome_iff_exists.mp hsome
  -- Both are the addresses that the host lists under the name.
  obtain ⟨state, -, -, rfl⟩ := mem_linksOf.mp hl
  obtain ⟨other, -, -, hother⟩ := mem_linksOf.mp (mem_of_lookup hfound)
  obtain ⟨hname, hvalue⟩ := Prod.mk.inj hother
  rw [hfound, ← hvalue, hname]
  rfl

theorem mem_iff_of_silent {known current : Links} (hknown : Consistent known)
    (h : eventsOf (sightings known current) = []) (l : Text × List Text) : l ∈ known ↔ l ∈ current := by
  rw [eventsOf_sightings, List.append_eq_nil_iff, List.map_eq_nil_iff, List.map_eq_nil_iff] at h
  obtain ⟨hlost, hnews⟩ := h
  have hsame : ∀ l ∈ current, known.lookup l.1 = some l.2 := by
    intro l hl
    have hold := List.filter_eq_nil_iff.mp hnews l hl
    unfold isNews at hold
    simpa using hold
  refine ⟨fun hl => ?_, fun hl => mem_of_lookup (hsame l hl)⟩
  have hthere : current.lookup l.1 ≠ none := by
    intro hnone
    refine List.filter_eq_nil_iff.mp hlost l.1 (List.mem_map_of_mem hl) ?_
    rw [hnone]
    rfl
  obtain ⟨found, hfound⟩ := Option.ne_none_iff_exists'.mp hthere
  have hmem := mem_of_lookup hfound
  have heq : l.2 = found := Option.some.inj ((hknown l hl).symm.trans (hsame (l.1, found) hmem))
  rw [← heq] at hmem
  exact hmem

/-- What connects a host is the same before and after a poll that tells nothing. -/
theorem connects_of_silent {known current : Links} (hknown : Consistent known)
    (h : eventsOf (sightings known current) = []) (family : Text → Family) :
    connects family known = connects family current := by
  unfold connects
  rw [Bool.eq_iff_iff, List.any_eq_true, List.any_eq_true]
  simp only [mem_iff_of_silent hknown h]

/-! ## Polls that are counted -/

/-- What is told when there are too many failing polls in a row. -/
def failure (e : Fault) : Event := .failed (.cat ["Interface watcher failure: ", e.message])

theorem countError_apply (e : Fault) (w : Watcher) : (countError e w).result = .ok () ∧
    (countError e w).state = { w with errors := w.errors + 1, running := w.running && decide (w.errors + 1 ≤ mostErrors) } ∧
    eventsOf (countError e w).reports = if mostErrors < w.errors + 1 then [failure e] else [] := by
  unfold countError
  rw [Step.modify_bind, Step.get_bind]
  by_cases h : mostErrors < w.errors + 1
  · rw [if_pos h, if_pos h, decide_eq_false (Int.not_le.mpr h), Bool.and_false]
    exact ⟨rfl, rfl, rfl⟩
  · rw [if_neg h, if_neg h, decide_eq_true (Int.not_lt.mp h), Bool.and_true]
    exact ⟨rfl, rfl, rfl⟩

/-- Polls the host; failing polls may be counted. -/
def polling (counted : Bool) (host : Interfaces) : Step Sighting Watcher Unit :=
  if counted then tryPoll host else poll host

section Counted
variable {host : Interfaces} {states : List (Text × Bool)} {addresses : List (Text × List Address)} {e : Fault}

theorem tryPoll_of_ok (h : host.answers = .ok (states, addresses)) (w : Watcher) :
    tryPoll host w = ⟨sightings w.known (linksOf states addresses),
      ⟨w.interval, w.running, if 0 < w.errors then 0 else w.errors, linksOf states addresses⟩, .ok ()⟩ := by
  unfold tryPoll
  rw [Step.bind_of_eq_ok (Step.attempt_of_eq (poll_of_ok h w))]
  dsimp only
  rw [Step.modify_apply]
  unfold Outcome.after
  rw [List.append_nil]
  split <;> rfl

theorem tryPoll_of_error (h : host.answers = .error e) (hexpected : isExpected e = true) (w : Watcher) :
    tryPoll host w = countError e w := by
  unfold tryPoll
  rw [Step.bind_of_eq_ok (Step.attempt_of_eq (poll_of_error h w)), Outcome.after_nil]
  exact congrFun (if_pos hexpected) w

theorem tryPoll_of_unexpected (h : host.answers = .error e) (hunexpected : isExpected e = false) (w : Watcher) :
    tryPoll host w = ⟨[], w, .error e⟩ := by
  unfold tryPoll
  rw [Step.bind_of_eq_ok (Step.attempt_of_eq (poll_of_error h w)), Outcome.after_nil]
  dsimp only
  rw [hunexpected]
  rfl

theorem polling_of_ok (h : host.answers = .ok (states, addresses)) (counted : Bool) (w : Watcher) :
    (polling counted host w).reports = sightings w.known (linksOf states addresses) ∧
      (polling counted host w).state.known = linksOf states addresses ∧ (polling counted host w).result = .ok () := by
  cases counted with
  | false =>
    show (poll host w).reports = _ ∧ (poll host w).state.known = _ ∧ (poll host w).result = _
    rw [poll_of_ok h]
    exact ⟨rfl, rfl, rfl⟩
  | true =>
    show (tryPoll host w).reports = _ ∧ (tryPoll host w).state.known = _ ∧ (tryPoll host w).result = _
    rw [tryPoll_of_ok h]
    exact ⟨rfl, rfl, rfl⟩

theorem polling_of_error (h : host.answers = .error e) (counted : Bool) (w : Watcher) :
    (polling counted host w).state.known = w.known := by
  cases counted with
  | false =>
    show (poll host w).state.known = _
    rw [poll_of_error h]
  | true =>
    show (tryPoll host w).state.known = _
    cases hexpected : isExpected e with
    | true => rw [tryPoll_of_error h hexpected, (countError_apply e w).2.1]
    | false => rw [tryPoll_of_unexpected h hexpected]

end Counted

end Watcher
end LinkMeter.Host
