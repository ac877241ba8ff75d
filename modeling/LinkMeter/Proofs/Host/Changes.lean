import LinkMeter.Proofs.Host.Polling
import LinkMeter.Proofs.Text.Order

/-! # What changed between two answers

A host that lists each interface once is known to the watcher by the ascending names of its tracked interfaces and the sets
of their addresses, however it orders and repeats them (`linksOf_congr`). A poll tells what changed since the last answer
and nothing else (`changes_of_poll`). -/

namespace LinkMeter.Host

/-- What a host answers: which interfaces are up, and the addresses by interface. -/
abbrev Answer := List (Text × Bool) × List (Text × List Address)

namespace Answer

/-- No interface is listed twice. -/
def Distinct (a : Answer) : Prop := (a.1.map Prod.fst).Nodup

instance (a : Answer) : Decidable a.Distinct := inferInstanceAs (Decidable (List.Nodup _))

/-- The interface is up and not left out. -/
def Tracks (a : Answer) (name : Text) : Prop := (name, true) ∈ a.1 ∧ isExcluded name = false

/-- The interface has the non-empty address `t`. -/
def Bears (a : Answer) (name t : Text) : Prop := t ≠ [] ∧ ∃ address ∈ addressesOf a.2 name, address.text = some t

/-- The same interfaces are tracked, with the same addresses. -/
def Alike (a b : Answer) : Prop :=
  (∀ name, a.Tracks name ↔ b.Tracks name) ∧ ∀ name, a.Tracks name → ∀ t, a.Bears name t ↔ b.Bears name t

/-- The tracked interfaces in ascending order. -/
def tracked (a : Answer) : List Text := Text.setOf ((a.1.filter isTracked).map Prod.fst)

/-- The addresses of an interface, as a set. -/
def addresses (a : Answer) (name : Text) : List Text := Watcher.addressSet (addressesOf a.2 name)

/-- The links that the watcher makes of the answer. -/
def links (a : Answer) : Links := Watcher.linksOf a.1 a.2

variable {a b : Answer} {name t : Text}

theorem mem_tracked : name ∈ a.tracked ↔ a.Tracks name := by
  unfold tracked Tracks isTracked
  rw [Text.mem_setOf, List.mem_map]
  constructor
  · rintro ⟨⟨other, up⟩, hstate, rfl⟩
    obtain ⟨hmem, htracked⟩ := List.mem_filter.mp hstate
    obtain ⟨rfl, hexcluded⟩ := Bool.and_eq_true_iff.mp htracked
    exact ⟨hmem, Bool.not_eq_true' _ ▸ hexcluded⟩
  · rintro ⟨hmem, hexcluded⟩
    refine ⟨(name, true), List.mem_filter.mpr ⟨hmem, ?_⟩, rfl⟩
    rw [hexcluded]
    rfl

theorem ascending_tracked (a : Answer) : Text.Ascending a.tracked := Text.ascending_setOf _

theorem mem_addresses : t ∈ a.addresses name ↔ a.Bears name t := Watcher.mem_addressSet

theorem addresses_eq_iff : a.addresses name = b.addresses name ↔ ∀ t, a.Bears name t ↔ b.Bears name t := by
  constructor
  · intro heq t
    rw [← mem_addresses, ← mem_addresses, heq]
  · intro h
    refine (Text.ascending_setOf _).ext (Text.ascending_setOf _) fun t => ?_
    have ht := h t
    rwa [← mem_addresses, ← mem_addresses] at ht

end Answer

namespace Watcher

/-! ## Links by name -/

section Named
variable {f : Text → List Text} {names : List Text} {name : Text}

theorem place_named (h : name ∉ names) : place (name, f name) (names.map fun n => (n, f n)) =
    (Text.insertInto name names).map fun n => (n, f n) := by
  induction names with
  | nil => rfl
  | cons other rest ih =>
    have hne : name ≠ other := fun heq => h (heq ▸ List.mem_cons_self)
    have hrest : name ∉ rest := fun hmem => h (List.mem_cons_of_mem other hmem)
    rw [List.map_cons, place, Text.insertInto, if_neg hne, ih hrest]
    split <;> rfl

theorem lookup_named (names : List Text) (name : Text) :
    (names.map fun n => (n, f n)).lookup name = if name ∈ names then some (f name) else none := by
  induction names with
  | nil => rfl
  | cons other rest ih =>
    rw [List.map_cons, List.lookup_cons, ih]
    by_cases heq : name = other
    · simp [heq]
    · simp [heq, beq_false_of_ne heq]

end Named

theorem linksOf_named {a : Answer} (h : a.Distinct) : a.links = a.tracked.map fun n => (n, a.addresses n) := by
  suffices hplaced : ∀ states : List (Text × Bool), (states.map Prod.fst).Nodup →
      states.foldr (fun s links => place (s.1, a.addresses s.1) links) [] =
        (Text.setOf (states.map Prod.fst)).map fun n => (n, a.addresses n) from
    hplaced (a.1.filter isTracked) (h.sublist (List.filter_sublist.map Prod.fst))
  -- On the interfaces: each has a name of its own, so it is placed where its name is inserted and replaces none.
  intro states hd
  induction states with
  | nil => rfl
  | cons s rest ih =>
    obtain ⟨hnew, hrest⟩ := List.nodup_cons.mp hd
    rw [List.foldr_cons, ih hrest, place_named (f := a.addresses) (mt Text.mem_setOf.mp hnew)]
    rfl

/-- Answers that say the same in another order make the same links. -/
theorem linksOf_congr {a b : Answer} (ha : a.Distinct) (hb : b.Distinct) (h : a.Alike b) : a.links = b.links := by
  obtain ⟨htracks, hbears⟩ := h
  have hnames : a.tracked = b.tracked := by
    refine a.ascending_tracked.ext b.ascending_tracked fun name => ?_
    rw [Answer.mem_tracked, Answer.mem_tracked, htracks name]
  rw [linksOf_named ha, linksOf_named hb, ← hnames]
  refine List.map_congr_left fun name hname => ?_
  rw [Answer.addresses_eq_iff.mpr (hbears name (Answer.mem_tracked.mp hname))]

theorem lookup_linksOf {a : Answer} (h : a.Distinct) (name : Text) :
    a.links.lookup name = if name ∈ a.tracked then some (a.addresses name) else none := by
  rw [linksOf_named h, lookup_named]

theorem names_linksOf {a : Answer} (h : a.Distinct) : a.links.map Prod.fst = a.tracked := by
  rw [linksOf_named h, List.map_map]
  exact List.map_id _

/-! ## Events -/

/-- The events say what changed from the answer `a` to the answer `b`: the interfaces that are gone, and then those that
are new or have other addresses. -/
def Changes (a b : Answer) (events : List Event) : Prop :=
  ∃ lost found, events = lost.map .lost ++ found.map .updated ∧ Text.Ascending lost ∧ Text.Ascending found ∧
    (∀ name, name ∈ lost ↔ a.Tracks name ∧ ¬ b.Tracks name) ∧
    ∀ name, name ∈ found ↔ b.Tracks name ∧ ¬ (a.Tracks name ∧ ∀ t, a.Bears name t ↔ b.Bears name t)

section Poll
variable {a b : Answer} {host : Interfaces} {w : Watcher}

theorem mem_lostNames (ha : a.Distinct) (hb : b.Distinct) (name : Text) :
    name ∈ lostNames a.links b.links ↔ a.Tracks name ∧ ¬ b.Tracks name := by
  unfold lostNames
  rw [List.mem_filter, names_linksOf ha, Answer.mem_tracked, lookup_linksOf hb]
  by_cases hmem : name ∈ b.tracked
  · simp [hmem, Answer.mem_tracked.mp hmem]
  · simp [hmem, mt Answer.mem_tracked.mpr hmem]

theorem isNews_named (ha : a.Distinct) (name : Text) : isNews a.links (name, b.addresses name) = true ↔
    ¬ (a.Tracks name ∧ ∀ t, a.Bears name t ↔ b.Bears name t) := by
  unfold isNews
  rw [lookup_linksOf ha, ← Answer.addresses_eq_iff, ← Answer.mem_tracked]
  by_cases hmem : name ∈ a.tracked
  · simp [hmem]
  · simp [hmem]

theorem changes_of_sightings (ha : a.Distinct) (hb : b.Distinct) : Changes a b (eventsOf (sightings a.links b.links)) := by
  refine ⟨lostNames a.links b.links, b.tracked.filter fun n => isNews a.links (n, b.addresses n), ?_, ?_, ?_,
    mem_lostNames ha hb, fun name => ?_⟩
  · rw [eventsOf_sightings, linksOf_named hb, List.filter_map, List.map_map]
    rfl
  · unfold lostNames
    rw [names_linksOf ha]
    exact a.ascending_tracked.filter _
  · exact b.ascending_tracked.filter _
  · rw [List.mem_filter, Answer.mem_tracked, isNews_named ha]

theorem poll_of_answer (h : host.answers = .ok b) (w : Watcher) :
    poll host w = ⟨sightings w.known b.links, { w with known := b.links }, .ok ()⟩ := poll_of_ok h w

theorem changes_of_poll (hw : w.known = a.links) (ha : a.Distinct) (hb : b.Distinct) (h : host.answers = .ok b) :
    Changes a b (eventsOf (poll host w).reports) := by
  rw [poll_of_answer h, hw]
  exact changes_of_sightings ha hb

end Poll

/-! ## Sequences of polls -/

/-- The answer of the host; `a` if it does not answer. -/
def answerOr (a : Answer) (host : Interfaces) : Answer := host.answers.toOption.getD a

/-- The last answer of the hosts, of which some may not answer; `a` if none does. -/
def lastAnswer (a : Answer) (hosts : List Interfaces) : Answer := hosts.foldl answerOr a

/-- The host lists no interface twice if it answers. -/
def Lists (host : Interfaces) : Prop := ∀ a : Answer, host.answers = .ok a → a.Distinct

section Run
variable {a : Answer} {hosts : List Interfaces} {w : Watcher}

theorem answerOr_of_ok {host : Interfaces} {b : Answer} (h : host.answers = .ok b) : answerOr a host = b := by
  unfold answerOr
  rw [h]
  rfl

theorem answerOr_of_error {host : Interfaces} {e : Fault} (h : host.answers = .error e) : answerOr a host = a := by
  unfold answerOr
  rw [h]
  rfl

theorem distinct_answerOr {host : Interfaces} (ha : a.Distinct) (h : Lists host) : (answerOr a host).Distinct := by
  cases hanswers : host.answers with
  | error e =>
    rw [answerOr_of_error hanswers]
    exact ha
  | ok b =>
    rw [answerOr_of_ok hanswers]
    exact h b hanswers

theorem distinct_lastAnswer (ha : a.Distinct) (h : ∀ host ∈ hosts, Lists host) : (lastAnswer a hosts).Distinct := by
  induction hosts generalizing a with
  | nil => exact ha
  | cons host rest ih =>
    have hrest : ∀ other ∈ rest, Lists other := fun other hmem => h other (List.mem_cons_of_mem host hmem)
    exact ih (distinct_answerOr ha (h host List.mem_cons_self)) hrest

theorem known_poll (hw : w.known = a.links) (host : Interfaces) :
    (poll host w).state.known = (answerOr a host).links := by
  cases hanswers : host.answers with
  | error e =>
    rw [poll_of_error hanswers, answerOr_of_error hanswers]
    exact hw
  | ok b => rw [poll_of_answer hanswers, answerOr_of_ok hanswers]

theorem known_run (hw : w.known = a.links) (hosts : List Interfaces) :
    (Step.run poll hosts w).state.known = (lastAnswer a hosts).links := by
  induction hosts generalizing a w with
  | nil => exact hw
  | cons host rest ih =>
    rw [Step.run_cons, Outcome.after_state]
    exact ih (known_poll hw host)

end Run

end Watcher
end LinkMeter.Host
