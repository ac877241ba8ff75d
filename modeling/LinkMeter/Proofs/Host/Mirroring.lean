import LinkMeter.Proofs.Host.Changes
import LinkMeter.Proofs.Link.Registry

/-! # A registry that follows the watcher

Each event is about one link, and a registry that takes over all events of a sequence of polls holds the links that the
watcher knows after the last of them (`polls_mirrored`): no event is missing and none is told twice. -/

namespace LinkMeter.Host
open Link (Registry)

/-- Takes an event over into a registry: the name of an interface is the handle of its link. -/
def follow : Event → Logged Registry Unit
  | .updated name => Registry.add (.named name) (some name)
  | .lost name => Registry.remove (.named name)
  | .failed _ => pure ()

/-- The registry has one link for each name of which `P` holds, and no others. -/
structure Mirrors (P : Text → Prop) (r : Registry) : Prop where
  nodup : (r.links.map Prod.fst).Nodup
  mem : ∀ link, link ∈ r.links ↔ ∃ name, P name ∧ link = (.named name, some name)

section Follow
variable {P Q : Text → Prop} {r : Registry}

theorem Mirrors.congr (h : Mirrors P r) (hPQ : ∀ name, P name ↔ Q name) : Mirrors Q r where
  nodup := h.nodup
  mem link := by
    rw [h.mem]
    simp only [hPQ]

theorem mirrors_empty : Mirrors (fun _ => False) Registry.empty where
  nodup := List.nodup_nil
  mem _ := ⟨fun h => absurd h List.not_mem_nil, fun ⟨_, h, _⟩ => h.elim⟩

theorem Mirrors.updated (h : Mirrors P r) (name : Text) :
    Mirrors (fun n => n = name ∨ P n) (follow (.updated name) r).state := by
  show Mirrors _ (Registry.add (.named name) (some name) r).state
  rw [Registry.add_state]
  refine ⟨Registry.nodup_put h.nodup, fun link => ?_⟩
  show link ∈ Registry.put _ _ r.links ↔ _
  rw [Registry.mem_put h.nodup, h.mem]
  constructor
  · rintro (rfl | ⟨⟨n, hn, rfl⟩, -⟩)
    · exact ⟨name, .inl rfl, rfl⟩
    · exact ⟨n, .inr hn, rfl⟩
  · rintro ⟨n, hn, rfl⟩
    by_cases heq : n = name
    · exact .inl (by rw [heq])
    · refine .inr ⟨⟨n, hn.resolve_left heq, rfl⟩, fun hhandle => heq ?_⟩
      cases hhandle
      rfl

theorem Mirrors.lost (h : Mirrors P r) (name : Text) :
    Mirrors (fun n => n ≠ name ∧ P n) (follow (.lost name) r).state := by
  show Mirrors _ (Registry.remove (.named name) r).state
  rw [Registry.remove_state]
  refine ⟨Registry.nodup_erase h.nodup _, fun link => ?_⟩
  rw [Registry.mem_erase, h.mem]
  constructor
  · rintro ⟨⟨n, hn, rfl⟩, hne⟩
    refine ⟨n, ⟨?_, hn⟩, rfl⟩
    rintro rfl
    exact hne rfl
  · rintro ⟨n, ⟨hne, hn⟩, rfl⟩
    refine ⟨⟨n, hn, rfl⟩, fun hhandle => hne ?_⟩
    cases hhandle
    rfl

theorem Mirrors.run_updated (h : Mirrors P r) (names : List Text) :
    Mirrors (fun n => n ∈ names ∨ P n) (Step.run follow (names.map .updated) r).state := by
  induction names generalizing P r with
  | nil => exact h.congr fun n => by simp
  | cons name rest ih =>
    rw [List.map_cons, Step.run_cons, Outcome.after_state]
    refine (ih (h.updated name)).congr fun n => ?_
    rw [List.mem_cons, or_assoc, or_left_comm]

theorem Mirrors.run_lost (h : Mirrors P r) (names : List Text) :
    Mirrors (fun n => n ∉ names ∧ P n) (Step.run follow (names.map .lost) r).state := by
  induction names generalizing P r with
  | nil => exact h.congr fun n => by simp
  | cons name rest ih =>
    rw [List.map_cons, Step.run_cons, Outcome.after_state]
    refine (ih (h.lost name)).congr fun n => ?_
    rw [List.mem_cons, not_or, and_assoc, and_left_comm]

/-- A registry of the interfaces that were tracked is, after the events, one of those that are tracked now. -/
theorem Mirrors.changes {a b : Answer} {events : List Event} (h : Mirrors a.Tracks r) (hevents : Watcher.Changes a b events) :
    Mirrors b.Tracks (Step.run follow events r).state := by
  -- What is tracked now was tracked already or has been found, and nothing that was lost is tracked now.
  obtain ⟨lost, found, rfl, -, -, hlost, hfound⟩ := hevents
  rw [Step.run_append, Outcome.after_state]
  refine ((h.run_lost lost).run_updated found).congr fun name => ?_
  rw [hlost, hfound]
  by_cases hb : b.Tracks name
  · by_cases ha : a.Tracks name <;> simp [ha, hb]
  · simp [hb]

/-- All links of the registry are those of interfaces that are not left out. -/
def Admits (r : Registry) : Prop := ∀ link ∈ r.links, ∃ name, isExcluded name = false ∧ link = (.named name, some name)

theorem Admits.follow {event : Event} (hr : Admits r) (h : ∀ name, event = .updated name → isExcluded name = false) :
    Admits (follow event r).state := by
  cases event with
  | updated name =>
    show Admits (Registry.add (.named name) (some name) r).state
    rw [Registry.add_state]
    intro link hlink
    rcases Registry.of_mem_put hlink with rfl | hlink
    · exact ⟨name, h name rfl, rfl⟩
    · exact hr link hlink
  | lost name =>
    show Admits (Registry.remove (.named name) r).state
    rw [Registry.remove_state]
    exact fun link hlink => hr link (Registry.mem_erase.mp hlink).1
  | failed message => exact hr

end Follow

namespace Watcher
variable {a b : Answer} {hosts : List Interfaces} {w : Watcher} {r : Registry}

theorem Changes.admitted {events : List Event} (h : Changes a b events) {name : Text} (hmem : .updated name ∈ events) :
    isExcluded name = false := by
  obtain ⟨lost, found, rfl, -, -, -, hfound⟩ := h
  rcases List.mem_append.mp hmem with hmem | hmem
  · obtain ⟨n, -, heq⟩ := List.mem_map.mp hmem
    cases heq
  · obtain ⟨n, hn, heq⟩ := List.mem_map.mp hmem
    cases heq
    exact ((hfound name).mp hn).1.2

/-- What one poll tells takes a registry of what was known to one of what is known then. -/
theorem mirrors_poll (hw : w.known = a.links) (ha : a.Distinct) (hr : Mirrors a.Tracks r) {host : Interfaces}
    (h : Lists host) : Mirrors (answerOr a host).Tracks (Step.run follow (eventsOf (poll host w).reports) r).state := by
  cases hanswers : host.answers with
  | error e =>
    rw [poll_of_error hanswers, answerOr_of_error hanswers]
    exact hr
  | ok b =>
    rw [answerOr_of_ok hanswers]
    exact hr.changes (changes_of_poll hw ha (h b hanswers) hanswers)

theorem mirrors_run (hw : w.known = a.links) (ha : a.Distinct) (hr : Mirrors a.Tracks r)
    (h : ∀ host ∈ hosts, Lists host) :
    Mirrors (lastAnswer a hosts).Tracks (Step.run follow (eventsOf (Step.run poll hosts w).reports) r).state := by
  -- On the polls: the last answer, what the watcher knows of it and the registry go on together.
  induction hosts generalizing a w r with
  | nil => exact hr
  | cons host rest ih =>
    have hhost : Lists host := h host List.mem_cons_self
    have hrest : ∀ other ∈ rest, Lists other := fun other hmem => h other (List.mem_cons_of_mem host hmem)
    rw [Step.run_cons, Outcome.after_reports, eventsOf_append, Step.run_append, Outcome.after_state]
    exact ih (known_poll hw host) (distinct_answerOr ha hhost) (mirrors_poll hw ha hr hhost) hrest

theorem admitted_of_run (hw : w.known = a.links) (ha : a.Distinct) (h : ∀ host ∈ hosts, Lists host) {name : Text}
    (hmem : .updated name ∈ eventsOf (Step.run poll hosts w).reports) : isExcluded name = false := by
  induction hosts generalizing a w with
  | nil => exact absurd hmem List.not_mem_nil
  | cons host rest ih =>
    have hhost : Lists host := h host List.mem_cons_self
    have hrest : ∀ other ∈ rest, Lists other := fun other hmem => h other (List.mem_cons_of_mem host hmem)
    rw [Step.run_cons, Outcome.after_reports, eventsOf_append] at hmem
    rcases List.mem_append.mp hmem with hmem | hmem
    · cases hanswers : host.answers with
      | error e =>
        rw [poll_of_error hanswers] at hmem
        exact absurd hmem List.not_mem_nil
      | ok b => exact (changes_of_poll hw ha (hhost b hanswers) hanswers).admitted hmem
    · exact ih (known_poll hw host) (distinct_answerOr ha hhost) hrest hmem

/-- One link of a registry for each of the names. -/
def registered (links : Links) : List (Link.Handle × Option Text) := links.map fun l => (.named l.1, some l.1)

theorem links_perm (ha : a.Distinct) (hr : Mirrors a.Tracks r) : r.links.Perm (registered a.links) := by
  have hlinks : registered a.links = a.tracked.map fun name => (.named name, some name) := by
    rw [← names_linksOf ha, List.map_map]
    rfl
  have hnodup : (a.tracked.map fun name => ((.named name, some name) : Link.Handle × Option Text)).Nodup := by
    refine List.Pairwise.map _ (fun m n hne heq => hne ?_) a.ascending_tracked.nodup
    cases heq
    rfl
  rw [hlinks]
  refine (List.perm_ext_iff_of_nodup (List.Nodup.of_map Prod.fst hr.nodup) hnodup).mpr fun link => ?_
  rw [hr.mem, List.mem_map]
  simp only [Answer.mem_tracked, eq_comm]

/-- A poll that fails tells nothing and changes nothing. One that is answered tells what changed since the last answer, in
whatever order the host lists its interfaces and addresses. A registry that follows all the events has, after every poll,
the links that the watcher knows, which are those of the last answer, and never one of an interface that is left out. -/
theorem polls_mirrored (hosts : List Interfaces) (hlists : ∀ host ∈ hosts, Lists host) (w : Watcher) (hfresh : w.known = []) :
    let last := lastAnswer ([], []) hosts
    let polled := Step.run poll hosts w
    let told := eventsOf polled.reports
    (∀ host e, host.answers = .error e → poll host polled.state = ⟨[], polled.state, .error e⟩) ∧
    (∀ host answer, host.answers = .ok answer → Answer.Distinct answer → (poll host polled.state).result = .ok () ∧
      Changes last answer (eventsOf (poll host polled.state).reports) ∧
      ∀ host' answer', host'.answers = .ok answer' → Answer.Distinct answer' → Answer.Alike answer answer' →
        poll host' polled.state = poll host polled.state) ∧
    (∀ name, name ∈ polled.state.known.map Prod.fst ↔ last.Tracks name) ∧
    (Step.run follow told Registry.empty).state.links.Perm (registered polled.state.known) ∧
    ∀ done, done <+: told → Admits (Step.run follow done Registry.empty).state := by
  intro last polled told
  have hempty : Answer.Distinct ([], []) := List.nodup_nil
  have hnone : ∀ name, False ↔ Answer.Tracks ([], []) name := fun name => by simp [Answer.Tracks]
  have hlast : last.Distinct := distinct_lastAnswer hempty hlists
  have hknown : polled.state.known = last.links := known_run (a := ([], [])) hfresh hosts
  refine ⟨fun host e h => poll_of_error h _, ?_, fun name => ?_, ?_, ?_⟩
  · intro host answer hanswer hdistinct
    refine ⟨by rw [poll_of_answer hanswer], changes_of_poll hknown hlast hdistinct hanswer, ?_⟩
    intro host' answer' hanswer' hdistinct' halike
    rw [poll_of_answer hanswer, poll_of_answer hanswer', linksOf_congr hdistinct hdistinct' halike]
  · rw [hknown, names_linksOf hlast, Answer.mem_tracked]
  · rw [hknown]
    exact links_perm hlast (mirrors_run (a := ([], [])) hfresh hempty (mirrors_empty.congr hnone) hlists)
  · intro done hdone
    refine (Step.run_keeps (P := Admits) (R := fun _ => True) ?_ (fun link hlink => absurd hlink List.not_mem_nil)).1
    intro event hevent r hr
    refine ⟨hr.follow fun name heq => ?_, fun _ _ => trivial⟩
    rw [heq] at hevent
    exact admitted_of_run (a := ([], [])) hfresh hempty hlists (hdone.subset hevent)

/-- A host at home, at work after a poll that failed: a loopback interface is left out, one interface goes, one comes, and
one has another address. -/
def travellingHosts : List Interfaces :=
  [⟨.ok [("lo", true), ("wlan0", true), ("eth0", true)],
      .ok [("lo", [⟨.inet, some "127.0.0.1"⟩]), ("wlan0", [⟨.inet, some "192.168.0.7"⟩]),
        ("eth0", [⟨.inet, some "10.0.0.2"⟩, ⟨.link, some "02:42:ac:11:00:02"⟩, ⟨.inet, some "10.0.0.2"⟩])]⟩,
    ⟨.ok [], .error (.host .accessDenied "denied")⟩,
    ⟨.ok [("tun0", true), ("eth0", true), ("wlan0", false), ("lo", true)],
      .ok [("eth0", [⟨.link, some "02:42:ac:11:00:02"⟩, ⟨.inet, some "10.0.0.3"⟩]), ("tun0", [⟨.inet, none⟩])]⟩]

theorem mirrored_travellingHosts : (∀ host ∈ travellingHosts, Lists host) ∧
    eventsOf (Step.run poll travellingHosts ⟨.zero, true, 0, []⟩).reports =
      [.updated "eth0", .updated "wlan0", .lost "wlan0", .updated "eth0", .updated "tun0"] ∧
    (Step.run follow (eventsOf (Step.run poll travellingHosts ⟨.zero, true, 0, []⟩).reports)
      Registry.empty).state.links.Perm [(.named "eth0", some "eth0"), (.named "tun0", some "tun0")] := by
  have hlists : ∀ host ∈ travellingHosts, Lists host := by
    simp only [travellingHosts, List.forall_mem_cons]
    refine ⟨?_, ?_, ?_, nofun⟩
    · rintro a ⟨⟩
      decide
    · rintro a ⟨⟩
    · rintro a ⟨⟩
      decide
  have hknown : registered (Step.run poll travellingHosts ⟨.zero, true, 0, []⟩).state.known =
      ([(.named "eth0", some "eth0"), (.named "tun0", some "tun0")] : List (Link.Handle × Option Text)) := by
    decide +kernel
  have hlinks := (polls_mirrored travellingHosts hlists ⟨.zero, true, 0, []⟩ rfl).2.2.2.1
  rw [hknown] at hlinks
  exact ⟨hlists, by decide +kernel, hlinks⟩

end Watcher
end LinkMeter.Host
