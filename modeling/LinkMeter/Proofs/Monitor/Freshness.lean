import LinkMeter.Proofs.Engine.Probing
import LinkMeter.Proofs.Monitor.Wiring

/-! # The connectivity stays fresh

The engine asks for the connectivity only when it is told to: by the watcher, which compares the addresses of links, or by
a message. While the interfaces of the host stay as they are, the engine knows either what is true of them or what is true
of the links of the last poll, unless it is about to ask (`Tracks`); after a poll these are the same. -/

namespace LinkMeter.Monitor
open Host

/-- A time in which the interfaces of the host stay as they are, and what happens in it. -/
structure Spell where
  states : List (Text × Bool)
  addresses : List (Text × List Address)
  happenings : List Happening

namespace Spell

def interfaces (p : Spell) : Interfaces := ⟨.ok p.states, .ok p.addresses⟩

def links (p : Spell) : Links := Watcher.linksOf p.states p.addresses

/-- The spell begins, and everything in it happens. -/
def live (p : Spell) : Logged Wiring Unit := do
  Wiring.onMonitor (observe fun s => { s with interfaces := p.interfaces })
  Step.run Wiring.happen p.happenings

end Spell

/-- The interfaces are those of the spell. -/
def Holds (p : Spell) (s : Surroundings) : Prop := s.interfaces = p.interfaces

/-- Nothing is told to the engine about the connectivity but what the watcher tells, and the interfaces stay. -/
def Happening.Neutral (p : Spell) : Happening → Prop
  | .engine a => a.Neutral (Holds p)
  | .arrive | .poll _ | .missed _ _ => True

/-- Addresses are named by their text, which tells their family; nothing but the watcher tells anything about the
connectivity; and there is a poll. -/
structure Spell.Polled (family : Text → Family) (p : Spell) : Prop where
  named : ∀ entry ∈ p.addresses, Named family entry.2
  neutral : ∀ h ∈ p.happenings, h.Neutral p
  poll : ∃ counted, .poll counted ∈ p.happenings

/-- Nothing that was told is on its way any more. -/
structure Wiring.Drained (r : Wiring) : Prop where
  queue : r.monitor.engine.queue = []
  told : r.told = []

/-- The engine is about to ask for the connectivity. -/
def Wiring.Asking (r : Wiring) : Prop :=
  .connectivityChanged none ∈ r.monitor.engine.queue ∨ ∃ event ∈ r.told, event.isLink = true

/-- What holds all through a spell. -/
structure Tracks (family : Text → Family) (p : Spell) (r : Wiring) : Prop where
  interfaces : Holds p r.monitor.engine.around
  untold : Engine.Untold r.monitor.engine.queue
  consistent : Watcher.Consistent r.monitor.watcher.known
  connected : r.monitor.engine.connected = connects family p.links ∨
    r.monitor.engine.connected = connects family r.monitor.watcher.known ∨ r.Asking

section Spell
variable {family : Text → Family} {p : Spell} {r r' : Wiring}

theorem definite_connections (h : ∀ entry ∈ p.addresses, Named family entry.2) :
    Engine.Definite connections (Holds p) (connects family p.links) := by
  have hcounters : (counters.zoom Surroundings.counters fun c s => { s with counters := c }).Keeps (Holds p) := by
    refine Rate.Source.Keeps.zoom ?_ counters
    exact fun _ _ hs => hs
  refine ⟨fun s hs => ?_, hcounters⟩
  have hprobe : connections.probe s = isConnected p.interfaces s := by
    show isConnected s.interfaces s = _
    rw [hs]
  rw [hprobe, Spell.interfaces, isConnected_of_named h]
  exact ⟨hs, rfl⟩

theorem Tracks.engine (h : ∀ entry ∈ p.addresses, Named family entry.2) (hr : Tracks family p r)
    {a : Engine.Action Surroundings} (ha : a.Neutral (Holds p)) :
    Tracks family p (Wiring.happen (.engine a) r).state := by
  obtain ⟨hinterfaces, huntold, hconnected⟩ :=
    Engine.perform_heeds (definite_connections h) hr.interfaces hr.untold ha
  rw [Wiring.happen_engine]
  refine ⟨hinterfaces, huntold, hr.consistent, ?_⟩
  rcases hconnected with hfresh | ⟨hsame, hasks⟩
  · exact .inl hfresh
  · rw [hsame]
    exact hr.connected.imp_right (.imp_right (.imp_left hasks))

theorem Tracks.arrive (hr : Tracks family p r) : Tracks family p (Wiring.arrive r).state := by
  cases htold : r.told with
  | nil =>
    rw [Wiring.arrive_nil htold]
    exact hr
  | cons event rest =>
    obtain ⟨messages, hstate, hquiet, hasks⟩ := Wiring.react_state event r.monitor
    rw [Wiring.arrive_cons htold, hstate]
    refine ⟨hr.interfaces, ?_, hr.consistent, hr.connected.imp_right (.imp_right fun hasking => ?_)⟩
    · intro b hb
      exact (List.mem_append.mp hb).elim (hr.untold b) (hquiet b)
    · rcases hasking with hqueue | ⟨event', hevent', hlink⟩
      · exact .inl (List.mem_append_left _ hqueue)
      · rw [htold] at hevent'
        rcases List.mem_cons.mp hevent' with rfl | hrest
        · exact .inl (List.mem_append_right _ (hasks hlink))
        · exact .inr ⟨event', hrest, hlink⟩

theorem unanswered (e : Fault) : (⟨.error e, .error e⟩ : Interfaces).answers = .error e := rfl

theorem Tracks.missed (hr : Tracks family p r) (counted : Bool) (e : Fault) :
    Tracks family p (Wiring.happen (.missed counted e) r).state := by
  show Tracks family p (Wiring.watch (Watcher.polling counted ⟨.error e, .error e⟩) r).state
  have hknown := Watcher.polling_of_error (unanswered e) counted r.monitor.watcher
  rw [Wiring.watch_state]
  refine ⟨hr.interfaces, hr.untold, ?_, ?_⟩
  · show Watcher.Consistent (Watcher.polling _ _ _).state.known
    rw [hknown]
    exact hr.consistent
  · show _ ∨ _ = connects family (Watcher.polling _ _ _).state.known ∨ _
    rw [hknown]
    refine hr.connected.imp_right (.imp_right (.imp_right fun ⟨event, hevent, hlink⟩ => ?_))
    exact ⟨event, List.mem_append_left _ hevent, hlink⟩

/-- A poll tells about links, or what connects the host is the same as before. -/
theorem polled_connects (family : Text → Family) {known : Links} (hknown : Watcher.Consistent known) (current : Links) :
    connects family known = connects family current ∨
      ∃ event ∈ eventsOf (Watcher.sightings known current), event.isLink = true := by
  cases hevents : eventsOf (Watcher.sightings known current) with
  | nil => exact .inl (Watcher.connects_of_silent hknown hevents family)
  | cons event rest =>
    refine .inr ⟨event, List.mem_cons_self, ?_⟩
    have hmem : event ∈ eventsOf (Watcher.sightings known current) := hevents ▸ List.mem_cons_self
    rw [Watcher.eventsOf_sightings] at hmem
    rcases List.mem_append.mp hmem with hlost | hfound
    · obtain ⟨name, -, rfl⟩ := List.mem_map.mp hlost
      rfl
    · obtain ⟨link, -, rfl⟩ := List.mem_map.mp hfound
      rfl

theorem Tracks.poll (hr : Tracks family p r) (counted : Bool) :
    Tracks family p (Wiring.happen (.poll counted) r).state ∧
      (Wiring.happen (.poll counted) r).state.monitor.watcher.known = p.links := by
  have hhost : r.monitor.engine.around.interfaces.answers = .ok (p.states, p.addresses) := by
    rw [show r.monitor.engine.around.interfaces = p.interfaces from hr.interfaces]
    rfl
  obtain ⟨hreports, hknown, -⟩ := Watcher.polling_of_ok hhost counted r.monitor.watcher
  have hstate : (Wiring.happen (.poll counted) r).state =
      ⟨{ r.monitor with watcher := (Watcher.polling counted r.monitor.engine.around.interfaces r.monitor.watcher).state },
        r.told ++ eventsOf (Watcher.sightings r.monitor.watcher.known p.links)⟩ := by
    rw [Spell.links, ← hreports]
    exact Wiring.watch_state _ r
  rw [hstate]
  refine ⟨⟨hr.interfaces, hr.untold, ?_, ?_⟩, hknown⟩
  · show Watcher.Consistent (Watcher.polling _ _ _).state.known
    rw [hknown]
    exact .linksOf p.states p.addresses
  · show _ ∨ _ = connects family (Watcher.polling _ _ _).state.known ∨ _
    rw [hknown]
    rcases hr.connected with hfresh | hbefore | hqueue | ⟨event, hevent, hlink⟩
    · exact .inl hfresh
    · -- What was true of the links of the last poll is true of these, or the poll told something.
      rcases polled_connects family hr.consistent p.links with hsame | ⟨event, hevent, hlink⟩
      · exact .inl (hbefore.trans hsame)
      · exact .inr (.inr (.inr ⟨event, List.mem_append_right _ hevent, hlink⟩))
    · exact .inr (.inr (.inl hqueue))
    · exact .inr (.inr (.inr ⟨event, List.mem_append_left _ hevent, hlink⟩))

theorem Tracks.happen (h : ∀ entry ∈ p.addresses, Named family entry.2) (hr : Tracks family p r) {a : Happening}
    (ha : a.Neutral p) : Tracks family p (Wiring.happen a r).state := by
  cases a with
  | engine a => exact hr.engine h ha
  | arrive => exact hr.arrive
  | poll counted => exact (hr.poll counted).1
  | missed counted e => exact hr.missed counted e

theorem happen_known (hr : Tracks family p r) (hknown : r.monitor.watcher.known = p.links) (a : Happening) :
    (Wiring.happen a r).state.monitor.watcher.known = p.links := by
  cases a with
  | engine a =>
    rw [Wiring.happen_engine]
    exact hknown
  | arrive =>
    show (Wiring.arrive r).state.monitor.watcher.known = _
    cases htold : r.told with
    | nil =>
      rw [Wiring.arrive_nil htold]
      exact hknown
    | cons event rest =>
      obtain ⟨messages, hstate, -⟩ := Wiring.react_state event r.monitor
      rw [Wiring.arrive_cons htold, hstate]
      exact hknown
  | poll counted => exact (hr.poll counted).2
  | missed counted e =>
    have hmissed := Watcher.polling_of_error (unanswered e) counted r.monitor.watcher
    exact hmissed.trans hknown

theorem Tracks.run (hp : p.Polled family) (hr : Tracks family p r) :
    Tracks family p (Step.run Wiring.happen p.happenings r).state ∧
      (Step.run Wiring.happen p.happenings r).state.monitor.watcher.known = p.links := by
  obtain ⟨counted, hpoll⟩ := hp.poll
  obtain ⟨before, after, heq⟩ := List.append_of_mem hpoll
  have hneutral := hp.neutral
  rw [heq] at hneutral ⊢
  have hbefore : Tracks family p (Step.run Wiring.happen before r).state :=
    (Step.run_keeps (R := fun _ => True) (fun a ha r hr =>
      ⟨hr.happen hp.named (hneutral a (List.mem_append_left _ ha)), fun _ _ => trivial⟩) hr).1
  rw [Step.run_append, Outcome.after_state, Step.run_cons, Outcome.after_state]
  -- The first poll that is sure to happen brings the links up to date, and nothing changes them after it.
  refine (Step.run_keeps (P := fun r => Tracks family p r ∧ r.monitor.watcher.known = p.links) (R := fun _ => True)
    (fun a ha r hr => ⟨⟨hr.1.happen hp.named ?_, happen_known hr.1 hr.2 a⟩, fun _ _ => trivial⟩)
    (hbefore.poll counted)).1
  exact hneutral a (List.mem_append_right _ (List.mem_cons_of_mem _ ha))

/-- What holds between two spells. -/
structure Settled (family : Text → Family) (r : Wiring) : Prop where
  untold : Engine.Untold r.monitor.engine.queue
  consistent : Watcher.Consistent r.monitor.watcher.known
  connected : r.monitor.engine.connected = connects family r.monitor.watcher.known

theorem Wiring.Drained.not_asking (h : r.Drained) : ¬ r.Asking := by
  rintro (hqueue | ⟨event, hevent, -⟩)
  · rw [h.queue] at hqueue
    exact List.not_mem_nil hqueue
  · rw [h.told] at hevent
    exact List.not_mem_nil hevent

/-- A spell that ends with nothing on its way leaves the engine knowing what is true of its interfaces. -/
theorem live_settled (hp : p.Polled family) (hr : Settled family r) (hdrained : (p.live r).state.Drained) :
    Settled family (p.live r).state ∧ (p.live r).state.monitor.engine.around.interfaces = p.interfaces ∧
      (p.live r).state.monitor.watcher.known = p.links := by
  have hstart : Tracks family p { r with monitor := { r.monitor with engine := { r.monitor.engine with
      around := { r.monitor.engine.around with interfaces := p.interfaces } } } } :=
    ⟨rfl, hr.untold, hr.consistent, .inr (.inl hr.connected)⟩
  obtain ⟨hend, hknown⟩ := hstart.run hp
  refine ⟨⟨hend.untold, hend.consistent, ?_⟩, hend.interfaces, hknown⟩
  rcases hend.connected with hfresh | hfresh | hasking
  · exact hfresh.trans (congrArg (connects family) hknown.symm)
  · exact hfresh
  · exact absurd hasking hdrained.not_asking

theorem run_settled {spells : List Spell} (hpolled : ∀ q ∈ spells, q.Polled family) (hr : Settled family r)
    (hdrained : ∀ done, done <+: spells → (Step.run Spell.live done r).state.Drained) :
    Settled family (Step.run Spell.live spells r).state := by
  induction spells generalizing r with
  | nil => exact hr
  | cons p rest ih =>
    have hfirst : (p.live r).state.Drained := by
      have h := hdrained [p] (List.cons_prefix_cons.mpr ⟨rfl, List.nil_prefix⟩)
      rwa [Step.run_cons, Step.run_nil, Outcome.after_state] at h
    rw [Step.run_cons, Outcome.after_state]
    refine ih (fun q hq => hpolled q (List.mem_cons_of_mem p hq))
      (live_settled (hpolled p List.mem_cons_self) hr hfirst).1 fun done hdone => ?_
    have h := hdrained (p :: done) (List.cons_prefix_cons.mpr ⟨rfl, hdone⟩)
    rwa [Step.run_cons, Outcome.after_state] at h

end Spell

/-- The wiring when its parts were just made: nothing polled, nothing attached, nothing told. -/
def Wiring.fresh (sinks : Log.Sinks) (controller : Settings.Controller) (interval : Binary64) (config : Display.Config)
    (now : Binary64) (around : Surroundings) : Wiring :=
  ⟨⟨sinks, controller, ⟨interval, true, 0, []⟩, .fresh config now around⟩, []⟩

/-- If the interfaces of the host change only when everything that was told has come to the engine and was worked on, and
are polled before they change again, the engine knows whether the host is connected whenever the messages after a poll are
worked off, whatever else it was told and whether that poll told anything or not. -/
theorem connected_of_spells (sinks : Log.Sinks) (controller : Settings.Controller) (interval : Binary64)
    (config : Display.Config) (now : Binary64) (around : Surroundings) {family : Text → Family} (earlier : List Spell)
    (p : Spell) (hpolled : ∀ q ∈ earlier ++ [p], q.Polled family)
    (hdrained : ∀ spells, spells <+: earlier ++ [p] →
      (Step.run Spell.live spells (.fresh sinks controller interval config now around)).state.Drained) :
    let s := (Step.run Spell.live (earlier ++ [p]) (.fresh sinks controller interval config now around)).state.monitor
    s.engine.around.interfaces = p.interfaces ∧
      (isConnected s.engine.around.interfaces ()).result = .ok s.engine.connected := by
  have hfresh : Settled family (.fresh sinks controller interval config now around) :=
    ⟨fun _ => List.not_mem_nil, fun _ hl => absurd hl List.not_mem_nil, rfl⟩
  have hearlier := run_settled (fun q hq => hpolled q (List.mem_append_left [p] hq)) hfresh
    fun done hdone => hdrained done (hdone.trans (List.prefix_append earlier [p]))
  have hlast := hdrained (earlier ++ [p]) (List.prefix_refl _)
  have hp : p.Polled family := hpolled p (List.mem_append_right earlier List.mem_cons_self)
  rw [Step.run_concat_state] at hlast
  dsimp only
  rw [Step.run_concat_state]
  obtain ⟨hsettled, hinterfaces, hknown⟩ := live_settled hp hearlier hlast
  refine ⟨hinterfaces, ?_⟩
  rw [hinterfaces, Spell.interfaces, isConnected_of_named hp.named, hsettled.connected, hknown]
  rfl

/-- A host whose interfaces are all up and have one internet address each. -/
def hostWith (links : List (Text × Text)) (happenings : List Happening) : Spell where
  states := links.map fun l => (l.1, true)
  addresses := links.map fun l => (l.1, [⟨.inet, some l.2⟩])
  happenings

/-- A host gets an address that reaches a network; when the loopback comes up, a poll tells nothing. -/
def wanderingSpells : List Spell :=
  [hostWith [("eth0", "169.254.3.4")] [.engine (.post .attach), .poll true, .arrive, .engine .deliver, .engine .deliver,
      .engine .deliver],
    hostWith [("eth0", "192.0.2.7")] [.missed true (.host .accessDenied []), .poll true, .engine (.post .detach), .arrive,
      .engine .deliver, .engine .deliver, .engine .deliver],
    hostWith [("eth0", "192.0.2.7"), ("lo", "127.0.0.1")] [.engine (.message .attach), .poll true]]

def wanderingStart : Wiring :=
  .fresh ⟨false, none, false⟩ (.fresh (.fresh ⟨1, []⟩ (.within .root))) .zero .default .zero ⟨⟨.ok [], .ok []⟩, ⟨none, .ok []⟩⟩

theorem named_hostWith (links : List (Text × Text)) (happenings : List Happening) (h : ∀ l ∈ links, l.2 ≠ []) :
    ∀ entry ∈ (hostWith links happenings).addresses, Named (fun _ => .inet) entry.2 := by
  intro entry hentry a ha
  obtain ⟨l, hl, rfl⟩ := List.mem_map.mp hentry
  obtain rfl := List.mem_singleton.mp ha
  exact ⟨l.2, rfl, h l hl, rfl⟩

theorem polled_wanderingSpells : ∀ p ∈ wanderingSpells, p.Polled fun _ => .inet := by
  intro p hp
  obtain rfl | rfl | rfl : p = _ ∨ p = _ ∨ p = _ := by simpa [wanderingSpells] using hp
  · exact ⟨named_hostWith _ _ (by decide), by simp [hostWith, Happening.Neutral, Engine.Action.Neutral],
      true, by simp [hostWith]⟩
  · exact ⟨named_hostWith _ _ (by decide), by simp [hostWith, Happening.Neutral, Engine.Action.Neutral],
      true, by simp [hostWith]⟩
  · exact ⟨named_hostWith _ _ (by decide), by simp [hostWith, Happening.Neutral, Engine.Action.Neutral],
      true, by simp [hostWith]⟩

theorem drained_wanderingSpells {spells : List Spell} (h : spells <+: wanderingSpells) :
    (Step.run Spell.live spells wanderingStart).state.Drained := by
  have hlength : spells.length ≤ 3 := h.length_le
  rw [List.prefix_iff_eq_take.mp h]
  obtain hn | hn | hn | hn : spells.length = 0 ∨ spells.length = 1 ∨ spells.length = 2 ∨ spells.length = 3 := by omega
  all_goals
    rw [hn]
    exact ⟨by decide +kernel, by decide +kernel⟩

theorem connected_wanderingSpells :
    let s := (Step.run Spell.live wanderingSpells wanderingStart).state.monitor
    (∀ p ∈ wanderingSpells, p.Polled fun _ => .inet) ∧
      (∀ spells, spells <+: wanderingSpells → (Step.run Spell.live spells wanderingStart).state.Drained) ∧
        s.engine.connected = true ∧ (isConnected s.engine.around.interfaces ()).result = .ok true := by
  have hfresh := (connected_of_spells _ _ _ _ _ _ (wanderingSpells.take 2) _ polled_wanderingSpells
    fun _ => drained_wanderingSpells).2
  have hconnected : (Step.run Spell.live wanderingSpells wanderingStart).state.monitor.engine.connected = true := by
    decide +kernel
  exact ⟨polled_wanderingSpells, fun _ => drained_wanderingSpells, hconnected, hfresh.trans (congrArg Except.ok hconnected)⟩

end LinkMeter.Monitor
