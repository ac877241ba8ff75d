import LinkMeter.Monitor.Basic
import LinkMeter.Proofs.Engine.Runs
import LinkMeter.Proofs.Host.Polling

/-! # From the watcher to the engine

What the watcher tells does not come to the engine at once: it is under way for a while, and other things may happen to
the engine before it arrives. A poll of the monitor is the case in which nothing else happens (`poll_made`). -/

namespace LinkMeter

/-- Whether an event is about a link. -/
def Host.Event.isLink : Event → Bool
  | .updated _ | .lost _ => true
  | .failed _ => false

namespace Monitor

/-- The monitor, and what the watcher told that has not come to the engine yet, the oldest first. -/
structure Wiring where
  monitor : Monitor
  told : List Host.Event

/-- One thing that happens between the watcher and the engine. -/
inductive Happening where
  | engine (a : Engine.Action Surroundings)
  /-- The oldest event that is under way comes to the engine. -/
  | arrive
  /-- The watcher polls the interfaces. -/
  | poll (counted : Bool)
  /-- The watcher polls the interfaces, but the host does not answer. -/
  | missed (counted : Bool) (e : Fault)

namespace Wiring

def onMonitor {α : Type} (m : Logged Monitor α) : Logged Wiring α := .zoom monitor (fun s r => { r with monitor := s }) m

/-- Makes a step of the watcher. What it tells is under way then. -/
def watch (m : Step Host.Sighting Host.Watcher Unit) : Logged Wiring Unit := do
  let (events, result) ← onMonitor (onWatcher m)
  Step.modify fun r => { r with told := r.told ++ events }
  Step.lift result

/-- Lets the oldest event that is under way come to the engine. -/
def arrive : Logged Wiring Unit := do
  match (← Step.get).told with
  | [] => pure ()
  | event :: rest =>
    Step.modify fun r => { r with told := rest }
    onMonitor (react event)

def happen : Happening → Logged Wiring Unit
  | .engine a => onMonitor (onEngine (Engine.perform connections a))
  | .arrive => arrive
  | .poll counted => do watch (Host.Watcher.polling counted (← Step.get).monitor.engine.around.interfaces)
  | .missed counted e => watch (Host.Watcher.polling counted ⟨.error e, .error e⟩)

theorem watch_state (m : Step Host.Sighting Host.Watcher Unit) (r : Wiring) :
    (watch m r).state = ⟨{ r.monitor with watcher := (m r.monitor.watcher).state },
      r.told ++ Host.eventsOf (m r.monitor.watcher).reports⟩ := rfl

theorem happen_engine (a : Engine.Action Surroundings) (r : Wiring) : (happen (.engine a) r).state =
    { r with monitor := { r.monitor with engine := (Engine.perform connections a r.monitor.engine).state } } := rfl

theorem arrive_nil {r : Wiring} (h : r.told = []) : (arrive r).state = r := by
  unfold arrive
  rw [Step.get_bind, h]
  rfl

theorem arrive_cons {r : Wiring} {event : Host.Event} {rest : List Host.Event} (h : r.told = event :: rest) :
    (arrive r).state = ⟨(react event r.monitor).state, rest⟩ := by
  unfold arrive
  rw [Step.get_bind, h]
  rfl

/-- What an event makes of the messages that wait. -/
theorem react_state (event : Host.Event) (s : Monitor) : ∃ messages,
    (react event s).state = { s with engine := { s.engine with queue := s.engine.queue ++ messages } } ∧
      (∀ b, .connectivityChanged (some b) ∉ messages) ∧ (event.isLink = true → .connectivityChanged none ∈ messages) := by
  cases event with
  | updated name =>
    refine ⟨[.linkUpdated (.named name) (some name), .connectivityChanged none], ?_, by simp, by simp⟩
    show _ = ({ s with engine := { s.engine with queue := s.engine.queue ++ _ } } : Monitor)
    rw [List.append_cons]
    rfl
  | lost name =>
    refine ⟨[.linkLost (.named name), .connectivityChanged none], ?_, by simp, by simp⟩
    show _ = ({ s with engine := { s.engine with queue := s.engine.queue ++ _ } } : Monitor)
    rw [List.append_cons]
    rfl
  | failed message =>
    refine ⟨[], ?_, by simp, nofun⟩
    rw [List.append_nil]
    rfl

theorem react_result (event : Host.Event) (s : Monitor) : (react event s).result = .ok () := by
  cases event <;> rfl

/-! ## A poll of the monitor -/

theorem run_arrive (events : List Host.Event) (s : Monitor) :
    (Step.run happen (List.replicate events.length .arrive) ⟨s, events⟩).state =
      ⟨(Step.each react events s).state, []⟩ := by
  induction events generalizing s with
  | nil => rfl
  | cons event rest ih =>
    rw [List.length_cons, List.replicate_succ, Step.run_cons, Outcome.after_state]
    show (Step.run happen _ (arrive ⟨s, event :: rest⟩).state).state = ⟨((react event >>= fun _ =>
      Step.each react rest) s).state, []⟩
    rw [arrive_cons rfl, ih, Step.bind_of_ok (react_result event s), Outcome.after_state]

theorem run_engine (actions : List (Engine.Action Surroundings)) (r : Wiring) :
    (Step.run happen (actions.map .engine) r).state = { r with monitor := { r.monitor with
      engine := (Step.run (Engine.perform connections) actions r.monitor.engine).state } } := by
  induction actions generalizing r with
  | nil => rfl
  | cons a rest ih =>
    rw [List.map_cons, Step.run_cons, Step.run_cons, Outcome.after_state, Outcome.after_state, ih, happen_engine]

theorem drain_state (s : Monitor) :
    (drain s).state = { s with engine := (Engine.pump connections s.engine).state } := by
  unfold drain onEngine
  rw [Step.zoom_apply, Step.relay_apply]
  have hpump : (do let _ ← Engine.pump connections : Engine.Act Surroundings Unit) s.engine =
      (Engine.pump connections s.engine).map fun _ => () := Step.map_apply (fun _ => ()) _ s.engine
  rw [hpump]
  rfl

/-- What happens by itself when the watcher polls. -/
inductive Ensuing (counted : Bool) : Happening → Prop where
  | poll : Ensuing counted (.poll counted)
  | arrive : Ensuing counted .arrive
  | engine {a : Engine.Action Surroundings} (h : a.Passing) : Ensuing counted (.engine a)

/-- When the monitor polls, what the watcher tells comes to the engine, which then works off its messages. -/
theorem poll_made (counted : Bool) (s : Monitor) : ∃ happenings, (∀ h ∈ happenings, Ensuing counted h) ∧
    (Step.run happen happenings ⟨s, []⟩).state =
      ⟨(if counted then tryPoll s else Monitor.poll s).state, []⟩ := by
  have hpoll : (if counted then tryPoll s else Monitor.poll s) =
      Monitor.watch (Host.Watcher.polling counted s.engine.around.interfaces) s := by cases counted <;> rfl
  rw [hpoll]
  generalize hm : Host.Watcher.polling counted s.engine.around.interfaces = m
  generalize hevents : Host.eventsOf (m s.watcher).reports = events
  generalize hpolled : ({ s with watcher := (m s.watcher).state } : Monitor) = polled
  have hfirst : (happen (.poll counted) ⟨s, []⟩).state = ⟨polled, events⟩ := by
    show (watch (Host.Watcher.polling counted s.engine.around.interfaces) ⟨s, []⟩).state = _
    rw [hm, watch_state, hevents, hpolled, List.nil_append]
  have harrived : (Step.run happen (.poll counted :: List.replicate events.length .arrive) ⟨s, []⟩).state =
      ⟨(Step.each react events polled).state, []⟩ := by
    rw [Step.run_cons, Outcome.after_state, hfirst, run_arrive]
  have hensuing : ∀ h ∈ .poll counted :: List.replicate events.length .arrive, Ensuing counted h := by
    intro h hmem
    rcases List.mem_cons.mp hmem with rfl | hmem
    · exact .poll
    · rw [List.eq_of_mem_replicate hmem]
      exact .arrive
  have hwatch : (Monitor.watch m s).state = ((Step.each react events >>= fun _ =>
      Step.lift (m s.watcher).result >>= fun _ => drain : Logged Monitor Unit) polled).state := by
    subst hpolled hevents
    unfold Monitor.watch
    rw [Step.bind_of_ok (m := onWatcher m) rfl]
    rfl
  rw [hwatch, Step.bind_of_ok (Step.each_result react_result events polled), Outcome.after_state]
  cases (m s.watcher).result with
  | error e => exact ⟨_, hensuing, harrived⟩
  | ok _ =>
    obtain ⟨actions, hpassing, hstate, -⟩ :=
      Engine.pump_made connections (Step.each react events polled).state.engine
    refine ⟨.poll counted :: List.replicate events.length .arrive ++ actions.map .engine, ?_, ?_⟩
    · intro h hmem
      rcases List.mem_append.mp hmem with hmem | hmem
      · exact hensuing h hmem
      · obtain ⟨a, ha, rfl⟩ := List.mem_map.mp hmem
        exact .engine (hpassing a ha)
    · rw [Step.run_append, Outcome.after_state, harrived, run_engine, hstate, Step.lift_ok_bind, drain_state]

end Wiring
end Monitor
end LinkMeter
