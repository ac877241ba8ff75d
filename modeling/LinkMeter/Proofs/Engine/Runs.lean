import LinkMeter.Proofs.Engine.Handling

/-! # Runs of the engine

A run is a sequence of actions, the least things that can happen to an engine: a message is worked on at once or posted,
the oldest one that waits is delivered, the timer goes off, the clock moves, the surroundings change. Working off the
queue and letting time pass are made up of them (`pump_made`, `advance_made`), so what holds of all runs holds of those. -/

namespace LinkMeter.Engine
variable {σ : Type}

def Message.isTick : Message → Bool
  | .tick => true
  | _ => false

/-- The link that the message is about. -/
def Message.link? : Message → Option Link.Handle
  | .linkUpdated h _ | .linkLost h => some h
  | _ => none

/-- One thing that happens to an engine. -/
inductive Action (σ : Type) where
  /-- A message is worked on at once. -/
  | message (m : Message)
  | post (m : Message)
  /-- The oldest message in the queue is worked on. -/
  | deliver
  | expire
  /-- The clock of the timer shows another time. -/
  | clock (now : Binary64)
  | surround (f : σ → σ)
  | cleanup

/-- The message that comes to the engine in an action, at once or into the queue. -/
def Action.sends : Action σ → Option Message
  | .message m | .post m => some m
  | _ => none

/-- Takes the oldest message from the queue and works on it. -/
def deliver (c : Connections σ) : Act σ Unit := do
  match (← Step.get).queue with
  | [] => pure ()
  | m :: rest =>
    Step.modify fun e => { e with queue := rest }
    process c m

def perform (c : Connections σ) : Action σ → Act σ Unit
  | .message m => process c m
  | .post m => post m
  | .deliver => deliver c
  | .expire => expire
  | .clock now => .modify fun e => { e with now }
  | .surround f => .modify fun e => { e with around := f e.around }
  | .cleanup => cleanup

@[simp] theorem perform_deliver (c : Connections σ) (e : Engine σ) : perform c .deliver e = deliver c e := rfl

@[simp] theorem perform_expire (c : Connections σ) (e : Engine σ) : perform c .expire e = expire e := rfl

@[simp] theorem perform_cleanup (c : Connections σ) (e : Engine σ) : perform c .cleanup e = cleanup e := rfl

theorem deliver_nil {e : Engine σ} (c : Connections σ) (h : e.queue = []) : deliver c e = ⟨[], e, .ok ()⟩ := by
  unfold deliver
  rw [Step.get_bind, h]
  rfl

theorem deliver_cons {e : Engine σ} (c : Connections σ) {m : Message} {rest : List Message} (h : e.queue = m :: rest) :
    deliver c e = process c m { e with queue := rest } := by
  unfold deliver
  rw [Step.get_bind, h]
  rfl

theorem deliver_cases (c : Connections σ) (e : Engine σ) :
    (e.queue = [] ∧ deliver c e = ⟨[], e, .ok ()⟩) ∨
      ∃ m rest, e.queue = m :: rest ∧ deliver c e = process c m { e with queue := rest } := by
  cases h : e.queue with
  | nil => exact .inl ⟨rfl, deliver_nil c h⟩
  | cons m rest => exact .inr ⟨m, rest, rfl, deliver_cons c h⟩

theorem expire_apply (e : Engine σ) : expire e = ⟨[], { e with
    timer := e.timer.spent, queue := if e.timer.taken.isSome then e.queue ++ [.tick] else e.queue }, .ok ()⟩ := by
  unfold expire
  rw [Step.get_bind, Step.modify_bind]
  cases e.timer.taken <;> rfl

theorem cleanup_apply (e : Engine σ) : ∃ reports, Quiet reports ∧
    cleanup e = ⟨reports, { e with attached := false, timer := ⟨none, none, false⟩ }, .ok ()⟩ := by
  unfold cleanup
  rw [Step.modify_bind, cancelTimer_bind]
  have hcleanup : ∀ t : Timer Unit, ∃ notes, Timer.cleanup t = ⟨notes, ⟨none, none, false⟩, .ok ()⟩ := by
    intro t
    unfold Timer.cleanup
    rw [Step.get_bind, Step.set_bind]
    cases t.connected <;> exact ⟨_, rfl⟩
  obtain ⟨notes, hnotes⟩ := hcleanup e.timer.idle
  have honTimer : onTimer Timer.cleanup { e with attached := false, timer := e.timer.idle } =
      ⟨notes.map Report.record, { e with attached := false, timer := ⟨none, none, false⟩ }, .ok ()⟩ := by
    unfold onTimer
    rw [Step.zoom_apply, Step.relay_apply, hnotes]
  rw [Step.bind_of_eq_ok honTimer]
  exact ⟨_, (Quiet.records _).append ((Quiet.records notes).append (Quiet.records [_])), rfl⟩

/-- An engine with a table of counters, whose network can always be reached, and with the clock of its timer. -/
def onTable : Connections Rate.Table where
  counters := Rate.Table.source
  probe := pure true
  clock := id

/-! ## What time does -/

/-- The actions that happen by themselves when time passes. -/
inductive Action.Passing : Action σ → Prop where
  | deliver : Passing .deliver
  | expire : Passing .expire
  | clock (now : Binary64) : Passing (.clock now)

/-- The outcome is that of a run from `e` in which only time passes. It fails nowhere if the outcome is no fault. -/
def Made {α : Type} (c : Connections σ) (e : Engine σ) (o : Outcome Report (Engine σ) α) : Prop :=
  ∃ actions : List (Action σ), (∀ a ∈ actions, a.Passing) ∧ (Step.run (perform c) actions e).state = o.state ∧
    (Step.run (perform c) actions e).reports = o.reports ∧
    ((∃ a, o.result = .ok a) → Step.Unfailing (perform c) actions e)

section Made
variable {c : Connections σ} {e : Engine σ} {α β : Type}

theorem Made.nothing (r : Except Fault α) : Made c e ⟨[], e, r⟩ :=
  ⟨[], fun _ ha => absurd ha List.not_mem_nil, rfl, rfl, fun _ => trivial⟩

theorem Made.action {a : Action σ} (h : a.Passing) : Made c e (perform c a e) := by
  refine ⟨[a], fun b hb => ?_, ?_, ?_, ?_⟩
  · rw [List.mem_singleton.mp hb]
    exact h
  · rw [Step.run_cons, Step.run_nil, Outcome.after_state]
  · rw [Step.run_cons, Step.run_nil, Outcome.after_reports, List.append_nil]
  · rintro ⟨⟨⟩, hok⟩
    exact ⟨hok, trivial⟩

theorem Made.bind {m : Act σ α} {f : α → Act σ β} (hm : Made c e (m e))
    (hf : ∀ a, (m e).result = .ok a → Made c (m e).state (f a (m e).state)) : Made c e ((m >>= f) e) := by
  obtain ⟨actions, hpassing, hstate, hreports, hok⟩ := hm
  cases h : (m e).result with
  | error f =>
    rw [Step.bind_of_error h]
    refine ⟨actions, hpassing, hstate, hreports, ?_⟩
    rintro ⟨b, hb⟩
    cases hb
  | ok a =>
    -- The run of the second part goes on where that of the first one ended.
    obtain ⟨later, hlater, hstate', hreports', hok'⟩ := hf a h
    rw [Step.bind_of_ok h]
    refine ⟨actions ++ later, fun b hb => ?_, ?_, ?_, fun hb => ?_⟩
    · exact (List.mem_append.mp hb).elim (hpassing b) (hlater b)
    · rw [Step.run_append, Outcome.after_state, hstate, hstate', Outcome.after_state]
    · rw [Step.run_append, Outcome.after_reports, hstate, hreports, hreports', Outcome.after_reports]
    · rw [Step.unfailing_append, hstate]
      exact ⟨hok ⟨a, h⟩, hok' hb⟩

theorem pumpAll_made (c : Connections σ) (waiting : List Message) (e : Engine σ) (h : e.queue = waiting) :
    Made c e (pumpAll c waiting e) := by
  induction waiting generalizing e with
  | nil => exact .nothing (.ok ())
  | cons m rest ih =>
    have hdrop : e.queue.drop 1 = rest := by rw [h, List.drop_one, List.tail_cons]
    have hdeliver : process c m { e with queue := e.queue.drop 1 } = perform c .deliver e := by
      rw [hdrop]
      exact (deliver_cons c h).symm
    have hqueue : (perform c .deliver e).state.queue = rest := by
      rw [← hdeliver, hdrop]
      exact (process_kept c m _).queue
    unfold pumpAll
    rw [Step.modify_bind, Step.bind_of_eq hdeliver]
    exact (Made.action .deliver).bind fun _ _ => ih _ hqueue

theorem pump_made (c : Connections σ) (e : Engine σ) : Made c e (pump c e) := by
  unfold pump
  rw [Step.get_bind]
  exact (pumpAll_made c e.queue e rfl).bind fun _ _ => .nothing _

theorem expireUntil_made (c : Connections σ) (target : Binary64) (fuel : Nat) (e : Engine σ) :
    Made c e ((clockwork c).expireUntil target fuel e) := by
  induction fuel generalizing e with
  | zero => exact .nothing (.ok ())
  | succ fuel ih =>
    unfold Clockwork.expireUntil
    rw [Step.get_bind]
    cases (clockwork c).due e with
    | none => exact .nothing (.ok ())
    | some due =>
      dsimp only
      by_cases h : due.le target = true
      · rw [if_pos h]
        refine Made.bind (Made.action (.clock _)) fun _ _ => ?_
        refine Made.bind (Made.action .expire) fun _ _ => ?_
        refine Made.bind (Made.bind (pump_made c _) fun _ _ => .nothing _) fun _ _ => ?_
        exact ih _
      · rw [if_neg h]
        exact .nothing (.ok ())

/-- Letting time pass is a run of deliveries, expirations and moves of the clock. -/
theorem advance_made (c : Connections σ) (ms : Binary64) (e : Engine σ) : Made c e (advance c ms e) := by
  unfold advance Clockwork.advance
  rw [Step.get_bind]
  refine Made.bind (Made.bind (pump_made c e) fun _ _ => .nothing _) fun _ _ => ?_
  refine Made.bind (expireUntil_made c _ _ _) fun _ _ => ?_
  exact Made.action (.clock _)

end Made

end LinkMeter.Engine
