import LinkMeter.Proofs.Engine.Runs

/-! # The engine never goes idle

As long as nothing fails and the engine is not cleaned up, the timer runs exactly while there is something to sample for:
a pending tick means that the engine is live (`Steady`), and while it is live a tick is pending or waits in the queue
(`Wakeful`). A pending tick was armed with the interval of the configuration in force (`ArmedIn`). -/

namespace LinkMeter.Engine
variable {σ : Type}

/-! ## The invariant -/

/-- The timer runs only while the engine is live, its callback asks for a tick, and the sampler knows the interval. -/
structure Steady (e : Engine σ) : Prop where
  connected : e.timer.connected = true
  callback : e.timer.isPending = true → e.timer.callback = some ()
  live : e.timer.isPending = true → e.isLive = true
  interval : e.sampler.interval = e.config.intervalMs

/-- While the engine is live a tick is to come. -/
def Wakeful (e : Engine σ) : Prop := e.isLive = true → e.timer.isPending = true ∨ .tick ∈ e.queue

theorem Steady.fresh (config : Display.Config) (now : Binary64) (around : σ) : Steady (fresh config now around) :=
  ⟨rfl, nofun, nofun, rfl⟩

theorem Wakeful.fresh (config : Display.Config) (now : Binary64) (around : σ) : Wakeful (fresh config now around) := by
  intro h
  rw [isLive_of_asleep rfl] at h
  cases h

theorem Steady.shown {e : Engine σ} (hconnected : e.timer.connected = true)
    (hinterval : e.sampler.interval = e.config.intervalMs) (d : Display.Decision) :
    Steady { e with shown := some d, timer := e.rearmed } where
  connected := e.rearmed_connected.trans hconnected
  callback h := by
    have hlive : e.isLive = true := e.isPending_rearmed.symm.trans h
    show e.rearmed.callback = some ()
    unfold rearmed
    rw [if_pos hlive]
    rfl
  live h := e.isPending_rearmed.symm.trans h
  interval := hinterval

theorem Wakeful.shown (e : Engine σ) (d : Display.Decision) : Wakeful { e with shown := some d, timer := e.rearmed } :=
  fun h => .inl (e.isPending_rearmed.trans h)

/-! ## What a message does to it -/

section Messages
variable {c : Connections σ} {e e₁ e' : Engine σ} {m : Message} {r : Except Fault Unit}

theorem sampling_interval (c : Connections σ) (e : Engine σ) : (sampling c e).state.1.interval = e.sampler.interval := by
  unfold sampling
  exact (Rate.Sampler.tick_keeps _ _ _ _).1

theorem Prepared.interval (h : Prepared c e m e₁) (he : e.sampler.interval = e.config.intervalMs) :
    e₁.sampler.interval = e₁.config.intervalMs := by
  cases h with
  | tick _ _ hp =>
    have hinterval := sampling_interval c e
    rw [hp] at hinterval
    exact hinterval.trans he
  | configChanged config => exact rfl
  | _ => exact he

theorem Aside.steady (h : Aside c e m e' (.ok ())) (he : Steady e) : Steady e' := by
  cases h with
  | tickDropped _ => exact he
  | linkUpdated _ _ => exact ⟨he.connected, he.callback, he.live, he.interval⟩
  | linkLost _ => exact ⟨he.connected, he.callback, he.live, he.interval⟩
  | screenOff _ => exact ⟨he.connected, nofun, nofun, he.interval⟩

theorem Aside.wakeful (h : Aside c e m e' (.ok ())) (he : m = .tick ∨ Wakeful e) : Wakeful e' := by
  have hwakeful : m ≠ .tick → Wakeful e := fun hm => he.resolve_left hm
  cases h with
  | tickDropped hasleep =>
    intro hlive
    rw [isLive_of_asleep hasleep] at hlive
    cases hlive
  | linkUpdated _ _ => exact hwakeful nofun
  | linkLost _ => exact hwakeful nofun
  | screenOff _ =>
    intro hlive
    obtain ⟨-, hscreen, -⟩ := isLive_iff.mp hlive
    cases hscreen

theorem decision_of_display (h : (display e).result = .ok ()) : ∃ d, e.decision = .ok d := by
  cases hd : e.decision with
  | error f =>
    rw [display_of_error hd] at h
    cases h
  | ok d => exact ⟨d, rfl⟩

/-- A message that does not fail ends in a new decision and a timer set for it, or is an aside. -/
theorem process_ok (c : Connections σ) (m : Message) (e : Engine σ) (h : (process c m e).result = .ok ()) :
    (∃ e₁ d, Prepared c e m e₁ ∧ e₁.decision = .ok d ∧
      (process c m e).state = { e₁ with shown := some d, timer := e₁.rearmed }) ∨
      Aside c e m (process c m e).state (.ok ()) := by
  cases process_handled c m e with
  | @shown e₁ reports hprepared _ ho =>
    rw [ho] at h
    obtain ⟨d, hd⟩ := decision_of_display h
    refine .inl ⟨e₁, d, hprepared, hd, ?_⟩
    rw [ho, display_of_ok hd]
    rfl
  | @aside e' r reports haside _ ho =>
    rw [ho] at h ⊢
    cases h
    exact .inr haside

theorem process_steady (he : Steady e) (h : (process c m e).result = .ok ()) : Steady (process c m e).state := by
  rcases process_ok c m e h with ⟨e₁, d, hprepared, -, hstate⟩ | haside
  · rw [hstate]
    exact .shown (hprepared.kept.connected.trans he.connected) (hprepared.interval he.interval) d
  · exact haside.steady he

/-- A tick is made up for by a decision, so it may be taken from the queue. -/
theorem process_wakeful (he : m = .tick ∨ Wakeful e) (h : (process c m e).result = .ok ()) :
    Wakeful (process c m e).state := by
  rcases process_ok c m e h with ⟨e₁, d, -, -, hstate⟩ | haside
  · rw [hstate]
    exact .shown e₁ d
  · exact haside.wakeful he

end Messages

/-! ## What an action does to it -/

section Actions
variable {c : Connections σ} {e : Engine σ} {a : Action σ}

theorem Steady.spent (he : Steady e) : e.timer.spent = e.timer.idle ∧ e.timer.taken = e.timer.callback := by
  unfold Timer.spent Timer.taken
  rw [he.connected, if_pos rfl, if_pos rfl]
  exact ⟨rfl, rfl⟩

theorem perform_steady (he : Steady e) (ha : a ≠ .cleanup) (h : (perform c a e).result = .ok ()) :
    Steady (perform c a e).state := by
  cases a with
  | message m => exact process_steady he h
  | post m => exact ⟨he.connected, he.callback, he.live, he.interval⟩
  | deliver =>
    rw [perform_deliver] at h ⊢
    rcases deliver_cases c e with ⟨-, heq⟩ | ⟨m, rest, -, heq⟩
    · rw [heq]
      exact he
    · rw [heq] at h ⊢
      exact process_steady ⟨he.connected, he.callback, he.live, he.interval⟩ h
  | expire =>
    rw [perform_expire, expire_apply, he.spent.1]
    exact ⟨he.connected, nofun, nofun, he.interval⟩
  | clock now => exact ⟨he.connected, he.callback, he.live, he.interval⟩
  | surround f => exact ⟨he.connected, he.callback, he.live, he.interval⟩
  | cleanup => exact absurd rfl ha

theorem perform_wakeful (he : Steady e) (hwakeful : Wakeful e) (ha : a ≠ .cleanup)
    (h : (perform c a e).result = .ok ()) : Wakeful (perform c a e).state := by
  cases a with
  | message m => exact process_wakeful (.inr hwakeful) h
  | post m => exact fun hlive => (hwakeful hlive).imp_right fun hmem => List.mem_append_left [m] hmem
  | deliver =>
    rw [perform_deliver] at h ⊢
    rcases deliver_cases c e with ⟨-, heq⟩ | ⟨m, rest, hqueue, heq⟩
    · rw [heq]
      exact hwakeful
    · -- A tick that leaves the queue is made up for by its decision; any other message leaves the ticks in it.
      rw [heq] at h ⊢
      refine process_wakeful ?_ h
      rcases Classical.em (m = .tick) with htick | hother
      · exact .inl htick
      · refine .inr fun hlive => (hwakeful hlive).imp_right fun hmem => ?_
        rw [hqueue] at hmem
        exact (List.mem_cons.mp hmem).resolve_left (Ne.symm hother)
  | expire =>
    -- The tick moves from the timer to the queue.
    rw [perform_expire, expire_apply, he.spent.2]
    intro hlive
    refine .inr ?_
    dsimp only
    rcases hwakeful hlive with hpending | hmem
    · rw [he.callback hpending, Option.isSome_some, if_pos rfl]
      exact List.mem_append_right _ List.mem_cons_self
    · split
      · exact List.mem_append_left _ hmem
      · exact hmem
  | clock now => exact hwakeful
  | surround f => exact hwakeful
  | cleanup => exact absurd rfl ha

end Actions

/-! ## How a pending tick was armed -/

/-- A timer was armed in one of the actions, by a delay of `ms` milliseconds after the clock at that action, and stayed
as it was in all actions after it. -/
def ArmedIn (c : Connections σ) (e : Engine σ) (actions : List (Action σ)) (ms : Int) (t : Timer Unit) : Prop :=
  ∃ before a later delay, actions = before ++ a :: later ∧ Binary64.ofInt ms = .ok delay ∧
    t = (Step.run (perform c) before e).state.timer.armed
      ((Step.run (perform c) before e).state.now.add delay) () ∧
    ∀ part, part <+: later → (Step.run (perform c) (before ++ a :: part) e).state.timer = t

section Armed
variable {c : Connections σ} {e : Engine σ} {actions : List (Action σ)} {a : Action σ}

theorem ArmedIn.concat {ms : Int} {t : Timer Unit} (h : ArmedIn c e actions ms t)
    (ha : (Step.run (perform c) (actions ++ [a]) e).state.timer = t) : ArmedIn c e (actions ++ [a]) ms t := by
  obtain ⟨before, b, later, delay, rfl, hdelay, ht, hsince⟩ := h
  refine ⟨before, b, later ++ [a], delay, by rw [List.append_assoc]; rfl, hdelay, ht, fun part hpart => ?_⟩
  rcases List.prefix_concat_iff.mp hpart with rfl | hpart
  · rw [List.append_assoc] at ha
    exact ha
  · exact hsince part hpart

theorem ArmedIn.last (config : Display.Config)
    (ha : (Step.run (perform c) (actions ++ [a]) e).state.timer = (Step.run (perform c) actions e).state.timer.armed
      ((Step.run (perform c) actions e).state.now.add config.delay) ()) :
    ArmedIn c e (actions ++ [a]) config.intervalMs (Step.run (perform c) (actions ++ [a]) e).state.timer := by
  refine ⟨actions, a, [], config.delay, rfl, config.ofInt_intervalMs, ha, fun part hpart => ?_⟩
  rw [List.prefix_nil.mp hpart]

/-- What an action may do to a timer that runs afterwards: it leaves it alone, with the configuration, or arms it anew. -/
def Rearms (e e' : Engine σ) : Prop :=
  e'.timer.isPending = true →
    (e'.timer = e.timer ∧ e'.config = e.config) ∨ e'.timer = e.timer.armed (e.now.add e'.config.delay) ()

theorem process_rearms {c : Connections σ} {m : Message} {e : Engine σ} (h : (process c m e).result = .ok ()) :
    Rearms e (process c m e).state := by
  rcases process_ok c m e h with ⟨e₁, d, hprepared, -, hstate⟩ | haside
  · rw [hstate]
    intro hpending
    refine .inr ?_
    have hlive : e₁.isLive = true := e₁.isPending_rearmed.symm.trans hpending
    obtain ⟨-, hnow, hconnected⟩ := hprepared.kept
    show e₁.rearmed = e.timer.armed (e.now.add e₁.config.delay) ()
    unfold rearmed Timer.armed
    rw [if_pos hlive, hnow, hconnected]
  · intro hpending
    generalize (process c m e).state = e' at haside hpending ⊢
    cases haside with
    | screenOff _ => cases hpending
    | _ => exact .inl ⟨rfl, rfl⟩

theorem perform_rearms (he : Steady e) (ha : a ≠ .cleanup) (h : (perform c a e).result = .ok ()) :
    Rearms e (perform c a e).state := by
  cases a with
  | message m => exact process_rearms h
  | deliver =>
    rw [perform_deliver] at h ⊢
    rcases deliver_cases c e with ⟨-, heq⟩ | ⟨m, rest, -, heq⟩
    · rw [heq]
      exact fun _ => .inl ⟨rfl, rfl⟩
    · rw [heq] at h ⊢
      exact process_rearms h
  | expire =>
    rw [perform_expire, expire_apply, he.spent.1]
    exact nofun
  | cleanup => exact absurd rfl ha
  | _ => exact fun _ => .inl ⟨rfl, rfl⟩

end Armed

/-! ## Runs -/

/-- What holds of an engine that came from `e₀` by the given actions. -/
structure Ticking (c : Connections σ) (e₀ : Engine σ) (actions : List (Action σ)) (e : Engine σ) : Prop where
  steady : Steady e
  wakeful : Wakeful e
  armed : e.timer.isPending = true → ArmedIn c e₀ actions e.config.intervalMs e.timer

theorem Ticking.concat {c : Connections σ} {e₀ : Engine σ} {actions : List (Action σ)} {a : Action σ}
    (h : Ticking c e₀ actions (Step.run (perform c) actions e₀).state) (ha : a ≠ .cleanup)
    (hok : (perform c a (Step.run (perform c) actions e₀).state).result = .ok ()) :
    Ticking c e₀ (actions ++ [a]) (Step.run (perform c) (actions ++ [a]) e₀).state where
  steady := by
    rw [Step.run_concat_state]
    exact perform_steady h.steady ha hok
  wakeful := by
    rw [Step.run_concat_state]
    exact perform_wakeful h.steady h.wakeful ha hok
  armed hpending := by
    have hrearms := perform_rearms h.steady ha hok
    rw [← Step.run_concat_state] at hrearms
    -- A timer that was left alone was armed by an earlier action, for a configuration that has not changed since.
    rcases hrearms hpending with ⟨htimer, hconfig⟩ | htimer
    · have harmed := h.armed (by rw [← htimer]; exact hpending)
      rw [htimer, hconfig]
      exact harmed.concat htimer
    · exact .last _ htimer

/-- In every run of a fresh engine in which nothing fails and which is not cleaned up: a pending tick means that a surface
is attached, the screen is on, a network can be reached and the mode reports something; if all four hold, a tick is
pending or waits in the queue; and the interval of the sampler is that of the configuration, by which a pending tick was
armed, and which the timer never refuses. -/
theorem ticking_of_run (c : Connections σ) (config : Display.Config) (start : Binary64) (around : σ)
    {actions : List (Action σ)} (hok : Step.Unfailing (perform c) actions (fresh config start around))
    (hcleanup : .cleanup ∉ actions) :
    let e := (Step.run (perform c) actions (fresh config start around)).state
    (e.timer.isPending = true →
      e.attached = true ∧ e.screenOn = true ∧ e.connected = true ∧ e.config.mode ≠ .disabled) ∧
    (e.attached = true → e.screenOn = true → e.connected = true → e.config.mode ≠ .disabled →
      e.timer.isPending = true ∨ .tick ∈ e.queue) ∧
    e.sampler.interval = e.config.intervalMs ∧
    (e.timer.isPending = true → ArmedIn c (fresh config start around) actions e.config.intervalMs e.timer) ∧
    ∀ now t, (Timer.schedule now (.int e.config.intervalMs) () t).result = .ok () := by
  intro e
  have hticking : Ticking c (fresh config start around) actions e := by
    refine hok.keeps (I := Ticking c (fresh config start around)) ?_ ?_
    · exact ⟨.fresh config start around, .fresh config start around, nofun⟩
    · intro done a ha hdone hresult
      exact hdone.concat (fun h => hcleanup (h ▸ ha)) hresult
  refine ⟨fun h => isLive_iff.mp (hticking.steady.live h), ?_, hticking.steady.interval, hticking.armed, ?_⟩
  · intro hattached hscreen hconnected hmode
    exact hticking.wakeful (isLive_iff.mpr ⟨hattached, hscreen, hconnected, hmode⟩)
  · intro now t
    have hmem := e.config.intervalMs_mem
    rw [Timer.schedule_apply (by omega) e.config.ofInt_intervalMs]

/-- A surface is attached, a tick goes off and is worked on, and the screen goes off and on again. -/
def tickingActions : List (Action Rate.Table) :=
  [.post .attach, .deliver, .clock (.ofRatio false 2000 1), .expire, .deliver, .message (.screenChanged true true),
    .message (.screenChanged true false)]

/-- The tick that is pending afterwards was armed with the two seconds of the configuration. -/
theorem ticking_tickingActions :
    Step.Unfailing (perform onTable) tickingActions (fresh .default .zero {}) ∧
      ArmedIn onTable (fresh .default .zero {}) tickingActions 2000
        (Step.run (perform onTable) tickingActions (fresh .default .zero {})).state.timer := by
  have hok : Step.Unfailing (perform onTable) tickingActions (fresh .default .zero {}) := by decide +kernel
  have hconfig : (Step.run (perform onTable) tickingActions (fresh .default .zero {})).state.config.intervalMs = 2000 := by
    decide +kernel
  have hpending : (Step.run (perform onTable) tickingActions (fresh .default .zero {})).state.timer.isPending = true := by
    decide +kernel
  refine ⟨hok, ?_⟩
  rw [← hconfig]
  exact (ticking_of_run onTable .default .zero {} hok (by simp [tickingActions])).2.2.2.1 hpending

end LinkMeter.Engine
