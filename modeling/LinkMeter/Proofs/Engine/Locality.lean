import LinkMeter.Proofs.Engine.Runs

/-! # What the handlers leave out of account

No handler looks at the messages that wait, and none but that of a tick looks at the links, so the queue and the links may
be changed before a message is worked on or after it. That is why messages may be posted first and worked off later. -/

namespace LinkMeter

/-! ## The sampler -/

namespace Rate.Sampler
variable {σ : Type}

/-- The sampler with its links changed. -/
def withLinks (r : Link.Registry → Link.Registry) (s : Sampler) : Sampler := { s with registry := r s.registry }

theorem setInterval_ignores (r : Link.Registry → Link.Registry) (ms : Int) :
    Step.Ignores (withLinks r) (setInterval ms) := by
  refine Step.Ignores.get_bind fun s => ?_
  show (if ms ≠ s.interval then _ else _ : Logged Sampler Unit) _ = _
  by_cases h : ms ≠ s.interval
  · rw [if_pos h, if_pos h]
    rfl
  · rw [if_neg h, if_neg h]
    rfl

/-- A tick sees of the links only their interfaces and whether they changed. -/
theorem tick_withLinks (source : Source σ) (now : Binary64) {r : Link.Registry → Link.Registry} {s : Sampler}
    (hnames : (r s.registry).names = s.registry.names) (hchanged : (r s.registry).changed = s.registry.changed)
    (hsettled : r s.registry.settled = (r s.registry).settled) (w : σ) :
    tick source now (s.withLinks r, w) = (tick source now (s, w)).onState (Prod.map (withLinks r) id) := by
  have hearly : (s.withLinks r).isEarly now = s.isEarly now := rfl
  rw [tick_eq, tick_eq, hearly]
  rcases s.isEarly now with f | _ | _
  · rfl
  · show settle _ now (totals source (r s.registry).names w) = _
    rw [hnames]
    generalize totals source s.registry.names w = o
    unfold settle
    rcases o with ⟨reports, w', f | traffic⟩
    · rfl
    · have hbaseline : (s.withLinks r).baseline = s.baseline := rfl
      have hregistry : (s.withLinks r).registry = r s.registry := rfl
      dsimp only
      rw [hbaseline, hregistry, hchanged]
      cases effect s.registry.changed (now.sub s.baseline.time) (traffic - s.baseline.traffic) with
      | error f => rfl
      | ok e =>
        have hnext : (s.withLinks r).sampled e traffic now = (s.sampled e traffic now).withLinks r := by
          unfold sampled withLinks
          rw [hsettled]
        dsimp only
        rw [hnext]
        rfl
  · rfl

end Rate.Sampler

namespace Engine
variable {σ : Type}

/-- The engine with its queue and its links changed. -/
def rearranged (q : List Message → List Message) (r : Link.Registry → Link.Registry) (e : Engine σ) : Engine σ :=
  { e with queue := q e.queue, sampler := e.sampler.withLinks r }

/-! ## Handlers -/

section Handlers
variable (q : List Message → List Message) (r : Link.Registry → Link.Registry) (c : Connections σ)

theorem note_ignores (level : Log.Level) (parts : List Text) :
    Step.Ignores (rearranged q r) (note level parts : Act σ Unit) := fun _ => rfl

theorem cancelTimer_ignores : Step.Ignores (rearranged q r) (onTimer Timer.cancel : Act σ Unit) := fun _ => rfl

theorem setInterval_ignores (ms : Int) :
    Step.Ignores (rearranged q r) (onSampler (Rate.Sampler.setInterval ms) : Act σ Unit) := by
  intro e
  unfold onSampler
  rw [Step.zoom_apply, Step.zoom_apply, Step.relay_apply, Step.relay_apply]
  have hsame := Rate.Sampler.setInterval_ignores r ms e.sampler
  show (⟨_, { rearranged q r e with sampler := (Rate.Sampler.setInterval ms (e.sampler.withLinks r)).state }, _⟩ :
    Outcome Report (Engine σ) Unit) = _
  unfold rearranged Outcome.onState
  rw [hsame]
  rfl

theorem query_ignores : Step.Ignores (rearranged q r) (query c) := by
  have hask : Step.Ignores (rearranged q r) (ask c) := by
    refine Step.Ignores.bind (fun _ => rfl) fun answer => ?_
    cases answer with
    | ok available => exact fun _ => rfl
    | error f => exact fun _ => rfl
  exact hask.bind fun available _ => rfl

theorem display_ignores : Step.Ignores (rearranged q r) (display : Act σ Unit) := by
  intro e
  cases h : e.decision with
  | error f =>
    have h' : (rearranged q r e).decision = .error f := h
    rw [display_of_error h, display_of_error h']
    rfl
  | ok d =>
    have h' : (rearranged q r e).decision = .ok d := h
    rw [display_of_ok h, display_of_ok h']
    rfl

theorem handleConfig_ignores (config : Display.Config) : Step.Ignores (rearranged q r) (handleConfig c config) := by
  unfold handleConfig
  refine Step.Ignores.bind (fun _ => rfl) fun _ => ?_
  refine (setInterval_ignores q r _).bind fun _ => ?_
  refine (query_ignores q r c).bind fun _ => ?_
  exact (note_ignores q r _ _).bind fun _ => display_ignores q r

theorem handleConnectivity_ignores (available : Option Bool) :
    Step.Ignores (rearranged q r) (handleConnectivity c available) := by
  have hrest : Step.Ignores (rearranged q r) (do
      note .debug ["Connectivity changed: available=", Json.Value.boolText (← Step.get).connected]
      display : Act σ Unit) :=
    Step.Ignores.get_bind fun e => (note_ignores q r _ _).bind (fun _ => display_ignores q r) e
  unfold handleConnectivity
  cases available with
  | some available => exact Step.Ignores.bind (fun _ => rfl) fun _ => hrest
  | none => exact (query_ignores q r c).bind fun _ => hrest

theorem handleScreen_ignores (on dozing : Bool) : Step.Ignores (rearranged q r) (handleScreen c on dozing) := by
  unfold handleScreen
  refine Step.Ignores.bind (fun _ => rfl) fun _ => ?_
  split
  · refine (note_ignores q r _ _).bind fun _ => ?_
    exact (query_ignores q r c).bind fun _ => display_ignores q r
  · exact (note_ignores q r _ _).bind fun _ => cancelTimer_ignores q r

theorem handleAttach_ignores : Step.Ignores (rearranged q r) (handleAttach c) := by
  unfold handleAttach
  refine Step.Ignores.bind (fun _ => rfl) fun _ => ?_
  refine (query_ignores q r c).bind fun _ => ?_
  exact (note_ignores q r _ _).bind fun _ => display_ignores q r

theorem handleDetach_ignores : Step.Ignores (rearranged q r) (handleDetach : Act σ Unit) := by
  unfold handleDetach
  refine Step.Ignores.bind (fun _ => rfl) fun _ => ?_
  refine (cancelTimer_ignores q r).bind fun _ => ?_
  exact (note_ignores q r _ _).bind fun _ => display_ignores q r

/-- No message but a tick and those about links has to do with the queue or the links. -/
theorem process_ignores {m : Message} (htick : m.isTick = false) (hlink : m.link? = none) :
    Step.Ignores (rearranged q r) (process c m) := by
  unfold process
  refine (note_ignores q r _ _).bind fun _ => ?_
  cases m with
  | tick => cases htick
  | updateView => exact display_ignores q r
  | linkUpdated h name => cases hlink
  | linkLost h => cases hlink
  | configChanged config => exact handleConfig_ignores q r c config
  | connectivityChanged available => exact handleConnectivity_ignores q r c available
  | screenChanged on dozing => exact handleScreen_ignores q r c on dozing
  | attach => exact handleAttach_ignores q r c
  | detach => exact handleDetach_ignores q r

section Tick
variable {q : List Message → List Message} {r : Link.Registry → Link.Registry} {c : Connections σ} {e : Engine σ}

theorem sampling_rearranged (hnames : (r e.sampler.registry).names = e.sampler.registry.names)
    (hchanged : (r e.sampler.registry).changed = e.sampler.registry.changed)
    (hsettled : r e.sampler.registry.settled = (r e.sampler.registry).settled) :
    sampling c (rearranged q r e) = (sampling c e).onState (Prod.map (Rate.Sampler.withLinks r) id) := by
  unfold sampling
  exact Rate.Sampler.tick_withLinks c.counters (c.clock e.now) hnames hchanged hsettled e.around

theorem sample_rearranged
    (h : sampling c (rearranged q r e) = (sampling c e).onState (Prod.map (Rate.Sampler.withLinks r) id)) :
    sample c (rearranged q r e) = (sample c e).onState (rearranged q r) := by
  have hresampled : ∀ p : Rate.Sampler × σ, (rearranged q r e).resampled (Prod.map (Rate.Sampler.withLinks r) id p) =
      rearranged q r (e.resampled p) := fun _ => rfl
  rw [sample_apply, h, sample_apply, Outcome.onState_reports, Outcome.onState_state, Outcome.onState_result, hresampled,
    Outcome.onState_mk]

theorem handleTick_rearranged (h : sample c (rearranged q r e) = (sample c e).onState (rearranged q r)) :
    handleTick c (rearranged q r e) = (handleTick c e).onState (rearranged q r) := by
  have hawake : (rearranged q r e).isAwake = e.isAwake := rfl
  unfold handleTick
  rw [Step.get_bind, Step.get_bind, hawake]
  cases e.isAwake with
  | true =>
    rw [if_pos rfl]
    exact Step.bind_onState h fun _ => display_ignores q r
  | false => rfl

theorem process_tick_rearranged (hnames : (r e.sampler.registry).names = e.sampler.registry.names)
    (hchanged : (r e.sampler.registry).changed = e.sampler.registry.changed)
    (hsettled : r e.sampler.registry.settled = (r e.sampler.registry).settled) :
    process c .tick (rearranged q r e) = (process c .tick e).onState (rearranged q r) := by
  have htick := handleTick_rearranged (sample_rearranged (q := q) (c := c) (sampling_rearranged hnames hchanged hsettled))
  have hhandle : handle c .tick = handleTick c := rfl
  unfold process
  rw [note_bind, note_bind, hhandle, htick, Outcome.onState_after]

end Tick

/-- The messages that wait have nothing to do with the work on any message. -/
theorem process_ignores_queue (m : Message) : Step.Ignores (rearranged q id) (process c m) := by
  cases m with
  | tick => exact fun e => process_tick_rearranged rfl rfl rfl
  | linkUpdated h name => exact fun _ => rfl
  | linkLost h => exact fun _ => rfl
  | _ => exact process_ignores q id c rfl rfl

end Handlers

/-! ## Posting first and working later -/

theorem run_post (ms : List Message) (e : Engine σ) :
    Step.run post ms e = ⟨[], { e with queue := e.queue ++ ms }, .ok ()⟩ := by
  induction ms generalizing e with
  | nil => rw [Step.run_nil, List.append_nil]
  | cons m rest ih =>
    rw [Step.run_cons]
    show (Step.run post rest { e with queue := e.queue ++ [m] }).after [] = _
    rw [ih, Outcome.after_nil, ← List.append_cons]

/-- While a message is worked on, those that came after it wait, and it leaves them alone. -/
theorem pumpAll_waiting (c : Connections σ) {ms : List Message} {e : Engine σ} (hqueue : e.queue = [])
    (hok : Step.Unfailing (process c) ms e) :
    pumpAll c ms { e with queue := ms } =
      ⟨(Step.run (process c) ms e).reports, (Step.run (process c) ms e).state, .ok ()⟩ := by
  induction ms generalizing e with
  | nil =>
    have hsame : { e with queue := [] } = e := by rw [← hqueue]
    rw [hsame]
    rfl
  | cons m rest ih =>
    obtain ⟨hm, hrest⟩ := hok
    have hprocess : process c m { e with queue := rest } = ⟨(process c m e).reports,
        { (process c m e).state with queue := rest }, .ok ()⟩ := by
      have hignores := process_ignores_queue (fun _ => rest) c m e
      rw [← hm]
      exact hignores
    have hnext : (process c m e).state.queue = [] := (process_kept c m e).queue.trans hqueue
    unfold pumpAll
    rw [Step.modify_bind]
    show (process c m >>= fun _ => pumpAll c rest) { e with queue := rest } = _
    rw [Step.bind_of_eq_ok hprocess, ih hnext hrest, Step.run_cons]
    rfl

theorem run_queue (c : Connections σ) (ms : List Message) (e : Engine σ) :
    (Step.run (process c) ms e).state.queue = e.queue := by
  induction ms generalizing e with
  | nil => rfl
  | cons m rest ih => rw [Step.run_cons, Outcome.after_state, ih, (process_kept c m e).queue]

/-- Messages that are posted while nothing waits only wait. If none of them fails, working them off gives the reports, the
decisions among them, and the state that working on each of them at once gives, and nothing waits any more. -/
theorem pump_posted (c : Connections σ) {e : Engine σ} {ms : List Message} (hqueue : e.queue = [])
    (hok : Step.Unfailing (process c) ms e) :
    Step.run post ms e = ⟨[], { e with queue := ms }, .ok ()⟩ ∧
      pump c (Step.run post ms e).state =
        ⟨(Step.run (process c) ms e).reports, (Step.run (process c) ms e).state, .ok ms.length⟩ ∧
      (Step.run (process c) ms e).state.queue = [] := by
  have hposted : Step.run post ms e = ⟨[], { e with queue := ms }, .ok ()⟩ := by
    rw [run_post, hqueue, List.nil_append]
  refine ⟨hposted, ?_, (run_queue c ms e).trans hqueue⟩
  rw [hposted]
  unfold pump
  rw [Step.get_bind, Step.bind_of_eq_ok (pumpAll_waiting c hqueue hok)]
  unfold Outcome.after
  rw [Step.pure_apply, List.append_nil]

/-- Messages of all kinds. -/
def allKinds : List Message :=
  [.linkUpdated (.named "a") (some "eth0"), .attach, .tick, .updateView, .linkLost (.named "b"),
    .configChanged { Display.Config.default with interval := .int 3, interval_fits := by decide },
    .connectivityChanged none, .screenChanged true false, .tick, .detach, .attach]

/-- An engine that is about to receive them. -/
def idleEngine : Engine Rate.Table := fresh .default (.ofRatio false 2000 1) (Rate.Table.put {} "eth0" ⟨1000, 500⟩)

/-- Worked off together, they leave a tick pending by the new interval; the second of the two ticks was too soon. -/
theorem pump_posted_allKinds :
    idleEngine.queue = [] ∧ Step.Unfailing (process onTable) allKinds idleEngine ∧
      (pump onTable (Step.run post allKinds idleEngine).state).result = .ok 11 ∧
      (pump onTable (Step.run post allKinds idleEngine).state).state.timer.due = some (.ofRatio false 5000 1) ∧
      (pump onTable (Step.run post allKinds idleEngine).state).state.sampler.samples = 1 := by
  have hqueue : idleEngine.queue = [] := rfl
  have hok : Step.Unfailing (process onTable) allKinds idleEngine := by decide +kernel
  have hdue : (Step.run (process onTable) allKinds idleEngine).state.timer.due = some (.ofRatio false 5000 1) := by
    decide +kernel
  have hsamples : (Step.run (process onTable) allKinds idleEngine).state.sampler.samples = 1 := by decide +kernel
  have hpump := (pump_posted onTable hqueue hok).2.1
  rw [hpump]
  dsimp only
  exact ⟨hqueue, hok, rfl, hdue, hsamples⟩

end Engine
end LinkMeter
