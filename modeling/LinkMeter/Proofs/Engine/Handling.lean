import LinkMeter.Engine.Basic
import LinkMeter.Proofs.Display.Decision
import LinkMeter.Proofs.Engine.Timer
import LinkMeter.Proofs.Rate.Sampling

/-! # How the engine works on a message

Every message either prepares a state on which a new decision is shown (`Prepared`), or is worked on without one
(`Aside`); `process_handled` says so of all nine kinds at once, and is what later proofs use in place of the handlers. -/

namespace LinkMeter.Engine
variable {σ : Type}

/-! ## Reports -/

/-- No decision is among the reports. -/
def Quiet (reports : List Report) : Prop := ∀ d, .display d ∉ reports

theorem Quiet.nil : Quiet [] := fun _ => List.not_mem_nil

theorem Quiet.records (l : List Log.Record) : Quiet (l.map .record) := by
  intro d hd
  obtain ⟨r, -, hr⟩ := List.mem_map.mp hd
  cases hr

theorem Quiet.append {l l' : List Report} (h : Quiet l) (h' : Quiet l') : Quiet (l ++ l') := by
  intro d hd
  rcases List.mem_append.mp hd with hd | hd
  · exact h d hd
  · exact h' d hd

theorem note_bind {β : Type} (level : Log.Level) (parts : List Text) (f : Unit → Act σ β) (e : Engine σ) :
    (note level parts >>= f) e = (f () e).after [.record ⟨level, .engine, .cat parts, none⟩] := rfl

/-! ## Showing a decision -/

/-- Whether the engine is to sample: a surface is attached, the screen is on, and there is something to report. -/
def isLive (e : Engine σ) : Bool := e.isAwake && Display.isEnabled e.config e.connected

theorem isLive_iff {e : Engine σ} :
    e.isLive = true ↔ e.attached = true ∧ e.screenOn = true ∧ e.connected = true ∧ e.config.mode ≠ .disabled := by
  unfold isLive isAwake Display.isEnabled
  simp only [Bool.and_eq_true, bne_iff_ne, ne_eq]
  constructor
  · rintro ⟨⟨hattached, hscreen⟩, hmode, hconnected⟩
    exact ⟨hattached, hscreen, hconnected, hmode⟩
  · rintro ⟨hattached, hscreen, hconnected, hmode⟩
    exact ⟨⟨hattached, hscreen⟩, hmode, hconnected⟩

theorem isLive_of_asleep {e : Engine σ} (h : e.isAwake = false) : e.isLive = false := by
  unfold isLive
  rw [h, Bool.false_and]

/-- The timer after a decision was shown. -/
def rearmed (e : Engine σ) : Timer Unit :=
  if e.isLive then e.timer.armed (e.now.add e.config.delay) () else e.timer.idle

/-- The records of the timer after a decision was shown. -/
def rearmNotes (e : Engine σ) : List Log.Record :=
  e.timer.cancelNotes ++ if e.isLive then [Timer.scheduleNote e.config.intervalMs] else []

theorem rearmed_connected (e : Engine σ) : e.rearmed.connected = e.timer.connected := by
  unfold rearmed
  split <;> rfl

theorem isPending_rearmed (e : Engine σ) : e.rearmed.isPending = e.isLive := by
  unfold rearmed
  cases e.isLive <;> rfl

theorem cancelTimer_apply (e : Engine σ) :
    onTimer Timer.cancel e = ⟨e.timer.cancelNotes.map Report.record, { e with timer := e.timer.idle }, .ok ()⟩ := by
  unfold onTimer
  rw [Step.zoom_apply, Step.relay_apply, Timer.cancel_apply]

theorem cancelTimer_bind {β : Type} (f : Unit → Act σ β) (e : Engine σ) :
    (onTimer Timer.cancel >>= f) e =
      (f () { e with timer := e.timer.idle }).after (e.timer.cancelNotes.map Report.record) :=
  Step.bind_of_eq_ok (cancelTimer_apply e) f

theorem scheduleTimer_apply (now : Binary64) (config : Display.Config) (e : Engine σ) :
    onTimer (Timer.schedule now (.int config.intervalMs) ()) e =
      ⟨[.record (Timer.scheduleNote config.intervalMs)],
        { e with timer := e.timer.armed (now.add config.delay) () }, .ok ()⟩ := by
  have hpos : 0 ≤ config.intervalMs := by
    have hmem := config.intervalMs_mem
    omega
  unfold onTimer
  rw [Step.zoom_apply, Step.relay_apply, Timer.schedule_apply hpos config.ofInt_intervalMs]
  rfl

/-- The delays of an engine have far fewer than 32 bits. -/
theorem scheduleBy_intervalMs (config : Display.Config) (now : Binary64) :
    Timer.scheduleBy Timer.in32Bits now (.int config.intervalMs) () = Timer.schedule now (.int config.intervalMs) () := by
  have hmem := config.intervalMs_mem
  refine Timer.scheduleBy_in32Bits (by omega) ?_ now ()
  show config.intervalMs < 2147483648
  omega

/-- Schedules the sample after a decision, as an engine in a given state does. -/
def reschedule (e : Engine σ) (d : Display.Decision) : Act σ Unit :=
  match d.nextDelay with
  | none => pure ()
  | some delay => if e.isAwake then onTimer (Timer.schedule e.now (.int delay) ()) else pure ()

theorem reschedule_of_live {e : Engine σ} {d : Display.Decision} (hd : e.decision = .ok d) (h : e.isLive = true)
    (e' : Engine σ) :
    reschedule e d e' = ⟨[.record (Timer.scheduleNote e.config.intervalMs)],
      { e' with timer := e'.timer.armed (e.now.add e.config.delay) () }, .ok ()⟩ := by
  unfold isLive at h
  obtain ⟨hawake, henabled⟩ := (Bool.and_eq_true _ _).mp h
  unfold reschedule
  rw [Display.nextDelay_of_ok hd, if_pos henabled]
  dsimp only
  rw [if_pos hawake]
  exact scheduleTimer_apply e.now e.config e'

theorem reschedule_of_idle {e : Engine σ} {d : Display.Decision} (hd : e.decision = .ok d) (h : e.isLive = false)
    (e' : Engine σ) : reschedule e d e' = ⟨[], e', .ok ()⟩ := by
  unfold isLive at h
  unfold reschedule
  rw [Display.nextDelay_of_ok hd]
  rcases (Bool.and_eq_false_iff).mp h with hasleep | hdisabled
  · rw [hasleep]
    cases Display.isEnabled e.config e.connected <;> rfl
  · rw [hdisabled]
    rfl

theorem display_of_error {e : Engine σ} {f : Fault} (h : e.decision = .error f) :
    display e = ⟨e.decisionNotes.map Report.record, e, .error f⟩ := by
  unfold display
  rw [Step.get_bind, Step.each_report_bind, h, Step.lift_error_bind]
  unfold Outcome.after
  rw [List.append_nil]

/-- Showing a decision fails only if there is none: arming the timer does not. -/
theorem display_of_ok {e : Engine σ} {d : Display.Decision} (h : e.decision = .ok d) :
    display e = ⟨e.decisionNotes.map Report.record ++ .display d :: e.rearmNotes.map Report.record,
      { e with shown := some d, timer := e.rearmed }, .ok ()⟩ := by
  unfold display
  rw [Step.get_bind, Step.each_report_bind, h, Step.lift_ok_bind, Step.modify_bind, Step.report_bind, cancelTimer_bind]
  show Outcome.after _ (Outcome.after _ (Outcome.after _ (reschedule e d _))) = _
  unfold rearmed rearmNotes
  cases hlive : e.isLive with
  | false =>
    rw [reschedule_of_idle h hlive, if_neg Bool.false_ne_true, if_neg Bool.false_ne_true, List.append_nil]
    unfold Outcome.after
    rw [List.append_nil]
    rfl
  | true =>
    rw [reschedule_of_live h hlive, if_pos rfl, if_pos rfl, List.map_append]
    rfl

/-! ## Probing, sampling, links -/

/-- The answer of the probe; a probe that fails says no. -/
def answer (c : Connections σ) (e : Engine σ) : Bool :=
  match (c.probe e.around).result with
  | .ok available => available
  | .error _ => false

def asked (c : Connections σ) (e : Engine σ) : Engine σ :=
  { e with connected := answer c e, around := (c.probe e.around).state }

/-- Asking the probe never fails. -/
theorem query_bind {β : Type} (c : Connections σ) (f : Unit → Act σ β) (e : Engine σ) :
    ∃ reports, Quiet reports ∧ (query c >>= f) e = (f () (asked c e)).after reports := by
  suffices h : ∃ reports, Quiet reports ∧ query c e = ⟨reports, asked c e, .ok ()⟩ by
    obtain ⟨reports, hquiet, h⟩ := h
    exact ⟨reports, hquiet, Step.bind_of_eq_ok h f⟩
  have hattempt : (Step.attempt (Step.zoom around (fun s e => { e with around := s }) (Step.relay .record c.probe)) :
      Act σ (Except Fault Bool)) e = ⟨(c.probe e.around).reports.map Report.record,
        { e with around := (c.probe e.around).state }, .ok (c.probe e.around).result⟩ := rfl
  have hask : ∃ reports, Quiet reports ∧
      ask c e = ⟨reports, { e with around := (c.probe e.around).state }, .ok (answer c e)⟩ := by
    unfold ask answer
    rw [Step.bind_of_eq_ok hattempt]
    cases (c.probe e.around).result with
    | ok available => exact ⟨_, (Quiet.records _).append .nil, rfl⟩
    | error f => exact ⟨_, (Quiet.records _).append (Quiet.records [_]), rfl⟩
  obtain ⟨reports, hquiet, hask⟩ := hask
  unfold query
  rw [Step.bind_of_eq_ok hask]
  exact ⟨reports ++ [], hquiet.append .nil, rfl⟩

/-- What the sampler does at a tick. -/
def sampling (c : Connections σ) (e : Engine σ) : Outcome Log.Record (Rate.Sampler × σ) Rate.Estimate :=
  Rate.Sampler.tick c.counters (c.clock e.now) (e.sampler, e.around)

def resampled (e : Engine σ) (p : Rate.Sampler × σ) : Engine σ := { e with sampler := p.1, around := p.2 }

theorem sampleWith_apply (m : Logged (Rate.Sampler × σ) Rate.Estimate) (e : Engine σ) :
    (do let _ ← Step.zoom (fun e => (e.sampler, e.around)) (fun p e => { e with sampler := p.1, around := p.2 })
          (Step.relay .record m) : Act σ Unit) e =
      ⟨(m (e.sampler, e.around)).reports.map Report.record, e.resampled (m (e.sampler, e.around)).state,
        (m (e.sampler, e.around)).result.map fun _ => ()⟩ :=
  Step.map_apply (fun _ => ()) _ e

theorem sample_apply (c : Connections σ) (e : Engine σ) :
    sample c e = ⟨(sampling c e).reports.map Report.record, e.resampled (sampling c e).state,
      (sampling c e).result.map fun _ => ()⟩ := by
  unfold sample sampling
  rw [Step.get_bind]
  exact sampleWith_apply (Rate.Sampler.tick c.counters (c.clock e.now)) e

theorem sample_of_ok {c : Connections σ} {e : Engine σ} {rates : Rate.Estimate} (h : (sampling c e).result = .ok rates) :
    sample c e = ⟨(sampling c e).reports.map Report.record, e.resampled (sampling c e).state, .ok ()⟩ := by
  rw [sample_apply, h]
  rfl

theorem sample_of_error {c : Connections σ} {e : Engine σ} {f : Fault} (h : (sampling c e).result = .error f) :
    sample c e = ⟨(sampling c e).reports.map Report.record, e.resampled (sampling c e).state, .error f⟩ := by
  rw [sample_apply, h]
  rfl

def relinked (e : Engine σ) (links : Link.Registry) : Engine σ := { e with sampler := { e.sampler with registry := links } }

theorem onLinks_apply (m : Logged Link.Registry Unit) (e : Engine σ) :
    onLinks m e = ⟨(m e.sampler.registry).reports.map Report.record, relinked e (m e.sampler.registry).state,
      (m e.sampler.registry).result⟩ := rfl

/-- The engine with another configuration, which the sampler knows too. -/
def reconfigured (e : Engine σ) (config : Display.Config) : Engine σ :=
  { e with config, sampler := { e.sampler with interval := config.intervalMs } }

/-! ## Messages -/

/-- The state that a message prepares for a new decision. -/
inductive Prepared (c : Connections σ) (e : Engine σ) : Message → Engine σ → Prop where
  | tick {p : Rate.Sampler × σ} {rates : Rate.Estimate} (hawake : e.isAwake = true)
    (hsample : (sampling c e).result = .ok rates) (hp : (sampling c e).state = p) : Prepared c e .tick (e.resampled p)
  | updateView : Prepared c e .updateView e
  | configChanged (config : Display.Config) : Prepared c e (.configChanged config) (asked c (reconfigured e config))
  | connectivityChanged (available : Bool) :
    Prepared c e (.connectivityChanged (some available)) { e with connected := available }
  | connectivityAsked : Prepared c e (.connectivityChanged none) (asked c e)
  | screenOn : Prepared c e (.screenChanged true false) (asked c { e with screenOn := true })
  | attach : Prepared c e .attach (asked c { e with attached := true })
  | detach : Prepared c e .detach { e with attached := false, timer := e.timer.idle }

/-- The state in which a message without a decision leaves the engine, and the result. -/
inductive Aside (c : Connections σ) (e : Engine σ) : Message → Engine σ → Except Fault Unit → Prop where
  | tickDropped (hasleep : e.isAwake = false) : Aside c e .tick e (.ok ())
  | tickFailed {p : Rate.Sampler × σ} {f : Fault} (hawake : e.isAwake = true)
    (hsample : (sampling c e).result = .error f) (hp : (sampling c e).state = p) :
    Aside c e .tick (e.resampled p) (.error f)
  | linkUpdated (h : Link.Handle) (name : Option Text) :
    Aside c e (.linkUpdated h name) (relinked e (e.sampler.registry.insert h name)) (.ok ())
  | linkLost (h : Link.Handle) : Aside c e (.linkLost h) (relinked e (e.sampler.registry.erase h)) (.ok ())
  | screenOff {on dozing : Bool} (hoff : (on && !dozing) = false) :
    Aside c e (.screenChanged on dozing) { e with screenOn := false, timer := e.timer.idle } (.ok ())

/-- What no message changes. -/
structure Kept (e e' : Engine σ) : Prop where
  queue : e'.queue = e.queue
  now : e'.now = e.now
  connected : e'.timer.connected = e.timer.connected

theorem Kept.trans {e e' e'' : Engine σ} (h : Kept e e') (h' : Kept e' e'') : Kept e e'' :=
  ⟨h'.queue.trans h.queue, h'.now.trans h.now, h'.connected.trans h.connected⟩

theorem Prepared.kept {c : Connections σ} {e e₁ : Engine σ} {m : Message} (h : Prepared c e m e₁) : Kept e e₁ := by
  cases h <;> exact ⟨rfl, rfl, rfl⟩

theorem Aside.kept {c : Connections σ} {e e' : Engine σ} {m : Message} {r : Except Fault Unit}
    (h : Aside c e m e' r) : Kept e e' := by
  cases h <;> exact ⟨rfl, rfl, rfl⟩

theorem display_kept (e : Engine σ) : Kept e (display e).state := by
  cases h : e.decision with
  | error f =>
    rw [display_of_error h]
    exact ⟨rfl, rfl, rfl⟩
  | ok d =>
    rw [display_of_ok h]
    exact ⟨rfl, rfl, e.rearmed_connected⟩

/-- How the work on a message ends: in a decision on a state that it prepared, or without one. -/
inductive Handled (c : Connections σ) (e : Engine σ) (m : Message) (o : Outcome Report (Engine σ) Unit) : Prop where
  | shown {e₁ : Engine σ} {reports : List Report} (hprepared : Prepared c e m e₁) (hquiet : Quiet reports)
    (ho : o = (display e₁).after reports)
  | aside {e' : Engine σ} {r : Except Fault Unit} {reports : List Report} (haside : Aside c e m e' r)
    (hquiet : Quiet reports) (ho : o = ⟨reports, e', r⟩)

theorem Handled.after {c : Connections σ} {e : Engine σ} {m : Message} {o : Outcome Report (Engine σ) Unit}
    (h : Handled c e m o) {reports : List Report} (hreports : Quiet reports) : Handled c e m (o.after reports) := by
  cases h with
  | @shown e₁ later hprepared hquiet ho =>
    refine .shown hprepared (hreports.append hquiet) ?_
    rw [ho, Outcome.after_after]
  | aside haside hquiet ho =>
    refine .aside haside (hreports.append hquiet) ?_
    rw [ho]
    rfl

section Handlers
variable (c : Connections σ) (e : Engine σ)

theorem handled_of_query {c : Connections σ} {e e₀ : Engine σ} {m : Message} {f : Unit → Act σ Unit}
    (hprepared : Prepared c e m (asked c e₀))
    (hf : ∃ reports, Quiet reports ∧ f () (asked c e₀) = (display (asked c e₀)).after reports) :
    Handled c e m ((query c >>= f) e₀) := by
  obtain ⟨reports, hquiet, hquery⟩ := query_bind c f e₀
  obtain ⟨later, hlater, hf⟩ := hf
  rw [hquery, hf, Outcome.after_after]
  exact .shown hprepared (hquiet.append hlater) rfl

theorem handleTick_handled : Handled c e .tick (handleTick c e) := by
  unfold handleTick
  rw [Step.get_bind]
  cases hawake : e.isAwake with
  | false =>
    rw [if_neg Bool.false_ne_true]
    exact .aside (.tickDropped hawake) (Quiet.records [_]) rfl
  | true =>
    rw [if_pos rfl]
    cases hsample : (sampling c e).result with
    | error f =>
      rw [Step.bind_of_eq_error (sample_of_error hsample)]
      exact .aside (.tickFailed hawake hsample rfl) (Quiet.records _) rfl
    | ok rates =>
      rw [Step.bind_of_eq_ok (sample_of_ok hsample)]
      exact .shown (.tick hawake hsample rfl) (Quiet.records _) rfl

theorem handleConfig_handled (config : Display.Config) : Handled c e (.configChanged config) (handleConfig c config e) := by
  have hinterval : ∀ e : Engine σ, onSampler (Rate.Sampler.setInterval config.intervalMs) e =
      ⟨(Rate.Sampler.setInterval config.intervalMs e.sampler).reports.map Report.record,
        { e with sampler := { e.sampler with interval := config.intervalMs } }, .ok ()⟩ := by
    intro e
    unfold onSampler
    rw [Step.zoom_apply, Step.relay_apply, Rate.Sampler.setInterval_state, Rate.Sampler.setInterval_result]
  unfold handleConfig
  rw [Step.modify_bind, Step.bind_of_eq_ok (hinterval _)]
  have hquery : Handled c e (.configChanged config) ((query c >>= fun _ => do
      note .debug ["Configuration snapshot applied: ", config.spelled]
      display) (reconfigured e config)) :=
    handled_of_query (.configChanged config) ⟨[_], Quiet.records [_], note_bind _ _ _ _⟩
  exact hquery.after (Quiet.records _)

theorem handleConnectivity_handled (available : Option Bool) :
    Handled c e (.connectivityChanged available) (handleConnectivity c available e) := by
  have hrest : ∀ e : Engine σ, ∃ reports, Quiet reports ∧ (do
      note .debug ["Connectivity changed: available=", Json.Value.boolText (← Step.get).connected]
      display : Act σ Unit) e = (display e).after reports := by
    intro e
    rw [Step.get_bind, note_bind]
    exact ⟨_, Quiet.records [_], rfl⟩
  unfold handleConnectivity
  cases available with
  | some available =>
    obtain ⟨reports, hquiet, hrest⟩ := hrest { e with connected := available }
    exact .shown (.connectivityChanged available) hquiet hrest
  | none => exact handled_of_query .connectivityAsked (hrest (asked c e))

theorem handleScreen_handled (on dozing : Bool) :
    Handled c e (.screenChanged on dozing) (handleScreen c on dozing e) := by
  unfold handleScreen
  rw [Step.modify_bind]
  cases hon : on && !dozing with
  | true =>
    obtain ⟨rfl, rfl⟩ : on = true ∧ dozing = false := by simpa using hon
    rw [if_pos rfl, note_bind]
    exact (handled_of_query .screenOn ⟨[], Quiet.nil, rfl⟩).after (Quiet.records [_])
  | false =>
    rw [if_neg Bool.false_ne_true, note_bind, cancelTimer_apply]
    exact Handled.after (.aside (.screenOff hon) (Quiet.records _) rfl) (Quiet.records [_])

theorem handleAttach_handled : Handled c e .attach (handleAttach c e) := by
  unfold handleAttach
  rw [Step.modify_bind]
  exact handled_of_query .attach ⟨[_], Quiet.records [_], note_bind _ _ _ _⟩

theorem handleDetach_handled : Handled c e .detach (handleDetach e) := by
  unfold handleDetach
  rw [Step.modify_bind, cancelTimer_bind, note_bind, Outcome.after_after]
  exact .shown .detach ((Quiet.records _).append (Quiet.records [_])) rfl

end Handlers

/-- Every message either prepares a state and shows the decision on it, or is worked on without a decision. -/
theorem process_handled (c : Connections σ) (m : Message) (e : Engine σ) : Handled c e m (process c m e) := by
  unfold process
  rw [note_bind]
  refine Handled.after ?_ (Quiet.records [_])
  cases m with
  | tick => exact handleTick_handled c e
  | updateView => exact .shown .updateView Quiet.nil rfl
  | linkUpdated h name =>
    show Handled c e _ (onLinks (Link.Registry.add h name) e)
    rw [onLinks_apply, Link.Registry.add_state, Link.Registry.add_result]
    exact .aside (.linkUpdated h name) (Quiet.records _) rfl
  | linkLost h =>
    show Handled c e _ (onLinks (Link.Registry.remove h) e)
    rw [onLinks_apply, Link.Registry.remove_state, Link.Registry.remove_result]
    exact .aside (.linkLost h) (Quiet.records _) rfl
  | configChanged config => exact handleConfig_handled c e config
  | connectivityChanged available => exact handleConnectivity_handled c e available
  | screenChanged on dozing => exact handleScreen_handled c e on dozing
  | attach => exact handleAttach_handled c e
  | detach => exact handleDetach_handled c e

theorem process_kept (c : Connections σ) (m : Message) (e : Engine σ) : Kept e (process c m e).state := by
  cases process_handled c m e with
  | shown hprepared _ ho =>
    rw [ho]
    exact hprepared.kept.trans (display_kept _)
  | aside haside _ ho =>
    rw [ho]
    exact haside.kept

end LinkMeter.Engine
