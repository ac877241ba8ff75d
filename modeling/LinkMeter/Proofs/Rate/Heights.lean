import LinkMeter.Proofs.Rate.Sampling

/-! # The height of counters

Counters have counted since some time that nobody knows, so only their differences mean anything. Two sources whose
readings differ by a constant for each interface, and by one for the traffic that no interface counts, are told apart by
no tick of any run (`answers_raised`). The baselines of the two runs do differ: by the constants of the known links once a
sample follows the latest change of the links, and by anything before that, where the mark of the change hides it. -/

namespace LinkMeter.Rate
variable {σ : Type}

/-- By how much counters are raised: those of each interface, and those of the traffic that no interface counts. -/
structure Heights where
  link : Text → Traffic
  offload : Traffic

/-- By how much the sum over interfaces is raised. -/
def Heights.links (k : Heights) : List Text → Traffic
  | [] => ⟨0, 0⟩
  | name :: rest => k.link name + k.links rest

/-- By how much a reading of all counters is raised. -/
def Heights.total (k : Heights) (names : List Text) : Traffic := k.links names + k.offload

def Source.raised (k : Heights) (s : Source σ) : Source σ where
  refresh := s.refresh
  tx name := do pure ((← s.tx name) + (k.link name).tx)
  rx name := do pure ((← s.rx name) + (k.link name).rx)
  offload := do pure ((← s.offload) + k.offload)

namespace Sampler

/-! ## Readings -/

theorem sum_raised (k : Heights) (source : Source σ) (names : List Text) (w : σ) :
    sum (source.raised k) names w = (sum source names w).map (· + k.links names) := by
  induction names generalizing w with
  | nil => rfl
  | cons name rest ih =>
    unfold sum
    refine Step.bind_map (Step.map_apply (· + (k.link name).tx) (source.tx name)) (fun tx w => ?_) w
    refine Step.bind_map (Step.map_apply (· + (k.link name).rx) (source.rx name)) (fun rx w => ?_) w
    refine Step.bind_map ih (fun others w => ?_) w
    refine congrArg (fun t => (⟨[], w, .ok t⟩ : Outcome Log.Record σ Traffic)) (Traffic.ext ?_ ?_)
    · show tx + (k.link name).tx + (others.tx + (k.links rest).tx) =
        tx + others.tx + ((k.link name).tx + (k.links rest).tx)
      omega
    · show rx + (k.link name).rx + (others.rx + (k.links rest).rx) =
        rx + others.rx + ((k.link name).rx + (k.links rest).rx)
      omega

theorem totals_raised (k : Heights) (source : Source σ) (names : List Text) (w : σ) :
    totals (source.raised k) names w = (totals source names w).map (· + k.total names) := by
  have hrefresh : ∀ w, (source.raised k).refresh w = (source.refresh w).map id := fun w => by
    show source.refresh w = _
    rcases source.refresh w with ⟨reports, w', e | u⟩ <;> rfl
  unfold totals
  refine Step.bind_map hrefresh (fun _ w => ?_) w
  refine Step.bind_map (sum_raised k source names) (fun links w => ?_) w
  refine Step.bind_map (Step.map_apply (· + k.offload) source.offload) (fun offload w => ?_) w
  refine congrArg (fun t => (⟨[], w, .ok t⟩ : Outcome Log.Record σ Traffic)) (Traffic.ext ?_ ?_)
  · show links.tx + (k.links names).tx + (offload.tx + k.offload.tx) =
      links.tx + offload.tx + ((k.links names).tx + k.offload.tx)
    omega
  · show links.rx + (k.links names).rx + (offload.rx + k.offload.rx) =
      links.rx + offload.rx + ((k.links names).rx + k.offload.rx)
    omega

/-! ## Two runs -/

/-- How a tick ends. -/
inductive Answer where
  /-- It was too early; the rates are as they were. -/
  | dropped (rates : Estimate)
  | sampled (rates : Estimate)
  | failed (e : Fault)
deriving DecidableEq

/-- The answer that the outcome of a tick gives, with the number of samples taken before it. -/
def Answer.of (samples : Nat) (o : Outcome Log.Record (Sampler × σ) Estimate) : Answer :=
  match o.result with
  | .error e => .failed e
  | .ok rates => if o.state.1.samples = samples then .dropped rates else .sampled rates

def answer (source : Source σ) (now : Binary64) (p : Sampler × σ) : Answer := .of p.1.samples (tick source now p)

/-- The answers to all ticks among the events, in order. -/
def answers (source : Source σ) : List (Event σ) → Sampler × σ → List Answer
  | [], _ => []
  | .tick now :: rest, p => answer source now p :: answers source rest (meet source (.tick now) p).state
  | e :: rest, p => answers source rest (meet source e p).state

theorem answers_tick (source : Source σ) (now : Binary64) (rest : List (Event σ)) (p : Sampler × σ) :
    answers source (.tick now :: rest) p =
      answer source now p :: answers source rest (meet source (.tick now) p).state := by
  rw [answers]

/-- The sampler with another traffic in its baseline. -/
def rebased (s : Sampler) (traffic : Traffic) : Sampler := { s with baseline := ⟨traffic, s.baseline.time⟩ }

/-- Whether a traffic is the one of the baseline raised by the height of the known links. While a change of the links is
marked it may be any. -/
def IsLevel (k : Heights) (s : Sampler) (traffic : Traffic) : Prop :=
  s.registry.changed = false → traffic = s.baseline.traffic + k.total s.registry.names

/-- The second sampler is the first one but for the traffic of its baseline, which is level with the first one. -/
def Raised (k : Heights) (p p' : Sampler × σ) : Prop :=
  ∃ traffic, p' = (p.1.rebased traffic, p.2) ∧ IsLevel k p.1 traffic

theorem Raised.fresh (k : Heights) (interval : Int) (w : σ) :
    Raised k (Sampler.fresh interval, w) (Sampler.fresh interval, w) :=
  ⟨⟨0, 0⟩, rfl, fun h => nomatch h⟩

theorem Raised.samples {k : Heights} {p p' : Sampler × σ} (h : Raised k p p') : p'.1.samples = p.1.samples := by
  obtain ⟨traffic, rfl, -⟩ := h
  rfl

/-- Two outcomes that cannot be told apart, and leave samplers that are alike. -/
structure Twins {α : Type} (k : Heights) (o o' : Outcome Log.Record (Sampler × σ) α) : Prop where
  reports : o'.reports = o.reports
  result : o'.result = o.result
  states : Raised k o.state o'.state

theorem Twins.map {α β : Type} {k : Heights} {o o' : Outcome Log.Record (Sampler × σ) α} (t : Twins k o o')
    (g : α → β) : Twins k (o.map g) (o'.map g) :=
  ⟨t.reports, congrArg (Except.map g) t.result, t.states⟩

theorem Twins.answer {k : Heights} {o o' : Outcome Log.Record (Sampler × σ) Estimate} (t : Twins k o o')
    (samples : Nat) : Answer.of samples o' = Answer.of samples o := by
  unfold Answer.of
  rw [t.result, t.states.samples]

/-- What a sample does to the rates does not depend on the height: with the mark of a change the difference to the
baseline does not count, and without it, it is the same. -/
theorem effect_raised {k : Heights} {s : Sampler} {traffic : Traffic} (h : IsLevel k s traffic) (elapsed : Binary64)
    (reading : Traffic) :
    effect s.registry.changed elapsed (reading + k.total s.registry.names - traffic) =
        effect s.registry.changed elapsed (reading - s.baseline.traffic) ∧
      ∀ e, effect s.registry.changed elapsed (reading - s.baseline.traffic) = .ok e →
        e.notes (reading + k.total s.registry.names - traffic) = e.notes (reading - s.baseline.traffic) := by
  unfold IsLevel at h
  cases hc : s.registry.changed with
  | true =>
    -- The differences to the baselines are of no account, so nothing needs to be known about them.
    refine ⟨(effect_of_changed _ _).trans (effect_of_changed _ _).symm, fun e he => ?_⟩
    rw [effect_of_changed] at he
    cases he
    rfl
  | false =>
    have hdelta : reading + k.total s.registry.names - traffic = reading - s.baseline.traffic := by
      rw [h hc]
      refine Traffic.ext ?_ ?_
      · simp only [Traffic.sub_tx, Traffic.add_tx]
        omega
      · simp only [Traffic.sub_rx, Traffic.add_rx]
        omega
    rw [hdelta]
    exact ⟨rfl, fun _ _ => rfl⟩

theorem settle_raised {k : Heights} {s : Sampler} {traffic : Traffic} (h : IsLevel k s traffic) (now : Binary64)
    (o : Outcome Log.Record σ Traffic) :
    Twins k (s.settle now o) ((s.rebased traffic).settle now (o.map (· + k.total s.registry.names))) := by
  rcases o with ⟨reports, w, f | reading⟩
  · exact ⟨rfl, rfl, traffic, rfl, h⟩
  · obtain ⟨heffect, hnotes⟩ := effect_raised h (now.sub s.baseline.time) reading
    unfold settle rebased
    simp only [Outcome.map, Except.map]
    rw [heffect]
    cases he : effect s.registry.changed (now.sub s.baseline.time) (reading - s.baseline.traffic) with
    | error f => exact ⟨rfl, rfl, traffic, rfl, h⟩
    | ok e =>
      dsimp only
      rw [hnotes e he]
      exact ⟨rfl, rfl, reading + k.total s.registry.names, rfl, fun _ => rfl⟩

/-- A tick keeps two samplers alike, and tells the same of both. -/
theorem tick_raised {k : Heights} {p p' : Sampler × σ} (h : Raised k p p') (source : Source σ) (now : Binary64) :
    Twins k (tick source now p) (tick (source.raised k) now p') := by
  obtain ⟨s, w⟩ := p
  obtain ⟨traffic, rfl, hlevel⟩ := h
  dsimp only at hlevel ⊢
  have hearly : (s.rebased traffic).isEarly now = s.isEarly now := rfl
  rw [tick_eq, tick_eq, hearly]
  rcases s.isEarly now with f | _ | _
  · exact ⟨rfl, rfl, traffic, rfl, hlevel⟩
  · dsimp only
    rw [show (s.rebased traffic).registry = s.registry from rfl, totals_raised]
    exact settle_raised hlevel now _
  · exact ⟨rfl, rfl, traffic, rfl, hlevel⟩

theorem setInterval_reports_rebased (ms : Int) (s : Sampler) (traffic : Traffic) :
    (setInterval ms (s.rebased traffic)).reports = (setInterval ms s).reports := by
  unfold setInterval
  rw [Step.get_bind, Step.get_bind]
  by_cases h : ms ≠ s.interval
  · rw [if_pos h, if_pos (show ms ≠ (s.rebased traffic).interval from h)]
    rfl
  · rw [if_neg h, if_neg (show ¬ms ≠ (s.rebased traffic).interval from h)]
    rfl

theorem answer_raised {k : Heights} {p p' : Sampler × σ} (h : Raised k p p') (source : Source σ) (now : Binary64) :
    answer (source.raised k) now p' = answer source now p := by
  unfold answer
  rw [h.samples, (tick_raised h source now).answer]

/-- What the samplers do at an event keeps them alike, and tells the same of both. -/
theorem meet_raised {k : Heights} {p p' : Sampler × σ} (h : Raised k p p') (source : Source σ) (e : Event σ) :
    Twins k (meet source e p) (meet (source.raised k) e p') := by
  cases e with
  | tick now =>
    rw [meet_tick, meet_tick]
    exact (tick_raised h source now).map _
  | added id name =>
    obtain ⟨s, w⟩ := p
    obtain ⟨traffic, rfl, -⟩ := h
    rw [meet_added, meet_added]
    exact ⟨rfl, rfl, traffic, rfl, fun hc => nomatch hc⟩
  | removed id =>
    obtain ⟨s, w⟩ := p
    obtain ⟨traffic, rfl, -⟩ := h
    rw [meet_removed, meet_removed]
    exact ⟨rfl, rfl, traffic, rfl, fun hc => nomatch hc⟩
  | interval ms =>
    obtain ⟨s, w⟩ := p
    obtain ⟨traffic, rfl, hlevel⟩ := h
    rw [meet_interval, meet_interval]
    exact ⟨setInterval_reports_rebased ms s traffic, rfl, traffic, rfl, hlevel⟩
  | counted f =>
    obtain ⟨s, w⟩ := p
    obtain ⟨traffic, rfl, hlevel⟩ := h
    rw [meet_counted, meet_counted]
    exact ⟨rfl, rfl, traffic, rfl, hlevel⟩

theorem answers_of_raised {k : Heights} {p p' : Sampler × σ} (h : Raised k p p') (source : Source σ)
    (events : List (Event σ)) :
    answers (source.raised k) events p' = answers source events p ∧
      (Step.run (meet (source.raised k)) events p').reports = (Step.run (meet source) events p).reports := by
  induction events generalizing p p' with
  | nil => exact ⟨by rw [answers, answers], by rw [Step.run_nil, Step.run_nil]⟩
  | cons e events ih =>
    obtain ⟨hreports, -, hstates⟩ := meet_raised h source e
    obtain ⟨hanswers, hrest⟩ := ih hstates
    refine ⟨?_, ?_⟩
    · cases e with
      | tick now => rw [answers_tick, answers_tick source, answer_raised h, hanswers]
      | _ => exact hanswers
    · rw [Step.run_cons e events p', Step.run_cons e events p, Outcome.after_reports, Outcome.after_reports, hreports,
        hrest]

/-- The absolute height of counters never shows: raising each of them by a constant changes the answer to no tick, be it
rates, a dropped tick or a fault, and no record. -/
theorem answers_raised (k : Heights) (source : Source σ) (interval : Int) (w : σ) (events : List (Event σ)) :
    answers (source.raised k) events (fresh interval, w) = answers source events (fresh interval, w) ∧
      (Step.run (meet (source.raised k)) events (fresh interval, w)).reports =
        (Step.run (meet source) events (fresh interval, w)).reports :=
  answers_of_raised (Raised.fresh k interval w) source events

end Sampler
end LinkMeter.Rate
