import LinkMeter.Proofs.Link.Registry
import LinkMeter.Rate.Sampler

/-! # Sampling

What a tick of the sampler does, all of it in one equation: it fails or is too early before any counter is read, or it
reads the counters and ends in a fault or in a sample. And the events that a sampler meets, of which its runs are made. -/

namespace LinkMeter

namespace Rate

theorem Traffic.ext {a b : Traffic} (htx : a.tx = b.tx) (hrx : a.rx = b.rx) : a = b := by
  cases a
  cases b
  cases htx
  cases hrx
  rfl

instance : Sub Traffic := ⟨fun a b => ⟨a.tx - b.tx, a.rx - b.rx⟩⟩

@[simp] theorem Traffic.sub_tx (a b : Traffic) : (a - b).tx = a.tx - b.tx := rfl

@[simp] theorem Traffic.sub_rx (a b : Traffic) : (a - b).rx = a.rx - b.rx := rfl

instance : Add Traffic := ⟨fun a b => ⟨a.tx + b.tx, a.rx + b.rx⟩⟩

@[simp] theorem Traffic.add_tx (a b : Traffic) : (a + b).tx = a.tx + b.tx := rfl

@[simp] theorem Traffic.add_rx (a b : Traffic) : (a + b).rx = a.rx + b.rx := rfl

/-- Something about the surroundings that no reading of the counters changes. -/
structure Source.Keeps {σ : Type} (source : Source σ) (P : σ → Prop) : Prop where
  refresh : ∀ w, P w → P (source.refresh w).state
  tx : ∀ name w, P w → P (source.tx name w).state
  rx : ∀ name w, P w → P (source.rx name w).state
  offload : ∀ w, P w → P (source.offload w).state

/-- A source on a part of something leaves alone what does not depend on that part. -/
theorem Source.Keeps.zoom {σ τ : Type} {part : τ → σ} {put : σ → τ → τ} {P : τ → Prop}
    (h : ∀ x t, P t → P (put x t)) (source : Source σ) : (source.zoom part put).Keeps P :=
  ⟨fun t ht => h _ t ht, fun _ t ht => h _ t ht, fun _ t ht => h _ t ht, fun t ht => h _ t ht⟩

namespace Sampler
variable {σ : Type}

/-! ## A tick -/

/-- Whether a rate can be taken: time has passed and no counter ran backwards. -/
def isForward (elapsed : Binary64) (delta : Traffic) : Bool :=
  Binary64.zero.lt elapsed && 0 ≤ delta.tx && 0 ≤ delta.rx

theorem effect_of_changed (elapsed : Binary64) (delta : Traffic) : effect true elapsed delta = .ok .changed := by
  unfold effect
  rw [if_neg (by simp), if_pos rfl]

/-- The rates cannot fail if the set of links changed: then there are none to compute. -/
theorem unchanged_of_effect {changed : Bool} {elapsed : Binary64} {delta : Traffic} {e : Fault}
    (h : effect changed elapsed delta = .error e) : changed = false := by
  cases changed with
  | false => rfl
  | true =>
    rw [effect_of_changed] at h
    cases h

theorem effect_of_backward {elapsed : Binary64} {delta : Traffic} (h : isForward elapsed delta = false) :
    effect false elapsed delta = .ok .reset := by
  unfold effect
  rw [if_neg, if_neg Bool.false_ne_true]
  unfold isForward at h
  simpa using h

/-- The rates of a difference of readings over a time. -/
def ratesOver (delta : Traffic) (elapsed : Binary64) : Except Fault Estimate := do
  let tx ← kbps delta.tx elapsed
  let rx ← kbps delta.rx elapsed
  pure ⟨tx, rx⟩

theorem effect_of_forward {elapsed : Binary64} {delta : Traffic} (h : isForward elapsed delta = true) :
    effect false elapsed delta = (ratesOver delta elapsed).map .rates := by
  unfold effect ratesOver
  rw [if_pos]
  · cases kbps delta.tx elapsed with
    | error e => rfl
    | ok tx => cases kbps delta.rx elapsed <;> rfl
  · unfold isForward at h
    simpa using h

/-- Whether a tick at `now` comes too soon after the last sample. -/
def isEarly (s : Sampler) (now : Binary64) : Except Fault Bool := (leastGap s.interval).map (now.sub s.baseline.time).lt

def earlyNote (s : Sampler) (now : Binary64) : Log.Record :=
  ⟨.debug, .rates, .cat ["Tick ", (now.sub s.baseline.time).toFixed 1,
    "ms after the previous sample is too early, ignoring"], none⟩

/-- The records of the rates, which go with every thirtieth sample. -/
def rateNotes (s : Sampler) : List Log.Record :=
  if s.samples % logEvery = 0 then
    [⟨.debug, .rates, .cat ["Rates: tx=", .ofInt s.estimate.tx, " kbps, rx=", .ofInt s.estimate.rx, " kbps"], none⟩]
  else []

/-- What becomes of a reading of the counters at `now`, whose outcome is given. -/
def settle (s : Sampler) (now : Binary64) (o : Outcome Log.Record σ Traffic) :
    Outcome Log.Record (Sampler × σ) Estimate :=
  match o.result with
  | .error e => ⟨o.reports, (s, o.state), .error e⟩
  | .ok traffic =>
    match effect s.registry.changed (now.sub s.baseline.time) (traffic - s.baseline.traffic) with
    | .error e => ⟨o.reports, (s, o.state), .error e⟩
    | .ok e =>
      let next := s.sampled e traffic now
      ⟨o.reports ++ (e.notes (traffic - s.baseline.traffic) ++ next.rateNotes), (next, o.state), .ok next.estimate⟩

theorem settle_around (s : Sampler) (now : Binary64) (o : Outcome Log.Record σ Traffic) :
    (s.settle now o).state.2 = o.state := by
  unfold settle
  rcases o with ⟨reports, w, e | traffic⟩
  · rfl
  · dsimp only
    cases effect s.registry.changed (now.sub s.baseline.time) (traffic - s.baseline.traffic) <;> rfl

theorem isEarly_of_error {s : Sampler} {e : Fault} (h : leastGap s.interval = .error e) (now : Binary64) :
    s.isEarly now = .error e := by
  unfold isEarly
  rw [h]
  rfl

theorem isEarly_of_ok {s : Sampler} {gap : Binary64} (h : leastGap s.interval = .ok gap) (now : Binary64) :
    s.isEarly now = .ok ((now.sub s.baseline.time).lt gap) := by
  unfold isEarly
  rw [h]
  rfl

/-- The mark of a change is taken from the links of the sampler. -/
theorem consume_apply (s : Sampler) (w : σ) :
    (Step.zoom (fun p : Sampler × σ => p.1.registry) (fun r p => ({ p.1 with registry := r }, p.2))
      Link.Registry.consume) (s, w) = ⟨[], ({ s with registry := s.registry.settled }, w), .ok s.registry.changed⟩ := rfl

theorem tick_eq (source : Source σ) (now : Binary64) (s : Sampler) (w : σ) :
    tick source now (s, w) =
      match s.isEarly now with
      | .error e => ⟨[], (s, w), .error e⟩
      | .ok true => ⟨[s.earlyNote now], (s, w), .ok s.estimate⟩
      | .ok false => s.settle now (totals source s.registry.names w) := by
  unfold tick
  rw [Step.get_bind]
  dsimp only
  cases hg : leastGap s.interval with
  | error e => rw [isEarly_of_error hg, Step.lift_error_bind]
  | ok gap =>
    rw [isEarly_of_ok hg, Step.lift_ok_bind]
    cases hl : (now.sub s.baseline.time).lt gap with
    | true =>
      rw [if_pos rfl, Step.write_bind, Step.pure_apply]
      rfl
    | false =>
      rw [if_neg Bool.false_ne_true]
      dsimp only
      unfold settle
      rcases ho : totals source s.registry.names w with ⟨reports, w', result⟩
      cases result with
      | error e => rw [Step.bind_of_error (by rw [Step.zoom_apply, ho]), Step.zoom_apply, ho]
      | ok traffic =>
        rw [Step.bind_of_ok (by rw [Step.zoom_apply, ho]), Step.zoom_apply, ho]
        dsimp only
        rw [show (⟨traffic.tx - s.baseline.traffic.tx, traffic.rx - s.baseline.traffic.rx⟩ : Traffic) =
          traffic - s.baseline.traffic from rfl]
        rw [Step.bind_of_eq_ok (consume_apply s w')]
        cases he : effect s.registry.changed (now.sub s.baseline.time) (traffic - s.baseline.traffic) with
        | error e =>
          -- The mark has been taken, but there was none: with one there would be nothing to compute.
          rw [Step.lift_error_bind, Link.Registry.settled_of_unchanged (unchanged_of_effect he)]
          unfold Outcome.after
          rw [List.append_nil, List.append_nil]
        | ok e =>
          rw [Step.lift_ok_bind]
          rw [show Step.each Step.report (e.notes (traffic - s.baseline.traffic)) =
            Step.each (fun r => Step.report (id r)) (e.notes (traffic - s.baseline.traffic)) from rfl,
            Step.each_report_bind, List.map_id, Step.modify_bind]
          dsimp only
          unfold rateNotes
          by_cases hr : (s.sampled e traffic now).samples % logEvery = 0
          · rw [if_pos hr, if_pos hr, Step.write_bind, Step.pure_apply]
            rfl
          · rw [if_neg hr, if_neg hr, Step.pure_apply]
            rfl

/-- A tick that is too early reads no counter and leaves everything as it is, whatever the counters. -/
theorem tick_of_early {s : Sampler} {now : Binary64} (h : s.isEarly now = .ok true) (source : Source σ) (w : σ) :
    tick source now (s, w) = ⟨[s.earlyNote now], (s, w), .ok s.estimate⟩ := by
  rw [tick_eq, h]

theorem tick_of_late {s : Sampler} {now : Binary64} (h : s.isEarly now = .ok false) (source : Source σ) (w : σ) :
    tick source now (s, w) = s.settle now (totals source s.registry.names w) := by
  rw [tick_eq, h]

/-- A reading that fails nowhere gives a sample. -/
theorem settle_of_ok {s : Sampler} {now : Binary64} {o : Outcome Log.Record σ Traffic} {rates : Estimate}
    (h : (s.settle now o).result = .ok rates) :
    ∃ traffic e, o.result = .ok traffic ∧
      effect s.registry.changed (now.sub s.baseline.time) (traffic - s.baseline.traffic) = .ok e ∧
      (s.settle now o).state = (s.sampled e traffic now, o.state) := by
  unfold settle at h ⊢
  rcases o with ⟨reports, w', f | traffic⟩
  · cases h
  · dsimp only at h ⊢
    cases he : effect s.registry.changed (now.sub s.baseline.time) (traffic - s.baseline.traffic) with
    | error f => rw [he] at h; cases h
    | ok e => exact ⟨traffic, e, rfl, he, rfl⟩

/-- A tick keeps the links and the interval, whether it fails or not. -/
theorem tick_keeps (source : Source σ) (now : Binary64) (s : Sampler) (w : σ) :
    (tick source now (s, w)).state.1.interval = s.interval ∧
      (tick source now (s, w)).state.1.registry.links = s.registry.links := by
  rw [tick_eq]
  rcases s.isEarly now with e | _ | _
  · exact ⟨rfl, rfl⟩
  · dsimp only
    unfold settle
    rcases totals source s.registry.names w with ⟨reports, w', e | traffic⟩
    · exact ⟨rfl, rfl⟩
    · dsimp only
      rcases effect s.registry.changed (now.sub s.baseline.time) (traffic - s.baseline.traffic) with e | e
      · exact ⟨rfl, rfl⟩
      · exact ⟨rfl, rfl⟩
  · exact ⟨rfl, rfl⟩

/-! ## What a reading leaves alone -/

section Keeps
variable {source : Source σ} {P : σ → Prop}

theorem sum_keeps (h : source.Keeps P) (names : List Text) : ∀ w, P w → P (sum source names w).state := by
  induction names with
  | nil => exact fun _ hw => hw
  | cons name rest ih =>
    unfold sum
    refine Step.bind_keeps (h.tx name) fun tx => ?_
    refine Step.bind_keeps (h.rx name) fun rx => ?_
    exact Step.bind_keeps ih fun _ _ hw => hw

theorem totals_keeps (h : source.Keeps P) (names : List Text) : ∀ w, P w → P (totals source names w).state := by
  unfold totals
  refine Step.bind_keeps h.refresh fun _ => ?_
  refine Step.bind_keeps (sum_keeps h names) fun _ => ?_
  exact Step.bind_keeps h.offload fun _ _ hw => hw

/-- A tick does nothing to the surroundings but read the counters. -/
theorem tick_keeps_around (h : source.Keeps P) (now : Binary64) (s : Sampler) {w : σ} (hw : P w) :
    P (tick source now (s, w)).state.2 := by
  rw [tick_eq]
  rcases s.isEarly now with e | _ | _
  · exact hw
  · rw [settle_around]
    exact totals_keeps h s.registry.names w hw
  · exact hw

end Keeps

/-! ## Links and interval -/

theorem setInterval_state (ms : Int) (s : Sampler) : (setInterval ms s).state = { s with interval := ms } := by
  unfold setInterval
  rw [Step.get_bind]
  by_cases h : ms ≠ s.interval
  · rw [if_pos h]
    rfl
  · rw [if_neg h, Decidable.not_not.mp h]
    rfl

theorem setInterval_result (ms : Int) (s : Sampler) : (setInterval ms s).result = .ok () := by
  unfold setInterval
  rw [Step.get_bind]
  by_cases h : ms ≠ s.interval
  · rw [if_pos h]
    rfl
  · rw [if_neg h]
    rfl

end Sampler

/-! ## Events -/

/-- One thing that happens to a sampler or to its counters. -/
inductive Event (σ : Type) where
  | added (h : Link.Handle) (name : Option Text)
  | removed (h : Link.Handle)
  | interval (ms : Int)
  | counted (f : σ → σ)
  | tick (now : Binary64)

namespace Sampler
variable {σ : Type}

def onLinks (m : Logged Link.Registry Unit) : Logged (Sampler × σ) Unit :=
  .zoom (fun p => p.1.registry) (fun r p => ({ p.1 with registry := r }, p.2)) m

def meet (source : Source σ) : Event σ → Logged (Sampler × σ) Unit
  | .added h name => onLinks (Link.Registry.add h name)
  | .removed h => onLinks (Link.Registry.remove h)
  | .interval ms => .zoom Prod.fst (fun s p => (s, p.2)) (setInterval ms)
  | .counted f => .modify fun p => (p.1, f p.2)
  | .tick now => do let _ ← tick source now

theorem meet_added (source : Source σ) (h : Link.Handle) (name : Option Text) (s : Sampler) (w : σ) :
    meet source (.added h name) (s, w) =
      ⟨(Link.Registry.add h name s.registry).reports, ({ s with registry := s.registry.insert h name }, w), .ok ()⟩ := by
  show onLinks (Link.Registry.add h name) (s, w) = _
  unfold onLinks
  rw [Step.zoom_apply, Link.Registry.add_state, Link.Registry.add_result]

theorem meet_removed (source : Source σ) (h : Link.Handle) (s : Sampler) (w : σ) :
    meet source (.removed h) (s, w) =
      ⟨(Link.Registry.remove h s.registry).reports, ({ s with registry := s.registry.erase h }, w), .ok ()⟩ := by
  show onLinks (Link.Registry.remove h) (s, w) = _
  unfold onLinks
  rw [Step.zoom_apply, Link.Registry.remove_state, Link.Registry.remove_result]

theorem meet_interval (source : Source σ) (ms : Int) (s : Sampler) (w : σ) :
    meet source (.interval ms) (s, w) = ⟨(setInterval ms s).reports, ({ s with interval := ms }, w), .ok ()⟩ := by
  show Step.zoom Prod.fst (fun s p => (s, p.2)) (setInterval ms) (s, w) = _
  rw [Step.zoom_apply, setInterval_state, setInterval_result]

theorem meet_counted (source : Source σ) (f : σ → σ) (s : Sampler) (w : σ) :
    meet source (.counted f) (s, w) = ⟨[], (s, f w), .ok ()⟩ := rfl

theorem meet_tick (source : Source σ) (now : Binary64) (p : Sampler × σ) :
    meet source (.tick now) p = (tick source now p).map fun _ => () :=
  Step.map_apply (fun _ => ()) (tick source now) p

theorem result_of_meet_tick {source : Source σ} {now : Binary64} {p : Sampler × σ}
    (h : (meet source (.tick now) p).result = .ok ()) : ∃ rates, (tick source now p).result = .ok rates := by
  rw [meet_tick] at h
  obtain ⟨rates, hr, -⟩ := Outcome.result_of_map h
  exact ⟨rates, hr⟩

end Sampler
end Rate
end LinkMeter
