import LinkMeter.Proofs.Rate.Sampling

/-! # The history of a sampler

What a sampler shows, told from all that happened to it instead of from a baseline and a mark. A chronicle keeps the
links, the counters and the list of all samples and touches of the links; the baseline is the latest sample, and the rates
are those of the latest sample that is no reset. The sampler shows the same after every run (`run_tells_history`). -/

namespace LinkMeter.Rate
variable {σ : Type}

/-- What a chronicle remembers: that a link was added or removed, or a sample. -/
inductive Entry where
  | touch
  | sample (b : Baseline)

/-- A sample, with what lies between it and the one before it. -/
structure Sample where
  here : Baseline
  /-- The sample just before it; the first one has none. -/
  before : Option Baseline
  /-- Whether a link was added or removed since then. -/
  touched : Bool

namespace Sample

/-- The sample is not the first one and the links are those of the one before it, but a counter ran backwards or no time
passed. -/
def isReset (s : Sample) : Bool :=
  match s.before with
  | none => false
  | some b =>
    let delta := s.here.traffic - b.traffic
    !s.touched && (decide (delta.tx < 0) || decide (delta.rx < 0) || !Binary64.zero.lt (s.here.time.sub b.time))

/-- The rates that the sample shows if it is no reset: none for the first one and after a touch of the links. -/
def rates (s : Sample) : Except Fault Estimate :=
  match s.before with
  | none => .ok .zero
  | some b =>
    if s.touched then .ok .zero
    else Sampler.ratesOver (s.here.traffic - b.traffic) (s.here.time.sub b.time)

theorem isReset_untouched (b p : Baseline) :
    (Sample.mk b (some p) false).isReset = !Sampler.isForward (b.time.sub p.time) (b.traffic - p.traffic) := by
  have hnegative : ∀ z : Int, decide (z < 0) = !decide (0 ≤ z) := by
    intro z
    rw [← decide_not]
    exact decide_eq_decide.mpr Int.not_le.symm
  unfold isReset Sampler.isForward
  dsimp only
  rw [hnegative, hnegative, Bool.not_and, Bool.not_and, Bool.not_false, Bool.true_and, Bool.or_comm, Bool.or_assoc]

end Sample

/-! ## Entries, the latest one first -/

namespace Entry

def latest? : List Entry → Option Baseline
  | [] => none
  | touch :: rest => latest? rest
  | sample b :: _ => some b

/-- Whether there is a touch after the latest sample. -/
def isTouched : List Entry → Bool
  | touch :: _ => true
  | _ => false

/-- All samples, the latest one first. -/
def samples : List Entry → List Sample
  | [] => []
  | touch :: rest => samples rest
  | sample b :: rest => ⟨b, latest? rest, isTouched rest⟩ :: samples rest

/-- The baseline after the entries: the latest sample, or zeros. -/
def baseline (es : List Entry) : Baseline := (latest? es).getD ⟨⟨0, 0⟩, .zero⟩

/-- The rates after the entries: those of the latest sample that is no reset. -/
def estimate (es : List Entry) : Except Fault Estimate :=
  match (samples es).find? fun s => !s.isReset with
  | none => .ok .zero
  | some s => s.rates

theorem estimate_sample (b : Baseline) (es : List Entry) :
    estimate (.sample b :: es) =
      if (Sample.mk b (latest? es) (isTouched es)).isReset then estimate es
      else (Sample.mk b (latest? es) (isTouched es)).rates := by
  unfold estimate
  rw [samples, List.find?_cons]
  cases (Sample.mk b (latest? es) (isTouched es)).isReset <;> rfl

/-- A sample does to the rates what the history tells. -/
theorem estimate_effect {es : List Entry} {b : Baseline} {old : Estimate} {e : Sampler.Effect}
    (hold : estimate es = .ok old)
    (he : Sampler.effect ((latest? es).isNone || isTouched es) (b.time.sub (baseline es).time)
      (b.traffic - (baseline es).traffic) = .ok e) :
    estimate (.sample b :: es) = .ok (e.apply old) := by
  rw [estimate_sample]
  cases hl : latest? es with
  | none =>
    rw [hl, Option.isNone_none, Bool.true_or, Sampler.effect_of_changed] at he
    cases he
    rfl
  | some p =>
    have hb : baseline es = p := by rw [baseline, hl, Option.getD_some]
    rw [hl, Option.isNone_some, Bool.false_or, hb] at he
    cases ht : isTouched es with
    | true =>
      rw [ht, Sampler.effect_of_changed] at he
      cases he
      rfl
    | false =>
      rw [ht] at he
      rw [Sample.isReset_untouched]
      cases hf : Sampler.isForward (b.time.sub p.time) (b.traffic - p.traffic) with
      | false =>
        rw [Sampler.effect_of_backward hf] at he
        cases he
        exact hold
      | true =>
        rw [Sampler.effect_of_forward hf] at he
        show Sampler.ratesOver (b.traffic - p.traffic) (b.time.sub p.time) = _
        cases hr : Sampler.ratesOver (b.traffic - p.traffic) (b.time.sub p.time) with
        | error f => rw [hr] at he; cases he
        | ok rates => rw [hr] at he; cases he; rfl

end Entry

/-! ## Chronicles -/

/-- All that happened to a sampler and its counters. -/
structure Chronicle (σ : Type) where
  links : List (Link.Handle × Option Text)
  interval : Int
  around : σ
  entries : List Entry

namespace Chronicle

def fresh (interval : Int) (w : σ) : Chronicle σ := ⟨[], interval, w, []⟩

/-- The interfaces that a sample reads. -/
def names (c : Chronicle σ) : List Text := Link.Registry.names ⟨c.links, false⟩

/-- Whether a tick is no sample: less than the least share of the interval passed since the latest sample. -/
def skips (c : Chronicle σ) (now : Binary64) : Except Fault Bool :=
  (Sampler.leastGap c.interval).map (now.sub (Entry.baseline c.entries).time).lt

def tell (source : Source σ) : Event σ → Logged (Chronicle σ) Unit
  | .added h name => .modify fun c =>
    { c with links := Link.Registry.put h name c.links, entries := .touch :: c.entries }
  | .removed h => .modify fun c => { c with links := c.links.filter (·.1 ≠ h), entries := .touch :: c.entries }
  | .interval ms => .modify fun c => { c with interval := ms }
  | .counted f => .modify fun c => { c with around := f c.around }
  | .tick now => do
    let c ← Step.get
    if ← Step.lift (c.skips now) then pure ()
    else
      let traffic ← Step.zoom around (fun w c => { c with around := w }) (Sampler.totals source c.names)
      Step.modify fun c => { c with entries := .sample ⟨traffic, now⟩ :: c.entries }

/-- The sampler shows what the chronicle tells. The mark of a change stands until a sample follows the latest touch. -/
structure Tells (c : Chronicle σ) (p : Sampler × σ) : Prop where
  links : p.1.registry.links = c.links
  changed : p.1.registry.changed = ((Entry.latest? c.entries).isNone || Entry.isTouched c.entries)
  interval : p.1.interval = c.interval
  around : p.2 = c.around
  baseline : p.1.baseline = Entry.baseline c.entries
  estimate : Entry.estimate c.entries = .ok p.1.estimate

theorem Tells.fresh (interval : Int) (w : σ) : Tells (fresh interval w) (Sampler.fresh interval, w) :=
  ⟨rfl, rfl, rfl, rfl, rfl, rfl⟩

section Steps
variable {source : Source σ} {c : Chronicle σ} {p : Sampler × σ}

theorem Tells.names (t : Tells c p) : p.1.registry.names = c.names := by
  unfold Chronicle.names Link.Registry.names
  rw [t.links]

theorem Tells.isEarly (t : Tells c p) (now : Binary64) : p.1.isEarly now = c.skips now := by
  unfold Sampler.isEarly skips
  rw [t.interval, t.baseline]

theorem tell_of_skip {now : Binary64} (h : c.skips now = .ok true) (source : Source σ) :
    tell source (.tick now) c = ⟨[], c, .ok ()⟩ := by
  rw [tell, Step.get_bind, h, Step.lift_ok_bind, if_pos rfl, Step.pure_apply]

theorem tell_of_sample {now : Binary64} {traffic : Traffic} (h : c.skips now = .ok false)
    (ht : (Sampler.totals source c.names c.around).result = .ok traffic) :
    (tell source (.tick now) c).result = .ok () ∧
      (tell source (.tick now) c).state =
        { c with
          around := (Sampler.totals source c.names c.around).state
          entries := .sample ⟨traffic, now⟩ :: c.entries } := by
  rw [tell, Step.get_bind, h, Step.lift_ok_bind, if_neg Bool.false_ne_true, Step.bind_of_ok (by rw [Step.zoom_apply, ht]),
    Step.zoom_apply, Step.modify_apply]
  exact ⟨rfl, rfl⟩

theorem Tells.step_tick (t : Tells c p) (now : Binary64) (h : (Sampler.meet source (.tick now) p).result = .ok ()) :
    (tell source (.tick now) c).result = .ok () ∧
      Tells (tell source (.tick now) c).state (Sampler.meet source (.tick now) p).state := by
  obtain ⟨rates, hr⟩ := Sampler.result_of_meet_tick h
  rw [Sampler.meet_tick]
  have hearly := t.isEarly now
  have hnames := t.names
  have haround := t.around
  obtain ⟨s, w⟩ := p
  dsimp only at hearly hnames haround
  subst haround
  rcases hskip : c.skips now with e | _ | _
  · rw [Sampler.tick_eq, hearly, hskip] at hr
    cases hr
  · -- A sample: it takes the mark of a change, and becomes the latest entry.
    rw [Sampler.tick_of_late (hearly.trans hskip)] at hr ⊢
    obtain ⟨traffic, e, htotals, he, hstate⟩ := Sampler.settle_of_ok hr
    rw [hnames] at htotals hstate ⊢
    obtain ⟨hresult, hchronicle⟩ := tell_of_sample hskip htotals
    refine ⟨hresult, ?_⟩
    rw [hchronicle, Outcome.map_state, hstate]
    rw [t.changed, t.baseline] at he
    exact ⟨t.links, rfl, t.interval, rfl, rfl, Entry.estimate_effect t.estimate he⟩
  · rw [Sampler.tick_of_early (hearly.trans hskip), tell_of_skip hskip]
    exact ⟨rfl, t⟩

/-- An event that does not fail can be told, and afterwards the sampler still shows what is told. -/
theorem Tells.step (t : Tells c p) (e : Event σ) (h : (Sampler.meet source e p).result = .ok ()) :
    (tell source e c).result = .ok () ∧ Tells (tell source e c).state (Sampler.meet source e p).state := by
  obtain ⟨s, w⟩ := p
  obtain ⟨hlinks, hchanged, hinterval, haround, hbaseline, hestimate⟩ := t
  cases e with
  | added id name =>
    rw [Sampler.meet_added]
    refine ⟨rfl, ?_, ?_, hinterval, haround, hbaseline, hestimate⟩
    · exact congrArg (Link.Registry.put id name) hlinks
    · exact (Bool.or_true _).symm
  | removed id =>
    rw [Sampler.meet_removed]
    refine ⟨rfl, ?_, ?_, hinterval, haround, hbaseline, hestimate⟩
    · exact congrArg (List.filter _) hlinks
    · exact (Bool.or_true _).symm
  | interval ms =>
    rw [Sampler.meet_interval]
    exact ⟨rfl, hlinks, hchanged, rfl, haround, hbaseline, hestimate⟩
  | counted f =>
    rw [Sampler.meet_counted]
    exact ⟨rfl, hlinks, hchanged, hinterval, congrArg f haround, hbaseline, hestimate⟩
  | tick now => exact Tells.step_tick ⟨hlinks, hchanged, hinterval, haround, hbaseline, hestimate⟩ now h

theorem Tells.run (t : Tells c p) {events : List (Event σ)} (h : Step.Unfailing (Sampler.meet source) events p) :
    Step.Unfailing (tell source) events c ∧
      Tells (Step.run (tell source) events c).state (Step.run (Sampler.meet source) events p).state := by
  induction events generalizing c p with
  | nil => exact ⟨trivial, t⟩
  | cons e events ih =>
    obtain ⟨hresult, ht⟩ := t.step e h.1
    obtain ⟨hrest, htrest⟩ := ih ht h.2
    rw [Step.run_cons, Step.run_cons]
    exact ⟨⟨hresult, hrest⟩, htrest⟩

end Steps

/-- In a run in which nothing fails, after every part of it, the baseline is the latest sample and the rates are those of
the latest sample that is no reset. A tick that is no sample reads no counter, whichever source it has, and leaves
everything as it is, the mark of a change too. -/
theorem run_tells_history (source : Source σ) (interval : Int) (w : σ) {events part : List (Event σ)}
    (h : Step.Unfailing (Sampler.meet source) events (Sampler.fresh interval, w)) (hpart : part <+: events) :
    let c := (Step.run (tell source) part (fresh interval w)).state
    let p := (Step.run (Sampler.meet source) part (Sampler.fresh interval, w)).state
    Step.Unfailing (tell source) part (fresh interval w) ∧ p.2 = c.around ∧
      p.1.baseline = Entry.baseline c.entries ∧ Entry.estimate c.entries = .ok p.1.estimate ∧
      ∀ now, c.skips now = .ok true → ∀ other : Source σ,
        Sampler.tick other now p = ⟨[p.1.earlyNote now], p, .ok p.1.estimate⟩ := by
  obtain ⟨rest, rfl⟩ := hpart
  obtain ⟨htold, t⟩ := (Tells.fresh interval w).run (Step.unfailing_append.mp h).1
  refine ⟨htold, t.around, t.baseline, t.estimate, fun now hskip other => ?_⟩
  exact Sampler.tick_of_early ((t.isEarly now).trans hskip) other _

/-- Two samples a second apart, a tick too early, and a sample after the counters were reset. -/
def resetEvents : List (Event Table) :=
  [.added (.named "a") (some "eth0"), .counted (·.put "eth0" ⟨1000, 500⟩), .tick (.ofRatio false 1000 1),
    .counted (·.put "eth0" ⟨2000, 2500⟩), .tick (.ofRatio false 2000 1), .tick (.ofRatio false 2500 1),
    .counted (·.put "eth0" ⟨10, 10⟩), .tick (.ofRatio false 3000 1)]

/-- The reset keeps the rates of the sample before it. -/
theorem estimate_resetEvents :
    Step.Unfailing (Sampler.meet Table.source) resetEvents (Sampler.fresh 1000, {}) ∧
      Entry.estimate (Step.run (tell Table.source) resetEvents (fresh 1000 {})).state.entries = .ok ⟨8, 16⟩ := by
  have h : Step.Unfailing (Sampler.meet Table.source) resetEvents (Sampler.fresh 1000, {}) := by decide +kernel
  refine ⟨h, (run_tells_history Table.source 1000 {} h (List.prefix_refl _)).2.2.2.1.trans (congrArg _ ?_)⟩
  decide +kernel

end Chronicle
end LinkMeter.Rate
