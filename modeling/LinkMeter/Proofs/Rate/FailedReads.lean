import LinkMeter.Monitor.Surroundings
import LinkMeter.Proofs.Rate.Sampling

/-! # Samples of a host that may not answer

A host that does not answer counts as one without interfaces, so the sample has a total of zero, and the next one is
compared with that. A rate is the difference of two totals that the host gave only if the sample before was answered; after
one that was not, everything that the interfaces ever carried counts as carried since (`computes_of_run`). -/

namespace LinkMeter.Rate

/-! ## Readings -/

/-- The traffic of an interface; of one that is not listed, none. -/
def trafficOf (counts : Counts) (name : Text) : Traffic := (counts.lookup name).getD ⟨0, 0⟩

def totalOf (counts : Counts) : List Text → Traffic
  | [] => ⟨0, 0⟩
  | name :: rest =>
    ⟨(trafficOf counts name).tx + (totalOf counts rest).tx, (trafficOf counts name).rx + (totalOf counts rest).rx⟩

theorem totalOf_nil (names : List Text) : totalOf [] names = ⟨0, 0⟩ := by
  induction names with
  | nil => rfl
  | cons name rest ih =>
    rw [totalOf, ih]
    rfl

theorem totalOf_nonneg {counts : Counts} (h : ∀ l ∈ counts, 0 ≤ l.2.tx ∧ 0 ≤ l.2.rx) (names : List Text) :
    0 ≤ (totalOf counts names).tx ∧ 0 ≤ (totalOf counts names).rx := by
  induction names with
  | nil => exact ⟨Int.le_refl 0, Int.le_refl 0⟩
  | cons name rest ih =>
    have hname : 0 ≤ (trafficOf counts name).tx ∧ 0 ≤ (trafficOf counts name).rx := by
      unfold trafficOf
      cases hlookup : counts.lookup name with
      | none => exact ⟨Int.le_refl 0, Int.le_refl 0⟩
      | some traffic =>
        obtain ⟨before, after, rfl, -⟩ := List.lookup_eq_some_iff.mp hlookup
        exact h (name, traffic) (List.mem_append_right _ List.mem_cons_self)
    rw [totalOf]
    exact ⟨Int.add_nonneg hname.1 ih.1, Int.add_nonneg hname.2 ih.2⟩

section Cached
variable {σ : Type} {c : Cached σ} {counts : Counts}

theorem read_of_snapshot (query : Logged σ Counts) (h : c.snapshot = some counts) (name : Text) :
    ∃ reports, Cached.read query name c = ⟨reports, c, .ok (trafficOf counts name)⟩ := by
  unfold Cached.read trafficOf
  rw [Step.get_bind, h, if_neg (by simp)]
  show ∃ reports, (Step.get >>= _ : Logged (Cached σ) Traffic) c = _
  rw [Step.get_bind, h]
  dsimp only [Option.getD_some]
  cases counts.lookup name with
  | none => exact ⟨_, rfl⟩
  | some traffic => exact ⟨_, rfl⟩

theorem sum_of_snapshot (query : Logged σ Counts) (h : c.snapshot = some counts) (names : List Text) :
    ∃ reports, Sampler.sum (Cached.source query) names c = ⟨reports, c, .ok (totalOf counts names)⟩ := by
  induction names with
  | nil => exact ⟨[], rfl⟩
  | cons name rest ih =>
    obtain ⟨reports, hread⟩ := read_of_snapshot query h name
    obtain ⟨later, hrest⟩ := ih
    have htx : (Cached.source query).tx name c = ⟨reports, c, .ok (trafficOf counts name).tx⟩ := by
      have hmap := Step.map_apply Traffic.tx (Cached.read query name) c
      rw [hread] at hmap
      exact hmap
    have hrx : (Cached.source query).rx name c = ⟨reports, c, .ok (trafficOf counts name).rx⟩ := by
      have hmap := Step.map_apply Traffic.rx (Cached.read query name) c
      rw [hread] at hmap
      exact hmap
    unfold Sampler.sum
    rw [Step.bind_of_eq_ok htx, Step.bind_of_eq_ok hrx, Step.bind_of_eq_ok hrest]
    exact ⟨_, rfl⟩

end Cached

/-! ## Turns -/

/-- A tick, with what the host answers if it is asked for its counters. -/
structure Turn where
  now : Binary64
  answer : Except Fault Counts

namespace Turn

def isAnswered (t : Turn) : Bool :=
  match t.answer with
  | .ok _ => true
  | .error _ => false

/-- The counters that the turn is about: none if the host does not answer. -/
def counts (t : Turn) : Counts :=
  match t.answer with
  | .ok counts => counts
  | .error _ => []

def total (names : List Text) (t : Turn) : Traffic := totalOf t.counts names

/-- The host answers with numbers of bytes, or it fails in a way that counts as no interfaces. -/
def Expected (t : Turn) : Prop :=
  match t.answer with
  | .ok counts => ∀ l ∈ counts, 0 ≤ l.2.tx ∧ 0 ≤ l.2.rx
  | .error e => Cached.isForgiven e = true

def take (t : Turn) : Logged (Sampler × Cached (Except Fault Counts)) Unit := do
  Step.modify fun p => (p.1, { p.2 with host := t.answer })
  let _ ← Sampler.tick Monitor.counters t.now

section Turn
variable {t : Turn} {s : Sampler} {p : Sampler × Cached (Except Fault Counts)}

theorem total_of_unanswered (h : t.isAnswered = false) (names : List Text) : t.total names = ⟨0, 0⟩ := by
  unfold isAnswered at h
  unfold total counts
  cases hanswer : t.answer with
  | ok counts =>
    rw [hanswer] at h
    cases h
  | error e => exact totalOf_nil names

theorem total_nonneg (h : t.Expected) (names : List Text) : 0 ≤ (t.total names).tx ∧ 0 ≤ (t.total names).rx := by
  unfold Expected at h
  unfold total counts
  cases hanswer : t.answer with
  | ok counts =>
    rw [hanswer] at h
    exact totalOf_nonneg h names
  | error e => exact totalOf_nonneg (fun _ hl => absurd hl List.not_mem_nil) names

theorem refresh_of_expected (h : t.Expected) (snapshot : Option Counts) :
    ∃ reports, Monitor.counters.refresh ⟨snapshot, t.answer⟩ = ⟨reports, ⟨some t.counts, t.answer⟩, .ok ()⟩ := by
  unfold Expected at h
  unfold counts
  show ∃ reports, Cached.refresh (do Step.lift (← Step.get)) ⟨snapshot, t.answer⟩ = _
  have hattempt : Step.attempt (Step.zoom Cached.host (fun h c => { c with host := h }) (do Step.lift (← Step.get) :
      Logged (Except Fault Counts) Counts)) ⟨snapshot, t.answer⟩ = ⟨[], ⟨snapshot, t.answer⟩, .ok t.answer⟩ := rfl
  unfold Cached.refresh
  rw [Step.bind_of_eq_ok hattempt]
  cases hanswer : t.answer with
  | ok counts => exact ⟨_, rfl⟩
  | error e =>
    rw [hanswer] at h
    dsimp only at h
    dsimp only
    rw [if_pos h]
    exact ⟨_, rfl⟩

theorem totals_of_expected (h : t.Expected) (snapshot : Option Counts) (names : List Text) :
    ∃ reports, Sampler.totals Monitor.counters names ⟨snapshot, t.answer⟩ =
      ⟨reports, ⟨some t.counts, t.answer⟩, .ok (t.total names)⟩ := by
  obtain ⟨reports, hrefresh⟩ := refresh_of_expected h snapshot
  obtain ⟨later, hsum⟩ : ∃ later, Sampler.sum Monitor.counters names ⟨some t.counts, t.answer⟩ =
      ⟨later, ⟨some t.counts, t.answer⟩, .ok (totalOf t.counts names)⟩ := sum_of_snapshot _ rfl names
  have hoffload : Monitor.counters.offload ⟨some t.counts, t.answer⟩ =
      ⟨[], ⟨some t.counts, t.answer⟩, .ok ⟨0, 0⟩⟩ := rfl
  unfold Sampler.totals
  rw [Step.bind_of_eq_ok hrefresh, Step.bind_of_eq_ok hsum, Step.bind_of_eq_ok hoffload, Step.pure_apply, Int.add_zero,
    Int.add_zero]
  exact ⟨_, rfl⟩

/-! ### What a turn does to the sampler -/

/-- The difference between the reading of the turn and the baseline. -/
def delta (t : Turn) (s : Sampler) : Traffic := t.total s.registry.names - s.baseline.traffic

def elapsed (t : Turn) (s : Sampler) : Binary64 := t.now.sub s.baseline.time

/-- The tick of the turn replaces the estimate by a computed rate. -/
structure Computes (t : Turn) (s : Sampler) : Prop where
  late : s.isEarly t.now = .ok false
  unchanged : s.registry.changed = false
  forward : Sampler.isForward (t.elapsed s) (t.delta s) = true

theorem take_state (t : Turn) (p : Sampler × Cached (Except Fault Counts)) :
    (t.take p).state = (Sampler.tick Monitor.counters t.now (p.1, { p.2 with host := t.answer })).state := by
  have htick : (do let _ ← Sampler.tick Monitor.counters t.now : Logged _ Unit) (p.1, { p.2 with host := t.answer }) =
      (Sampler.tick Monitor.counters t.now (p.1, { p.2 with host := t.answer })).map fun _ => () :=
    Step.map_apply _ _ _
  unfold take
  rw [Step.modify_bind, htick, Outcome.map_state]

/-- A turn takes a sample of what the host answers, or it leaves the sampler alone. -/
theorem take_cases (h : t.Expected) (s : Sampler) (w : Cached (Except Fault Counts)) : (t.take (s, w)).state.1 = s ∨
    ∃ e, s.isEarly t.now = .ok false ∧ Sampler.effect s.registry.changed (t.elapsed s) (t.delta s) = .ok e ∧
      (t.take (s, w)).state.1 = s.sampled e (t.total s.registry.names) t.now := by
  rw [take_state, Sampler.tick_eq]
  rcases hearly : s.isEarly t.now with e | _ | _
  · exact .inl rfl
  · obtain ⟨reports, htotals⟩ := totals_of_expected h w.snapshot s.registry.names
    dsimp only
    rw [htotals]
    unfold Sampler.settle
    dsimp only
    cases heffect : Sampler.effect s.registry.changed (t.elapsed s) (t.delta s) with
    | error e =>
      unfold elapsed delta at heffect
      rw [heffect]
      exact .inl rfl
    | ok e =>
      unfold elapsed delta at heffect
      rw [heffect]
      exact .inr ⟨e, rfl, rfl, rfl⟩
  · exact .inl rfl

theorem effect_of_computes (h : t.Computes s) : Sampler.effect s.registry.changed (t.elapsed s) (t.delta s) =
    (Sampler.ratesOver (t.delta s) (t.elapsed s)).map .rates := by
  rw [h.unchanged, Sampler.effect_of_forward h.forward]

theorem effect_of_not_computes (h : ¬ t.Computes s) (hlate : s.isEarly t.now = .ok false) :
    Sampler.effect s.registry.changed (t.elapsed s) (t.delta s) = .ok (if s.registry.changed then .changed else .reset) := by
  cases hchanged : s.registry.changed with
  | true => exact Sampler.effect_of_changed _ _
  | false =>
    refine Sampler.effect_of_backward (Bool.eq_false_iff.mpr fun hforward => h ?_)
    exact ⟨hlate, hchanged, hforward⟩

theorem estimate_of_computes (hexpected : t.Expected) (h : t.Computes p.1) : (t.take p).state.1 = p.1 ∨
    Sampler.ratesOver (t.delta p.1) (t.elapsed p.1) = .ok (t.take p).state.1.estimate := by
  obtain ⟨s, w⟩ := p
  refine (take_cases hexpected s w).imp_right ?_
  rintro ⟨e, -, heffect, hstate⟩
  rw [effect_of_computes h] at heffect
  rw [hstate]
  cases hrates : Sampler.ratesOver (t.delta s) (t.elapsed s) with
  | error f =>
    rw [hrates] at heffect
    cases heffect
  | ok rates =>
    rw [hrates] at heffect
    cases heffect
    rfl

theorem estimate_of_not_computes (hexpected : t.Expected) (h : ¬ t.Computes p.1) :
    (t.take p).state.1.estimate = p.1.estimate ∨ (t.take p).state.1.estimate = .zero := by
  obtain ⟨s, w⟩ := p
  rcases take_cases hexpected s w with hstate | ⟨e, hlate, heffect, hstate⟩
  · rw [hstate]
    exact .inl rfl
  · rw [effect_of_not_computes h hlate] at heffect
    rw [hstate]
    cases hchanged : s.registry.changed with
    | true =>
      rw [hchanged] at heffect
      cases heffect
      exact .inr rfl
    | false =>
      rw [hchanged] at heffect
      cases heffect
      exact .inl rfl

/-! ### Runs -/

/-- Whether the turn takes a sample, which the sampler counts. -/
def isSample (t : Turn) (p : Sampler × Cached (Except Fault Counts)) : Bool :=
  (t.take p).state.1.samples != p.1.samples

end Turn

/-- The turns of a run that take a sample. -/
def samples (p : Sampler × Cached (Except Fault Counts)) : List Turn → List Turn
  | [] => []
  | t :: rest => if t.isSample p then t :: samples (t.take p).state rest else samples (t.take p).state rest

/-- The baseline is the reading of the last sample; before the first one the links count as changed. -/
structure Follows (names : List Text) (last : Option Turn) (s : Sampler) : Prop where
  links : s.registry.names = names
  changed : s.registry.changed = last.isNone
  baseline : ∀ b, last = some b → s.baseline = ⟨b.total names, b.now⟩

theorem Follows.take {names : List Text} {last : Option Turn} {t : Turn} {p : Sampler × Cached (Except Fault Counts)}
    (hs : Follows names last p.1) (h : t.Expected) :
    Follows names (if t.isSample p then some t else last) (t.take p).state.1 := by
  obtain ⟨s, w⟩ := p
  unfold isSample
  rcases take_cases h s w with hstate | ⟨e, -, -, hstate⟩
  · rw [hstate, if_neg (by simp)]
    exact hs
  · rw [hstate, if_pos (by simp [Sampler.sampled])]
    refine ⟨hs.links, rfl, fun b hb => ?_⟩
    cases hb
    rw [← hs.links]
    rfl

theorem Follows.run {names : List Text} {last : Option Turn} {turns : List Turn}
    {p : Sampler × Cached (Except Fault Counts)} (hp : Follows names last p.1) (h : ∀ t ∈ turns, t.Expected) :
    Follows names ((samples p turns).getLast?.or last) (Step.run Turn.take turns p).state.1 := by
  induction turns generalizing p last with
  | nil => exact hp
  | cons t rest ih =>
    have hnext := hp.take (h t List.mem_cons_self)
    have hrest := ih hnext fun t' ht' => h t' (List.mem_cons_of_mem t ht')
    rw [Step.run_cons, Outcome.after_state, samples]
    cases hsample : t.isSample p with
    | false =>
      rw [hsample] at hrest
      exact hrest
    | true =>
      rw [hsample] at hrest
      rw [if_pos rfl, List.getLast?_cons]
      rw [if_pos rfl] at hrest
      cases hlast : (samples (t.take p).state rest).getLast? with
      | none =>
        rw [hlast] at hrest
        exact hrest
      | some b =>
        rw [hlast] at hrest
        exact hrest

theorem mem_of_samples {b : Turn} {turns : List Turn} {p : Sampler × Cached (Except Fault Counts)}
    (h : b ∈ samples p turns) : b ∈ turns := by
  induction turns generalizing p with
  | nil => exact h
  | cons t rest ih =>
    rw [samples] at h
    split at h
    · rcases List.mem_cons.mp h with rfl | h
      · exact List.mem_cons_self
      · exact List.mem_cons_of_mem t (ih h)
    · exact List.mem_cons_of_mem t (ih h)

section Sample
variable {names : List Text} {b t : Turn} {s : Sampler}

theorem Follows.delta (hs : Follows names (some b) s) (t : Turn) :
    t.delta s = t.total names - b.total names ∧ t.elapsed s = t.now.sub b.now := by
  unfold Turn.delta elapsed
  rw [hs.links, hs.baseline b rfl]
  exact ⟨rfl, rfl⟩

theorem isForward_iff {elapsed : Binary64} {delta : Traffic} :
    Sampler.isForward elapsed delta = true ↔ Binary64.zero.lt elapsed = true ∧ 0 ≤ delta.tx ∧ 0 ≤ delta.rx := by
  unfold Sampler.isForward
  simp [and_assoc]

/-- A sample that was not answered adds no traffic by itself. -/
theorem answered_or_zero (hs : Follows names (some b) s) (hb : b.Expected) (h : t.Computes s) :
    t.isAnswered = true ∨ t.delta s = ⟨0, 0⟩ := by
  cases ht : t.isAnswered with
  | true => exact .inl rfl
  | false =>
    have hdelta := (hs.delta t).1
    rw [total_of_unanswered ht] at hdelta
    obtain ⟨-, htx, hrx⟩ := isForward_iff.mp h.forward
    rw [hdelta] at htx hrx
    obtain ⟨hbtx, hbrx⟩ := total_nonneg hb names
    have hnotx : 0 ≤ 0 - (b.total names).tx := htx
    have hnorx : 0 ≤ 0 - (b.total names).rx := hrx
    rw [hdelta]
    refine .inr (Traffic.ext ?_ ?_)
    · show 0 - (b.total names).tx = 0
      omega
    · show 0 - (b.total names).rx = 0
      omega

/-- After a sample that was not answered the whole reading counts as traffic. -/
theorem delta_after_unanswered (hs : Follows names (some b) s) (hb : b.isAnswered = false) :
    t.delta s = t.total names := by
  rw [(hs.delta t).1, total_of_unanswered hb]
  exact Traffic.ext (Int.sub_zero _) (Int.sub_zero _)

theorem Computes.last {last : Option Turn} (hs : Follows names last s) (h : t.Computes s) : ∃ b, last = some b := by
  have hsome := h.unchanged
  rw [hs.changed] at hsome
  exact Option.isSome_iff_exists.mp (Option.isNone_eq_false_iff.mp hsome)

theorem computes_after_unanswered (hs : Follows names (some b) s) (hb : b.isAnswered = false) (ht : t.Expected)
    (hlate : s.isEarly t.now = .ok false) (htime : Binary64.zero.lt (t.elapsed s) = true) : t.Computes s := by
  refine ⟨hlate, hs.changed, isForward_iff.mpr ⟨htime, ?_⟩⟩
  rw [delta_after_unanswered hs hb]
  exact total_nonneg ht names

end Sample

/-- A sampler that has the given links and has taken no sample. -/
def start (links : List (Link.Handle × Option Text)) (interval : Int) : Sampler :=
  { Sampler.fresh interval with registry := ⟨links, true⟩ }

section Runs
variable {links : List (Link.Handle × Option Text)} {interval : Int} {w : Cached (Except Fault Counts)}
  {turns before : List Turn} {t : Turn}

theorem Follows.of_run (h : ∀ t ∈ turns, t.Expected) :
    Follows (Link.Registry.names ⟨links, true⟩) (samples (start links interval, w) turns).getLast?
      (Step.run Turn.take turns (start links interval, w)).state.1 := by
  have hstart : Follows (Link.Registry.names ⟨links, true⟩) none (start links interval) := ⟨rfl, rfl, nofun⟩
  have hrun := Follows.run (p := (start links interval, w)) hstart h
  rwa [Option.or_none] at hrun

/-- A rate is computed from the readings of two samples, one just before the other, and a reading that the host did not
answer adds no traffic by itself. But if the host did not answer the earlier one, all that the later one reads counts as
traffic, and there is a rate whenever time passed between them. -/
theorem computes_of_run (links : List (Link.Handle × Option Text)) (interval : Int)
    (w : Cached (Except Fault Counts)) (h : ∀ t ∈ turns, t.Expected) (hpart : before ++ [t] <+: turns) :
    let names := Link.Registry.names ⟨links, true⟩
    let p := (Step.run take before (start links interval, w)).state
    let last := (samples (start links interval, w) before).getLast?
    (¬ t.Computes p.1 → (t.take p).state.1.estimate = p.1.estimate ∨ (t.take p).state.1.estimate = .zero) ∧
    (t.Computes p.1 → ∃ b, last = some b ∧ t.delta p.1 = t.total names - b.total names ∧
      t.elapsed p.1 = t.now.sub b.now ∧ (t.isAnswered = true ∨ t.delta p.1 = ⟨0, 0⟩) ∧
      ((t.take p).state.1 = p.1 ∨
        Sampler.ratesOver (t.delta p.1) (t.elapsed p.1) = .ok (t.take p).state.1.estimate)) ∧
    ∀ b, last = some b → b.isAnswered = false → t.delta p.1 = t.total names ∧
      (p.1.isEarly t.now = .ok false → Binary64.zero.lt (t.elapsed p.1) = true → t.Computes p.1) := by
  intro names p last
  have hmem : ∀ t' ∈ before ++ [t], t' ∈ turns := fun t' ht' => hpart.subset ht'
  have ht : t.Expected := h t (hmem t (List.mem_append_right before List.mem_cons_self))
  have hbefore : ∀ t' ∈ before, t'.Expected := fun t' ht' => h t' (hmem t' (List.mem_append_left [t] ht'))
  have hfollows : Follows names last p.1 := .of_run hbefore
  refine ⟨estimate_of_not_computes ht, fun hcomputes => ?_, fun b hb hunanswered => ?_⟩
  · obtain ⟨b, hb⟩ := hcomputes.last hfollows
    rw [hb] at hfollows
    obtain ⟨hdelta, helapsed⟩ := hfollows.delta t
    have hexpected : b.Expected := hbefore b (mem_of_samples (List.mem_of_getLast? hb))
    exact ⟨b, hb, hdelta, helapsed, answered_or_zero hfollows hexpected hcomputes, estimate_of_computes ht hcomputes⟩
  · rw [hb] at hfollows
    exact ⟨delta_after_unanswered hfollows hunanswered, computes_after_unanswered hfollows hunanswered ht⟩

end Runs

/-- The first tick after the start, which the host does not answer. -/
def failedTurn : Turn := ⟨.ofRatio false 1000 1, .error (.host .system "Input/output error")⟩

def nextTurn : Turn := ⟨.ofRatio false 2000 1, .ok [("eth0", ⟨1000000, 2000000⟩)]⟩

/-- A sampler with one link, after the tick that the host does not answer. -/
def afterFailed : Sampler × Cached (Except Fault Counts) :=
  (Step.run take [failedTurn] (start [(.named "a", some "eth0")] 1000, ⟨none, .ok []⟩)).state

theorem expected_failedStart : ∀ t ∈ [failedTurn, nextTurn], t.Expected := by
  simp [failedTurn, nextTurn, Expected, Cached.isForgiven, Fault.isSystem]

theorem computes_nextTurn : nextTurn.Computes afterFailed.1 :=
  ⟨by decide +kernel, by decide +kernel, by decide +kernel⟩

/-- The next tick reports all that the interface ever carried. -/
theorem estimate_nextTurn : (∀ t ∈ [failedTurn, nextTurn], t.Expected) ∧
    [failedTurn] ++ [nextTurn] <+: [failedTurn, nextTurn] ∧ nextTurn.delta afterFailed.1 = ⟨1000000, 2000000⟩ ∧
      (nextTurn.take afterFailed).state.1.estimate = ⟨8000, 16000⟩ := by
  have hpart : [failedTurn] ++ [nextTurn] <+: [failedTurn, nextTurn] := List.prefix_refl _
  obtain ⟨-, -, hafter⟩ := computes_of_run [(.named "a", some "eth0")] 1000 ⟨none, .ok []⟩ expected_failedStart
    hpart
  have hlast : (samples (start [(.named "a", some "eth0")] 1000, ⟨none, .ok []⟩) [failedTurn]).getLast? =
      some failedTurn := by
    rw [samples, if_pos (by decide +kernel)]
    rfl
  have htotal : nextTurn.total (Link.Registry.names ⟨[(.named "a", some "eth0")], true⟩) = ⟨1000000, 2000000⟩ := by
    decide +kernel
  have hdelta : nextTurn.delta afterFailed.1 = ⟨1000000, 2000000⟩ := by
    unfold afterFailed
    exact (hafter failedTurn hlast rfl).1.trans htotal
  exact ⟨expected_failedStart, hpart, hdelta, by decide +kernel⟩

/-- The rate that the next tick computes is over no difference of two readings that the host answered. -/
theorem nextTurn_unmeasured : (∀ t ∈ [failedTurn, nextTurn], t.Expected) ∧
    ¬ (nextTurn.Computes afterFailed.1 → ∃ a ∈ [failedTurn, nextTurn], ∃ b ∈ [failedTurn, nextTurn],
      a.isAnswered = true ∧ b.isAnswered = true ∧
        nextTurn.delta afterFailed.1 = b.total ["eth0"] - a.total ["eth0"]) := by
  refine ⟨expected_failedStart, fun h => ?_⟩
  obtain ⟨a, ha, b, hb, hanswered, hanswered', hdelta⟩ := h computes_nextTurn
  have honly : ∀ t ∈ [failedTurn, nextTurn], t.isAnswered = true → t = nextTurn := by
    intro t ht h
    rcases List.mem_cons.mp ht with rfl | ht
    · cases h
    · exact List.mem_singleton.mp ht
  rw [honly a ha hanswered, honly b hb hanswered'] at hdelta
  revert hdelta
  decide +kernel

end Turn
end LinkMeter.Rate
