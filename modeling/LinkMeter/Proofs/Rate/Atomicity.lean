import LinkMeter.Proofs.Rate.Sampling

/-! # Ticks that fail

A tick takes the mark of a change before it computes the rates, and both the readings before that and the computation may
fail. No failure loses anything: the rates are computed only if there was no mark to take, and nothing else is changed
before they are there (`state_of_error`). -/

namespace LinkMeter.Rate.Sampler
variable {σ : Type} {source : Source σ} {s : Sampler} {w : σ} {now : Binary64} {e : Fault}

theorem settle_of_error {o : Outcome Log.Record σ Traffic} (h : (s.settle now o).result = .error e) :
    (s.settle now o).state = (s, o.state) := by
  unfold settle at h ⊢
  rcases o with ⟨reports, w', f | traffic⟩
  · rfl
  · dsimp only at h ⊢
    cases heffect : effect s.registry.changed (now.sub s.baseline.time) (traffic - s.baseline.traffic) with
    | error f => dsimp only
    | ok made =>
      rw [heffect] at h
      dsimp only at h
      cases h

/-- A tick fails before the readings, in one of them, or when the rates are computed. -/
theorem state_of_error (h : (tick source now (s, w)).result = .error e) :
    (tick source now (s, w)).state = (s, (tick source now (s, w)).state.2) := by
  cases hearly : s.isEarly now with
  | error f => rw [tick_eq, hearly]
  | ok early =>
    cases early with
    | true =>
      rw [tick_of_early hearly] at h
      cases h
    | false =>
      rw [tick_of_late hearly] at h ⊢
      rw [settle_of_error h]

/-- A run goes on from an outcome that keeps the sampler as it does after a change of the surroundings. -/
theorem run_of_state {o : Outcome Log.Record (Sampler × σ) Estimate} (h : o.state = (s, o.state.2)) (source : Source σ)
    (events : List (Event σ)) : (Step.run (meet source) events o.state).state =
      (Step.run (meet source) (.counted (fun _ => o.state.2) :: events) (s, w)).state := by
  rw [Step.run_cons, Outcome.after_state, meet_counted, ← h]

/-- A tick that fails, wherever it does, leaves the rates, the baseline, the interval, the links and the mark of a change
exactly as they were. The next tick has the outcome that it would have had without it, whatever the counters are by then,
and every run goes on as if nothing had happened but what the readings did to the surroundings. -/
theorem tick_atomic (source : Source σ) (now : Binary64) (s : Sampler) (w : σ) {e : Fault}
    (h : (tick source now (s, w)).result = .error e) :
    let failed := (tick source now (s, w)).state
    failed.1 = s ∧ (∀ (other : Source σ) later w', tick other later (failed.1, w') = tick other later (s, w')) ∧
      ∀ events, (Step.run (meet source) (.tick now :: events) (s, w)).state =
        (Step.run (meet source) (.counted (fun _ => failed.2) :: events) (s, w)).state := by
  have hstate := state_of_error h
  have hsampler : (tick source now (s, w)).state.1 = s := congrArg Prod.fst hstate
  refine ⟨hsampler, fun other later w' => by rw [hsampler], fun events => ?_⟩
  rw [Step.run_cons, Outcome.after_state, meet_tick, Outcome.map_state]
  exact run_of_state hstate source events

/-- A sample, and then counters with which there is a rate of the bytes sent, but none of those received. -/
def overflowingEvents : List (Event Table) :=
  [.added (.named "a") (some "eth0"), .tick (.ofRatio false 1000 1), .removed (.named "b"), .tick (.ofRatio false 2000 1),
    .counted (·.put "eth0" ⟨1000, Nat.pow 10 400⟩)]

theorem atomic_overflowingEvents :
    let p := (Step.run (meet Table.source) overflowingEvents (fresh 1000, {})).state
    (tick Table.source (.ofRatio false 3000 1) p).result = .error .quotientTooLarge ∧
      (tick Table.source (.ofRatio false 3000 1) p).state.1 = p.1 := by
  intro p
  have h : (tick Table.source (.ofRatio false 3000 1) p).result = .error .quotientTooLarge := by decide +kernel
  have hkept : ∀ p : Sampler × Table, (tick Table.source (.ofRatio false 3000 1) p).result = .error .quotientTooLarge →
      (tick Table.source (.ofRatio false 3000 1) p).state.1 = p.1 := by
    rintro ⟨s, w⟩ h
    exact (tick_atomic Table.source (.ofRatio false 3000 1) s w h).1
  exact ⟨h, hkept p h⟩

end LinkMeter.Rate.Sampler
