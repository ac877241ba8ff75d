import LinkMeter.Proofs.Engine.Runs

/-! # Suspension

Without a surface, or while the screen is off, the engine does not sample: whatever happens to it, as long as no message
ends the suspension, it reads no counter, keeps its rates, and no tick is pending. The suspension is decided by two flags
that several messages change; `Suspended` is what every action keeps, whether it fails or not. -/

namespace LinkMeter.Engine
variable {σ : Type}

/-- Why the engine does not sample. -/
inductive Suspension where
  | detached
  | asleep

namespace Suspension

/-- Whether the engine is suspended for this reason. -/
def Holds (e : Engine σ) : Suspension → Prop
  | detached => e.attached = false
  | asleep => e.screenOn = false

/-- The only message that ends the suspension. -/
def ender : Suspension → Message
  | detached => .attach
  | asleep => .screenChanged true false

theorem Holds.congr {s : Suspension} {e e' : Engine σ} (h : s.Holds e) (hattached : e'.attached = e.attached)
    (hscreen : e'.screenOn = e.screenOn) : s.Holds e' := by
  cases s with
  | detached => exact hattached.trans h
  | asleep => exact hscreen.trans h

theorem Holds.isAwake {s : Suspension} {e : Engine σ} (h : s.Holds e) : e.isAwake = false := by
  unfold Engine.isAwake
  cases s with
  | detached =>
    have h : e.attached = false := h
    rw [h, Bool.false_and]
  | asleep =>
    have h : e.screenOn = false := h
    rw [h, Bool.and_false]

theorem ender_ne_tick (s : Suspension) : s.ender ≠ .tick := by
  cases s <;> exact nofun

/-- What a suspended engine may report: without a surface, only decisions that show nothing. -/
def Allows (s : Suspension) (w : Report) : Prop :=
  s = .detached → ∀ d, w = .display d → d.active = false ∧ d.visible = false ∧ d.text = [] ∧ d.arrows = .none

theorem allows_of_quiet (s : Suspension) {reports : List Report} (h : Quiet reports) : ∀ w ∈ reports, s.Allows w := by
  intro w hw _ d hd
  rw [hd] at hw
  exact absurd hw (h d)

end Suspension

/-- A suspended engine that will not be woken by what waits, with the rates and the baseline of `e₀`. -/
structure Suspended (s : Suspension) (e₀ e : Engine σ) : Prop where
  holds : s.Holds e
  queue : s.ender ∉ e.queue
  idle : e.timer.isPending = false
  estimate : e.sampler.estimate = e₀.sampler.estimate
  baseline : e.sampler.baseline = e₀.sampler.baseline

/-! ## What a message does to a suspended engine -/

section Messages
variable {c : Connections σ} {s : Suspension} {e₀ e e₁ e' : Engine σ} {m : Message} {r : Except Fault Unit}

theorem Prepared.suspended (h : Prepared c e m e₁) (hs : Suspended s e₀ e) (hm : m ≠ s.ender) : Suspended s e₀ e₁ := by
  obtain ⟨hholds, hqueue, hidle, hestimate, hbaseline⟩ := hs
  cases h with
  | tick hawake _ _ =>
    rw [hholds.isAwake] at hawake
    cases hawake
  | updateView => exact ⟨hholds, hqueue, hidle, hestimate, hbaseline⟩
  | configChanged config => exact ⟨hholds.congr rfl rfl, hqueue, hidle, hestimate, hbaseline⟩
  | connectivityChanged available => exact ⟨hholds.congr rfl rfl, hqueue, hidle, hestimate, hbaseline⟩
  | connectivityAsked => exact ⟨hholds.congr rfl rfl, hqueue, hidle, hestimate, hbaseline⟩
  | screenOn =>
    cases s with
    | detached => exact ⟨hholds, hqueue, hidle, hestimate, hbaseline⟩
    | asleep => exact absurd rfl hm
  | attach =>
    cases s with
    | detached => exact absurd rfl hm
    | asleep => exact ⟨hholds, hqueue, hidle, hestimate, hbaseline⟩
  | detach =>
    cases s with
    | detached => exact ⟨rfl, hqueue, rfl, hestimate, hbaseline⟩
    | asleep => exact ⟨hholds, hqueue, rfl, hestimate, hbaseline⟩

theorem Aside.suspended (h : Aside c e m e' r) (hs : Suspended s e₀ e) : Suspended s e₀ e' := by
  obtain ⟨hholds, hqueue, hidle, hestimate, hbaseline⟩ := hs
  cases h with
  | tickDropped _ => exact ⟨hholds, hqueue, hidle, hestimate, hbaseline⟩
  | tickFailed hawake _ _ =>
    rw [hholds.isAwake] at hawake
    cases hawake
  | linkUpdated _ _ => exact ⟨hholds.congr rfl rfl, hqueue, hidle, hestimate, hbaseline⟩
  | linkLost _ => exact ⟨hholds.congr rfl rfl, hqueue, hidle, hestimate, hbaseline⟩
  | screenOff _ =>
    cases s with
    | detached => exact ⟨hholds, hqueue, rfl, hestimate, hbaseline⟩
    | asleep => exact ⟨rfl, hqueue, rfl, hestimate, hbaseline⟩

/-- The timer is not armed again, and without a surface the decision shows nothing. -/
theorem display_suspended (hs : Suspended s e₀ e) :
    Suspended s e₀ (display e).state ∧ ∀ w ∈ (display e).reports, s.Allows w := by
  cases hd : e.decision with
  | error f =>
    rw [display_of_error hd]
    exact ⟨hs, s.allows_of_quiet (Quiet.records _)⟩
  | ok d =>
    rw [display_of_ok hd]
    refine ⟨⟨hs.holds.congr rfl rfl, hs.queue, ?_, hs.estimate, hs.baseline⟩, fun w hw => ?_⟩
    · exact e.isPending_rearmed.trans (isLive_of_asleep hs.holds.isAwake)
    · rcases List.mem_append.mp hw with hw | hw
      · exact s.allows_of_quiet (Quiet.records _) w hw
      · rcases List.mem_cons.mp hw with rfl | hw
        · -- Without a surface the decision shows nothing, whatever the rates are.
          rintro rfl _ ⟨⟩
          have hattached : e.attached = false := hs.holds
          unfold decision at hd
          rw [hattached] at hd
          exact Display.decide_detached hd
        · exact s.allows_of_quiet (Quiet.records _) w hw

theorem process_suspended (c : Connections σ) (hs : Suspended s e₀ e) (hm : m ≠ s.ender) :
    Suspended s e₀ (process c m e).state ∧ ∀ w ∈ (process c m e).reports, s.Allows w := by
  cases process_handled c m e with
  | shown hprepared hquiet ho =>
    obtain ⟨hstate, hreports⟩ := display_suspended (hprepared.suspended hs hm)
    rw [ho]
    refine ⟨hstate, fun w hw => ?_⟩
    rcases List.mem_append.mp hw with hw | hw
    · exact s.allows_of_quiet hquiet w hw
    · exact hreports w hw
  | aside haside hquiet ho =>
    rw [ho]
    exact ⟨haside.suspended hs, s.allows_of_quiet hquiet⟩

/-- An engine that is not awake does the same whatever its counters. -/
theorem process_counters (c : Connections σ) (m : Message) (h : e.isAwake = false) (other : Rate.Source σ) :
    process { c with counters := other } m e = process c m e := by
  unfold process
  rw [note_bind, note_bind]
  cases m with
  | tick =>
    show Outcome.after _ (handleTick { c with counters := other } e) = Outcome.after _ (handleTick c e)
    unfold handleTick
    rw [Step.get_bind, Step.get_bind, h, if_neg Bool.false_ne_true, if_neg Bool.false_ne_true]
  | _ => rfl

end Messages

/-! ## What an action does to a suspended engine -/

section Actions
variable {c : Connections σ} {s : Suspension} {e₀ e : Engine σ} {a : Action σ}

theorem ne_ender_of_queue (hs : Suspended s e₀ e) {m : Message} {rest : List Message} (h : e.queue = m :: rest) :
    m ≠ s.ender ∧ Suspended s e₀ { e with queue := rest } := by
  obtain ⟨hholds, hqueue, hidle, hestimate, hbaseline⟩ := hs
  rw [h] at hqueue
  obtain ⟨hm, hrest⟩ := not_or.mp (mt List.mem_cons.mpr hqueue)
  exact ⟨Ne.symm hm, hholds.congr rfl rfl, hrest, hidle, hestimate, hbaseline⟩

theorem perform_suspended (hs : Suspended s e₀ e) (ha : a.sends ≠ some s.ender) :
    Suspended s e₀ (perform c a e).state ∧ ∀ w ∈ (perform c a e).reports, s.Allows w := by
  have hquiet := s.allows_of_quiet Quiet.nil
  cases a with
  | message m => exact process_suspended c hs fun h => ha (congrArg some h)
  | post m =>
    refine ⟨⟨hs.holds.congr rfl rfl, fun h => ?_, hs.idle, hs.estimate, hs.baseline⟩, hquiet⟩
    rcases List.mem_append.mp h with h | h
    · exact hs.queue h
    · exact ha (congrArg some (List.mem_singleton.mp h).symm)
  | deliver =>
    rw [perform_deliver]
    rcases deliver_cases c e with ⟨-, heq⟩ | ⟨m, rest, hqueue, heq⟩
    · rw [heq]
      exact ⟨hs, hquiet⟩
    · obtain ⟨hm, hrest⟩ := ne_ender_of_queue hs hqueue
      rw [heq]
      exact process_suspended c hrest hm
  | expire =>
    rw [perform_expire, expire_apply]
    refine ⟨⟨hs.holds.congr rfl rfl, fun h => ?_, ?_, hs.estimate, hs.baseline⟩, hquiet⟩
    · dsimp only at h
      split at h
      · rcases List.mem_append.mp h with h | h
        · exact hs.queue h
        · exact s.ender_ne_tick (List.mem_singleton.mp h)
      · exact hs.queue h
    · show e.timer.spent.isPending = false
      unfold Timer.spent
      split <;> rfl
  | clock now => exact ⟨⟨hs.holds.congr rfl rfl, hs.queue, hs.idle, hs.estimate, hs.baseline⟩, hquiet⟩
  | surround f => exact ⟨⟨hs.holds.congr rfl rfl, hs.queue, hs.idle, hs.estimate, hs.baseline⟩, hquiet⟩
  | cleanup =>
    obtain ⟨reports, hreports, hcleanup⟩ := cleanup_apply e
    rw [perform_cleanup, hcleanup]
    refine ⟨⟨?_, hs.queue, rfl, hs.estimate, hs.baseline⟩, s.allows_of_quiet hreports⟩
    cases s with
    | detached => exact rfl
    | asleep => exact hs.holds

theorem perform_counters (c : Connections σ) (a : Action σ) (h : e.isAwake = false) (other : Rate.Source σ) :
    perform { c with counters := other } a e = perform c a e := by
  cases a with
  | message m => exact process_counters c m h other
  | deliver =>
    rw [perform_deliver, perform_deliver]
    cases hqueue : e.queue with
    | nil => rw [deliver_nil _ hqueue, deliver_nil _ hqueue]
    | cons m rest =>
      have hrest : isAwake { e with queue := rest } = false := h
      rw [deliver_cons _ hqueue, deliver_cons _ hqueue]
      exact process_counters c m hrest other
  | _ => rfl

end Actions

/-! ## The engine before its suspension -/

/-- A tick is pending only while the engine is awake. Other than all that `Steady` says, this holds even if something
failed. -/
def Guarded (e : Engine σ) : Prop := e.timer.isPending = true → e.isAwake = true

section Guarded
variable {c : Connections σ} {e e₁ e' : Engine σ} {m : Message} {r : Except Fault Unit}

theorem Prepared.guarded (h : Prepared c e m e₁) (he : Guarded e) : Guarded e₁ := by
  cases h with
  | screenOn =>
    intro hpending
    exact Bool.and_eq_true_iff.mpr ⟨(Bool.and_eq_true_iff.mp (he hpending)).1, rfl⟩
  | attach =>
    intro hpending
    exact Bool.and_eq_true_iff.mpr ⟨rfl, (Bool.and_eq_true_iff.mp (he hpending)).2⟩
  | detach => exact nofun
  | _ => exact he

theorem Aside.guarded (h : Aside c e m e' r) (he : Guarded e) : Guarded e' := by
  cases h with
  | screenOff _ => exact nofun
  | _ => exact he

theorem display_guarded (he : Guarded e) : Guarded (display e).state := by
  cases hd : e.decision with
  | error f =>
    rw [display_of_error hd]
    exact he
  | ok d =>
    rw [display_of_ok hd]
    intro hpending
    exact (Bool.and_eq_true_iff.mp (e.isPending_rearmed.symm.trans hpending)).1

theorem process_guarded (c : Connections σ) (m : Message) (he : Guarded e) : Guarded (process c m e).state := by
  cases process_handled c m e with
  | shown hprepared _ ho =>
    rw [ho]
    exact display_guarded (hprepared.guarded he)
  | aside haside _ ho =>
    rw [ho]
    exact haside.guarded he

theorem perform_guarded (c : Connections σ) (a : Action σ) (he : Guarded e) : Guarded (perform c a e).state := by
  cases a with
  | message m => exact process_guarded c m he
  | deliver =>
    rw [perform_deliver]
    rcases deliver_cases c e with ⟨-, heq⟩ | ⟨m, rest, -, heq⟩
    · rw [heq]
      exact he
    · rw [heq]
      exact process_guarded c m he
  | expire =>
    rw [perform_expire, expire_apply]
    intro hpending
    have hspent : e.timer.spent.isPending = true := hpending
    unfold Timer.spent at hspent
    split at hspent <;> cases hspent
  | cleanup =>
    obtain ⟨reports, -, hcleanup⟩ := cleanup_apply e
    rw [perform_cleanup, hcleanup]
    exact nofun
  | _ => exact he

theorem run_guarded (c : Connections σ) (config : Display.Config) (start : Binary64) (around : σ)
    (actions : List (Action σ)) : Guarded (Step.run (perform c) actions (fresh config start around)).state := by
  have hfresh : Guarded (fresh config start around) := by
    intro hpending
    cases hpending
  exact (Step.run_keeps (P := Guarded) (R := fun _ => True)
    (fun a _ _ he => ⟨perform_guarded c a he, fun _ _ => trivial⟩) hfresh).1

end Guarded

/-! ## Runs -/

theorem run_suspended {s : Suspension} {e₀ e : Engine σ} (c : Connections σ) {actions : List (Action σ)}
    (hs : Suspended s e₀ e) (hnone : ∀ a ∈ actions, a.sends ≠ some s.ender) :
    Suspended s e₀ (Step.run (perform c) actions e).state ∧
      (∀ w ∈ (Step.run (perform c) actions e).reports, s.Allows w) ∧
      ∀ other, Step.run (perform { c with counters := other }) actions e = Step.run (perform c) actions e := by
  obtain ⟨hstate, hreports⟩ := Step.run_keeps (P := Suspended s e₀) (R := s.Allows)
    (fun a ha e he => perform_suspended (c := c) he (hnone a ha)) hs
  refine ⟨hstate, hreports, fun other => ?_⟩
  -- Only a tick of an engine that is awake reaches the counters, and the engine is awake at no point of the run.
  refine Step.run_congr (P := Suspended s e₀) (fun a ha e he => ?_) hs
  have hsame := perform_counters c a he.holds.isAwake other
  exact ⟨hsame, by rw [hsame]; exact (perform_suspended he (hnone a ha)).1⟩

/-- Once the engine is suspended, by whatever run, and until a message ends the suspension: at every point of what follows
the rates and the baseline are those from before it, no tick is pending, and all went as it goes with any other counters,
so none was read. Without a surface, all decisions show nothing. -/
theorem suspension_of_run (c : Connections σ) (config : Display.Config) (start : Binary64) (around : σ)
    {before after : List (Action σ)} {s : Suspension} {e : Engine σ}
    (he : (Step.run (perform c) before (fresh config start around)).state = e) (hholds : s.Holds e)
    (hnone : s.ender ∉ e.queue ++ after.filterMap Action.sends) {part : List (Action σ)} (hpart : part <+: after) :
    let o := Step.run (perform c) part e
    o.state.sampler.estimate = e.sampler.estimate ∧ o.state.sampler.baseline = e.sampler.baseline ∧
      o.state.timer.isPending = false ∧ (∀ other, Step.run (perform { c with counters := other }) part e = o) ∧
      (s = .detached → ∀ d, .display d ∈ o.reports →
        d.active = false ∧ d.visible = false ∧ d.text = [] ∧ d.arrows = .none) := by
  intro o
  have hguarded := run_guarded c config start around before
  rw [he] at hguarded
  have hidle : e.timer.isPending = false := by
    cases hpending : e.timer.isPending with
    | false => rfl
    | true =>
      have hawake := hguarded hpending
      rw [hholds.isAwake] at hawake
      cases hawake
  obtain ⟨hqueue, hafter⟩ := not_or.mp (mt List.mem_append.mpr hnone)
  have hsent : ∀ a ∈ part, a.sends ≠ some s.ender := by
    intro a ha hsends
    exact hafter (List.mem_filterMap.mpr ⟨a, hpart.subset ha, hsends⟩)
  obtain ⟨hstate, hreports, hcounters⟩ := run_suspended c ⟨hholds, hqueue, hidle, rfl, rfl⟩ hsent
  refine ⟨hstate.estimate, hstate.baseline, hstate.idle, hcounters, fun hs d hd => ?_⟩
  exact hreports _ hd hs d rfl

/-- Two samples for a surface, which is detached then. -/
def detachedActions : List (Action Rate.Table) :=
  [.message (.linkUpdated (.named "a") (some "eth0")), .surround (·.put "eth0" ⟨1000, 500⟩), .message .attach,
    .clock (.ofRatio false 2000 1), .expire, .deliver, .surround (·.put "eth0" ⟨3000, 4500⟩),
    .clock (.ofRatio false 4000 1), .expire, .deliver, .message .detach]

def staleActions : List (Action Rate.Table) := [.post .tick, .deliver, .message (.screenChanged true false)]

/-- The rates of the last sample stay, and no tick is pending. -/
theorem suspension_staleActions :
    let e := (Step.run (perform onTable) detachedActions (fresh .default .zero {})).state
    Suspension.detached.Holds e ∧ Suspension.detached.ender ∉ e.queue ++ staleActions.filterMap Action.sends ∧
      (Step.run (perform onTable) staleActions e).state.sampler.estimate = ⟨8, 16⟩ ∧
      (Step.run (perform onTable) staleActions e).state.timer.isPending = false := by
  generalize he : (Step.run (perform onTable) detachedActions (fresh .default .zero {})).state = e
  have hdetached : Suspension.detached.Holds e := by
    show e.attached = false
    rw [← he]
    decide +kernel
  have hestimate : e.sampler.estimate = ⟨8, 16⟩ := by
    rw [← he]
    decide +kernel
  have hqueue : e.queue.length = 0 := by
    rw [← he]
    decide +kernel
  have hnone : Suspension.detached.ender ∉ e.queue ++ staleActions.filterMap Action.sends := by
    rw [List.length_eq_zero_iff.mp hqueue]
    simp [staleActions, Action.sends, Suspension.ender]
  obtain ⟨hsame, -, hidle, -, -⟩ := suspension_of_run onTable .default .zero {} he hdetached hnone (List.prefix_refl _)
  exact ⟨hdetached, hnone, hsame.trans hestimate, hidle⟩

end LinkMeter.Engine
