import LinkMeter.Proofs.Engine.Surface

/-! # The cadence of the samples

The engine arms the timer, and the sampler drops a tick that comes too soon after a sample; a configuration gives both
their interval. As long as all ticks are the timer's own, a pending tick is due no earlier than an interval after the last
sample (`Timed`), so none of them is dropped, and while nothing else happens the samples are an interval apart. -/

namespace LinkMeter

namespace Rate.Sampler

theorem leastShare_le : ∃ share, leastShare = .finite false share ∧ share ≤ Binary64.unit := by
  have habove : 95 * Binary64.unit ≤ 1 * Binary64.unit * 100 := by omega
  have hbelow : 0 * Binary64.unit * 100 ≤ 95 * Binary64.unit := by omega
  obtain ⟨share, hshare, -, hone⟩ := Binary64.rounded_mem false (by decide) hbelow habove (by decide)
  rw [Nat.one_mul] at hone
  unfold leastShare Binary64.ofRatio
  exact ⟨share, hshare, hone⟩

/-- The least gap between two samples is at most the interval. -/
theorem leastGap_le {interval : Nat} (h : interval < Nat.pow 2 53) :
    ∃ steps, leastGap interval = .ok (.finite false steps) ∧ steps ≤ interval * Binary64.unit := by
  obtain ⟨share, hshare, hone⟩ := leastShare_le
  have hbelow : 0 * Binary64.unit * Binary64.unit ≤ interval * Binary64.unit * share := by
    rw [Nat.zero_mul, Nat.zero_mul]
    exact Nat.zero_le _
  obtain ⟨steps, hsteps, -, hle⟩ :=
    Binary64.rounded_mem false Binary64.unit_pos hbelow (Nat.mul_le_mul_left (interval * Binary64.unit) hone) h
  refine ⟨steps, ?_, hle⟩
  unfold leastGap
  rw [Binary64.ofInt_natCast h, hshare]
  show Except.ok ((Binary64.finite false (interval * Binary64.unit)).mul (.finite false share)) = _
  rw [Binary64.mul_finite, bne_self_eq_false, hsteps]

/-- A tick is not too soon when the whole interval has passed since the last sample. -/
theorem isEarly_of_late {s : Sampler} {interval last now : Nat} (hinterval : s.interval = interval)
    (hlast : s.baseline.time = .ofNat last) (hlate : last + interval ≤ now) (hnow : now < Nat.pow 2 53) :
    s.isEarly (.ofNat now) = .ok false := by
  have hsmall : interval < Nat.pow 2 53 := by omega
  obtain ⟨steps, hgap, hsteps⟩ := leastGap_le hsmall
  rw [← hinterval] at hgap
  rw [isEarly_of_ok hgap, hlast, Binary64.sub_ofNat (by omega) hnow]
  have hpassed : interval * Binary64.unit ≤ (now - last) * Binary64.unit := Nat.mul_le_mul_right _ (by omega)
  unfold Binary64.ofNat
  rw [Binary64.lt_finite, Binary64.signed_positive, Binary64.signed_positive, decide_eq_false]
  exact Int.not_lt.mpr (Int.ofNat_le.mpr (Nat.le_trans hsteps hpassed))

end Rate.Sampler

namespace Engine
variable {σ : Type}

/-! ## Runs in which the ticks are the timer's own -/

/-- Whether a tick waits in the queue. -/
def awaitsTick (e : Engine σ) : Bool := e.queue.any Message.isTick

/-- The action keeps time: no tick comes but from the timer, which goes off when it is due and nothing waits; no message is
worked on in front of a tick that waits; and the clock shows whole milliseconds and does not go back. -/
def Punctual (e : Engine σ) : Action σ → Prop
  | .message m => m.isTick = false ∧ e.awaitsTick = false
  | .post m => m.isTick = false
  | .expire => e.timer.due.any (·.le e.now) = true ∧ e.queue = []
  | .clock now => (∃ n < Nat.pow 2 52, now = .ofNat n) ∧ e.now.le now = true
  | .cleanup => False
  | .deliver | .surround _ => True

/-- Nothing happens but what the timer brings about, and this at once: it goes off exactly when it is due, and the clock
stands still until its tick is worked on. -/
def Undisturbed (e : Engine σ) : Action σ → Prop
  | .expire => e.timer.due = some e.now
  | .clock _ => e.awaitsTick = false
  | .message _ | .post _ | .cleanup => False
  | .deliver | .surround _ => True

theorem isWhole_iff {t : Binary64} :
    t = .ofNat t.whole.toNat ∧ t.whole.toNat < Nat.pow 2 52 ↔ ∃ n < Nat.pow 2 52, t = .ofNat n := by
  constructor
  · rintro ⟨heq, hlt⟩
    exact ⟨_, hlt, heq⟩
  · rintro ⟨n, hlt, rfl⟩
    rw [Binary64.whole_ofNat, Int.toNat_natCast]
    exact ⟨rfl, hlt⟩

instance (e : Engine σ) : (a : Action σ) → Decidable (Punctual e a)
  | .message _ => inferInstanceAs (Decidable (_ ∧ _))
  | .post _ => inferInstanceAs (Decidable (_ = _))
  | .expire => inferInstanceAs (Decidable (_ ∧ _))
  | .clock _ => @instDecidableAnd _ _ (decidable_of_iff _ isWhole_iff) _
  | .cleanup => .isFalse id
  | .deliver | .surround _ => .isTrue trivial

instance (e : Engine σ) : (a : Action σ) → Decidable (Undisturbed e a)
  | .expire => inferInstanceAs (Decidable (_ = _))
  | .clock _ => inferInstanceAs (Decidable (_ = _))
  | .message _ | .post _ | .cleanup => .isFalse id
  | .deliver | .surround _ => .isTrue trivial

/-! ## Samples -/

/-- A sample was taken: it was not too soon, and the baseline is what was read at the time of the clock. -/
structure Sampled (c : Connections σ) (e e' : Engine σ) : Prop where
  late : e.sampler.isEarly (c.clock e.now) = .ok false
  baseline : ∃ traffic, (Rate.Sampler.totals c.counters e.sampler.registry.names e.around).result = .ok traffic ∧
    e'.sampler.baseline = ⟨traffic, c.clock e.now⟩
  counted : e'.sampler.samples = e.sampler.samples + 1

/-- The times of the samples that are taken in a run. -/
def sampleTimes (c : Connections σ) : List (Action σ) → Engine σ → List Binary64
  | [], _ => []
  | a :: rest, e =>
    let e' := (perform c a e).state
    if e'.sampler.samples = e.sampler.samples then sampleTimes c rest e'
    else e'.sampler.baseline.time :: sampleTimes c rest e'

/-- Some times in milliseconds, each `step` after the one before. -/
def spaced (first step count : Nat) : List Binary64 := (List.range count).map fun i => .ofNat (first + i * step)

theorem spaced_succ (first step count : Nat) :
    spaced first step (count + 1) = .ofNat first :: spaced (first + step) step count := by
  unfold spaced
  rw [List.range_succ_eq_map, List.map_cons, List.map_map, Nat.zero_mul, Nat.add_zero]
  refine congrArg _ (List.map_congr_left fun i _ => ?_)
  show Binary64.ofNat (first + (i + 1) * step) = _
  rw [Nat.add_mul, Nat.one_mul, Nat.add_assoc, Nat.add_comm (i * step)]

/-! ## The invariant -/

/-- The milliseconds between two samples. -/
def pace (e : Engine σ) : Nat := e.config.intervalMs.toNat

theorem pace_le (e : Engine σ) : e.pace ≤ 10000 := by
  have hmem := e.config.intervalMs_mem
  unfold pace
  omega

theorem intervalMs_eq_pace (e : Engine σ) : e.config.intervalMs = e.pace := by
  have hmem := e.config.intervalMs_mem
  unfold pace
  omega

/-- It is `now`, and the last sample was at `last`; a pending tick is due no earlier than an interval after it. -/
structure Timed (e : Engine σ) (last now : Nat) : Prop where
  steady : Steady e
  now_eq : e.now = .ofNat now
  now_lt : now < Nat.pow 2 52
  last_eq : e.sampler.baseline.time = .ofNat last
  last_le : last ≤ now
  due : ∀ due, e.timer.due = some due → ∃ time, due = .ofNat time ∧ last + e.pace ≤ time

/-- Either no tick waits, or one waits before all else, and it is time for a sample. -/
inductive Ready (e : Engine σ) (last now : Nat) : Prop where
  | idle (hnone : e.awaitsTick = false)
  | tick {rest : List Message} (hqueue : e.queue = .tick :: rest) (hrest : rest.any Message.isTick = false)
    (hidle : e.timer.due = none) (hlive : e.isLive = true) (hlate : last + e.pace ≤ now)

/-- The engine in a run in which the ticks are the timer's own. -/
def Paced (e : Engine σ) : Prop := ∃ last now, Timed e last now ∧ Ready e last now

theorem Paced.fresh (config : Display.Config) {start : Nat} (hstart : start < Nat.pow 2 52) (around : σ) :
    Paced (fresh config (.ofNat start) around) := by
  refine ⟨0, start, ⟨.fresh _ _ _, rfl, hstart, ?_, Nat.zero_le _, nofun⟩, .idle rfl⟩
  show Binary64.zero = _
  unfold Binary64.zero Binary64.ofNat
  rw [Nat.zero_mul]

section Messages
variable {c : Connections σ} {e e₁ e' : Engine σ} {m : Message} {last now : Nat}

/-- The timer is armed for an interval from now. -/
theorem rearmed_due (hnow : e.now = .ofNat now) (hlt : now < Nat.pow 2 52) {due : Binary64}
    (hdue : e.rearmed.due = some due) : due = .ofNat (now + e.pace) := by
  have hpace := e.pace_le
  have hsum : now + e.pace < Nat.pow 2 53 := by
    have hpow : Nat.pow 2 53 = Nat.pow 2 52 + Nat.pow 2 52 := rfl
    have hsmall : 10000 < Nat.pow 2 52 := by decide
    omega
  have hdelay : e.config.delay = .ofNat e.pace := rfl
  unfold rearmed at hdue
  split at hdue
  · rw [← Binary64.add_ofNat hsum, ← hnow, ← hdelay]
    exact (Option.some.inj hdue).symm
  · cases hdue

theorem Prepared.baseline (h : Prepared c e m e₁) (hm : m.isTick = false) : e₁.sampler.baseline = e.sampler.baseline := by
  cases h with
  | tick _ _ _ => cases hm
  | _ => rfl

/-- A message that is no tick takes no sample, and if it arms the timer, then for an interval from now. -/
theorem process_timed (h : Timed e last now) (hm : m.isTick = false) (hok : (process c m e).result = .ok ()) :
    Timed (process c m e).state last now := by
  have hsteady := process_steady h.steady hok
  have hnow := (process_kept c m e).now.trans h.now_eq
  rcases process_ok c m e hok with ⟨e₁, d, hprepared, -, hstate⟩ | haside
  · refine ⟨hsteady, hnow, h.now_lt, ?_, h.last_le, fun due hdue => ⟨now + (process c m e).state.pace, ?_, ?_⟩⟩
    · rw [hstate, ← h.last_eq]
      exact congrArg Rate.Baseline.time (hprepared.baseline hm)
    · rw [hstate] at hdue ⊢
      exact rearmed_due (hprepared.kept.now.trans h.now_eq) h.now_lt hdue
    · exact Nat.add_le_add_right h.last_le _
  · generalize (process c m e).state = e' at haside hsteady hnow ⊢
    cases haside with
    | screenOff _ => exact ⟨hsteady, hnow, h.now_lt, h.last_eq, h.last_le, nofun⟩
    | _ => exact ⟨hsteady, hnow, h.now_lt, h.last_eq, h.last_le, h.due⟩

/-- A tick that is not too soon takes a sample, and nothing else changes but the display and the timer. -/
theorem process_tick (hclock : ∀ t, c.clock t = t) (h : Timed e last now) (hlive : e.isLive = true)
    (hlate : last + e.pace ≤ now) (hok : (process c .tick e).result = .ok ()) :
    Sampled c e (process c .tick e).state ∧ ∃ sampler around shown,
      (process c .tick e).state = { e with sampler, around, shown, timer := e.rearmed } := by
  have hearly : e.sampler.isEarly (c.clock e.now) = .ok false := by
    have hinterval : e.sampler.interval = (e.pace : Int) := h.steady.interval.trans e.intervalMs_eq_pace
    have hsmall : now < Nat.pow 2 53 := Nat.lt_trans h.now_lt (by decide)
    rw [hclock, h.now_eq]
    exact Rate.Sampler.isEarly_of_late hinterval h.last_eq hlate hsmall
  have hsampling : sampling c e = e.sampler.settle (c.clock e.now)
      (Rate.Sampler.totals c.counters e.sampler.registry.names e.around) := Rate.Sampler.tick_of_late hearly _ _
  rcases process_ok c .tick e hok with ⟨e₁, d, hprepared, -, hstate⟩ | haside
  · cases hprepared with
    | @tick p rates _ hsample hp =>
      rw [hsampling] at hsample hp
      obtain ⟨traffic, effect, htraffic, -, hsettled⟩ := Rate.Sampler.settle_of_ok hsample
      rw [hsettled] at hp
      subst hp
      rw [hstate]
      exact ⟨⟨hearly, ⟨traffic, htraffic, rfl⟩, rfl⟩, _, _, _, rfl⟩
  · -- A live engine is awake, so the tick is not dropped.
    generalize (process c .tick e).state = e' at haside
    cases haside with
    | tickDropped hasleep =>
      rw [isLive_of_asleep hasleep] at hlive
      cases hlive

/-- What is at `now` when a sample was taken. -/
theorem process_tick_timed (hclock : ∀ t, c.clock t = t) (h : Timed e last now) (hlive : e.isLive = true)
    (hlate : last + e.pace ≤ now) (hok : (process c .tick e).result = .ok ()) :
    Timed (process c .tick e).state now now := by
  obtain ⟨⟨-, ⟨traffic, -, hbaseline⟩, -⟩, sampler, around, shown, hstate⟩ := process_tick hclock h hlive hlate hok
  refine ⟨process_steady h.steady hok, (process_kept c .tick e).now.trans h.now_eq, h.now_lt, ?_, Nat.le_refl _, ?_⟩
  · rw [hbaseline, hclock]
    exact h.now_eq
  · rw [hstate]
    exact fun due hdue => ⟨now + e.pace, rearmed_due h.now_eq h.now_lt hdue, Nat.le_refl _⟩

end Messages

/-! ## What an action does to it -/

section Actions
variable {c : Connections σ} {e : Engine σ} {a : Action σ} {last now : Nat}

theorem Timed.requeued (h : Timed e last now) (queue : List Message) : Timed { e with queue } last now :=
  ⟨⟨h.steady.connected, h.steady.callback, h.steady.live, h.steady.interval⟩, h.now_eq, h.now_lt, h.last_eq, h.last_le,
    h.due⟩

theorem Ready.posted (h : Ready e last now) {m : Message} (hm : m.isTick = false) :
    Ready { e with queue := e.queue ++ [m] } last now := by
  have hconcat : ∀ queue : List Message, queue.any Message.isTick = false → (queue ++ [m]).any Message.isTick = false := by
    intro queue hqueue
    rw [List.any_append, hqueue, List.any_cons, hm]
    rfl
  cases h with
  | idle hnone => exact .idle (hconcat _ hnone)
  | tick hqueue hrest hidle hlive hlate =>
    refine .tick ?_ (hconcat _ hrest) hidle hlive hlate
    show e.queue ++ [m] = _
    rw [hqueue]
    rfl

/-- A tick that is worked on was the timer's, and a sample is taken. -/
theorem deliver_paced (hclock : ∀ t, c.clock t = t) (h : Timed e last now) (hready : Ready e last now)
    (hok : (deliver c e).result = .ok ()) :
    (e.queue.head? = some .tick → Sampled c e (deliver c e).state) ∧ Paced (deliver c e).state := by
  rcases deliver_cases c e with ⟨hqueue, heq⟩ | ⟨m, rest, hqueue, heq⟩
  · rw [hqueue, heq]
    exact ⟨nofun, last, now, h, hready⟩
  · rw [heq] at hok ⊢
    have hrest := (process_kept c m { e with queue := rest }).queue
    cases hready with
    | idle hnone =>
      unfold awaitsTick at hnone
      rw [hqueue, List.any_cons, Bool.or_eq_false_iff] at hnone
      refine ⟨fun hhead => ?_, last, now, process_timed (h.requeued rest) hnone.1 hok, .idle ?_⟩
      · rw [hqueue] at hhead
        rw [Option.some.inj hhead] at hnone
        cases hnone.1
      · unfold awaitsTick
        rw [hrest]
        exact hnone.2
    | tick hqueue' hnone _ hlive hlate =>
      rw [hqueue] at hqueue'
      cases hqueue'
      obtain ⟨⟨hlate', hbaseline, hcounted⟩, -⟩ := process_tick hclock (h.requeued rest) hlive hlate hok
      refine ⟨fun _ => ⟨hlate', hbaseline, hcounted⟩, now, now, process_tick_timed hclock (h.requeued rest) hlive hlate hok,
        .idle ?_⟩
      unfold awaitsTick
      rw [hrest]
      exact hnone

/-- The timer goes off no earlier than an interval after the last sample, and its tick waits alone. -/
theorem expire_paced (h : Timed e last now) (hdue : e.timer.due.any (·.le e.now) = true) (hqueue : e.queue = []) :
    (expire e).state.queue = [.tick] ∧ Paced (expire e).state := by
  obtain ⟨due, hdue, hle⟩ := (Option.any_eq_true _ _).mp hdue
  have hpending : e.timer.isPending = true := by
    unfold Timer.isPending
    rw [hdue]
    rfl
  obtain ⟨time, rfl, htime⟩ := h.due due hdue
  rw [h.now_eq, Binary64.le_ofNat] at hle
  obtain ⟨hspent, htaken⟩ := h.steady.spent
  rw [expire_apply, hspent, htaken, h.steady.callback hpending, hqueue]
  refine ⟨rfl, last, now, ⟨⟨h.steady.connected, nofun, nofun, h.steady.interval⟩, h.now_eq, h.now_lt, h.last_eq, h.last_le,
    nofun⟩, .tick rfl rfl rfl (h.steady.live hpending) (Nat.le_trans htime hle)⟩

theorem clock_paced (h : Timed e last now) (hready : Ready e last now) {t : Nat} (ht : t < Nat.pow 2 52)
    (hle : e.now.le (.ofNat t) = true) : Paced { e with now := .ofNat t } := by
  rw [h.now_eq, Binary64.le_ofNat] at hle
  have hsteady : Steady { e with now := .ofNat t } :=
    ⟨h.steady.connected, h.steady.callback, h.steady.live, h.steady.interval⟩
  refine ⟨last, t, ⟨hsteady, rfl, ht, h.last_eq, Nat.le_trans h.last_le hle, h.due⟩, ?_⟩
  cases hready with
  | idle hnone => exact .idle hnone
  | tick hqueue hrest hidle hlive hlate => exact .tick hqueue hrest hidle hlive (Nat.le_trans hlate hle)

theorem perform_paced (hclock : ∀ t, c.clock t = t) (h : Paced e) (ha : Punctual e a)
    (hok : (perform c a e).result = .ok ()) :
    ((a = .expire → (perform c a e).state.queue = [.tick]) ∧
      (a.works e = some .tick → Sampled c e (perform c a e).state)) ∧ Paced (perform c a e).state := by
  obtain ⟨last, now, htimed, hready⟩ := h
  cases a with
  | message m =>
    obtain ⟨hm, hnone⟩ := ha
    refine ⟨⟨nofun, fun hworks => ?_⟩, last, now, process_timed htimed hm hok, .idle ?_⟩
    · cases hworks
      cases hm
    · unfold awaitsTick
      rw [show (perform c (.message m) e).state.queue = e.queue from (process_kept c m e).queue]
      exact hnone
  | post m => exact ⟨⟨nofun, nofun⟩, last, now, htimed.requeued _, hready.posted ha⟩
  | deliver =>
    obtain ⟨hsampled, hpaced⟩ := deliver_paced hclock htimed hready hok
    exact ⟨⟨nofun, hsampled⟩, hpaced⟩
  | expire =>
    obtain ⟨hqueue, hpaced⟩ := expire_paced htimed ha.1 ha.2
    exact ⟨⟨fun _ => hqueue, nofun⟩, hpaced⟩
  | clock t =>
    obtain ⟨⟨n, hn, rfl⟩, hle⟩ := ha
    exact ⟨⟨nofun, nofun⟩, clock_paced htimed hready hn hle⟩
  | surround f =>
    obtain ⟨hsteady, hnow, hlt, hlast, hle, hdue⟩ := htimed
    refine ⟨⟨nofun, nofun⟩, last, now, ⟨⟨hsteady.connected, hsteady.callback, hsteady.live, hsteady.interval⟩, hnow, hlt,
      hlast, hle, hdue⟩, ?_⟩
    cases hready with
    | idle hnone => exact .idle hnone
    | tick hqueue hrest hidle hlive hlate => exact .tick hqueue hrest hidle hlive hlate
  | cleanup => exact ha.elim

/-- The next sample is to be at `first`: then the timer goes off, or its tick is all that waits and it is then. -/
inductive Next (e : Engine σ) (first : Nat) : Prop where
  | armed (hqueue : e.queue = []) (hdue : ∀ due, e.timer.due = some due → due = .ofNat first)
  | due (hqueue : e.queue = [.tick]) (hnow : e.now = .ofNat first)

/-- What an undisturbed action does: nothing to the samples, or it takes the one that was to come, and the next one is to
come an interval later. -/
theorem perform_next (hclock : ∀ t, c.clock t = t) (h : Paced e) (ha : Punctual e a) (hundisturbed : Undisturbed e a)
    (hok : (perform c a e).result = .ok ()) {first : Nat} (hnext : Next e first) :
    (perform c a e).state.pace = e.pace ∧
      ((perform c a e).state.sampler.samples = e.sampler.samples ∧ Next (perform c a e).state first ∨
        (perform c a e).state.sampler.samples = e.sampler.samples + 1 ∧
          (perform c a e).state.sampler.baseline.time = .ofNat first ∧ Next (perform c a e).state (first + e.pace)) := by
  obtain ⟨last, now, htimed, hready⟩ := h
  cases a with
  | message m => exact hundisturbed.elim
  | post m => exact hundisturbed.elim
  | cleanup => exact hundisturbed.elim
  | surround f =>
    refine ⟨rfl, .inl ⟨rfl, ?_⟩⟩
    cases hnext with
    | armed hqueue hdue => exact .armed hqueue hdue
    | due hqueue hnow => exact .due hqueue hnow
  | clock t =>
    cases hnext with
    | armed hqueue hdue => exact ⟨rfl, .inl ⟨rfl, .armed hqueue hdue⟩⟩
    | due hqueue _ =>
      have hnone : e.queue.any Message.isTick = false := hundisturbed
      rw [hqueue] at hnone
      cases hnone
  | expire =>
    obtain ⟨hdue, hqueue⟩ := ha
    obtain ⟨htick, -⟩ := expire_paced htimed hdue hqueue
    rw [perform_expire]
    cases hnext with
    | armed _ hfirst =>
      refine ⟨?_, .inl ⟨?_, .due htick ?_⟩⟩
      · rw [expire_apply]
        rfl
      · rw [expire_apply]
      · rw [expire_apply]
        exact hfirst _ hundisturbed
    | due hqueue' _ =>
      rw [hqueue] at hqueue'
      cases hqueue'
  | deliver =>
    rw [perform_deliver] at hok ⊢
    cases hnext with
    | armed hqueue hdue =>
      rw [deliver_nil c hqueue]
      exact ⟨rfl, .inl ⟨rfl, .armed hqueue hdue⟩⟩
    | due hqueue hnow =>
      cases hready with
      | idle hnone =>
        unfold awaitsTick at hnone
        rw [hqueue] at hnone
        cases hnone
      | tick _ _ _ hlive hlate =>
        obtain rfl : now = first := Binary64.ofNat_injective (htimed.now_eq.symm.trans hnow)
        rw [deliver_cons c hqueue] at hok ⊢
        obtain ⟨⟨-, ⟨traffic, -, hbaseline⟩, hcounted⟩, sampler, around, shown, hstate⟩ :=
          process_tick hclock (htimed.requeued []) hlive hlate hok
        have htime : (process c .tick { e with queue := [] }).state.sampler.baseline.time = .ofNat now := by
          rw [hbaseline, hclock]
          exact hnow
        refine ⟨?_, .inr ⟨hcounted, htime, ?_⟩⟩
        · rw [hstate]
          rfl
        · rw [hstate]
          exact .armed rfl fun due hdue => rearmed_due (e := { e with queue := [] }) hnow htimed.now_lt hdue

end Actions

/-! ## Runs -/

theorem sampleTimes_spaced {c : Connections σ} (hclock : ∀ t, c.clock t = t) {actions : List (Action σ)} {e : Engine σ}
    (h : Paced e) (hok : Step.Unfailing (perform c) actions e) (hpunctual : Step.Throughout (perform c) Punctual actions e)
    (hundisturbed : Step.Throughout (perform c) Undisturbed actions e) {first : Nat} (hnext : Next e first) :
    ∃ count, sampleTimes c actions e = spaced first e.pace count := by
  induction actions generalizing e first with
  | nil => exact ⟨0, rfl⟩
  | cons a rest ih =>
    obtain ⟨hresult, hok⟩ := hok
    obtain ⟨ha, hpunctual⟩ := hpunctual
    obtain ⟨ha', hundisturbed⟩ := hundisturbed
    have hpaced := (perform_paced hclock h ha hresult).2
    obtain ⟨hpace, hsame | ⟨hcounted, htime, hlater⟩⟩ := perform_next hclock h ha ha' hresult hnext
    · obtain ⟨count, hcount⟩ := ih hpaced hok hpunctual hundisturbed hsame.2
      refine ⟨count, ?_⟩
      rw [sampleTimes, if_pos hsame.1, hcount, hpace]
    · obtain ⟨count, hcount⟩ := ih hpaced hok hpunctual hundisturbed hlater
      refine ⟨count + 1, ?_⟩
      rw [sampleTimes, if_neg (by omega), hcount, hpace, htime, spaced_succ]

/-- In every run of a fresh engine in which nothing fails, the clock keeps to whole milliseconds and all ticks are the
timer's own: whenever the timer goes off its tick waits alone, and a tick that is worked on is not too soon and takes a
sample at the time of the clock. While nothing else happens and the timer goes off exactly when it is due, the samples are
exactly an interval apart, beginning when the timer goes off first. -/
theorem cadence_of_run (c : Connections σ) (hclock : ∀ t, c.clock t = t) (config : Display.Config) {start : Nat}
    (hstart : start < Nat.pow 2 52) (around : σ) {actions : List (Action σ)}
    (hok : Step.Unfailing (perform c) actions (fresh config (.ofNat start) around))
    (hpunctual : Step.Throughout (perform c) Punctual actions (fresh config (.ofNat start) around)) :
    Step.Throughout (perform c) (fun e a => (a = .expire → (perform c a e).state.queue = [.tick]) ∧
      (a.works e = some .tick → Sampled c e (perform c a e).state)) actions (fresh config (.ofNat start) around) ∧
    ∀ before later, actions = before ++ later →
      let e := (Step.run (perform c) before (fresh config (.ofNat start) around)).state
      e.queue = [] → Step.Throughout (perform c) Undisturbed later e →
      ∃ first count, (∀ due, e.timer.due = some due → due = .ofNat first) ∧
        sampleTimes c later e = spaced first e.config.intervalMs.toNat count := by
  have hfresh := Paced.fresh config hstart around
  have hstep : ∀ (e : Engine σ) a, Paced e → Punctual e a → (perform c a e).result = .ok () → _ :=
    fun e a h ha hok => perform_paced hclock h ha hok
  refine ⟨(hpunctual.keeps hok hfresh hstep).1, ?_⟩
  rintro before later rfl e hqueue hundisturbed
  obtain ⟨hokBefore, hokLater⟩ := Step.unfailing_append.mp hok
  obtain ⟨hbefore, hlater⟩ := Step.throughout_append.mp hpunctual
  obtain ⟨last, now, htimed, hready⟩ : Paced e := (hbefore.keeps hokBefore hfresh hstep).2
  obtain ⟨first, hfirst⟩ : ∃ first, ∀ due, e.timer.due = some due → due = .ofNat first := by
    cases hdue : e.timer.due with
    | none => exact ⟨0, nofun⟩
    | some due =>
      obtain ⟨time, htime, -⟩ := htimed.due due hdue
      exact ⟨time, fun _ h => Option.some.inj h ▸ htime⟩
  obtain ⟨count, hcount⟩ := sampleTimes_spaced hclock ⟨last, now, htimed, hready⟩ hokLater hlater hundisturbed
    (.armed hqueue hfirst)
  exact ⟨first, count, hfirst, hcount⟩

/-- A tick that is worked on late, and then a configuration with another interval. -/
def unevenActions : List (Action Rate.Table) :=
  [.message (.linkUpdated (.named "a") (some "eth0")), .post .attach, .deliver, .clock (.ofNat 2600), .expire,
    .post .updateView, .clock (.ofNat 2700), .deliver, .deliver, .clock (.ofNat 3000),
    .message (.configChanged { Display.Config.default with interval := .int 1, interval_fits := by decide })]

/-- Three ticks on time. -/
def evenActions : List (Action Rate.Table) :=
  [.clock (.ofNat 4000), .expire, .deliver, .surround (·.put "eth0" ⟨1000, 500⟩), .clock (.ofNat 4500),
    .clock (.ofNat 5000), .expire, .deliver, .clock (.ofNat 6000), .expire, .deliver]

/-- The engine before them. -/
def unevenEngine : Engine Rate.Table := (Step.run (perform onTable) unevenActions (fresh .default (.ofNat 500) {})).state

/-- The ticks on time are a second apart, by the new interval. -/
theorem cadence_evenActions :
    Step.Unfailing (perform onTable) (unevenActions ++ evenActions) (fresh .default (.ofNat 500) {}) ∧
      Step.Throughout (perform onTable) Punctual (unevenActions ++ evenActions) (fresh .default (.ofNat 500) {}) ∧
      Step.Throughout (perform onTable) Undisturbed evenActions unevenEngine ∧
      sampleTimes onTable evenActions unevenEngine = [.ofNat 4000, .ofNat 5000, .ofNat 6000] := by
  have hok : Step.Unfailing (perform onTable) (unevenActions ++ evenActions) (fresh .default (.ofNat 500) {}) := by
    decide +kernel
  have hpunctual : Step.Throughout (perform onTable) Punctual (unevenActions ++ evenActions)
      (fresh .default (.ofNat 500) {}) := by decide +kernel
  have hundisturbed : Step.Throughout (perform onTable) Undisturbed evenActions unevenEngine := by decide +kernel
  have hqueue : unevenEngine.queue = [] := by decide +kernel
  have hdue : unevenEngine.timer.due = some (.ofNat 4000) := by decide +kernel
  have hpace : unevenEngine.config.intervalMs.toNat = 1000 := by decide +kernel
  have hlength : (sampleTimes onTable evenActions unevenEngine).length = 3 := by decide +kernel
  have hstart : 500 < Nat.pow 2 52 := by decide
  unfold unevenEngine at hundisturbed hqueue hdue hpace hlength ⊢
  obtain ⟨first, count, hfirst, htimes⟩ := (cadence_of_run onTable (fun _ => rfl) .default hstart {} hok hpunctual).2
    unevenActions evenActions rfl hqueue hundisturbed
  obtain rfl : 4000 = first := Binary64.ofNat_injective (hfirst _ hdue)
  rw [htimes, hpace, spaced, List.length_map, List.length_range] at hlength
  rw [htimes, hpace, hlength]
  exact ⟨hok, hpunctual, hundisturbed, rfl⟩

end Engine
end LinkMeter
