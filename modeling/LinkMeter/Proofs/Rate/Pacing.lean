import LinkMeter.Proofs.Number.Integers
import LinkMeter.Proofs.Number.Overflow
import LinkMeter.Proofs.Rate.Sampling
import Mathlib.Tactic.Ring

/-! # The pace of the samples

A tick is no sample before nineteen twentieths of the interval have passed. That share is no number: the one next to it is
a little less, by so little that the rounded product with an interval is on the right side of every whole millisecond. So
whole milliseconds are told apart exactly, the time of the last sample only goes forward, and no rate is negative, wherever
the clock and the counters go. -/

namespace LinkMeter

namespace Binary64

/-! ## Numbers without a sign -/

/-- The number is not negative: it has no sign, though it may be infinite. -/
inductive Unsigned : Binary64 → Prop where
  | within (steps : Nat) : Unsigned (finite false steps)
  | beyond : Unsigned (infinite false)

theorem unsigned_rounded (num den : Nat) : Unsigned (rounded false num den) := by
  unfold rounded
  dsimp only
  split
  · exact .within _
  · exact .beyond

theorem unsigned_of_zero_lt {x : Binary64} (h : zero.lt x = true) : Unsigned x := by
  cases x with
  | nan => cases h
  | infinite negative =>
    cases negative with
    | false => exact .beyond
    | true => cases h
  | finite negative steps =>
    cases negative with
    | false => exact .within steps
    | true =>
      unfold zero at h
      rw [lt_finite, decide_eq_true_eq, signed_positive, signed_negative] at h
      omega

theorem Unsigned.div_steps {x y : Binary64} {steps : Nat} (hx : Unsigned x) (h : x.div (finite false steps) = .ok y) :
    Unsigned y := by
  rcases Nat.eq_zero_or_pos steps with rfl | hpos
  · cases hx <;> cases h
  · cases hx with
    | within m =>
      rw [div_finite _ _ _ hpos, bne_self_eq_false] at h
      rw [← Except.ok.inj h]
      exact unsigned_rounded _ _
    | beyond =>
      obtain ⟨n, rfl⟩ := Nat.exists_eq_succ_of_ne_zero (Nat.ne_of_gt hpos)
      cases h
      exact .beyond

theorem Unsigned.steps_div {x y : Binary64} {steps : Nat} (hx : Unsigned x) (h : (finite false steps).div x = .ok y) :
    Unsigned y := by
  cases hx with
  | within n => exact (Unsigned.within steps).div_steps h
  | beyond =>
    cases h
    exact .within 0

theorem Unsigned.trunc_nonneg {x : Binary64} {n : Int} (hx : Unsigned x) (h : x.trunc = .ok n) : 0 ≤ n := by
  cases hx with
  | within steps =>
    rw [trunc_finite, whole_finite] at h
    cases h
    exact Int.natCast_nonneg _
  | beyond => cases h

theorem steps_of_ofQuotient {n : Int} {den : Nat} {x : Binary64} (hn : 0 ≤ n) (h : ofQuotient n den = .ok x) :
    ∃ steps, x = finite false steps := by
  unfold ofQuotient ofRatio at h
  rw [decide_eq_false (Int.not_lt.mpr hn)] at h
  have hunsigned := unsigned_rounded (n.natAbs * unit) den
  generalize rounded false (n.natAbs * unit) den = y at h hunsigned
  cases hunsigned with
  | within steps =>
    cases h
    exact ⟨steps, rfl⟩
  | beyond => cases h

end Binary64

namespace Rate
variable {σ : Type}

/-- The interval is positive and below 2^40 milliseconds. -/
def IsPace (ms : Int) : Prop := 0 < ms ∧ ms < (Nat.pow 2 40 : Nat)

instance (ms : Int) : Decidable (IsPace ms) := inferInstanceAs (Decidable (_ ∧ _))

/-- The clock shows a whole number of milliseconds of a magnitude below 2^52. -/
def IsReading (now : Binary64) (n : Int) : Prop := now.IsInteger n ∧ n.natAbs < Nat.pow 2 52

namespace Sampler

/-- Bytes that are not negative over time that has passed give no negative rate. -/
theorem kbps_nonneg {bytes rate : Int} {elapsed : Binary64} (hbytes : 0 ≤ bytes)
    (helapsed : Binary64.zero.lt elapsed = true) (h : kbps bytes elapsed = .ok rate) : 0 ≤ rate := by
  unfold kbps at h
  rw [Binary64.ofRatio_one false (by decide)] at h
  obtain ⟨seconds, hseconds, h⟩ := of_bind_ok h
  obtain ⟨kilobits, hkilobits, h⟩ := of_bind_ok h
  obtain ⟨steps, rfl⟩ := Binary64.steps_of_ofQuotient (Int.mul_nonneg hbytes (by decide)) hkilobits
  obtain ⟨quotient, hquotient, h⟩ := of_bind_ok h
  exact (((Binary64.unsigned_of_zero_lt helapsed).div_steps hseconds).steps_div hquotient).trunc_nonneg h

/-- The rates of a sample are not negative if those before it are not. -/
theorem apply_nonneg {changed : Bool} {elapsed : Binary64} {delta : Traffic} {e : Effect} {old : Estimate}
    (hold : 0 ≤ old.tx ∧ 0 ≤ old.rx) (h : effect changed elapsed delta = .ok e) :
    0 ≤ (e.apply old).tx ∧ 0 ≤ (e.apply old).rx := by
  unfold effect at h
  split at h
  · rename_i hforward
    simp only [Bool.and_eq_true, decide_eq_true_eq] at hforward
    obtain ⟨⟨⟨-, helapsed⟩, htx⟩, hrx⟩ := hforward
    obtain ⟨tx, hsent, h⟩ := of_bind_ok h
    obtain ⟨rx, hreceived, h⟩ := of_bind_ok h
    cases h
    exact ⟨kbps_nonneg htx helapsed hsent, kbps_nonneg hrx helapsed hreceived⟩
  · split at h
    · cases h
      exact ⟨Int.le_refl 0, Int.le_refl 0⟩
    · cases h
      exact hold

/-! ## The least gap -/

/-- The share is a little less than nineteen twentieths. -/
theorem leastShare_eq : ∃ k, Binary64.unit = Nat.pow 2 53 * Nat.pow 2 k ∧
    leastShare = .finite false (8556839292003942 * Nat.pow 2 k) :=
  ⟨1021, by decide +kernel, by decide +kernel⟩

/-- The product of the interval and the share, before it is rounded. -/
def exactGap (interval k : Nat) : Nat := interval * Binary64.unit * (8556839292003942 * Nat.pow 2 k)

section Gap
variable {interval passed k : Nat}

theorem leastGap_eq (hinterval : interval < Nat.pow 2 53)
    (hshare : leastShare = .finite false (8556839292003942 * Nat.pow 2 k)) :
    leastGap interval = .ok (Binary64.rounded false (exactGap interval k) Binary64.unit) := by
  unfold leastGap exactGap
  rw [Binary64.ofInt_natCast hinterval, hshare]
  show Except.ok (Binary64.mul _ _) = _
  rw [Binary64.mul_finite, bne_self_eq_false]

/-- The share is not more than nineteen twentieths, so neither is the gap. -/
theorem gap_le (hunit : Binary64.unit = Nat.pow 2 53 * Nat.pow 2 k) (hpassed : passed < Nat.pow 2 53)
    (h : 19 * interval ≤ 20 * passed) : Binary64.roundSteps (exactGap interval k) Binary64.unit ≤ passed * Binary64.unit := by
  have hparts : interval * 8556839292003942 ≤ passed * Nat.pow 2 53 := by
    show _ ≤ passed * 9007199254740992
    omega
  have habove : exactGap interval k ≤ passed * Binary64.unit * Binary64.unit := by
    unfold exactGap
    generalize Binary64.unit = one at hunit ⊢
    calc
      interval * one * (8556839292003942 * Nat.pow 2 k) = interval * 8556839292003942 * (one * Nat.pow 2 k) := by ring
      _ ≤ passed * Nat.pow 2 53 * (one * Nat.pow 2 k) := Nat.mul_le_mul_right _ hparts
      _ = passed * one * (Nat.pow 2 53 * Nat.pow 2 k) := by ring
      _ = passed * one * one := by rw [← hunit]
  have hnone : 0 * Binary64.unit * Binary64.unit ≤ exactGap interval k := by
    rw [Nat.zero_mul, Nat.zero_mul]
    exact Nat.zero_le _
  exact (Binary64.roundSteps_mem Binary64.unit_pos hnone habove hpassed).2

/-- The share is so near to nineteen twentieths that there is some room between the gap and the whole milliseconds below. -/
theorem lt_gap (hunit : Binary64.unit = Nat.pow 2 53 * Nat.pow 2 k) (hinterval : interval < Nat.pow 2 40)
    (h : 20 * passed < 19 * interval) : passed * Binary64.unit < Binary64.roundSteps (exactGap interval k) Binary64.unit := by
  have hforty : interval < 1099511627776 := hinterval
  have hgrid : Binary64.unit = 32 * Nat.pow 2 (48 + k) := by
    rw [hunit, ← Binary64.pow_two_mul, ← Nat.mul_assoc]
  have hbelow : (32 * passed + 1) * Nat.pow 2 (48 + k) * Binary64.unit ≤ exactGap interval k := by
    have hparts : (32 * passed + 1) * Nat.pow 2 48 ≤ interval * 8556839292003942 := by
      show (32 * passed + 1) * 281474976710656 ≤ _
      omega
    unfold exactGap
    rw [← Binary64.pow_two_mul]
    generalize Binary64.unit = one
    calc
      (32 * passed + 1) * (Nat.pow 2 48 * Nat.pow 2 k) * one = (32 * passed + 1) * Nat.pow 2 48 * (Nat.pow 2 k * one) := by ring
      _ ≤ interval * 8556839292003942 * (Nat.pow 2 k * one) := Nat.mul_le_mul_right _ hparts
      _ = interval * one * (8556839292003942 * Nat.pow 2 k) := by ring
  have habove : exactGap interval k ≤ 32 * interval * Nat.pow 2 (48 + k) * Binary64.unit := by
    have hscale : 32 * interval * Nat.pow 2 (48 + k) = interval * Binary64.unit := by
      rw [hgrid]
      ring
    have hshare : 8556839292003942 * Nat.pow 2 k ≤ Binary64.unit := by
      rw [hunit]
      exact Nat.mul_le_mul_right _ (by decide)
    rw [hscale]
    exact Nat.mul_le_mul_left _ hshare
  have hbits : 32 * interval < Nat.pow 2 53 := by
    show _ < 9007199254740992
    omega
  obtain ⟨hlow, -⟩ := Binary64.roundSteps_mem_pow Binary64.unit_pos hbelow habove hbits
  refine Nat.lt_of_lt_of_le ?_ hlow
  rw [hgrid]
  calc
    passed * (32 * Nat.pow 2 (48 + k)) = 32 * passed * Nat.pow 2 (48 + k) := by ring
    _ < (32 * passed + 1) * Nat.pow 2 (48 + k) := Nat.mul_lt_mul_of_pos_right (Nat.lt_succ_self _) (Nat.two_pow_pos _)

end Gap

/-- Whole milliseconds are below the least gap just if they are less than nineteen twentieths of the interval. -/
theorem lt_leastGap_iff {interval : Nat} (hinterval : interval < Nat.pow 2 40) :
    ∃ gap, leastGap interval = .ok (.finite false gap) ∧ ∀ passed : Nat, passed < Nat.pow 2 53 →
      (passed * Binary64.unit < gap ↔ 20 * passed < 19 * interval) := by
  obtain ⟨k, hunit, hshare⟩ := leastShare_eq
  have hbits : interval < Nat.pow 2 53 := Nat.lt_trans hinterval (by decide)
  have hfinite : Binary64.roundSteps (exactGap interval k) Binary64.unit < Binary64.bound :=
    Nat.lt_of_le_of_lt (gap_le hunit hbits (by omega)) (Binary64.mul_unit_lt_bound hbits (by decide))
  refine ⟨_, (leastGap_eq hbits hshare).trans (congrArg _ (Binary64.rounded_of_lt false hfinite)), fun passed hpassed => ?_⟩
  refine ⟨fun hless => ?_, lt_gap hunit hinterval⟩
  by_contra hmore
  exact absurd hless (Nat.not_lt.mpr (gap_le hunit hpassed (Nat.not_lt.mp hmore)))

/-! ## Ticks on whole milliseconds -/

section Tick
variable {s : Sampler} {source : Source σ} {now : Binary64} {n last : Int} {p : Sampler × σ}

/-- A tick on a whole millisecond comes too soon just if less than nineteen twentieths of the interval have passed. -/
theorem isEarly_of_integers (hinterval : IsPace s.interval) (hnow : now.IsInteger n)
    (hlast : s.baseline.time.IsInteger last) (hpassed : (n - last).natAbs < Nat.pow 2 53) :
    s.isEarly now = .ok (decide (20 * (n - last) < 19 * s.interval)) := by
  obtain ⟨interval, heq⟩ := Int.eq_ofNat_of_zero_le (Int.le_of_lt hinterval.1)
  rw [heq] at hinterval
  obtain ⟨gap, hgap, hless⟩ := lt_leastGap_iff (Int.ofNat_lt.mp hinterval.2)
  rw [← heq] at hgap
  rw [isEarly_of_ok hgap, heq]
  refine congrArg Except.ok (Bool.eq_iff_iff.mpr ?_)
  rw [(hnow.sub hlast hpassed).lt_steps_iff, decide_eq_true_eq]
  rcases Int.lt_or_le (n - last) 0 with hback | hforth
  · -- The clock went back, which is too soon for any interval.
    have hsteps : (n - last) * Binary64.unit < 0 := Int.mul_neg_of_neg_of_pos hback (Int.natCast_pos.mpr Binary64.unit_pos)
    exact iff_of_true (Int.lt_of_lt_of_le hsteps (Int.natCast_nonneg gap)) (by omega)
  · obtain ⟨passed, hsame⟩ := Int.eq_ofNat_of_zero_le hforth
    rw [hsame, Int.natAbs_natCast] at hpassed
    have hiff := hless passed hpassed
    rw [hsame, ← Int.natCast_mul, Int.ofNat_lt, hiff]
    omega

/-- The tick is dropped: whatever the counters are, none of them is read, and all stays as it is but for a record. -/
def Drops (now : Binary64) (p : Sampler × σ) : Prop :=
  ∀ source : Source σ, tick source now p = ⟨[p.1.earlyNote now], p, .ok p.1.estimate⟩

/-- A tick that does not fail is too soon, or it takes a sample. -/
theorem tick_cases (hok : (meet source (.tick now) p).result = .ok ()) :
    p.1.isEarly now = .ok true ∧ (meet source (.tick now) p).state = p ∨
      ∃ traffic e, p.1.isEarly now = .ok false ∧
        effect p.1.registry.changed (now.sub p.1.baseline.time) (traffic - p.1.baseline.traffic) = .ok e ∧
        (meet source (.tick now) p).state.1 = p.1.sampled e traffic now := by
  obtain ⟨rates, hrates⟩ := result_of_meet_tick hok
  obtain ⟨s, w⟩ := p
  rw [meet_tick, Outcome.map_state]
  rcases hearly : s.isEarly now with e | _ | _
  · rw [tick_eq, hearly] at hrates
    cases hrates
  · rw [tick_of_late hearly] at hrates ⊢
    obtain ⟨traffic, e, -, heffect, hstate⟩ := settle_of_ok hrates
    rw [hstate]
    exact .inr ⟨traffic, e, rfl, heffect, rfl⟩
  · rw [tick_of_early hearly]
    exact .inl ⟨rfl, rfl⟩

theorem drops_iff (hok : (meet source (.tick now) p).result = .ok ()) : Drops now p ↔ p.1.isEarly now = .ok true := by
  constructor
  · intro hdrops
    rcases tick_cases hok with ⟨hearly, -⟩ | ⟨traffic, e, -, -, hstate⟩
    · exact hearly
    · -- A sample would have been counted.
      have hcount : (meet source (.tick now) p).state.1.samples = p.1.samples + 1 := congrArg samples hstate
      rw [meet_tick, Outcome.map_state, hdrops source] at hcount
      exact absurd hcount (Nat.ne_of_lt (Nat.lt_succ_self _))
  · intro hearly source
    exact tick_of_early hearly source p.2

end Tick

end Sampler

/-! ## Runs -/

/-- The interval that is set and the clock are within their bounds; links and counters may be any. -/
def Event.Bounded : Event σ → Prop
  | .interval ms => IsPace ms
  | .tick now => ∃ n, IsReading now n
  | .added _ _ | .removed _ | .counted _ => True

namespace Sampler

/-- The interval and the time of the last sample are within their bounds, and no rate is negative. -/
structure Sane (s : Sampler) : Prop where
  pace : IsPace s.interval
  reading : ∃ last, IsReading s.baseline.time last
  rates : 0 ≤ s.estimate.tx ∧ 0 ≤ s.estimate.rx

/-- An event takes the time of the last sample no further back. A tick is dropped just if less than nineteen twentieths of
the interval have passed since then, and if it is not, the time goes on to that of the tick. -/
def Onward (p : Sampler × σ) (e : Event σ) (p' : Sampler × σ) : Prop :=
  ∃ last last' : Int, p.1.baseline.time.IsInteger last ∧ p'.1.baseline.time.IsInteger last' ∧ last ≤ last' ∧
    ∀ now n, e = .tick now → now.IsInteger n →
      (Drops now p ↔ 20 * (n - last) < 19 * p.1.interval) ∧ (¬ Drops now p → last < last' ∧ last' = n)

section Runs
variable {source : Source σ} {p : Sampler × σ} {e : Event σ} {interval : Int} {w : σ}

theorem sane_fresh (h : IsPace interval) : Sane (fresh interval) :=
  ⟨h, ⟨0, Binary64.isInteger_zero, by decide⟩, Int.le_refl 0, Int.le_refl 0⟩

/-- What is no tick leaves the time of the last sample alone. -/
theorem Onward.of_same {p' : Sampler × σ} (h : Sane p.1) (htime : p'.1.baseline = p.1.baseline) (hne : ∀ now, e ≠ .tick now) :
    Onward p e p' := by
  obtain ⟨last, hlast, -⟩ := h.reading
  exact ⟨last, last, hlast, by rwa [htime], Int.le_refl last, fun now _ heq => absurd heq (hne now)⟩

theorem Sane.tick {now : Binary64} (h : Sane p.1) (hnow : ∃ n, IsReading now n)
    (hok : (meet source (.tick now) p).result = .ok ()) :
    Sane (meet source (.tick now) p).state.1 ∧ Onward p (.tick now) (meet source (.tick now) p).state := by
  obtain ⟨n, hreading, hn⟩ := hnow
  obtain ⟨last, hlast, hl⟩ := h.reading
  have hpassed : (n - last).natAbs < Nat.pow 2 53 := by
    have hdouble : Nat.pow 2 53 = Nat.pow 2 52 * 2 := Nat.pow_succ 2 52
    omega
  have hearly := isEarly_of_integers h.pace hreading hlast hpassed
  have hdrops : Drops now p ↔ 20 * (n - last) < 19 * p.1.interval := by
    rw [drops_iff hok, hearly, Except.ok.injEq, decide_eq_true_eq]
  rcases tick_cases hok with ⟨hsoon, hstate⟩ | ⟨traffic, e, hlate, heffect, hstate⟩
  · rw [hstate]
    refine ⟨h, last, last, hlast, hlast, Int.le_refl last, ?_⟩
    rintro _ n' ⟨⟩ hn'
    obtain rfl := hreading.unique hn'
    exact ⟨hdrops, fun hsample => absurd ((drops_iff hok).mpr hsoon) hsample⟩
  · have hlater : last < n := by
      have hpace := h.pace.1
      rw [hlate, Except.ok.injEq] at hearly
      have henough := of_decide_eq_false hearly.symm
      omega
    have htime : (meet source (.tick now) p).state.1.baseline.time = now := by rw [hstate]; rfl
    refine ⟨?_, last, n, hlast, by rwa [htime], Int.le_of_lt hlater, ?_⟩
    · rw [hstate]
      exact ⟨h.pace, ⟨n, hreading, hn⟩, apply_nonneg h.rates heffect⟩
    · rintro _ n' ⟨⟩ hn'
      obtain rfl := hreading.unique hn'
      exact ⟨hdrops, fun _ => ⟨hlater, rfl⟩⟩

theorem Sane.meet (h : Sane p.1) (he : e.Bounded) (hok : (Sampler.meet source e p).result = .ok ()) :
    Sane (Sampler.meet source e p).state.1 ∧ Onward p e (Sampler.meet source e p).state := by
  obtain ⟨s, w⟩ := p
  cases e with
  | tick now => exact h.tick he hok
  | added id name =>
    rw [meet_added]
    exact ⟨⟨h.pace, h.reading, h.rates⟩, .of_same h rfl nofun⟩
  | removed id =>
    rw [meet_removed]
    exact ⟨⟨h.pace, h.reading, h.rates⟩, .of_same h rfl nofun⟩
  | interval ms =>
    rw [meet_interval]
    exact ⟨⟨he, h.reading, h.rates⟩, .of_same h rfl nofun⟩
  | counted f =>
    rw [meet_counted]
    exact ⟨h, .of_same h rfl nofun⟩

theorem Sane.run {events : List (Event σ)} (h : Sane p.1) (hevents : ∀ e ∈ events, e.Bounded)
    (hok : Step.Unfailing (Sampler.meet source) events p) : Sane (Step.run (Sampler.meet source) events p).state.1 := by
  induction events generalizing p with
  | nil => exact h
  | cons e rest ih =>
    rw [Step.run_cons]
    exact ih (h.meet (hevents e List.mem_cons_self) hok.1).1 (fun e' he' => hevents e' (List.mem_cons_of_mem e he')) hok.2

/-- In a run in which nothing fails, with whole milliseconds on the clock, no rate is ever negative, and every event is
onward: the time of the last sample never goes back and goes on with every sample, and a tick is dropped just if less than
nineteen twentieths of the interval have passed. -/
theorem onward_of_run (source : Source σ) (w : σ) {interval : Int} {events : List (Event σ)} (hinterval : IsPace interval)
    (hevents : ∀ e ∈ events, e.Bounded) (hok : Step.Unfailing (meet source) events (fresh interval, w)) :
    (∀ before, before <+: events →
      let s := (Step.run (meet source) before (fresh interval, w)).state.1
      0 ≤ s.estimate.tx ∧ 0 ≤ s.estimate.rx) ∧
    ∀ before e, before ++ [e] <+: events →
      let p := (Step.run (meet source) before (fresh interval, w)).state
      Onward p e (meet source e p).state := by
  have hsane : ∀ before, before <+: events → Sane (Step.run (meet source) before (fresh interval, w)).state.1 := by
    rintro before ⟨rest, rfl⟩
    exact (sane_fresh hinterval).run (fun e he => hevents e (List.mem_append_left rest he)) (Step.unfailing_append.mp hok).1
  refine ⟨fun before hbefore => (hsane before hbefore).rates, fun before e hpart => ?_⟩
  obtain ⟨rest, rfl⟩ := hpart
  have hbounded := hevents e (List.mem_append_left rest (List.mem_append_right before List.mem_cons_self))
  obtain ⟨-, hlast, -⟩ := Step.unfailing_append.mp (Step.unfailing_append.mp hok).1
  have hstart : before <+: before ++ [e] ++ rest := by
    rw [List.append_assoc]
    exact List.prefix_append _ _
  exact ((hsane before hstart).meet hbounded hlast).2

end Runs

/-- A tick just in time for an interval of a second and one a millisecond before it, a clock that goes back, a change of
the interval, and counters that run backwards. -/
def waveringEvents : List (Event Table) :=
  [.added (.named "a") (some "eth0"), .tick (.ofRatio false 949 1), .tick (.ofRatio false 950 1),
    .counted (·.put "eth0" ⟨5000, -3⟩), .tick (.ofRatio true 7 1), .interval 20, .tick (.ofRatio false 969 1),
    .counted (·.put "eth0" ⟨6000, 900⟩), .tick (.ofRatio false 988 1)]

theorem bounded_tick (negative : Bool) {n : Nat} (h : n < Nat.pow 2 52) :
    (Event.tick (σ := σ) (.ofRatio negative n 1)).Bounded := by
  refine ⟨_, Binary64.isInteger_ofRatio negative (Nat.lt_trans h (by decide)), ?_⟩
  cases negative with
  | false => exact h
  | true =>
    rw [Binary64.signed_negative, Int.natAbs_neg]
    exact h

/-- The first and the third tick are dropped, the fourth one is a reset, and the last one has rates. -/
theorem onward_waveringEvents : IsPace 1000 ∧ (∀ e ∈ waveringEvents, e.Bounded) ∧
    Step.Unfailing (meet Table.source) waveringEvents (fresh 1000, {}) ∧
    (Step.run (meet Table.source) waveringEvents (fresh 1000, {})).state.1.estimate = ⟨421, 380⟩ ∧
    ∀ before e, before ++ [e] <+: waveringEvents →
      let p := (Step.run (meet Table.source) before (fresh 1000, {})).state
      Onward p e (meet Table.source e p).state := by
  have hpace : IsPace 1000 := by decide
  have hbounded : ∀ e ∈ waveringEvents, e.Bounded := by
    simp only [waveringEvents, List.forall_mem_cons]
    exact ⟨trivial, bounded_tick false (by decide), bounded_tick false (by decide), trivial, bounded_tick true (by decide),
      (by decide : IsPace 20), bounded_tick false (by decide), trivial, bounded_tick false (by decide), nofun⟩
  have hok : Step.Unfailing (meet Table.source) waveringEvents (fresh 1000, {}) := by decide +kernel
  exact ⟨hpace, hbounded, hok, by decide +kernel, (onward_of_run Table.source {} hpace hbounded hok).2⟩

end Sampler
end Rate
end LinkMeter
