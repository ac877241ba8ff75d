import LinkMeter.Link.Registry
import LinkMeter.Number.Shortest
import LinkMeter.Rate.Estimate
import LinkMeter.Rate.Source

/-! # The rate sampler

Two samples of the counters, some time apart, give a rate. The counters are summed over the interfaces of all known
links. A reading too soon after a sample is dropped; the first sample after the set of links changed gives no rate, since
the sums are of different sets; and counters that ran backwards leave the last rate as it was. -/

namespace LinkMeter.Rate

/-- The sample that the next one is compared with. -/
structure Baseline where
  traffic : Traffic
  /-- The clock at the sample, in milliseconds. -/
  time : Binary64

/-- The sampler with the links that it samples. -/
structure Sampler where
  registry : Link.Registry
  /-- The milliseconds that should lie between two samples. -/
  interval : Int
  baseline : Baseline
  estimate : Estimate
  /-- The number of samples taken. -/
  samples : Nat

namespace Sampler
variable {σ : Type}

/-- A sampler that has no links and has taken no sample. -/
def fresh (interval : Int) : Sampler := ⟨.empty, interval, ⟨⟨0, 0⟩, .zero⟩, .zero, 0⟩

/-- The share of the interval that has to pass between two samples. -/
def leastShare : Binary64 := .ofRatio false 95 100

/-- The milliseconds that have to pass between two samples. -/
def leastGap (interval : Int) : Except Fault Binary64 := (Binary64.ofInt interval).map (·.mul leastShare)

/-- The rate in kilobits per second of `bytes` in `elapsed` milliseconds, truncated. -/
def kbps (bytes : Int) (elapsed : Binary64) : Except Fault Int := do
  let seconds ← elapsed.div (.ofRatio false 1000 1)
  let kilobits ← Binary64.ofQuotient (bytes * 8) 1000
  let rate ← kilobits.div seconds
  rate.trunc

/-- The sum of the traffic over the given interfaces. -/
def sum (source : Source σ) : List Text → Logged σ Traffic
  | [] => pure ⟨0, 0⟩
  | name :: rest => do
    let tx ← source.tx name
    let rx ← source.rx name
    let others ← sum source rest
    pure ⟨tx + others.tx, rx + others.rx⟩

/-- One reading of all counters. -/
def totals (source : Source σ) (names : List Text) : Logged σ Traffic := do
  source.refresh
  let links ← sum source names
  let offload ← source.offload
  pure ⟨links.tx + offload.tx, links.rx + offload.rx⟩

/-- What a sample does to the rates. -/
inductive Effect where
  /-- The set of links changed, so nothing can be compared. -/
  | changed
  /-- The rates over the time since the last sample. -/
  | rates (e : Estimate)
  /-- A counter ran backwards, so the last rates stay. -/
  | reset

/-- What a sample with the given differences to the baseline does to the rates. -/
def effect (changed : Bool) (elapsed : Binary64) (delta : Traffic) : Except Fault Effect :=
  if !changed && Binary64.zero.lt elapsed && 0 ≤ delta.tx && 0 ≤ delta.rx then do
    let tx ← kbps delta.tx elapsed
    let rx ← kbps delta.rx elapsed
    pure (.rates ⟨tx, rx⟩)
  else if changed then .ok .changed
  else .ok .reset

/-- The rates after an effect. -/
def Effect.apply : Effect → Estimate → Estimate
  | changed, _ => .zero
  | rates e, _ => e
  | reset, old => old

/-- The records that go with an effect. -/
def Effect.notes (delta : Traffic) : Effect → List Log.Record
  | changed => [⟨.debug, .rates, "Link set changed since the last sample, reporting zero rates", none⟩]
  | rates _ => []
  | reset => [⟨.info, .rates, .cat ["Counter reset detected (tx delta=", .ofInt delta.tx, ", rx delta=",
      .ofInt delta.rx, "), keeping previous estimate"], none⟩]

/-- How many samples there are to one record of the rates. -/
def logEvery : Nat := 30

/-- The sampler after a sample. -/
def sampled (s : Sampler) (e : Effect) (traffic : Traffic) (now : Binary64) : Sampler where
  registry := s.registry.settled
  interval := s.interval
  baseline := ⟨traffic, now⟩
  estimate := e.apply s.estimate
  samples := s.samples + 1

/-- Takes a sample at `now`, in milliseconds, unless it is too soon, and ends in the rates. The mark of a change is taken
before the rates are computed, which may still fail. -/
def tick (source : Source σ) (now : Binary64) : Logged (Sampler × σ) Estimate := do
  let (s, _) ← Step.get
  let elapsed := now.sub s.baseline.time
  if elapsed.lt (← Step.lift (leastGap s.interval)) then
    Log.write .debug .rates ["Tick ", elapsed.toFixed 1, "ms after the previous sample is too early, ignoring"]
    pure s.estimate
  else
    let traffic ← Step.zoom Prod.snd (fun rest p => (p.1, rest)) (totals source s.registry.names)
    let delta : Traffic := ⟨traffic.tx - s.baseline.traffic.tx, traffic.rx - s.baseline.traffic.rx⟩
    let changed ← Step.zoom (fun p => p.1.registry) (fun r p => ({ p.1 with registry := r }, p.2)) Link.Registry.consume
    let e ← Step.lift (effect changed elapsed delta)
    Step.each Step.report (e.notes delta)
    let next := s.sampled e traffic now
    Step.modify fun p => (next, p.2)
    if next.samples % logEvery = 0 then
      Log.write .debug .rates ["Rates: tx=", .ofInt next.estimate.tx, " kbps, rx=", .ofInt next.estimate.rx, " kbps"]
    pure next.estimate

/-- Sets the interval. -/
def setInterval (ms : Int) : Logged Sampler Unit := do
  let s ← Step.get
  if ms ≠ s.interval then
    Log.write .debug .rates ["Refresh interval changed from ", .ofInt s.interval, "ms to ", .ofInt ms, "ms"]
    Step.set { s with interval := ms }

end Sampler
end LinkMeter.Rate
