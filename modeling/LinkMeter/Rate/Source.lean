import LinkMeter.Log.Record

/-! # Sources of byte counters

A source gives the bytes sent and received so far, by interface, and those of traffic that no interface counts. It is
told when a sample begins, so that all readings of one sample can agree. Three kinds of source are given here: a table of
numbers, a query of the host whose answer is kept for a whole sample, and a source that is a part of something larger. -/

namespace LinkMeter.Rate

/-- Bytes sent and received. -/
structure Traffic where
  tx : Int
  rx : Int
deriving DecidableEq

/-- The traffic of several interfaces. -/
abbrev Counts := List (Text × Traffic)

/-- The counters that a sampler reads, over a state of type `σ`. -/
structure Source (σ : Type) where
  refresh : Logged σ Unit
  tx : Text → Logged σ Int
  rx : Text → Logged σ Int
  offload : Logged σ Traffic

/-- A source on a part of a larger state. -/
def Source.zoom {σ τ : Type} (part : τ → σ) (put : σ → τ → τ) (s : Source σ) : Source τ where
  refresh := .zoom part put s.refresh
  tx name := .zoom part put (s.tx name)
  rx name := .zoom part put (s.rx name)
  offload := .zoom part put s.offload

/-- Counters given as numbers, with the readings since the tally was last cleared, the latest one first. -/
structure Table where
  counts : Counts := []
  offload : Traffic := ⟨0, 0⟩
  refreshes : Nat := 0
  reads : List Text := []

namespace Table

/-- The table with the traffic of one interface replaced. -/
def put (t : Table) (name : Text) (traffic : Traffic) : Table :=
  { t with counts := (name, traffic) :: t.counts.filter (·.1 ≠ name) }

/-- The traffic of one interface; of one that is not listed, none. -/
def traffic (t : Table) (name : Text) : Traffic := (t.counts.lookup name).getD ⟨0, 0⟩

/-- The table with the tally cleared. -/
def cleared (t : Table) : Table := { t with refreshes := 0, reads := [] }

/-- The table as a source. -/
def source : Source Table where
  refresh := .modify fun t => { t with refreshes := t.refreshes + 1 }
  tx name := do
    Step.modify fun t => { t with reads := name :: t.reads }
    pure ((← Step.get).traffic name).tx
  rx name := do pure ((← Step.get).traffic name).rx
  offload := do pure (← Step.get).offload

end Table

/-- The last answer of a host that is queried for its counters. -/
structure Cached (σ : Type) where
  snapshot : Option Counts
  host : σ

namespace Cached
variable {σ : Type}

/-- Whether a failed query counts as one that reports no interfaces. -/
def isForgiven : Fault → Bool
  | .host .accessDenied _ => true
  | e => e.isSystem

/-- Queries the host once. -/
def refresh (query : Logged σ Counts) : Logged (Cached σ) Unit := do
  let answer ← Step.attempt (Step.zoom Cached.host (fun h c => { c with host := h }) query)
  match answer with
  | .ok counts => Step.modify fun c => { c with snapshot := some counts }
  | .error e =>
    if isForgiven e then
      Log.write .error .counters ["Failed to read network I/O counters: ", e.message]
      Step.modify fun c => { c with snapshot := some [] }
    else Step.fail e

/-- The traffic that the last answer gives for one interface; the first reading queries the host. -/
def read (query : Logged σ Counts) (name : Text) : Logged (Cached σ) Traffic := do
  if (← Step.get).snapshot.isNone then refresh query
  match ((← Step.get).snapshot.getD []).lookup name with
  | some traffic => pure traffic
  | none =>
    Log.write .debug .counters ["No counters reported for interface '", name, "'"]
    pure ⟨0, 0⟩

/-- The host as a source. All its traffic passes through its interfaces. -/
def source (query : Logged σ Counts) : Source (Cached σ) where
  refresh := refresh query
  tx name := do pure (← read query name).tx
  rx name := do pure (← read query name).rx
  offload := pure ⟨0, 0⟩

end Cached
end LinkMeter.Rate
