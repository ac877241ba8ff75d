import LinkMeter.Fault

/-! # Steps

A step works on a state, may report something on the way, and ends in a value or a fault. Reports are kept in the order
in which they were made. A step that fails keeps what it reported and the state that it had reached, and the steps
after it are not made. -/

namespace LinkMeter

/-- What a step leaves behind. -/
structure Outcome (ω σ α : Type) where
  reports : List ω
  state : σ
  result : Except Fault α

/-- A computation on a state of type `σ` that reports values of type `ω`. -/
def Step (ω σ α : Type) := σ → Outcome ω σ α

namespace Step
variable {ω ω' σ τ α β : Type}

/-- The step that does nothing and ends in `a`. -/
protected def pure (a : α) : Step ω σ α := fun s => ⟨[], s, .ok a⟩

/-- One step after the other; the second is not made when the first fails. -/
protected def bind (m : Step ω σ α) (f : α → Step ω σ β) : Step ω σ β := fun s =>
  match m s with
  | ⟨reports, s', .ok a⟩ =>
    let next := f a s'
    ⟨reports ++ next.reports, next.state, next.result⟩
  | ⟨reports, s', .error e⟩ => ⟨reports, s', .error e⟩

instance : Monad (Step ω σ) where
  pure := Step.pure
  bind := Step.bind

/-- Reports one value. -/
def report (w : ω) : Step ω σ Unit := fun s => ⟨[w], s, .ok ()⟩

/-- Ends with a fault. -/
def fail (e : Fault) : Step ω σ α := fun s => ⟨[], s, .error e⟩

/-- The state. -/
def get : Step ω σ σ := fun s => ⟨[], s, .ok s⟩

/-- Replaces the state. -/
def set (s : σ) : Step ω σ Unit := fun _ => ⟨[], s, .ok ()⟩

/-- Changes the state. -/
def modify (f : σ → σ) : Step ω σ Unit := fun s => ⟨[], f s, .ok ()⟩

/-- Ends as the given result says. -/
def lift (r : Except Fault α) : Step ω σ α := fun s => ⟨[], s, r⟩

/-- Makes a step and ends in its result, whatever that is. -/
def attempt (m : Step ω σ α) : Step ω σ (Except Fault α) := fun s =>
  let o := m s
  ⟨o.reports, o.state, .ok o.result⟩

/-- Makes a step on a part of the state. -/
def zoom (part : τ → σ) (put : σ → τ → τ) (m : Step ω σ α) : Step ω τ α := fun t =>
  let o := m (part t)
  ⟨o.reports, put o.state t, o.result⟩

/-- Makes a step and passes its reports on in another form. -/
def relay (f : ω → ω') (m : Step ω σ α) : Step ω' σ α := fun s =>
  let o := m s
  ⟨o.reports.map f, o.state, o.result⟩

/-- Makes a step and passes the reports of the first kind on. Those of the second kind are gathered and become part of
the result, whether the step fails or not. -/
def gather {ω₁ ω₂ : Type} (sort : ω → ω₁ ⊕ ω₂) (m : Step ω σ α) : Step ω₁ σ (List ω₂ × Except Fault α) := fun s =>
  let o := m s
  let sorted := o.reports.map sort
  ⟨sorted.filterMap Sum.getLeft?, o.state, .ok (sorted.filterMap Sum.getRight?, o.result)⟩

/-- Makes one step for each element, in order. -/
def each (f : α → Step ω σ Unit) : List α → Step ω σ Unit
  | [] => Step.pure ()
  | a :: rest => Step.bind (f a) fun _ => each f rest

end Step
end LinkMeter
