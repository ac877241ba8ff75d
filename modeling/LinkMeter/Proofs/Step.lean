import LinkMeter.Log.Record

/-! # Steps and runs

How a sequence of steps ends, from how its first step ends. A run makes one step after the other even if some of them
fail: a step that fails leaves its state behind, and the next one is made on it. What every step keeps, a run keeps. -/

namespace LinkMeter

namespace Outcome
variable {ω σ α : Type}

/-- The outcome with earlier reports in front of its own. -/
def after (reports : List ω) (o : Outcome ω σ α) : Outcome ω σ α := { o with reports := reports ++ o.reports }

@[simp] theorem after_reports (reports : List ω) (o : Outcome ω σ α) :
    (o.after reports).reports = reports ++ o.reports := rfl

@[simp] theorem after_state (reports : List ω) (o : Outcome ω σ α) : (o.after reports).state = o.state := rfl

@[simp] theorem after_result (reports : List ω) (o : Outcome ω σ α) : (o.after reports).result = o.result := rfl

theorem after_after (reports later : List ω) (o : Outcome ω σ α) :
    (o.after later).after reports = o.after (reports ++ later) := by
  unfold after
  rw [List.append_assoc]

@[simp] theorem after_nil (o : Outcome ω σ α) : o.after [] = o := rfl

/-- The outcome with its value in another form. -/
def map {β : Type} (g : α → β) (o : Outcome ω σ α) : Outcome ω σ β := ⟨o.reports, o.state, o.result.map g⟩

@[simp] theorem map_state {β : Type} (g : α → β) (o : Outcome ω σ α) : (o.map g).state = o.state := rfl

@[simp] theorem map_result {β : Type} (g : α → β) (o : Outcome ω σ α) : (o.map g).result = o.result.map g := rfl

theorem result_of_map {β : Type} {g : α → β} {o : Outcome ω σ α} {b : β} (h : (o.map g).result = .ok b) :
    ∃ a, o.result = .ok a ∧ g a = b := by
  rw [map_result] at h
  cases ho : o.result with
  | error e =>
    rw [ho] at h
    cases h
  | ok a =>
    rw [ho] at h
    exact ⟨a, rfl, Except.ok.inj h⟩

/-- The outcome with a change made to its state. -/
def onState (g : σ → σ) (o : Outcome ω σ α) : Outcome ω σ α := { o with state := g o.state }

theorem onState_mk (g : σ → σ) (reports : List ω) (s : σ) (r : Except Fault α) :
    onState g ⟨reports, s, r⟩ = ⟨reports, g s, r⟩ := rfl

theorem onState_after (g : σ → σ) (reports : List ω) (o : Outcome ω σ α) :
    (o.onState g).after reports = (o.after reports).onState g := rfl

@[simp] theorem onState_reports (g : σ → σ) (o : Outcome ω σ α) : (o.onState g).reports = o.reports := rfl

@[simp] theorem onState_state (g : σ → σ) (o : Outcome ω σ α) : (o.onState g).state = g o.state := rfl

@[simp] theorem onState_result (g : σ → σ) (o : Outcome ω σ α) : (o.onState g).result = o.result := rfl

end Outcome

namespace Step
variable {ω ω' σ τ α α' β β' : Type}

/-! ## One step after the other -/

theorem bind_of_ok {m : Step ω σ α} {f : α → Step ω σ β} {s : σ} {a : α} (h : (m s).result = .ok a) :
    (m >>= f) s = (f a (m s).state).after (m s).reports := by
  show Step.bind m f s = _
  unfold Step.bind
  rcases hm : m s with ⟨reports, s', result⟩
  rw [hm] at h
  cases h
  rfl

theorem bind_of_error {m : Step ω σ α} {f : α → Step ω σ β} {s : σ} {e : Fault} (h : (m s).result = .error e) :
    (m >>= f) s = ⟨(m s).reports, (m s).state, .error e⟩ := by
  show Step.bind m f s = _
  unfold Step.bind
  rcases hm : m s with ⟨reports, s', result⟩
  rw [hm] at h
  cases h
  rfl

theorem bind_of_eq_ok {m : Step ω σ α} {s s' : σ} {reports : List ω} {a : α} (h : m s = ⟨reports, s', .ok a⟩)
    (f : α → Step ω σ β) : (m >>= f) s = (f a s').after reports := by
  rw [bind_of_ok (a := a) (by rw [h]), h]

theorem bind_of_eq_error {m : Step ω σ α} {s s' : σ} {reports : List ω} {e : Fault}
    (h : m s = ⟨reports, s', .error e⟩) (f : α → Step ω σ β) : (m >>= f) s = ⟨reports, s', .error e⟩ := by
  rw [bind_of_error (e := e) (by rw [h]), h]

/-- What follows a step depends only on its outcome. -/
theorem bind_of_eq {m m' : Step ω σ α} {s s' : σ} (h : m s = m' s') (f : α → Step ω σ β) :
    (m >>= f) s = (m' >>= f) s' := by
  show Step.bind m f s = Step.bind m' f s'
  unfold Step.bind
  rw [h]

theorem map_apply (g : α → β) (m : Step ω σ α) (s : σ) :
    (do pure (g (← m)) : Step ω σ β) s = (m s).map g := by
  show Step.bind m (fun a => Step.pure (g a)) s = _
  unfold Step.bind Step.pure Outcome.map
  rcases m s with ⟨reports, s', e | a⟩
  · rfl
  · simp only [List.append_nil, Except.map]

/-- If the first steps differ only in the form of their values, and so do those that follow, so do the sequences. -/
theorem bind_map {m : Step ω σ α} {m' : Step ω σ α'} {f : α → Step ω σ β} {f' : α' → Step ω σ β'} {g : α → α'}
    {k : β → β'} (hm : ∀ s, m' s = (m s).map g) (hf : ∀ a s, f' (g a) s = (f a s).map k) (s : σ) :
    (m' >>= f') s = ((m >>= f) s).map k := by
  have hm' := hm s
  cases h : (m s).result with
  | error e =>
    rw [bind_of_error h, bind_of_error (m := m') (e := e) (by rw [hm', Outcome.map_result, h, Except.map]), hm']
    rfl
  | ok a =>
    rw [bind_of_ok h, bind_of_ok (m := m') (a := g a) (by rw [hm', Outcome.map_result, h, Except.map]), hm', hf]
    rfl

@[simp] theorem pure_apply (a : α) (s : σ) : (pure a : Step ω σ α) s = ⟨[], s, .ok a⟩ := rfl

@[simp] theorem modify_apply (f : σ → σ) (s : σ) : (modify f : Step ω σ Unit) s = ⟨[], f s, .ok ()⟩ := rfl

@[simp] theorem get_bind (f : σ → Step ω σ β) (s : σ) : ((get : Step ω σ σ) >>= f) s = f s s := rfl

@[simp] theorem set_bind (t : σ) (f : Unit → Step ω σ β) (s : σ) : ((set t : Step ω σ Unit) >>= f) s = f () t := rfl

@[simp] theorem modify_bind (g : σ → σ) (f : Unit → Step ω σ β) (s : σ) :
    ((modify g : Step ω σ Unit) >>= f) s = f () (g s) := rfl

@[simp] theorem report_bind (w : ω) (f : Unit → Step ω σ β) (s : σ) :
    ((report w : Step ω σ Unit) >>= f) s = (f () s).after [w] := rfl

@[simp] theorem lift_ok_bind (a : α) (f : α → Step ω σ β) (s : σ) : ((lift (.ok a) : Step ω σ α) >>= f) s = f a s := rfl

@[simp] theorem lift_error_bind (e : Fault) (f : α → Step ω σ β) (s : σ) :
    ((lift (.error e) : Step ω σ α) >>= f) s = ⟨[], s, .error e⟩ := rfl

@[simp] theorem zoom_apply (part : τ → σ) (put : σ → τ → τ) (m : Step ω σ α) (t : τ) :
    zoom part put m t = ⟨(m (part t)).reports, put (m (part t)).state t, (m (part t)).result⟩ := rfl

@[simp] theorem relay_apply (f : ω → ω') (m : Step ω σ α) (s : σ) :
    relay f m s = ⟨(m s).reports.map f, (m s).state, (m s).result⟩ := rfl

theorem attempt_of_eq {m : Step ω σ α} {s : σ} {o : Outcome ω σ α} (h : m s = o) :
    attempt m s = ⟨o.reports, o.state, .ok o.result⟩ := by
  unfold attempt
  rw [h]

theorem write_bind {σ : Type} (level : Log.Level) (component : Log.Component) (parts : List Text)
    (f : Unit → Logged σ β) (s : σ) :
    (Log.write level component parts >>= f) s = (f () s).after [⟨level, component, .cat parts, none⟩] := rfl

/-- What two steps keep, one after the other keeps. -/
theorem bind_keeps {P : σ → Prop} {m : Step ω σ α} {f : α → Step ω σ β} (hm : ∀ s, P s → P (m s).state)
    (hf : ∀ a s, P s → P (f a s).state) (s : σ) (hs : P s) : P ((m >>= f) s).state := by
  cases h : (m s).result with
  | error e =>
    rw [bind_of_error h]
    exact hm s hs
  | ok a =>
    rw [bind_of_ok h]
    exact hf a _ (hm s hs)

/-- Steps that only report leave the state alone. -/
theorem each_apply {f : α → Step ω σ Unit} {g : α → List ω} {l : List α} {s : σ}
    (h : ∀ a ∈ l, f a s = ⟨g a, s, .ok ()⟩) : each f l s = ⟨l.flatMap g, s, .ok ()⟩ := by
  induction l with
  | nil => rfl
  | cons a l ih =>
    show (f a >>= fun _ => each f l) s = _
    rw [bind_of_eq_ok (h a List.mem_cons_self), ih fun b hb => h b (List.mem_cons_of_mem a hb)]
    rfl

theorem each_result {f : α → Step ω σ Unit} (h : ∀ a s, (f a s).result = .ok ()) (l : List α) (s : σ) :
    (each f l s).result = .ok () := by
  induction l generalizing s with
  | nil => rfl
  | cons a l ih =>
    show ((f a >>= fun _ => each f l) s).result = _
    rw [bind_of_ok (h a s), Outcome.after_result, ih]

theorem each_report_bind (g : α → ω) (l : List α) (f : Unit → Step ω σ β) (s : σ) :
    (each (fun a => report (g a)) l >>= f) s = (f () s).after (l.map g) := by
  have h : (each (fun a => report (g a)) l : Step ω σ Unit) s = ⟨l.flatMap fun a => [g a], s, .ok ()⟩ :=
    each_apply fun _ _ => rfl
  rw [bind_of_eq_ok h, List.map_eq_flatMap]

/-! ## What a step leaves out of account -/

/-- After a change of the state the step does what it does before it, and the change is still there. -/
def Ignores (g : σ → σ) (m : Step ω σ α) : Prop := ∀ s, m (g s) = (m s).onState g

section Ignores
variable {g : σ → σ}

/-- A first step that ignores the change on one state, and then one that ignores it on all. -/
theorem bind_onState {m : Step ω σ α} {f : α → Step ω σ β} {s : σ} (hm : m (g s) = (m s).onState g)
    (hf : ∀ a, Ignores g (f a)) : (m >>= f) (g s) = ((m >>= f) s).onState g := by
  cases h : (m s).result with
  | error e =>
    rw [bind_of_error h, bind_of_error (e := e) (by rw [hm, Outcome.onState_result, h]), hm]
    rfl
  | ok a =>
    rw [bind_of_ok h, bind_of_ok (a := a) (by rw [hm, Outcome.onState_result, h]), hm, Outcome.onState_state, hf a]
    rfl

theorem Ignores.bind {m : Step ω σ α} {f : α → Step ω σ β} (hm : Ignores g m) (hf : ∀ a, Ignores g (f a)) :
    Ignores g (m >>= f) := fun s => bind_onState (hm s) hf

/-- What is read from the state before the change may be read after it. -/
theorem Ignores.get_bind {f : σ → Step ω σ α} (h : ∀ s, f (g s) (g s) = (f s s).onState g) :
    Ignores g ((get : Step ω σ σ) >>= f) := h

end Ignores

/-! ## Runs -/

/-- Makes the steps of the elements in order. One that fails leaves its state behind, and the next is made on it. -/
def run (f : α → Step ω σ Unit) (l : List α) : Step ω σ Unit := each (fun a => do let _ ← attempt (f a)) l

/-- No step of the run from `s` fails. -/
def Unfailing (f : α → Step ω σ Unit) : List α → σ → Prop
  | [], _ => True
  | a :: l, s => (f a s).result = .ok () ∧ Unfailing f l (f a s).state

/-- Wherever the run from `s` comes by, `P` holds of the state and of the element that is next. -/
def Throughout (f : α → Step ω σ Unit) (P : σ → α → Prop) : List α → σ → Prop
  | [], _ => True
  | a :: l, s => P s a ∧ Throughout f P l (f a s).state

instance [DecidableEq α] (r : Except Fault α) (a : α) : Decidable (r = .ok a) :=
  match r with
  | .ok b => if h : b = a then .isTrue (congrArg Except.ok h) else .isFalse fun heq => h (Except.ok.inj heq)
  | .error _ => .isFalse nofun

instance (r : Except Fault α) (e : Fault) : Decidable (r = .error e) :=
  match r with
  | .ok _ => .isFalse nofun
  | .error e' => if h : e' = e then .isTrue (congrArg Except.error h) else .isFalse fun heq => h (Except.error.inj heq)

instance decidableUnfailing (f : α → Step ω σ Unit) : (l : List α) → (s : σ) → Decidable (Unfailing f l s)
  | [], _ => .isTrue trivial
  | a :: l, s =>
    have := decidableUnfailing f l (f a s).state
    inferInstanceAs (Decidable (_ ∧ _))

instance decidableThroughout (f : α → Step ω σ Unit) (P : σ → α → Prop) [∀ s a, Decidable (P s a)] :
    (l : List α) → (s : σ) → Decidable (Throughout f P l s)
  | [], _ => .isTrue trivial
  | a :: l, s =>
    have := decidableThroughout f P l (f a s).state
    inferInstanceAs (Decidable (_ ∧ _))

section Runs
variable {f f' : α → Step ω σ Unit}

@[simp] theorem run_nil (s : σ) : run f [] s = ⟨[], s, .ok ()⟩ := rfl

theorem run_cons (a : α) (l : List α) (s : σ) : run f (a :: l) s = (run f l (f a s).state).after (f a s).reports := by
  show ((do let _ ← attempt (f a)) >>= fun _ => run f l : Step ω σ Unit) s = _
  have h : (do let _ ← attempt (f a) : Step ω σ Unit) s = ⟨(f a s).reports, (f a s).state, .ok ()⟩ :=
    map_apply (fun _ => ()) (attempt (f a)) s
  rw [bind_of_ok (a := ()) (by rw [h]), h]

/-- A run itself does not fail, whatever its steps do. -/
theorem run_result (l : List α) (s : σ) : (run f l s).result = .ok () := by
  induction l generalizing s with
  | nil => rfl
  | cons a l ih => rw [run_cons, Outcome.after_result, ih]

theorem run_append (l l' : List α) (s : σ) :
    run f (l ++ l') s = (run f l' (run f l s).state).after (run f l s).reports := by
  induction l generalizing s with
  | nil => rw [List.nil_append, run_nil, Outcome.after_nil]
  | cons a l ih =>
    rw [List.cons_append, run_cons, run_cons, ih, Outcome.after_after, Outcome.after_state, Outcome.after_reports]

theorem run_concat_state (l : List α) (a : α) (s : σ) :
    (run f (l ++ [a]) s).state = (f a (run f l s).state).state := by
  rw [run_append, Outcome.after_state, run_cons, Outcome.after_state, run_nil]

/-- A run that goes on after `l` fails nowhere if it fails neither up to there nor from there on. -/
theorem unfailing_append {l l' : List α} {s : σ} :
    Unfailing f (l ++ l') s ↔ Unfailing f l s ∧ Unfailing f l' (run f l s).state := by
  induction l generalizing s with
  | nil => exact ⟨fun h => ⟨trivial, h⟩, fun h => h.2⟩
  | cons a l ih =>
    rw [List.cons_append, Unfailing, Unfailing, ih, run_cons, Outcome.after_state, and_assoc]

/-- What holds at the start of a run in which nothing fails, and at every step goes on to hold of the elements so far,
holds of all of them at its end. -/
theorem Unfailing.keeps {I : List α → σ → Prop} {l : List α} {s : σ} (h : Unfailing f l s) (hstart : I [] s)
    (hstep : ∀ done a, a ∈ l → I done (run f done s).state → (f a (run f done s).state).result = .ok () →
      I (done ++ [a]) (run f (done ++ [a]) s).state) : I l (run f l s).state := by
  suffices hrest : ∀ rest done, (∀ a ∈ rest, a ∈ l) → I done (run f done s).state →
      Unfailing f rest (run f done s).state → I (done ++ rest) (run f (done ++ rest) s).state from
    hrest l [] (fun _ ha => ha) hstart h
  intro rest
  induction rest with
  | nil =>
    intro done _ hdone _
    rw [List.append_nil]
    exact hdone
  | cons a rest ih =>
    intro done hmem hdone hrest
    obtain ⟨hok, hrest⟩ := hrest
    rw [← run_concat_state] at hrest
    rw [List.append_cons]
    have hnext := hstep done a (hmem a List.mem_cons_self) hdone hok
    exact ih (done ++ [a]) (fun b hb => hmem b (List.mem_cons_of_mem a hb)) hnext hrest

theorem throughout_append {P : σ → α → Prop} {l l' : List α} {s : σ} :
    Throughout f P (l ++ l') s ↔ Throughout f P l s ∧ Throughout f P l' (run f l s).state := by
  induction l generalizing s with
  | nil => exact ⟨fun h => ⟨trivial, h⟩, fun h => h.2⟩
  | cons a l ih =>
    rw [List.cons_append, Throughout, Throughout, ih, run_cons, Outcome.after_state, and_assoc]

/-- What holds at the start of a run and is kept by every step that the run makes holds at its end, and what it entails of
the steps holds of all of them. -/
theorem Throughout.keeps {P Q : σ → α → Prop} {I : σ → Prop} {l : List α} {s : σ} (h : Throughout f P l s)
    (hok : Unfailing f l s) (hs : I s)
    (hstep : ∀ s a, I s → P s a → (f a s).result = .ok () → Q s a ∧ I (f a s).state) :
    Throughout f Q l s ∧ I (run f l s).state := by
  induction l generalizing s with
  | nil => exact ⟨trivial, hs⟩
  | cons a l ih =>
    obtain ⟨hP, hrest⟩ := h
    obtain ⟨hresult, hok⟩ := hok
    obtain ⟨hQ, hnext⟩ := hstep s a hs hP hresult
    obtain ⟨hlater, hend⟩ := ih hrest hok hnext
    rw [run_cons, Outcome.after_state]
    exact ⟨⟨hQ, hlater⟩, hend⟩

/-- What every step keeps, a run keeps, and it reports what its steps may report. -/
theorem run_keeps {P : σ → Prop} {R : ω → Prop} {l : List α}
    (h : ∀ a ∈ l, ∀ s, P s → P (f a s).state ∧ ∀ w ∈ (f a s).reports, R w) {s : σ} (hs : P s) :
    P (run f l s).state ∧ ∀ w ∈ (run f l s).reports, R w := by
  induction l generalizing s with
  | nil => exact ⟨hs, fun w hw => absurd hw List.not_mem_nil⟩
  | cons a l ih =>
    obtain ⟨hstate, hreports⟩ := h a List.mem_cons_self s hs
    obtain ⟨hrest, hlater⟩ := ih (fun b hb => h b (List.mem_cons_of_mem a hb)) hstate
    rw [run_cons]
    refine ⟨hrest, fun w hw => ?_⟩
    rcases List.mem_append.mp hw with hw | hw
    · exact hreports w hw
    · exact hlater w hw

/-- What every step keeps of the reports so far and the state, a run keeps. -/
theorem run_tells {I : List ω → σ → Prop} {l : List α}
    (h : ∀ a ∈ l, ∀ told s, I told s → I (told ++ (f a s).reports) (f a s).state) {told : List ω} {s : σ}
    (hs : I told s) : I (told ++ (run f l s).reports) (run f l s).state := by
  induction l generalizing told s with
  | nil =>
    rw [run_nil, List.append_nil]
    exact hs
  | cons a l ih =>
    rw [run_cons, Outcome.after_reports, Outcome.after_state, ← List.append_assoc]
    exact ih (fun b hb => h b (List.mem_cons_of_mem a hb)) (h a List.mem_cons_self told s hs)

theorem run_ignores {l : List α} {g : σ → σ} (h : ∀ a ∈ l, Ignores g (f a)) : Ignores g (run f l) := by
  induction l with
  | nil => exact fun _ => rfl
  | cons a l ih =>
    intro s
    rw [run_cons, run_cons, h a List.mem_cons_self s, Outcome.onState_state,
      ih (fun b hb => h b (List.mem_cons_of_mem a hb))]
    rfl

/-- Two runs are the same if their steps are the same on all states that the steps keep. -/
theorem run_congr {P : σ → Prop} {l : List α} (h : ∀ a ∈ l, ∀ s, P s → f a s = f' a s ∧ P (f a s).state) {s : σ}
    (hs : P s) : run f l s = run f' l s := by
  induction l generalizing s with
  | nil => rfl
  | cons a l ih =>
    obtain ⟨heq, hkept⟩ := h a List.mem_cons_self s hs
    rw [run_cons, run_cons, ← heq, ih (fun b hb => h b (List.mem_cons_of_mem a hb)) hkept]

end Runs

end Step
end LinkMeter
