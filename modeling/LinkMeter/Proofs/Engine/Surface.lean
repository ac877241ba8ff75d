import LinkMeter.Proofs.Engine.Liveness

/-! # What the surface shows

A decision is made from the rates, the configuration, the connectivity and the attachment. Whatever changes one of them
ends in a new decision, and what ends in none leaves all four alone: links that come and go, a screen that goes off, a tick
that is dropped. So the last decision is the one that would be made now. -/

namespace LinkMeter.Engine
variable {σ : Type}

/-! ## Decisions among the reports -/

/-- The decisions among the reports, in order. -/
def decisions (reports : List Report) : List Display.Decision := reports.filterMap fun w => w.sort.getRight?

theorem decisions_append (l l' : List Report) : decisions (l ++ l') = decisions l ++ decisions l' :=
  List.filterMap_append

theorem decisions_of_quiet {reports : List Report} (h : Quiet reports) : decisions reports = [] := by
  refine List.filterMap_eq_nil_iff.mpr fun w hw => ?_
  cases w with
  | record r => rfl
  | display d => exact absurd hw (h d)

theorem decisions_display {e : Engine σ} {d : Display.Decision} (h : e.decision = .ok d) :
    decisions (display e).reports = [d] := by
  have hbefore : decisions (e.decisionNotes.map Report.record) = [] := decisions_of_quiet (Quiet.records _)
  have hafter : decisions (e.rearmNotes.map Report.record) = [] := decisions_of_quiet (Quiet.records _)
  rw [display_of_ok h]
  show decisions (e.decisionNotes.map Report.record ++ ([.display d] ++ e.rearmNotes.map Report.record)) = [d]
  rw [decisions_append, decisions_append, hbefore, hafter]
  rfl

/-! ## What a message does to the surface -/

/-- Whether a message ends in a decision. -/
def Message.shows (e : Engine σ) : Message → Bool
  | .tick => e.isAwake
  | .screenChanged on dozing => on && !dozing
  | .linkUpdated _ _ | .linkLost _ => false
  | .updateView | .configChanged _ | .connectivityChanged _ | .attach | .detach => true

/-- How a step left the surface: with one new decision, the one that would be made now, or as it was, and then the
decision that would be made now is as it was too. -/
inductive Drawn (e : Engine σ) (o : Outcome Report (Engine σ) Unit) : Bool → Prop where
  | anew (d : Display.Decision) (hreports : decisions o.reports = [d]) (hshown : o.state.shown = some d)
    (hdecision : o.state.decision = .ok d) : Drawn e o true
  | asBefore (hreports : decisions o.reports = []) (hshown : o.state.shown = e.shown)
    (hdecision : o.state.decision = e.decision) : Drawn e o false

section Messages
variable {c : Connections σ} {e e₁ e' : Engine σ} {m : Message}

theorem Prepared.shows (h : Prepared c e m e₁) : m.shows e = true := by
  cases h with
  | tick hawake _ _ => exact hawake
  | _ => rfl

theorem Aside.shows (h : Aside c e m e' (.ok ())) : m.shows e = false := by
  cases h with
  | tickDropped hasleep => exact hasleep
  | linkUpdated _ _ => rfl
  | linkLost _ => rfl
  | screenOff hoff => exact hoff

/-- What is worked on without a decision changes nothing that a decision is made from. -/
theorem Aside.decision (h : Aside c e m e' (.ok ())) : e'.shown = e.shown ∧ e'.decision = e.decision := by
  cases h <;> exact ⟨rfl, rfl⟩

theorem process_drawn (c : Connections σ) (m : Message) (e : Engine σ) (h : (process c m e).result = .ok ()) :
    Drawn e (process c m e) (m.shows e) := by
  cases process_handled c m e with
  | @shown e₁ reports hprepared hquiet ho =>
    rw [ho] at h ⊢
    obtain ⟨d, hd⟩ := decision_of_display h
    have hstate : (display e₁).state = { e₁ with shown := some d, timer := e₁.rearmed } := by rw [display_of_ok hd]
    rw [hprepared.shows]
    refine .anew d ?_ ?_ ?_
    · rw [Outcome.after_reports, decisions_append, decisions_of_quiet hquiet, decisions_display hd, List.nil_append]
    · rw [Outcome.after_state, hstate]
    · rw [Outcome.after_state, hstate]
      exact hd
  | @aside e' r reports haside hquiet ho =>
    rw [ho] at h ⊢
    cases h
    obtain ⟨hshown, hdecision⟩ := haside.decision
    rw [haside.shows]
    exact .asBefore (decisions_of_quiet hquiet) hshown hdecision

end Messages

theorem Drawn.congr {e e' : Engine σ} {o : Outcome Report (Engine σ) Unit} {anew : Bool} (h : Drawn e o anew)
    (hshown : e.shown = e'.shown) (hdecision : e.decision = e'.decision) : Drawn e' o anew := by
  cases h with
  | anew d hreports hnow hmade => exact .anew d hreports hnow hmade
  | asBefore hreports hnow hmade => exact .asBefore hreports (hnow.trans hshown) (hmade.trans hdecision)

theorem Drawn.length {e : Engine σ} {o : Outcome Report (Engine σ) Unit} {anew : Bool} (h : Drawn e o anew) :
    (decisions o.reports).length = if anew then 1 else 0 := by
  cases h with
  | anew d hreports _ _ => rw [hreports]; rfl
  | asBefore hreports _ _ => rw [hreports]; rfl

/-! ## What an action does to the surface -/

/-- The message that is worked on in an action. -/
def Action.works (e : Engine σ) : Action σ → Option Message
  | .message m => some m
  | .deliver => e.queue.head?
  | _ => none

theorem shows_queue (m : Message) (e : Engine σ) (queue : List Message) : m.shows { e with queue } = m.shows e := by
  cases m <;> rfl

theorem perform_drawn {c : Connections σ} {e : Engine σ} {a : Action σ} (ha : a ≠ .cleanup)
    (h : (perform c a e).result = .ok ()) : Drawn e (perform c a e) ((a.works e).any (Message.shows e)) := by
  cases a with
  | message m => exact process_drawn c m e h
  | deliver =>
    rw [perform_deliver] at h ⊢
    rcases deliver_cases c e with ⟨hqueue, heq⟩ | ⟨m, rest, hqueue, heq⟩
    · rw [heq]
      unfold Action.works
      rw [hqueue]
      exact .asBefore rfl rfl rfl
    · rw [heq] at h ⊢
      have hdrawn := process_drawn c m { e with queue := rest } h
      rw [shows_queue] at hdrawn
      unfold Action.works
      rw [hqueue]
      -- The queue is no part of what a decision is made from.
      exact hdrawn.congr rfl rfl
  | expire =>
    rw [perform_expire, expire_apply]
    exact .asBefore rfl rfl rfl
  | cleanup => exact absurd rfl ha
  | _ => exact .asBefore rfl rfl rfl

/-! ## Runs -/

/-- The surface shows the last of the decisions, and that one is up to date. -/
structure Current (shown : List Display.Decision) (e : Engine σ) : Prop where
  last : shown.getLast? = e.shown
  decision : ∀ d, e.shown = some d → e.decision = .ok d

theorem Current.drawn {shown : List Display.Decision} {e : Engine σ} {o : Outcome Report (Engine σ) Unit} {anew : Bool}
    (hc : Current shown e) (h : Drawn e o anew) : Current (shown ++ decisions o.reports) o.state := by
  cases h with
  | anew d hreports hshown hdecision =>
    rw [hreports]
    refine ⟨by rw [List.getLast?_concat, hshown], fun d' hd' => ?_⟩
    rw [hshown] at hd'
    cases hd'
    exact hdecision
  | asBefore hreports hshown hdecision =>
    rw [hreports, List.append_nil]
    exact ⟨hc.last.trans hshown.symm, fun d hd => hdecision.trans (hc.decision d (hshown.symm.trans hd))⟩

/-- In every run of a fresh engine in which nothing fails and which is not cleaned up, the last decision that was shown is
the one that would be made now. A tick of an engine that is awake, a question for the view, a configuration, a connectivity,
a surface that comes or goes and a screen that goes on end in one decision each, and nothing else in any. -/
theorem surface_of_run (c : Connections σ) (config : Display.Config) (start : Binary64) (around : σ)
    {actions : List (Action σ)} (hok : Step.Unfailing (perform c) actions (fresh config start around))
    (hcleanup : .cleanup ∉ actions) :
    let o := Step.run (perform c) actions (fresh config start around)
    (∀ d, (decisions o.reports).getLast? = some d →
      Display.decide o.state.sampler.estimate o.state.config o.state.connected o.state.attached = .ok d) ∧
    ∀ before a, before ++ [a] <+: actions →
      let e := (Step.run (perform c) before (fresh config start around)).state
      (decisions (perform c a e).reports).length = if (a.works e).any (Message.shows e) then 1 else 0 := by
  intro o
  refine ⟨fun d hd => ?_, fun before a hprefix => ?_⟩
  · have hcurrent : Current (decisions o.reports) o.state := by
      refine hok.keeps (I := fun done e =>
        Current (decisions (Step.run (perform c) done (fresh config start around)).reports) e) ⟨rfl, nofun⟩ ?_
      intro done a ha hdone hresult
      have hdrawn := perform_drawn (fun h => hcleanup (h ▸ ha)) hresult
      rw [Step.run_concat_state, Step.run_append, Outcome.after_reports, Step.run_cons, Outcome.after_reports,
        Step.run_nil, List.append_nil, decisions_append]
      exact hdone.drawn hdrawn
    exact hcurrent.decision d (hcurrent.last.symm.trans hd)
  · obtain ⟨rest, rfl⟩ := hprefix
    have hafter := (Step.unfailing_append.mp (Step.unfailing_append.mp hok).1).2
    have hmem : a ∈ before ++ [a] ++ rest := List.mem_append_left _ (List.mem_append_right _ List.mem_cons_self)
    exact (perform_drawn (fun h => hcleanup (h ▸ hmem)) hafter.1).length

/-- Two samples for a surface, after which the link is lost, the screen goes off and a tick is dropped. -/
def surfaceActions : List (Action Rate.Table) :=
  [.message (.linkUpdated (.named "a") (some "eth0")), .surround (·.put "eth0" ⟨1000, 500⟩), .message .attach,
    .clock (.ofRatio false 2000 1), .expire, .deliver, .surround (·.put "eth0" ⟨501000, 1000500⟩),
    .clock (.ofRatio false 4000 1), .expire, .deliver, .message (.linkLost (.named "a")),
    .message (.screenChanged false false), .post .tick, .deliver]

/-- The surface still shows the rates of the second sample. -/
theorem surface_surfaceActions :
    let o := Step.run (perform onTable) surfaceActions (fresh .default .zero {})
    Step.Unfailing (perform onTable) surfaceActions (fresh .default .zero {}) ∧
      ∃ d, (decisions o.reports).getLast? = some d ∧ d.text = "2.0 Mb/s\n4.0 Mb/s" ∧
        Display.decide ⟨2000, 4000⟩ o.state.config true true = .ok d := by
  have hok : Step.Unfailing (perform onTable) surfaceActions (fresh .default .zero {}) := by decide +kernel
  have hsurface := (surface_of_run onTable .default .zero {} hok (by simp [surfaceActions])).1
  have htext : ((decisions (Step.run (perform onTable) surfaceActions (fresh .default .zero {})).reports).getLast?.map
      (·.text)) = some "2.0 Mb/s\n4.0 Mb/s" := by decide +kernel
  have hestimate : (Step.run (perform onTable) surfaceActions (fresh .default .zero {})).state.sampler.estimate =
      ⟨2000, 4000⟩ := by decide +kernel
  have hconnected : (Step.run (perform onTable) surfaceActions (fresh .default .zero {})).state.connected = true := by
    decide +kernel
  have hattached : (Step.run (perform onTable) surfaceActions (fresh .default .zero {})).state.attached = true := by
    decide +kernel
  obtain ⟨d, hlast, htext⟩ := Option.map_eq_some_iff.mp htext
  have hdecision := hsurface d hlast
  rw [hestimate, hconnected, hattached] at hdecision
  exact ⟨hok, d, hlast, htext, hdecision⟩

end LinkMeter.Engine
