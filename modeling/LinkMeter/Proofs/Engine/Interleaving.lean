import LinkMeter.Proofs.Engine.Locality
import LinkMeter.Proofs.Engine.Surface
import LinkMeter.Proofs.Text.Order

/-! # Where the link messages come

A message about a link touches nothing but the links, and between two ticks nothing looks at them. So the messages of such
a stretch end as they end without those about links, and the links are put in afterwards (`run_parted`). Where the link
messages stand among the others, and among those about other links, makes no difference (`Interleaved`). -/

namespace LinkMeter

namespace Link.Registry

/-- The names are those of the links, whatever the order in which these came. -/
theorem names_congr {r r' : Registry} (hd : (r.links.map Prod.fst).Nodup) (hd' : (r'.links.map Prod.fst).Nodup)
    (h : ∀ handle, r'.get? handle = r.get? handle) : r'.names = r.names := by
  refine (Text.ascending_setOf _).ext (Text.ascending_setOf _) fun t => ?_
  refine (mem_names hd').trans (Iff.trans ?_ (mem_names hd).symm)
  simp only [h]

end Link.Registry

namespace Engine
open Link (Handle Registry)
variable {σ : Type}

/-! ## What actions do to the links -/

/-- The link that the action is about. -/
def Action.link? : Action σ → Option Handle
  | .message m => m.link?
  | _ => none

/-- What the action does to the links, if it is about one. -/
def Action.relinks : Action σ → Registry → Registry
  | .message (.linkUpdated h name), r => r.insert h name
  | .message (.linkLost h), r => r.erase h
  | _, r => r

def relinksAll (actions : List (Action σ)) (r : Registry) : Registry := actions.foldl (fun r a => a.relinks r) r

section Relinks
variable {a : Action σ} {h : Handle} {r r' : Registry}

theorem Action.relinks_none (ha : a.link? = none) (r : Registry) : a.relinks r = r := by
  cases a with
  | message m =>
    cases m with
    | linkUpdated h name => cases ha
    | linkLost h => cases ha
    | _ => rfl
  | _ => rfl

theorem Action.get?_relinks_self (ha : a.link? = some h) (r r' : Registry) :
    (a.relinks r).get? h = (a.relinks r').get? h := by
  cases a with
  | message m =>
    cases m with
    | linkUpdated other name =>
      cases ha
      show (r.insert h name).get? h = (r'.insert h name).get? h
      rw [Registry.get?_insert, Registry.get?_insert, if_pos rfl, if_pos rfl]
    | linkLost other =>
      cases ha
      show (r.erase h).get? h = (r'.erase h).get? h
      rw [Registry.get?_erase, Registry.get?_erase, if_pos rfl, if_pos rfl]
    | _ => cases ha
  | _ => cases ha

theorem Action.get?_relinks_of_ne (ha : a.link? ≠ some h) (r : Registry) : (a.relinks r).get? h = r.get? h := by
  cases a with
  | message m =>
    cases m with
    | linkUpdated other name =>
      show (r.insert other name).get? h = r.get? h
      rw [Registry.get?_insert, if_neg fun heq => ha (congrArg some heq.symm)]
    | linkLost other =>
      show (r.erase other).get? h = r.get? h
      rw [Registry.get?_erase, if_neg fun heq => ha (congrArg some heq.symm)]
    | _ => rfl
  | _ => rfl

theorem Action.changed_relinks (a : Action σ) (r : Registry) :
    (a.relinks r).changed = (a.link?.isSome || r.changed) := by
  cases a with
  | message m => cases m <;> rfl
  | _ => rfl

theorem Action.nodup_relinks (a : Action σ) (hd : (r.links.map Prod.fst).Nodup) :
    ((a.relinks r).links.map Prod.fst).Nodup := by
  cases a with
  | message m =>
    cases m with
    | linkUpdated h name => exact Registry.nodup_put hd
    | linkLost h => exact Registry.nodup_erase hd h
    | _ => exact hd
  | _ => exact hd

/-- What is under a handle after the actions depends only on those that are about its link. -/
theorem get?_relinksAll (actions : List (Action σ)) (h : Handle) (hr : r.get? h = r'.get? h) :
    (relinksAll actions r).get? h = (relinksAll (actions.filter fun a => a.link? = some h) r').get? h := by
  induction actions generalizing r r' with
  | nil => exact hr
  | cons a rest ih =>
    rw [List.filter_cons]
    by_cases ha : a.link? = some h
    · rw [if_pos (decide_eq_true ha)]
      exact ih (a.get?_relinks_self ha r r')
    · rw [if_neg (by simpa using ha)]
      exact ih ((a.get?_relinks_of_ne ha r).trans hr)

theorem changed_relinksAll (actions : List (Action σ)) (r : Registry) :
    (relinksAll actions r).changed = (actions.any (·.link?.isSome) || r.changed) := by
  induction actions generalizing r with
  | nil => rfl
  | cons a rest ih =>
    show (relinksAll rest (a.relinks r)).changed = _
    rw [ih, a.changed_relinks, List.any_cons, Bool.or_left_comm, Bool.or_assoc]

end Relinks

/-! ## Between two ticks -/

/-- No tick is worked on in the action, and no message that waits. -/
def Action.isBetween : Action σ → Bool
  | .message m => !m.isTick
  | .deliver => false
  | _ => true

theorem isBetween_of_link {m : Message} (hlink : m.link?.isSome = true) :
    (Action.message m : Action σ).isBetween = true := by
  cases m with
  | linkUpdated h name => rfl
  | linkLost h => rfl
  | _ => cases hlink

section Between
variable (c : Connections σ) {a : Action σ}

theorem cleanup_ignores (r : Registry → Registry) : Step.Ignores (rearranged id r) (cleanup : Act σ Unit) := by
  unfold cleanup
  refine Step.Ignores.bind (fun _ => rfl) fun _ => ?_
  refine (cancelTimer_ignores id r).bind fun _ => ?_
  exact Step.Ignores.bind (fun _ => rfl) fun _ => note_ignores id r _ _

theorem perform_ignores (ha : a.isBetween = true) (hlink : a.link? = none) (r : Registry → Registry) :
    Step.Ignores (rearranged id r) (perform c a) := by
  cases a with
  | message m =>
    have htick : m.isTick = false := by
      cases h : m.isTick with
      | false => rfl
      | true => rw [Action.isBetween, h] at ha; cases ha
    exact process_ignores id r c htick hlink
  | deliver => cases ha
  | expire =>
    intro e
    rw [perform_expire, perform_expire, expire_apply, expire_apply]
    rfl
  | cleanup => exact cleanup_ignores r
  | _ => exact fun _ => rfl

theorem process_of_onLinks {m : Message} {work : Logged Registry Unit} {e : Engine σ} {r : Registry}
    (hm : handle c m = onLinks work) (hstate : (work e.sampler.registry).state = r)
    (hresult : (work e.sampler.registry).result = .ok ()) :
    ∃ reports, Quiet reports ∧ process c m e = ⟨reports, relinked e r, .ok ()⟩ := by
  unfold process
  rw [note_bind, hm, onLinks_apply, hstate, hresult]
  exact ⟨_, (Quiet.records [_]).append (Quiet.records _), rfl⟩

theorem perform_link {h : Handle} (hlink : a.link? = some h) (e : Engine σ) :
    ∃ reports, Quiet reports ∧ perform c a e = ⟨reports, rearranged id a.relinks e, .ok ()⟩ := by
  cases a with
  | message m =>
    cases m with
    | linkUpdated h name => exact process_of_onLinks c rfl (Registry.add_state h name _) (Registry.add_result h name _)
    | linkLost h => exact process_of_onLinks c rfl (Registry.remove_state h _) (Registry.remove_result h _)
    | _ => cases hlink
  | _ => cases hlink

/-- Between two ticks the actions that are about links may be left out and their links put in afterwards. -/
theorem run_parted {actions : List (Action σ)} (hactions : ∀ a ∈ actions, a.isBetween = true) (e : Engine σ) :
    (Step.run (perform c) actions e).state =
        rearranged id (relinksAll actions) (Step.run (perform c) (actions.filter (·.link?.isNone)) e).state ∧
      decisions (Step.run (perform c) actions e).reports =
        decisions (Step.run (perform c) (actions.filter (·.link?.isNone)) e).reports := by
  induction actions generalizing e with
  | nil => exact ⟨rfl, rfl⟩
  | cons a rest ih =>
    have hrest : ∀ b ∈ rest, b.isBetween = true := fun b hb => hactions b (List.mem_cons_of_mem a hb)
    rw [Step.run_cons, Outcome.after_state, Outcome.after_reports, decisions_append]
    cases hlink : a.link? with
    | none =>
      obtain ⟨hstate, hdecisions⟩ := ih hrest (perform c a e).state
      have hsame : relinksAll (a :: rest) = relinksAll rest :=
        funext fun r => congrArg (relinksAll rest) (a.relinks_none hlink r)
      rw [List.filter_cons_of_pos (by rw [hlink]; rfl), Step.run_cons, Outcome.after_state, Outcome.after_reports,
        decisions_append, hdecisions, hstate, hsame]
      exact ⟨rfl, rfl⟩
    | some h =>
      obtain ⟨reports, hquiet, hperform⟩ := perform_link c hlink e
      obtain ⟨hstate, hdecisions⟩ := ih hrest (rearranged id a.relinks e)
      -- The actions that are about no link do not notice that this link comes only afterwards.
      have hothers : Step.Ignores (rearranged id a.relinks) (Step.run (perform c) (rest.filter (·.link?.isNone))) := by
        refine Step.run_ignores fun b hb => ?_
        obtain ⟨hmem, hnone⟩ := List.mem_filter.mp hb
        exact perform_ignores c (hrest b hmem) (Option.isNone_iff_eq_none.mp hnone) a.relinks
      rw [hothers e] at hstate hdecisions
      have hputs : ∀ e : Engine σ, rearranged id (relinksAll rest) (rearranged id a.relinks e) =
          rearranged id (relinksAll (a :: rest)) e := fun _ => rfl
      rw [List.filter_cons_of_neg (by rw [hlink]; exact Bool.false_ne_true), hperform, decisions_of_quiet hquiet,
        List.nil_append, hdecisions, hstate, Outcome.onState_state, hputs]
      exact ⟨rfl, rfl⟩

end Between

/-! ## The same links in another order -/

/-- The engines are the same, except that the links may be in another order. -/
structure Alike (e e' : Engine σ) : Prop where
  links : ∀ h, e'.sampler.registry.get? h = e.sampler.registry.get? h
  changed : e'.sampler.registry.changed = e.sampler.registry.changed
  others : e' = relinked e e'.sampler.registry

/-- The outcomes are the same, except for records and for the order of the links. -/
structure Matches (o o' : Outcome Report (Engine σ) Unit) : Prop where
  state : Alike o.state o'.state
  decisions : Engine.decisions o'.reports = Engine.decisions o.reports
  result : o'.result = o.result

/-- The same actions: those that are about no link in the same order, and those about each link in the same order. -/
structure Interleaved (actions actions' : List (Action σ)) : Prop where
  others : actions'.filter (·.link?.isNone) = actions.filter (·.link?.isNone)
  links : ∀ h, actions'.filter (fun a => a.link? = some h) = actions.filter fun a => a.link? = some h

theorem Alike.baseline {e e' : Engine σ} (h : Alike e e') : e'.sampler.baseline = e.sampler.baseline := by
  rw [h.others]
  rfl

theorem Alike.samples {e e' : Engine σ} (h : Alike e e') : e'.sampler.samples = e.sampler.samples := by
  rw [h.others]
  rfl

section Interleaved
variable {c : Connections σ} {e e' : Engine σ} {actions actions' : List (Action σ)}

/-- A sample touches no link, and a message only the one that it is about. -/
theorem process_links (c : Connections σ) (m : Message) (e : Engine σ) :
    (process c m e).state.sampler.registry.links =
      ((Action.message m : Action σ).relinks e.sampler.registry).links := by
  have hsampling : (sampling c e).state.1.registry.links = e.sampler.registry.links := by
    unfold sampling
    exact (Rate.Sampler.tick_keeps _ _ _ _).2
  have hdisplay : ∀ e : Engine σ, (display e).state.sampler = e.sampler := by
    intro e
    cases h : e.decision with
    | error f => rw [display_of_error h]
    | ok d => rw [display_of_ok h]
  cases process_handled c m e with
  | shown hprepared _ ho =>
    rw [ho, Outcome.after_state, hdisplay]
    cases hprepared with
    | tick _ _ hp => rw [hp] at hsampling; exact hsampling
    | _ => rfl
  | aside haside _ ho =>
    rw [ho]
    cases haside with
    | tickFailed _ _ hp => rw [hp] at hsampling; exact hsampling
    | _ => rfl

/-- No two links have the same handle. -/
def Distinct (e : Engine σ) : Prop := (e.sampler.registry.links.map Prod.fst).Nodup

theorem perform_distinct (c : Connections σ) (a : Action σ) (e : Engine σ) (hd : Distinct e) :
    Distinct (perform c a e).state := by
  have hprocess : ∀ m (e : Engine σ), Distinct e → Distinct (process c m e).state := by
    intro m e hd
    unfold Distinct
    rw [process_links]
    exact Action.nodup_relinks _ hd
  cases a with
  | message m => exact hprocess m e hd
  | deliver =>
    rw [perform_deliver]
    rcases deliver_cases c e with ⟨-, heq⟩ | ⟨m, rest, -, heq⟩
    · rw [heq]
      exact hd
    · rw [heq]
      exact hprocess m { e with queue := rest } hd
  | expire =>
    rw [perform_expire, expire_apply]
    exact hd
  | cleanup =>
    obtain ⟨reports, -, hcleanup⟩ := cleanup_apply e
    rw [perform_cleanup, hcleanup]
    exact hd
  | _ => exact hd

theorem run_distinct (c : Connections σ) (actions : List (Action σ)) {e : Engine σ} (hd : Distinct e) :
    Distinct (Step.run (perform c) actions e).state :=
  (Step.run_keeps (R := fun _ => True) (fun a _ e hd => ⟨perform_distinct c a e hd, fun _ _ => trivial⟩) hd).1

theorem Interleaved.any_link (h : Interleaved actions actions') :
    actions'.any (·.link?.isSome) = actions.any (·.link?.isSome) := by
  have hmem : ∀ {l l' : List (Action σ)}, (∀ h, l'.filter (fun a => a.link? = some h) = l.filter fun a => a.link? = some h) →
      l.any (·.link?.isSome) = true → l'.any (·.link?.isSome) = true := by
    intro l l' hlinks hany
    obtain ⟨a, ha, hsome⟩ := List.any_eq_true.mp hany
    obtain ⟨h, hh⟩ := Option.isSome_iff_exists.mp hsome
    have hfiltered : a ∈ l'.filter fun a => a.link? = some h := by
      rw [hlinks]
      exact List.mem_filter.mpr ⟨ha, decide_eq_true hh⟩
    exact List.any_eq_true.mpr ⟨a, (List.mem_filter.mp hfiltered).1, hsome⟩
  exact Bool.eq_iff_iff.mpr ⟨hmem fun handle => (h.links handle).symm, hmem h.links⟩

/-- A message about a link may be moved across actions that are about none. -/
theorem Interleaved.moved {m : Message} {front back : List (Action σ)} (hlink : m.link?.isSome = true)
    (hothers : ∀ a ∈ front ++ back, a.link? = none) :
    Interleaved (.message m :: (front ++ back)) (front ++ .message m :: back) := by
  have hfront : ∀ h : Handle, front.filter (fun a => a.link? = some h) = [] := by
    refine fun h => List.filter_eq_nil_iff.mpr fun a ha => ?_
    rw [hothers a (List.mem_append_left back ha)]
    exact nofun
  refine ⟨?_, fun h => ?_⟩
  · have hm : (Action.message m : Action σ).link?.isNone = false := Option.isNone_eq_false_iff.mpr hlink
    rw [List.filter_append, List.filter_cons, hm, if_neg Bool.false_ne_true, List.filter_cons, hm,
      if_neg Bool.false_ne_true, List.filter_append]
  · rw [List.filter_append, hfront, List.nil_append, List.filter_cons, List.filter_cons, List.filter_append, hfront,
      List.nil_append]

theorem Interleaved.swapped {m m' : Message} {h h' : Handle} (hm : m.link? = some h) (hm' : m'.link? = some h')
    (hne : h ≠ h') : Interleaved [(.message m : Action σ), .message m'] [.message m', .message m] := by
  have hlink : (Action.message m : Action σ).link? = some h := hm
  have hlink' : (Action.message m' : Action σ).link? = some h' := hm'
  refine ⟨by simp [hlink, hlink'], fun handle => ?_⟩
  by_cases heq : h = handle
  · have hother : h' ≠ handle := fun h => hne (heq.trans h.symm)
    simp [hlink, hlink', heq, hother]
  · by_cases heq' : h' = handle <;> simp [hlink, hlink', heq, heq']

/-- Between two ticks, actions in another order that is the same for each link end in the same. -/
theorem Interleaved.run (h : Interleaved actions actions') (hactions : ∀ a ∈ actions, a.isBetween = true)
    (hactions' : ∀ a ∈ actions', a.isBetween = true) (c : Connections σ) (e : Engine σ) :
    Matches (Step.run (perform c) actions e) (Step.run (perform c) actions' e) := by
  obtain ⟨hstate, hdecisions⟩ := run_parted c hactions e
  obtain ⟨hstate', hdecisions'⟩ := run_parted c hactions' e
  rw [h.others] at hstate' hdecisions'
  refine ⟨?_, hdecisions'.trans hdecisions.symm, ?_⟩
  · rw [hstate, hstate']
    refine ⟨fun handle => ?_, ?_, rfl⟩
    · show (relinksAll actions' _).get? handle = (relinksAll actions _).get? handle
      rw [get?_relinksAll actions' handle rfl, get?_relinksAll actions handle rfl, h.links]
    · show (relinksAll actions' _).changed = (relinksAll actions _).changed
      rw [changed_relinksAll, changed_relinksAll, h.any_link]
  · rw [Step.run_result, Step.run_result]

/-- A tick does not see the order of the links. -/
theorem Alike.tick (h : Alike e e') (hd : Distinct e) (hd' : Distinct e') (c : Connections σ) :
    Matches (process c .tick e) (process c .tick e') := by
  have hnames : e'.sampler.registry.names = e.sampler.registry.names := Registry.names_congr hd hd' h.links
  have hsame : e' = rearranged id (fun r => ⟨e'.sampler.registry.links, r.changed⟩) e := by
    rw [h.others]
    show relinked e _ = relinked e ⟨_, e.sampler.registry.changed⟩
    rw [← h.changed]
    rfl
  have htick : process c .tick e' =
      (process c .tick e).onState (rearranged id fun r => ⟨e'.sampler.registry.links, r.changed⟩) := by
    rw [hsame]
    exact process_tick_rearranged hnames rfl rfl
  rw [htick]
  refine ⟨⟨fun handle => ?_, rfl, rfl⟩, rfl, rfl⟩
  show e'.sampler.registry.get? handle = Registry.get? ⟨(process c .tick e).state.sampler.registry.links, _⟩ handle
  rw [h.links, process_links]
  rfl

end Interleaved

/-- In every run, a message about a link may come anywhere between two ticks, the end and the decisions are the same;
messages about different links may change places; and the next sample depends only on the other actions and on the order
of the messages about each link. -/
theorem links_between_ticks (c : Connections σ) (config : Display.Config) (start : Binary64) (around : σ)
    (before : List (Action σ)) :
    let e := (Step.run (perform c) before (fresh config start around)).state
    (∀ (m : Message) (front back : List (Action σ)), m.link?.isSome = true →
      (∀ a ∈ front ++ back, a.isBetween = true ∧ a.link? = none) →
      Matches (Step.run (perform c) (.message m :: (front ++ back)) e)
        (Step.run (perform c) (front ++ .message m :: back) e)) ∧
    (∀ (m m' : Message) (h h' : Handle), m.link? = some h → m'.link? = some h' → h ≠ h' →
      Matches (Step.run (perform c) [.message m, .message m'] e)
        (Step.run (perform c) [.message m', .message m] e)) ∧
    ∀ actions actions' : List (Action σ), (∀ a ∈ actions, a.isBetween = true) → (∀ a ∈ actions', a.isBetween = true) →
      Interleaved actions actions' →
      Matches (Step.run (perform c) actions e) (Step.run (perform c) actions' e) ∧
        Matches (process c .tick (Step.run (perform c) actions e).state)
          (process c .tick (Step.run (perform c) actions' e).state) := by
  intro e
  have hd : Distinct e := run_distinct c before List.nodup_nil
  refine ⟨fun m front back hlink hothers => ?_, fun m m' h h' hm hm' hne => ?_, fun actions actions' ha ha' h => ?_⟩
  · have hbetween : (Action.message m : Action σ).isBetween = true := isBetween_of_link hlink
    refine (Interleaved.moved hlink fun a ha => (hothers a ha).2).run ?_ ?_ c e
    · intro a ha
      rcases List.mem_cons.mp ha with rfl | ha
      · exact hbetween
      · exact (hothers a ha).1
    · intro a ha
      rcases List.mem_append.mp ha with ha | ha
      · exact (hothers a (List.mem_append_left back ha)).1
      · rcases List.mem_cons.mp ha with rfl | ha
        · exact hbetween
        · exact (hothers a (List.mem_append_right front ha)).1
  · have hpair : ∀ m m' : Message, m.link?.isSome = true → m'.link?.isSome = true →
        ∀ a ∈ ([.message m, .message m'] : List (Action σ)), a.isBetween = true := by
      intro m m' hm hm' a ha
      rcases List.mem_pair.mp ha with rfl | rfl
      · exact isBetween_of_link hm
      · exact isBetween_of_link hm'
    have hsome : m.link?.isSome = true := by rw [hm]; rfl
    have hsome' : m'.link?.isSome = true := by rw [hm']; rfl
    exact (Interleaved.swapped hm hm' hne).run (hpair m m' hsome hsome') (hpair m' m hsome' hsome) c e
  · have hrun := h.run ha ha' c e
    exact ⟨hrun, hrun.state.tick (run_distinct c actions hd) (run_distinct c actions' hd) c⟩

/-- A run before the tick, in which an interface has counted something. -/
def openingActions : List (Action Rate.Table) :=
  [.message (.linkUpdated (.named "a") (some "eth0")), .surround (·.put "eth0" ⟨1000, 500⟩),
    .surround (·.put "eth1" ⟨2000, 700⟩), .message .attach]

def scatteredActions : List (Action Rate.Table) :=
  [.message (.linkUpdated (.named "b") (some "eth0")), .message .updateView, .message (.linkLost (.named "a")),
    .clock (.ofRatio false 2000 1), .message (.linkUpdated (.named "a") (some "eth1"))]

/-- The messages about the first link come earlier, and that about the second one later. -/
def gatheredActions : List (Action Rate.Table) :=
  [.message (.linkLost (.named "a")), .message (.linkUpdated (.named "a") (some "eth1")), .message .updateView,
    .clock (.ofRatio false 2000 1), .message (.linkUpdated (.named "b") (some "eth0"))]

def openedEngine : Engine Rate.Table := (Step.run (perform onTable) openingActions (fresh .default .zero {})).state

def scatteredEngine : Engine Rate.Table := (Step.run (perform onTable) scatteredActions openedEngine).state

def gatheredEngine : Engine Rate.Table := (Step.run (perform onTable) gatheredActions openedEngine).state

/-- The sample at the tick is that of both links. -/
theorem links_gatheredActions :
    (∀ a ∈ scatteredActions, a.isBetween = true) ∧ (∀ a ∈ gatheredActions, a.isBetween = true) ∧
      Interleaved scatteredActions gatheredActions ∧
      (process onTable .tick gatheredEngine).state.sampler.samples = 1 ∧
      (process onTable .tick gatheredEngine).state.sampler.baseline.traffic.tx = 3000 := by
  have hbetween : ∀ a ∈ scatteredActions, a.isBetween = true := by simp [scatteredActions, Action.isBetween, Message.isTick]
  have hbetween' : ∀ a ∈ gatheredActions, a.isBetween = true := by simp [gatheredActions, Action.isBetween, Message.isTick]
  have hinterleaved : Interleaved scatteredActions gatheredActions := by
    refine ⟨rfl, fun h => ?_⟩
    by_cases ha : h = .named "a"
    · subst ha
      rfl
    · by_cases hb : h = .named "b"
      · subst hb
        rfl
      · simp [scatteredActions, gatheredActions, Action.link?, Message.link?, Ne.symm ha, Ne.symm hb]
  have hsamples : (process onTable .tick scatteredEngine).state.sampler.samples = 1 := by decide +kernel
  have htx : (process onTable .tick scatteredEngine).state.sampler.baseline.traffic.tx = 3000 := by decide +kernel
  unfold scatteredEngine openedEngine at hsamples htx
  unfold gatheredEngine openedEngine
  have hsame := ((links_between_ticks onTable .default .zero {} openingActions).2.2 _ _ hbetween hbetween'
    hinterleaved).2.state
  rw [hsame.samples, hsame.baseline]
  exact ⟨hbetween, hbetween', hinterleaved, hsamples, htx⟩

end Engine
end LinkMeter
