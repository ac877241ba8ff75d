import Mathlib.Algebra.BigOperators.Group.Finset.Basic
import LinkMeter.Proofs.Rate.FailedReads
import LinkMeter.Proofs.Text.Order

/-! # What a sample adds up

A sample reads each interface of the known links once, whatever the history of the links and however many of them share the
interface, and its total is the sum over the set of interfaces. To say what was read, a source is made to note its answers
down; that changes nothing else about it (`Notes`). A host is queried once in a sample, and all readings of the sample are of
its one answer. -/

namespace LinkMeter.Rate
variable {σ τ α β : Type}

/-! ## Sums over interfaces -/

/-- The traffic of all the given interfaces together. -/
def Traffic.sumOver (names : Finset Text) (traffic : Text → Traffic) : Traffic :=
  ⟨∑ name ∈ names, (traffic name).tx, ∑ name ∈ names, (traffic name).rx⟩

theorem Traffic.sumOver_cons {name : Text} {rest : List Text} (hnew : name ∉ rest) (traffic : Text → Traffic) :
    sumOver (name :: rest).toFinset traffic = traffic name + sumOver rest.toFinset traffic := by
  have hnot : name ∉ rest.toFinset := fun h => hnew (List.mem_toFinset.mp h)
  unfold sumOver
  rw [List.toFinset_cons, Finset.sum_insert hnot, Finset.sum_insert hnot]
  rfl

theorem Traffic.sumOver_congr {names : Finset Text} {traffic traffic' : Text → Traffic}
    (h : ∀ name ∈ names, traffic name = traffic' name) : sumOver names traffic = sumOver names traffic' := by
  unfold sumOver
  rw [Finset.sum_congr rfl fun name hname => congrArg tx (h name hname),
    Finset.sum_congr rfl fun name hname => congrArg rx (h name hname)]

/-! ## Sources that note their answers down -/

/-- An answer of a source. -/
inductive Reading where
  | refreshed
  | sent (name : Text) (bytes : Int)
  | received (name : Text) (bytes : Int)
  | offloaded (traffic : Traffic)

/-- Makes a step and notes its answer down. -/
def noting (entry : α → Reading) (m : Logged σ α) : Logged (List Reading × σ) α := do
  let a ← Step.zoom Prod.snd (fun w p => (p.1, w)) m
  Step.modify fun p => (p.1 ++ [entry a], p.2)
  pure a

/-- The source with its answers noted down, the latest one last. -/
def Source.noted (source : Source σ) : Source (List Reading × σ) where
  refresh := noting (fun _ => .refreshed) source.refresh
  tx name := noting (.sent name) (source.tx name)
  rx name := noting (.received name) (source.rx name)
  offload := noting .offloaded source.offload

/-- The first step does what the second one does, and it notes something down; what it notes if it does not fail is as `Q`
says. `P` holds before. -/
def Notes (P : σ → Prop) (m' : Logged (List Reading × σ) α) (m : Logged σ α) (Q : α → List Reading → σ → Prop) : Prop :=
  ∀ log w, P w → ∃ more, m' (log, w) = ⟨(m w).reports, (log ++ more, (m w).state), (m w).result⟩ ∧
    ∀ a, (m w).result = .ok a → Q a more (m w).state

section Notes
variable {P : σ → Prop} {m : Logged σ α} {m' : Logged (List Reading × σ) α} {Q : α → List Reading → σ → Prop}

theorem Notes.pure {a : α} (h : ∀ w, P w → Q a [] w) : Notes P (pure a) (pure a) Q := by
  intro log w hw
  refine ⟨[], ?_, fun b hb => ?_⟩
  · rw [List.append_nil]
    rfl
  · cases hb
    exact h w hw

theorem Notes.noting {entry : α → Reading} (h : ∀ w a, P w → (m w).result = .ok a → Q a [entry a] (m w).state) :
    Notes P (noting entry m) m Q := by
  intro log w hw
  unfold Rate.noting
  cases hm : (m w).result with
  | error e =>
    refine ⟨[], ?_, nofun⟩
    rw [Step.bind_of_error (by rw [Step.zoom_apply, hm]), Step.zoom_apply, List.append_nil]
  | ok a =>
    refine ⟨[entry a], ?_, fun b hb => ?_⟩
    · rw [Step.bind_of_ok (by rw [Step.zoom_apply, hm]), Step.zoom_apply, Step.modify_bind, Step.pure_apply]
      unfold Outcome.after
      rw [List.append_nil]
    · cases hb
      exact h w a hw hm

theorem Notes.bind {f : α → Logged σ β} {f' : α → Logged (List Reading × σ) β} {R : β → List Reading → σ → Prop}
    (hm : Notes P m' m Q) (hf : ∀ a first, Notes (Q a first) (f' a) (f a) fun b more => R b (first ++ more)) :
    Notes P (m' >>= f') (m >>= f) R := by
  intro log w hw
  obtain ⟨first, heq, hfirst⟩ := hm log w hw
  cases hresult : (m w).result with
  | error e =>
    rw [Step.bind_of_error hresult, Step.bind_of_error (by rw [heq, hresult]), heq]
    exact ⟨first, rfl, nofun⟩
  | ok a =>
    obtain ⟨more, hnext, hmore⟩ := hf a first (log ++ first) (m w).state (hfirst a hresult)
    rw [Step.bind_of_ok hresult, Step.bind_of_ok (by rw [heq, hresult]), heq]
    dsimp only
    rw [hnext, List.append_assoc]
    exact ⟨first ++ more, rfl, hmore⟩

/-- What is known before, other than of the state, is known afterwards. -/
theorem Notes.given {F : Prop} (h : F → Notes P m' m Q) : Notes (fun w => P w ∧ F) m' m Q :=
  fun log w hw => h hw.2 log w hw.1

end Notes

/-! ## The readings of a sample -/

/-- The readings of the given interfaces, one of each counter. -/
def asked (traffic : Text → Traffic) (names : List Text) : List Reading :=
  names.flatMap fun name => [.sent name (traffic name).tx, .received name (traffic name).rx]

theorem asked_congr {names : List Text} {traffic traffic' : Text → Traffic}
    (h : ∀ name ∈ names, traffic name = traffic' name) : asked traffic names = asked traffic' names :=
  List.flatMap_congr fun name hname => by rw [h name hname]

/-- As long as `P` holds, all that the source answers is as `R` says, and `P` goes on to hold. -/
structure Source.Tells (source : Source σ) (P : σ → Prop) (R : Reading → Prop) : Prop where
  tx : ∀ name w b, P w → (source.tx name w).result = .ok b → R (.sent name b) ∧ P (source.tx name w).state
  rx : ∀ name w b, P w → (source.rx name w).result = .ok b → R (.received name b) ∧ P (source.rx name w).state
  offload : ∀ w t, P w → (source.offload w).result = .ok t → R (.offloaded t)

namespace Sampler

section Readings
variable {source : Source σ} {P : σ → Prop} {R : Reading → Prop} {names : List Text}

theorem sum_notes (h : source.Tells P R) (hnames : names.Nodup) :
    Notes P (sum source.noted names) (sum source names) fun t more w => P w ∧ (∀ r ∈ more, R r) ∧
      ∃ traffic, more = asked traffic names ∧ t = Traffic.sumOver names.toFinset traffic := by
  induction names with
  | nil => exact Notes.pure fun w hw => ⟨hw, fun r hr => absurd hr List.not_mem_nil, fun _ => ⟨0, 0⟩, rfl, rfl⟩
  | cons name rest ih =>
    obtain ⟨hnew, hrest⟩ := List.nodup_cons.mp hnames
    unfold sum
    refine Notes.bind (Q := fun b more w => P w ∧ R (.sent name b) ∧ more = [.sent name b])
      (Notes.noting fun w b hw hb => ?_) fun tx first => ?_
    · obtain ⟨hR, hP⟩ := h.tx name w b hw hb
      exact ⟨hP, hR, rfl⟩
    refine Notes.bind (Q := fun b more w => P w ∧ R (.sent name tx) ∧ R (.received name b) ∧
      first ++ more = [.sent name tx, .received name b]) (Notes.noting fun w b hw hb => ?_) fun rx second => ?_
    · obtain ⟨hw, hsent, rfl⟩ := hw
      obtain ⟨hR, hP⟩ := h.rx name w b hw hb
      exact ⟨hP, hsent, hR, rfl⟩
    refine Notes.given fun hgiven => (ih hrest).bind fun others third => Notes.pure fun w hothers => ?_
    obtain ⟨hsent, hreceived, hfirst⟩ := hgiven
    obtain ⟨hw, hR, traffic, rfl, rfl⟩ := hothers
    -- The interfaces that follow are others, so what was read of this one can be put in without changing theirs.
    have hothers : ∀ other ∈ rest, traffic other = Function.update traffic name ⟨tx, rx⟩ other := fun other hmem =>
      (Function.update_of_ne (fun heq : other = name => hnew (heq ▸ hmem)) _ _).symm
    have hself : Function.update traffic name ⟨tx, rx⟩ name = ⟨tx, rx⟩ := Function.update_self _ _ _
    rw [List.append_nil, ← List.append_assoc, hfirst]
    refine ⟨hw, fun r hr => ?_, Function.update traffic name ⟨tx, rx⟩, ?_, ?_⟩
    · rcases List.mem_cons.mp hr with rfl | hr
      · exact hsent
      · rcases List.mem_cons.mp hr with rfl | hr
        · exact hreceived
        · exact hR r hr
    · rw [asked_congr hothers]
      show _ = [Reading.sent name (Function.update traffic name ⟨tx, rx⟩ name).tx, _] ++ _
      rw [hself]
      rfl
    · rw [Traffic.sumOver_cons hnew, hself,
        Traffic.sumOver_congr fun other hmem => hothers other (List.mem_toFinset.mp hmem)]
      rfl

/-- What a reading of all counters notes down. -/
structure Sums (R : Reading → Prop) (names : List Text) (total : Traffic) (readings : List Reading) : Prop where
  right : ∀ r ∈ readings, r = .refreshed ∨ R r
  once : ∃ traffic offload, readings = .refreshed :: (asked traffic names ++ [.offloaded offload]) ∧
    total = Traffic.sumOver names.toFinset traffic + offload

theorem totals_notes (h : source.Tells P R) (hnames : names.Nodup) :
    Notes (fun w => (source.refresh w).result = .ok () → P (source.refresh w).state) (totals source.noted names)
      (totals source names) fun t more _ => Sums R names t more := by
  unfold totals
  refine Notes.bind (Q := fun _ more w => P w ∧ more = [.refreshed]) (Notes.noting fun w _ hw hok => ⟨hw hok, rfl⟩)
    fun _ first => ?_
  refine Notes.given fun hfirst => (sum_notes h hnames).bind fun total second => ?_
  refine Notes.bind (Q := fun t more _ => R (.offloaded t) ∧ (∀ r ∈ second, R r) ∧ (∃ traffic, second = asked traffic names ∧
    total = Traffic.sumOver names.toFinset traffic) ∧ more = [.offloaded t]) (Notes.noting fun w t hw ht => ?_)
    fun offload third => ?_
  · obtain ⟨hw, hR, htraffic⟩ := hw
    exact ⟨h.offload w t hw ht, hR, htraffic, rfl⟩
  refine Notes.pure fun w hall => ?_
  obtain ⟨hoffload, hR, ⟨traffic, rfl, rfl⟩, rfl⟩ := hall
  rw [List.append_nil, hfirst]
  refine ⟨fun r hr => ?_, traffic, offload, rfl, rfl⟩
  rcases List.mem_append.mp hr with hr | hr
  · exact .inl (List.mem_singleton.mp hr)
  · rcases List.mem_append.mp hr with hr | hr
    · exact .inr (hR r hr)
    · rw [List.mem_singleton.mp hr]
      exact .inr hoffload

end Readings

/-! ## Ticks -/

section Ticks
variable {source : Source σ} {R : Reading → Prop} {s : Sampler} {now : Binary64} {w : σ}

theorem settle_noted (s : Sampler) (now : Binary64) (o : Outcome Log.Record σ Traffic) (readings : List Reading) :
    s.settle now ⟨o.reports, (readings, o.state), o.result⟩ =
      ⟨(s.settle now o).reports, ((s.settle now o).state.1, (readings, (s.settle now o).state.2)),
        (s.settle now o).result⟩ := by
  unfold settle
  cases o.result with
  | error e => rfl
  | ok traffic =>
    dsimp only
    cases effect s.registry.changed (now.sub s.baseline.time) (traffic - s.baseline.traffic) <;> rfl

/-- The readings of a tick: none if it comes too soon, and those of a sample otherwise. Noting them down changes nothing
else. -/
structure Reads (source : Source σ) (R : Reading → Prop) (now : Binary64) (s : Sampler) (w : σ)
    (readings : List Reading) : Prop where
  same : tick source.noted now (s, ([], w)) = ⟨(tick source now (s, w)).reports,
    ((tick source now (s, w)).state.1, (readings, (tick source now (s, w)).state.2)), (tick source now (s, w)).result⟩
  dropped : s.isEarly now = .ok true → readings = [] ∧ (tick source now (s, w)).state = (s, w)
  sampled : s.isEarly now = .ok false → ∀ rates, (tick source now (s, w)).result = .ok rates →
    Sums R s.registry.names (tick source now (s, w)).state.1.baseline.traffic readings

theorem exists_reads {P : σ → Prop} (h : source.Tells P R)
    (hw : (source.refresh w).result = .ok () → P (source.refresh w).state) (now : Binary64) (s : Sampler) :
    ∃ readings, Reads source R now s w readings := by
  rcases hearly : s.isEarly now with e | _ | _
  · refine ⟨[], ?_, fun h => (nomatch hearly.symm.trans h), fun h => (nomatch hearly.symm.trans h)⟩
    rw [tick_eq, tick_eq, hearly]
  · have hnodup : s.registry.names.Nodup := (Text.ascending_setOf _).nodup
    obtain ⟨readings, heq, hsums⟩ := totals_notes h hnodup [] w hw
    rw [List.nil_append] at heq
    refine ⟨readings, ?_, fun h => (nomatch hearly.symm.trans h), fun _ rates hrates => ?_⟩
    · rw [tick_of_late hearly, tick_of_late hearly, heq]
      exact settle_noted s now _ readings
    · rw [tick_of_late hearly] at hrates ⊢
      obtain ⟨traffic, e, htotals, -, hstate⟩ := settle_of_ok hrates
      rw [hstate]
      exact hsums traffic htotals
  · refine ⟨[], ?_, fun _ => ⟨rfl, ?_⟩, fun h => (nomatch hearly.symm.trans h)⟩
    · rw [tick_of_early hearly, tick_of_early hearly]
    · rw [tick_of_early hearly]

end Ticks
end Sampler

/-! ## Steady counters -/

/-- The answer is that of counters which stand at the given traffic. -/
def Reading.IsOf (traffic : Text → Traffic) (offload : Traffic) : Reading → Prop
  | refreshed => True
  | sent name bytes => bytes = (traffic name).tx
  | received name bytes => bytes = (traffic name).rx
  | offloaded t => t = offload

namespace Sampler
variable {traffic : Text → Traffic} {offload : Traffic}

theorem of_asked {R : Reading → Prop} {names : List Text} {traffic' : Text → Traffic} {later : List Reading}
    (h : ∀ r ∈ asked traffic' names ++ later, R r) :
    (∀ name ∈ names, R (.sent name (traffic' name).tx) ∧ R (.received name (traffic' name).rx)) ∧ ∀ r ∈ later, R r := by
  have hasked : ∀ name ∈ names, ∀ r ∈ [Reading.sent name (traffic' name).tx, .received name (traffic' name).rx], R r :=
    fun name hname r hr => h r (List.mem_append_left later (List.mem_flatMap.mpr ⟨name, hname, hr⟩))
  refine ⟨fun name hname => ⟨?_, ?_⟩, fun r hr => h r (List.mem_append_right _ hr)⟩
  · exact hasked name hname _ List.mem_cons_self
  · exact hasked name hname _ (List.mem_cons_of_mem _ List.mem_cons_self)

/-- From steady counters the same total is read in whatever order the interfaces are read. -/
theorem Sums.of_steady {names : List Text} {total : Traffic} {readings : List Reading}
    (h : Sums (Reading.IsOf traffic offload) names total readings) :
    readings = .refreshed :: (asked traffic names ++ [.offloaded offload]) ∧
      total = Traffic.sumOver names.toFinset traffic + offload := by
  obtain ⟨traffic', offload', rfl, rfl⟩ := h.once
  have hright : ∀ r ∈ asked traffic' names ++ [.offloaded offload'], Reading.IsOf traffic offload r := by
    intro r hr
    rcases h.right r (List.mem_cons_of_mem _ hr) with rfl | hr
    · trivial
    · exact hr
  obtain ⟨hnames, hlast⟩ := of_asked hright
  have hoffload : offload' = offload := hlast _ List.mem_cons_self
  have htraffic : ∀ name ∈ names, traffic' name = traffic name := fun name hname =>
    Traffic.ext (hnames name hname).1 (hnames name hname).2
  rw [asked_congr htraffic, Traffic.sumOver_congr fun name hname => htraffic name (List.mem_toFinset.mp hname), hoffload]
  exact ⟨rfl, rfl⟩

theorem totals_of_steady {source : Source σ} {P : σ → Prop} (h : source.Tells P (Reading.IsOf traffic offload))
    {names : List Text} (hnames : names.Nodup) {w : σ}
    (hw : (source.refresh w).result = .ok () → P (source.refresh w).state) {total : Traffic}
    (hok : (totals source names w).result = .ok total) : total = Traffic.sumOver names.toFinset traffic + offload := by
  obtain ⟨readings, -, hsums⟩ := totals_notes h hnames [] w hw
  exact (hsums total hok).of_steady.2

end Sampler

/-! ## A host that is queried -/

namespace Cached
variable {query : Logged σ Counts} {c : Cached σ} {counts : Counts} {names : List Text}

/-- What the end of a query counts as. A failure that is forgiven counts as an answer that lists no interfaces. -/
def answered : Except Fault Counts → Option Counts
  | .ok counts => some counts
  | .error e => if isForgiven e then some [] else none

/-- The query with a count of how often it was made. -/
def tallied (query : Logged σ Counts) : Logged (Nat × σ) Counts := do
  Step.modify fun p => (p.1 + 1, p.2)
  Step.zoom Prod.snd (fun host p => (p.1, host)) query

theorem attempt_query (query : Logged σ Counts) (c : Cached σ) :
    Step.attempt (Step.zoom Cached.host (fun h c => { c with host := h }) query) c =
      ⟨(query c.host).reports, { c with host := (query c.host).state }, .ok (query c.host).result⟩ := rfl

theorem refresh_of_answered (query : Logged σ Counts) (c : Cached σ) (h : answered (query c.host).result = some counts) :
    ∃ reports, refresh query c = ⟨reports, ⟨some counts, (query c.host).state⟩, .ok ()⟩ := by
  unfold refresh
  rw [Step.bind_of_eq_ok (attempt_query query c)]
  unfold answered at h
  cases hresult : (query c.host).result with
  | ok counts' =>
    rw [hresult] at h
    cases h
    exact ⟨_, rfl⟩
  | error e =>
    rw [hresult] at h
    dsimp only at h ⊢
    split at h
    · rename_i hforgiven
      cases h
      rw [if_pos hforgiven]
      exact ⟨_, rfl⟩
    · cases h

theorem refresh_of_unanswered (query : Logged σ Counts) (c : Cached σ) (h : answered (query c.host).result = none) :
    ∃ reports e, refresh query c = ⟨reports, ⟨c.snapshot, (query c.host).state⟩, .error e⟩ := by
  unfold refresh
  rw [Step.bind_of_eq_ok (attempt_query query c)]
  unfold answered at h
  cases hresult : (query c.host).result with
  | ok counts =>
    rw [hresult] at h
    cases h
  | error e =>
    rw [hresult] at h
    dsimp only at h ⊢
    split at h
    · cases h
    · rename_i hforgiven
      rw [if_neg hforgiven]
      exact ⟨_, e, rfl⟩

/-- All that is read is of the last answer, and reading does not query the host. -/
theorem tells_of_snapshot (query : Logged σ Counts) (host : σ) :
    (source query).Tells (· = ⟨some counts, host⟩) (Reading.IsOf (trafficOf counts) ⟨0, 0⟩) := by
  refine ⟨?_, ?_, ?_⟩
  · rintro name _ b rfl hb
    obtain ⟨reports, hread⟩ := read_of_snapshot (c := ⟨some counts, host⟩) query rfl name
    have hmap : (source query).tx name ⟨some counts, host⟩ = _ := Step.map_apply Traffic.tx (read query name) _
    rw [hread] at hmap
    rw [hmap] at hb ⊢
    exact ⟨(Except.ok.inj hb).symm, rfl⟩
  · rintro name _ b rfl hb
    obtain ⟨reports, hread⟩ := read_of_snapshot (c := ⟨some counts, host⟩) query rfl name
    have hmap : (source query).rx name ⟨some counts, host⟩ = _ := Step.map_apply Traffic.rx (read query name) _
    rw [hread] at hmap
    rw [hmap] at hb ⊢
    exact ⟨(Except.ok.inj hb).symm, rfl⟩
  · rintro w t - ht
    exact (Except.ok.inj ht).symm

theorem totalOf_eq_sumOver (counts : Counts) (h : names.Nodup) :
    totalOf counts names = Traffic.sumOver names.toFinset (trafficOf counts) := by
  induction names with
  | nil => rfl
  | cons name rest ih =>
    obtain ⟨hnew, hrest⟩ := List.nodup_cons.mp h
    rw [Traffic.sumOver_cons hnew, ← ih hrest]
    rfl

theorem totals_of_answered (query : Logged σ Counts) (c : Cached σ) (h : answered (query c.host).result = some counts)
    (hnames : names.Nodup) :
    ∃ reports, Sampler.totals (source query) names c = ⟨reports, ⟨some counts, (query c.host).state⟩,
      .ok (Traffic.sumOver names.toFinset (trafficOf counts))⟩ := by
  obtain ⟨reports, hrefresh⟩ := refresh_of_answered query c h
  obtain ⟨later, hsum⟩ := sum_of_snapshot (c := ⟨some counts, (query c.host).state⟩) query rfl names
  have hsource : (source query).refresh c = ⟨reports, ⟨some counts, (query c.host).state⟩, .ok ()⟩ := hrefresh
  have hoffload : (source query).offload ⟨some counts, (query c.host).state⟩ =
      ⟨[], ⟨some counts, (query c.host).state⟩, .ok ⟨0, 0⟩⟩ := rfl
  unfold Sampler.totals
  rw [Step.bind_of_eq_ok hsource, Step.bind_of_eq_ok hsum, Step.bind_of_eq_ok hoffload, Step.pure_apply, Int.add_zero,
    Int.add_zero, ← totalOf_eq_sumOver counts hnames]
  exact ⟨_, rfl⟩

theorem totals_of_unanswered (query : Logged σ Counts) (c : Cached σ) (h : answered (query c.host).result = none)
    (names : List Text) :
    ∃ reports e, Sampler.totals (source query) names c = ⟨reports, ⟨c.snapshot, (query c.host).state⟩, .error e⟩ := by
  obtain ⟨reports, e, hrefresh⟩ := refresh_of_unanswered query c h
  have hsource : (source query).refresh c = ⟨reports, ⟨c.snapshot, (query c.host).state⟩, .error e⟩ := hrefresh
  unfold Sampler.totals
  rw [Step.bind_of_eq_error hsource]
  exact ⟨reports, e, rfl⟩

/-- How a tick queries the host, from `n` queries on: not at all if it comes too soon, and once for a sample, whatever the
end of the query is. All readings of a sample are of that one answer. -/
structure Queries (query : Logged σ Counts) (now : Binary64) (s : Sampler) (snapshot : Option Counts) (n : Nat)
    (host : σ) : Prop where
  dropped : s.isEarly now = .ok true →
    (Sampler.tick (source (tallied query)) now (s, ⟨snapshot, (n, host)⟩)).state = (s, ⟨snapshot, (n, host)⟩)
  once : s.isEarly now = .ok false →
    (Sampler.tick (source (tallied query)) now (s, ⟨snapshot, (n, host)⟩)).state.2.host = (n + 1, (query host).state)
  failed : ∀ e, (query host).result = .error e → isForgiven e = true →
    (Sampler.totals (source (tallied query)) s.registry.names ⟨snapshot, (n, host)⟩).result = .ok ⟨0, 0⟩
  sampled : s.isEarly now = .ok false → ∀ rates,
    (Sampler.tick (source (tallied query)) now (s, ⟨snapshot, (n, host)⟩)).result = .ok rates →
    ∃ counts, answered (query host).result = some counts ∧
      (Sampler.tick (source (tallied query)) now (s, ⟨snapshot, (n, host)⟩)).state.1.baseline.traffic =
        Traffic.sumOver s.registry.names.toFinset (trafficOf counts) ∧
      (Sampler.tick (source (tallied query)).noted now (s, ([], ⟨snapshot, (n, host)⟩))).state.2 =
        (.refreshed :: (asked (trafficOf counts) s.registry.names ++ [.offloaded ⟨0, 0⟩]),
          ⟨some counts, (n + 1, (query host).state)⟩)

theorem queries (query : Logged σ Counts) (now : Binary64) (s : Sampler) (snapshot : Option Counts) (n : Nat) (host : σ) :
    Queries query now s snapshot n host := by
  have hnames : s.registry.names.Nodup := (Text.ascending_setOf _).nodup
  have hstate : ∀ counts, answered (query host).result = some counts →
      ∃ reports, Sampler.totals (source (tallied query)) s.registry.names ⟨snapshot, (n, host)⟩ =
        ⟨reports, ⟨some counts, (n + 1, (query host).state)⟩,
          .ok (Traffic.sumOver s.registry.names.toFinset (trafficOf counts))⟩ := fun counts h =>
    totals_of_answered (tallied query) ⟨snapshot, (n, host)⟩ h hnames
  refine ⟨fun hearly => ?_, fun hlate => ?_, fun e he hforgiven => ?_, fun hlate rates hrates => ?_⟩
  · rw [Sampler.tick_of_early hearly]
  · rw [Sampler.tick_of_late hlate, Sampler.settle_around]
    cases hanswer : answered (query host).result with
    | none =>
      obtain ⟨reports, e, htotals⟩ :=
        totals_of_unanswered (tallied query) ⟨snapshot, (n, host)⟩ hanswer s.registry.names
      rw [htotals]
      rfl
    | some counts =>
      obtain ⟨reports, htotals⟩ := hstate counts hanswer
      rw [htotals]
  · obtain ⟨reports, htotals⟩ := hstate [] (by rw [he]; exact if_pos hforgiven)
    rw [htotals, ← totalOf_eq_sumOver [] hnames, totalOf_nil]
  · cases hanswer : answered (query host).result with
    | none =>
      obtain ⟨reports, e, htotals⟩ :=
        totals_of_unanswered (tallied query) ⟨snapshot, (n, host)⟩ hanswer s.registry.names
      rw [Sampler.tick_of_late hlate, htotals] at hrates
      cases hrates
    | some counts =>
      obtain ⟨reports, htotals⟩ := hstate counts hanswer
      obtain ⟨refreshes, hrefresh⟩ := refresh_of_answered (tallied query) ⟨snapshot, (n, host)⟩ hanswer
      -- The answer is there from the refresh on, and nothing that the sample reads changes it.
      have hafter : ((source (tallied query)).refresh ⟨snapshot, (n, host)⟩).state =
        ⟨some counts, (n + 1, (query host).state)⟩ := congrArg Outcome.state hrefresh
      obtain ⟨readings, hreads⟩ := Sampler.exists_reads (tells_of_snapshot (tallied query) _) (fun _ => hafter) now s
      obtain ⟨hreadings, htotal⟩ := (hreads.sampled hlate rates hrates).of_steady
      have haround : (Sampler.tick (source (tallied query)) now (s, ⟨snapshot, (n, host)⟩)).state.2 =
          ⟨some counts, (n + 1, (query host).state)⟩ := by
        rw [Sampler.tick_of_late hlate, Sampler.settle_around, htotals]
      refine ⟨counts, rfl, ?_, ?_⟩
      · rw [htotal]
        exact Traffic.ext (Int.add_zero _) (Int.add_zero _)
      · rw [hreads.same, haround, hreadings]

end Cached

/-! ## Histories of the links -/

/-- What the event says about the link of a handle, if it is about that link: its interface, or that it is gone. -/
def Event.said (h : Link.Handle) : Event σ → Option (Option (Option Text))
  | .added other name => if other = h then some (some name) else none
  | .removed other => if other = h then some none else none
  | _ => none

/-- What was said last about the link of a handle, if it was not that the link is gone. -/
def written (events : List (Event σ)) (h : Link.Handle) : Option (Option Text) :=
  ((events.filterMap (Event.said h)).getLast?).join

namespace Sampler
variable {source : Source σ} {p : Sampler × σ}

theorem get?_meet (e : Event σ) (p : Sampler × σ) (h : Link.Handle) :
    (meet source e p).state.1.registry.get? h = (e.said h).getD (p.1.registry.get? h) := by
  obtain ⟨s, w⟩ := p
  cases e with
  | added other name =>
    rw [meet_added]
    refine (Link.Registry.get?_insert _ _ _ _).trans ?_
    show _ = (if other = h then some (some name) else none).getD (s.registry.get? h)
    by_cases heq : other = h
    · rw [if_pos heq, if_pos heq.symm]
      rfl
    · rw [if_neg heq, if_neg (Ne.symm heq)]
      rfl
  | removed other =>
    rw [meet_removed]
    refine (Link.Registry.get?_erase _ _ _).trans ?_
    show _ = (if other = h then some none else none).getD (s.registry.get? h)
    by_cases heq : other = h
    · rw [if_pos heq, if_pos heq.symm]
      rfl
    · rw [if_neg heq, if_neg (Ne.symm heq)]
      rfl
  | interval ms =>
    rw [meet_interval]
    rfl
  | counted f =>
    rw [meet_counted]
    rfl
  | tick now =>
    rw [meet_tick, Outcome.map_state]
    exact congrArg (List.lookup h) (tick_keeps source now s w).2

theorem nodup_meet (e : Event σ) (p : Sampler × σ) (hd : (p.1.registry.links.map Prod.fst).Nodup) :
    ((meet source e p).state.1.registry.links.map Prod.fst).Nodup := by
  obtain ⟨s, w⟩ := p
  cases e with
  | added other name =>
    rw [meet_added]
    exact Link.Registry.nodup_put hd
  | removed other =>
    rw [meet_removed]
    exact Link.Registry.nodup_erase hd other
  | interval ms =>
    rw [meet_interval]
    exact hd
  | counted f =>
    rw [meet_counted]
    exact hd
  | tick now =>
    rw [meet_tick, Outcome.map_state, (tick_keeps source now s w).2]
    exact hd

theorem get?_run (events : List (Event σ)) (p : Sampler × σ) (h : Link.Handle) :
    (Step.run (meet source) events p).state.1.registry.get? h =
      ((events.filterMap (Event.said h)).getLast?).getD (p.1.registry.get? h) := by
  induction events generalizing p with
  | nil => rfl
  | cons e rest ih =>
    rw [Step.run_cons, Outcome.after_state, ih, get?_meet, List.filterMap_cons]
    cases e.said h with
    | none => rfl
    | some said =>
      rw [List.getLast?_cons]
      rfl

/-- After a history the links are those that were written last and not removed, each under its own handle. -/
theorem links_of_run (source : Source σ) (interval : Int) (w : σ) (events : List (Event σ)) :
    (∀ h, (Step.run (meet source) events (fresh interval, w)).state.1.registry.get? h = written events h) ∧
      ∀ name, name ∈ (Step.run (meet source) events (fresh interval, w)).state.1.registry.names ↔
        ∃ h, written events h = some (some name) := by
  have hget : ∀ h, (Step.run (meet source) events (fresh interval, w)).state.1.registry.get? h = written events h := by
    intro h
    rw [get?_run]
    unfold written
    cases (events.filterMap (Event.said h)).getLast? <;> rfl
  have hnodup := (Step.run_keeps (f := meet source) (P := fun p => (p.1.registry.links.map Prod.fst).Nodup)
    (R := fun _ => True) (l := events) (fun e _ p hp => ⟨nodup_meet e p hp, fun _ _ => trivial⟩)
    (s := (fresh interval, w)) List.nodup_nil).1
  refine ⟨hget, fun name => (Link.Registry.mem_names hnodup).trans ?_⟩
  simp only [hget]

/-- The totals of the samples of a sampler, whatever the history of its links. Its links are those that were written last,
and each of their interfaces is read once, whatever the source; the total is the sum over the set of interfaces. It is the
same after any history that ends in the same set and, if the counters stand still meanwhile, in whatever order the interfaces
are read. A host is queried once for it, and is so if it does not answer; a tick that is dropped queries nothing. -/
theorem totals_of_run (source : Source σ) (query : Logged τ Counts) (interval : Int) (w : σ) (events : List (Event σ)) :
    let s := (Step.run (meet source) events (fresh interval, w)).state.1
    let names := s.registry.names
    (∀ h, s.registry.get? h = written events h) ∧ names.Nodup ∧
      (∀ name, name ∈ names ↔ ∃ h, written events h = some (some name)) ∧
      (∀ now x, ∃ readings, Reads source (fun _ => True) now s x readings) ∧
      (∀ (events' : List (Event σ)) (interval' : Int) (w' : σ),
        (∀ name, (∃ h, written events' h = some (some name)) ↔ ∃ h, written events h = some (some name)) →
        (Step.run (meet source) events' (fresh interval', w')).state.1.registry.names = names) ∧
      (∀ (order : List Text) P traffic offload, order.Perm names → source.Tells P (Reading.IsOf traffic offload) →
        ∀ x, P (source.refresh x).state → ∀ total, (totals source order x).result = .ok total →
          total = Traffic.sumOver names.toFinset traffic + offload) ∧
      ∀ now snapshot n host, Cached.Queries query now s snapshot n host := by
  intro s names
  obtain ⟨hget, hnames⟩ := links_of_run source interval w events
  have hnodup : names.Nodup := (Text.ascending_setOf _).nodup
  refine ⟨hget, hnodup, hnames, fun now x => ?_, fun events' interval' w' hsame => ?_,
    fun order P traffic offload hperm htells x hx total hok => ?_, fun now => Cached.queries query now s⟩
  · have hany : source.Tells (fun _ => True) fun _ => True :=
      ⟨fun _ _ _ _ _ => ⟨trivial, trivial⟩, fun _ _ _ _ _ => ⟨trivial, trivial⟩, fun _ _ _ _ => trivial⟩
    exact exists_reads hany (fun _ => trivial) now s
  · refine (Text.ascending_setOf _).ext (Text.ascending_setOf _) fun name => ?_
    exact ((links_of_run source interval' w' events').2 name).trans ((hsame name).trans (hnames name).symm)
  · rw [← List.toFinset_eq_of_perm _ _ hperm]
    exact totals_of_steady htells (hperm.nodup_iff.mpr hnodup) (fun _ => hx) hok

/-- A table tells its numbers. -/
theorem tells_table (counts : Counts) (offload : Traffic) :
    Table.source.Tells (fun t => t.counts = counts ∧ t.offload = offload) (Reading.IsOf (trafficOf counts) offload) := by
  refine ⟨?_, ?_, ?_⟩
  · rintro name t b ⟨rfl, rfl⟩ hb
    exact ⟨(Except.ok.inj hb).symm, rfl, rfl⟩
  · rintro name t b ⟨rfl, rfl⟩ hb
    exact ⟨(Except.ok.inj hb).symm, rfl, rfl⟩
  · rintro t total ⟨rfl, rfl⟩ htotal
    exact (Except.ok.inj htotal).symm

/-- Two links share an interface, one has none, and one is removed. -/
def sharedEvents : List (Event Table) :=
  [.added (.named "a") (some "wlan0"), .added (.named "b") (some "eth0"), .added (.numbered 3) none,
    .added (.named "c") (some "tun0"), .added (.named "a") (some "eth0"), .removed (.named "c")]

def sharedTable : Table := { counts := [("tun0", ⟨7, 7⟩), ("eth0", ⟨1000, 500⟩)], offload := ⟨1, 2⟩ }

/-- The interface counts once. -/
theorem totals_sharedEvents :
    (Step.run (meet Table.source) sharedEvents (fresh 1000, {})).state.1.registry.names = ["eth0"] ∧
      (totals Table.source ["eth0"] sharedTable).result = .ok ⟨1001, 502⟩ ∧
      ⟨1001, 502⟩ =
        Traffic.sumOver (["eth0"] : List Text).toFinset (trafficOf sharedTable.counts) + sharedTable.offload := by
  have hnames : (Step.run (meet Table.source) sharedEvents (fresh 1000, {})).state.1.registry.names = ["eth0"] := by
    decide +kernel
  have htotal : (totals Table.source ["eth0"] sharedTable).result = .ok ⟨1001, 502⟩ := by decide +kernel
  obtain ⟨-, -, -, -, -, horder, -⟩ :=
    totals_of_run Table.source (pure [] : Logged Unit Counts) 1000 {} sharedEvents
  rw [hnames] at horder
  exact ⟨hnames, htotal, horder ["eth0"] _ _ _ (.refl _) (tells_table sharedTable.counts sharedTable.offload) sharedTable
    ⟨rfl, rfl⟩ _ htotal⟩

end Sampler
end LinkMeter.Rate
