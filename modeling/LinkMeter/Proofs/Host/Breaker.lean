import LinkMeter.Proofs.Host.Changes

/-! # When the watcher gives up

The watcher counts the failing polls in a row, on top of those that it starts with. It polls until it is stopped, or up to
the first poll at which there are more of them than it puts up with; that one it tells, and after it the watcher polls no
more. What the loop does is what a run of the polls does, cut off after that poll (`loop_apply`). -/

namespace LinkMeter.Host

/-- Whether the host does not answer. -/
def fails (host : Interfaces) : Bool := host.answers.toOption.isNone

/-- If the host does not answer, the fault is one that a poll expects. -/
def FailsSafely (host : Interfaces) : Prop := ∀ e, host.answers = .error e → isExpected e = true

/-- The event that tells that the watcher gave up. -/
def Event.isFailure : Event → Bool
  | failed _ => true
  | updated _ | lost _ => false

/-- The events that tell that the watcher gave up. -/
def alarms (sightings : List Sighting) : List Event := (eventsOf sightings).filter Event.isFailure

theorem alarms_append (l l' : List Sighting) : alarms (l ++ l') = alarms l ++ alarms l' := by
  unfold alarms
  rw [eventsOf_append, List.filter_append]

namespace Watcher

/-! ## Failing polls in a row -/

/-- The number of failing polls in a row after the last one, where `before` counts as long as no poll has succeeded. -/
def failures (before : Int) (polled : List Interfaces) : Int :=
  (polled.reverse.takeWhile fails).length + if polled.all fails then before else 0

/-- The links of the last poll that succeeded; those that were known if none did. -/
def lastKnown (known : Links) (polled : List Interfaces) : Links :=
  ((polled.filterMap fun host => host.answers.toOption).getLast?.map Answer.links).getD known

/-- At no poll are there more failing ones in a row than the watcher puts up with. -/
def Endured (before : Int) (polled : List Interfaces) : Prop :=
  ∀ n < polled.length, failures before (polled.take (n + 1)) ≤ mostErrors

/-- The poll of the host with the index `n` is the first one at which there are too many failing ones in a row. -/
def Trips (before : Int) (hosts : List Interfaces) (n : Nat) : Prop :=
  n < hosts.length ∧ Endured before (hosts.take n) ∧ mostErrors < failures before (hosts.take (n + 1))

instance (before : Int) (polled : List Interfaces) : Decidable (Endured before polled) :=
  inferInstanceAs (Decidable (∀ n < _, _))

instance (before : Int) (hosts : List Interfaces) (n : Nat) : Decidable (Trips before hosts n) :=
  inferInstanceAs (Decidable (_ ∧ _ ∧ _))

section Counting
variable {before : Int} {known : Links} {host : Interfaces} {e : Fault} {polled hosts rest : List Interfaces} {n : Nat}

theorem failures_eq_foldl (before : Int) (polled : List Interfaces) :
    failures before polled = polled.foldl (fun n host => if fails host then n + 1 else 0) before := by
  -- From the last poll backwards: a failing one counts on, one that succeeds ends the count.
  have hreversed : ∀ l : List Interfaces, ((l.takeWhile fails).length : Int) + (if l.all fails then before else 0) =
      l.foldr (fun host n => if fails host then n + 1 else 0) before := by
    intro l
    induction l with
    | nil => simp
    | cons host rest ih =>
      rw [List.foldr_cons, ← ih, List.takeWhile_cons, List.all_cons]
      cases fails host with
      | false => simp
      | true =>
        simp only [↓reduceIte, List.length_cons, Bool.true_and]
        omega
  unfold failures
  rw [← List.all_reverse, hreversed, List.foldr_reverse]

@[simp] theorem failures_nil : failures before [] = before := by rw [failures_eq_foldl, List.foldl_nil]

theorem failures_of_error (h : host.answers = .error e) : failures before [host] = before + 1 := by
  rw [failures_eq_foldl, List.foldl_cons, List.foldl_nil]
  unfold fails
  rw [h]
  rfl

theorem failures_of_ok {a : Answer} (h : host.answers = .ok a) : failures before [host] = 0 := by
  rw [failures_eq_foldl, List.foldl_cons, List.foldl_nil]
  unfold fails
  rw [h]
  rfl

/-- Too many are only reached by a poll that fails. -/
theorem fails_of_many (h : mostErrors < failures before [host]) : ∃ e, host.answers = .error e := by
  cases hanswers : host.answers with
  | error e => exact ⟨e, rfl⟩
  | ok a =>
    rw [failures_of_ok hanswers] at h
    exact absurd h (Int.not_lt.mpr (Int.natCast_nonneg mostErrors))

theorem failures_cons : failures before (host :: polled) = failures (failures before [host]) polled := by
  rw [failures_eq_foldl, failures_eq_foldl before [host], failures_eq_foldl _ polled]
  rfl

theorem failures_append : failures before (polled ++ rest) = failures (failures before polled) rest := by
  rw [failures_eq_foldl, failures_eq_foldl before polled, failures_eq_foldl _ rest, List.foldl_append]

theorem failures_nonneg (h : 0 ≤ before) : 0 ≤ failures before polled := by
  unfold failures
  split <;> omega

theorem lastKnown_of_error (h : host.answers = .error e) : lastKnown known [host] = known := by
  unfold lastKnown
  rw [List.filterMap_cons, List.filterMap_nil, h]
  rfl

theorem lastKnown_of_ok {a : Answer} (h : host.answers = .ok a) : lastKnown known [host] = a.links := by
  unfold lastKnown
  rw [List.filterMap_cons, List.filterMap_nil, h]
  rfl

theorem lastKnown_cons : lastKnown known (host :: polled) = lastKnown (lastKnown known [host]) polled := by
  unfold lastKnown
  rw [List.filterMap_cons, List.filterMap_cons]
  cases host.answers.toOption with
  | none => rfl
  | some a =>
    dsimp only
    rw [List.getLast?_cons]
    cases (polled.filterMap fun host => host.answers.toOption).getLast? <;> rfl

theorem endured_cons :
    Endured before (host :: polled) ↔ failures before [host] ≤ mostErrors ∧ Endured (failures before [host]) polled := by
  unfold Endured
  constructor
  · intro h
    refine ⟨h 0 (Nat.zero_lt_succ _), fun n hn => ?_⟩
    rw [← failures_cons]
    exact h (n + 1) (Nat.succ_lt_succ hn)
  · rintro ⟨hhost, h⟩ n hn
    cases n with
    | zero => exact hhost
    | succ n =>
      rw [List.take_succ_cons, failures_cons]
      exact h n (Nat.lt_of_succ_lt_succ hn)

/-- If no poll trips, all are endured: the first that is not would trip. -/
theorem endured_of_not_trips (h : ∀ n, ¬Trips before hosts n) : Endured before hosts := by
  intro n hn
  induction n using Nat.strongRecOn with
  | ind n ih =>
    refine Int.not_lt.mp fun hmany => h n ⟨hn, fun m hm => ?_, hmany⟩
    rw [List.length_take] at hm
    have hmn : m < n := Nat.lt_of_lt_of_le hm (Nat.min_le_left _ _)
    rw [List.take_take, Nat.min_eq_left hmn]
    exact ih m hmn (Nat.lt_trans hmn hn)

/-- The number of hosts that the watcher polls. -/
def polls (before : Int) : List Interfaces → Nat
  | [] => 0
  | host :: rest => if mostErrors < failures before [host] then 1 else polls (failures before [host]) rest + 1

theorem polls_of_endured (h : Endured before hosts) : polls before hosts = hosts.length := by
  induction hosts generalizing before with
  | nil => rfl
  | cons host rest ih =>
    obtain ⟨hhost, hrest⟩ := endured_cons.mp h
    unfold polls
    rw [if_neg (Int.not_lt.mpr hhost), ih hrest, List.length_cons]

theorem polls_of_trips (h : Trips before hosts n) : polls before hosts = n + 1 := by
  induction hosts generalizing before n with
  | nil => exact absurd h.1 (Nat.not_lt_zero n)
  | cons host rest ih =>
    obtain ⟨hn, hendured, hmany⟩ := h
    unfold polls
    cases n with
    | zero => exact if_pos hmany
    | succ n =>
      rw [List.take_succ_cons, endured_cons] at hendured
      rw [List.take_succ_cons, failures_cons] at hmany
      rw [if_neg (Int.not_lt.mpr hendured.1), ih ⟨Nat.lt_of_succ_lt_succ hn, hendured.2, hmany⟩]

theorem polls_le (before : Int) (hosts : List Interfaces) : polls before hosts ≤ hosts.length := by
  induction hosts generalizing before with
  | nil => exact Nat.le_refl 0
  | cons host rest ih =>
    unfold polls
    split
    · exact Nat.succ_le_succ (Nat.zero_le _)
    · exact Nat.succ_le_succ (ih _)

end Counting

/-! ## One poll -/

section Poll
variable {host : Interfaces} {w : Watcher} {e : Fault}

theorem alarms_sightings (known current : Links) : alarms (sightings known current) = [] := by
  unfold alarms
  rw [eventsOf_sightings, List.filter_eq_nil_iff]
  intro event hevent
  rcases List.mem_append.mp hevent with hevent | hevent
  · obtain ⟨name, -, rfl⟩ := List.mem_map.mp hevent
    exact nofun
  · obtain ⟨link, -, rfl⟩ := List.mem_map.mp hevent
    exact nofun

/-- A poll counts on, or starts to count anew; with one failing poll too many the watcher stops. -/
theorem tryPoll_apply (hsafe : FailsSafely host) (hw : 0 ≤ w.errors) : (tryPoll host w).result = .ok () ∧
    (tryPoll host w).state = ⟨w.interval, w.running && decide (failures w.errors [host] ≤ mostErrors),
      failures w.errors [host], lastKnown w.known [host]⟩ := by
  cases hanswers : host.answers with
  | error e =>
    rw [tryPoll_of_error hanswers (hsafe e hanswers), failures_of_error hanswers, lastKnown_of_error hanswers]
    obtain ⟨hresult, hstate, -⟩ := countError_apply e w
    exact ⟨hresult, hstate⟩
  | ok a =>
    have hreset : (if 0 < w.errors then 0 else w.errors) = 0 := by
      split
      · rfl
      · omega
    rw [tryPoll_of_ok hanswers, hreset, failures_of_ok hanswers, lastKnown_of_ok hanswers,
      decide_eq_true (Int.natCast_nonneg mostErrors), Bool.and_true]
    exact ⟨rfl, rfl⟩

/-- A poll tells that the watcher gives up if it is one failing poll too many, and else it does not. -/
theorem alarms_of_many (hsafe : FailsSafely host) (h : host.answers = .error e)
    (hmany : mostErrors < failures w.errors [host]) : alarms (tryPoll host w).reports = [failure e] := by
  rw [failures_of_error h] at hmany
  unfold alarms
  rw [tryPoll_of_error h (hsafe e h), (countError_apply e w).2.2, if_pos hmany]
  rfl

theorem alarms_of_few (hsafe : FailsSafely host) (hfew : failures w.errors [host] ≤ mostErrors) :
    alarms (tryPoll host w).reports = [] := by
  cases hanswers : host.answers with
  | error e =>
    rw [failures_of_error hanswers] at hfew
    unfold alarms
    rw [tryPoll_of_error hanswers (hsafe e hanswers), (countError_apply e w).2.2, if_neg (Int.not_lt.mpr hfew)]
    rfl
  | ok a =>
    rw [tryPoll_of_ok hanswers]
    exact alarms_sightings w.known (Answer.links a)

end Poll

/-! ## Polls one after the other -/

/-- The watcher when it does not run any more. -/
def halted (w : Watcher) : Watcher := { w with running := false }

theorem halted_of_not_running {w : Watcher} (h : w.running = false) : halted w = w := by
  unfold halted
  rw [← h]

section Runs
variable {w : Watcher} {polled hosts : List Interfaces} {n : Nat}

theorem counted_of_run (hsafe : ∀ host ∈ polled, FailsSafely host) (hw : 0 ≤ w.errors) :
    (Step.run tryPoll polled w).state.errors = failures w.errors polled ∧
      (Step.run tryPoll polled w).state.known = lastKnown w.known polled := by
  induction polled generalizing w with
  | nil => exact ⟨failures_nil.symm, rfl⟩
  | cons host rest ih =>
    obtain ⟨-, hstate⟩ := tryPoll_apply (hsafe host List.mem_cons_self) hw
    have hcount : 0 ≤ (tryPoll host w).state.errors := by
      rw [hstate]
      exact failures_nonneg hw
    obtain ⟨herrors, hknown⟩ := ih (fun other hmem => hsafe other (List.mem_cons_of_mem host hmem)) hcount
    rw [Step.run_cons, Outcome.after_state, herrors, hknown, hstate, ← failures_cons, ← lastKnown_cons]
    exact ⟨rfl, rfl⟩

theorem alarms_of_endured (hsafe : ∀ host ∈ polled, FailsSafely host) (hw : 0 ≤ w.errors)
    (h : Endured w.errors polled) : alarms (Step.run tryPoll polled w).reports = [] := by
  induction polled generalizing w with
  | nil => rfl
  | cons host rest ih =>
    obtain ⟨hhost, hrest⟩ := endured_cons.mp h
    have hsafeHost : FailsSafely host := hsafe host List.mem_cons_self
    rw [Step.run_cons, Outcome.after_reports, alarms_append, alarms_of_few hsafeHost hhost, List.nil_append,
      (tryPoll_apply hsafeHost hw).2]
    exact ih (fun other hmem => hsafe other (List.mem_cons_of_mem host hmem)) (failures_nonneg hw) hrest

/-- The poll that trips is a failing one and tells so, and it is the only one that does. -/
theorem alarms_of_trips (hsafe : ∀ host ∈ hosts, FailsSafely host) (hw : 0 ≤ w.errors) (h : Trips w.errors hosts n) :
    ∃ host e, hosts[n]? = some host ∧ host.answers = .error e ∧
      alarms (Step.run tryPoll (hosts.take (n + 1)) w).reports = [failure e] := by
  obtain ⟨hn, hendured, hmany⟩ := h
  have hbefore : ∀ host ∈ hosts.take n, FailsSafely host := fun host hmem => hsafe host (List.mem_of_mem_take hmem)
  obtain ⟨herrors, -⟩ := counted_of_run hbefore hw
  rw [List.take_succ_eq_append_getElem hn, failures_append, ← herrors] at hmany
  obtain ⟨e, he⟩ := fails_of_many hmany
  refine ⟨hosts[n], e, List.getElem?_eq_getElem hn, he, ?_⟩
  rw [List.take_succ_eq_append_getElem hn, Step.run_append, Outcome.after_reports, alarms_append,
    alarms_of_endured hbefore hw hendured, List.nil_append, Step.run_cons, Outcome.after_reports, alarms_append,
    alarms_of_many (hsafe hosts[n] (List.getElem_mem hn)) he hmany]
  rfl

/-- The loop makes the polls up to the one that trips, or all of them, and then the watcher does not run any more. -/
theorem loop_apply (hsafe : ∀ host ∈ hosts, FailsSafely host) (hrunning : w.running = true) (hw : 0 ≤ w.errors)
    (hne : hosts ≠ []) : ∃ slept, loop hosts w =
      ⟨(Step.run tryPoll (hosts.take (polls w.errors hosts)) w).reports,
        halted (Step.run tryPoll (hosts.take (polls w.errors hosts)) w).state,
        .ok (slept, hosts.length - polls w.errors hosts)⟩ := by
  induction hosts generalizing w with
  | nil => exact absurd rfl hne
  | cons host rest ih =>
    obtain ⟨hresult, hstate⟩ := tryPoll_apply (hsafe host List.mem_cons_self) hw
    unfold loop polls
    rw [Step.get_bind, hrunning]
    show ∃ slept, (tryPoll host >>= fun _ => _) w = _
    rw [Step.bind_of_ok hresult, Step.get_bind]
    -- The first poll trips, or the loop goes on from what it leaves behind as it does from a watcher that starts there.
    by_cases hmany : mostErrors < failures w.errors [host]
    · have hstopped : (tryPoll host w).state.running = false := by
        rw [hstate, hrunning]
        exact decide_eq_false (Int.not_le.mpr hmany)
      refine ⟨[], ?_⟩
      rw [if_pos hmany, List.take_succ_cons, List.take_zero, Step.run_cons, Step.run_nil, Outcome.after_reports,
        Outcome.after_state, halted_of_not_running hstopped, if_pos (by rw [hstopped]; rfl)]
      rfl
    · have hgoing : (tryPoll host w).state.running = true := by
        rw [hstate, hrunning]
        exact decide_eq_true (Int.not_lt.mp hmany)
      rw [if_neg hmany, List.take_succ_cons, Step.run_cons, Outcome.after_reports, Outcome.after_state, hgoing]
      cases rest with
      | nil => exact ⟨_, rfl⟩
      | cons next rest =>
        have hcount : 0 ≤ (tryPoll host w).state.errors := by
          rw [hstate]
          exact failures_nonneg hw
        have herrors : (tryPoll host w).state.errors = failures w.errors [host] := by rw [hstate]
        obtain ⟨slept, hloop⟩ := ih (fun other hmem => hsafe other (List.mem_cons_of_mem host hmem)) hgoing hcount nofun
        rw [herrors] at hloop
        refine ⟨sleeps (tryPoll host w).state.interval ++ slept, ?_⟩
        show ((loop (next :: rest) >>= fun _ => _) (tryPoll host w).state).after _ = _
        rw [Step.bind_of_eq_ok hloop, Outcome.after_after]
        dsimp only
        rw [Step.pure_apply, List.length_cons (a := host), Nat.add_sub_add_right]
        unfold Outcome.after
        rw [List.append_nil]

end Runs

/-- The record of the beginning of a loop. -/
def startNote : Sighting := .record ⟨.debug, .watcher, .cat ["InterfaceWatcher starting loop..."], none⟩

theorem run_apply (first : Interfaces) (rest : List Interfaces) (w : Watcher) :
    run first rest w = (loop (first :: rest) w).after [startNote] := rfl

theorem run_of_not_running {w : Watcher} (h : w.running = false) (first : Interfaces) (rest : List Interfaces) :
    run first rest w = ⟨[startNote], w, .ok ([], rest.length + 1)⟩ := by
  rw [run_apply]
  unfold loop
  rw [Step.get_bind, h]
  rfl

/-- The watcher polls up to the first poll at which there are more than ten failing ones in a row, those counted that it
starts with as long as none has succeeded: at it the watcher tells that it gives up, once, and why. If there is none it
never tells that and polls until it is stopped. At every poll its count is that of the failing polls in a row, and the links
that it knows are those of the last poll that succeeded. Run again, it does not poll any more. -/
theorem gives_up_of_run (first : Interfaces) (rest : List Interfaces) (w : Watcher) (hrunning : w.running = true)
    (hcount : 0 ≤ w.errors) (hsafe : ∀ host ∈ first :: rest, FailsSafely host) :
    let hosts := first :: rest
    let o := run first rest w
    ∃ polled ≤ hosts.length,
      ((∃ slept, o.result = .ok (slept, hosts.length - polled)) ∧
        o.reports = startNote :: (Step.run tryPoll (hosts.take polled) w).reports ∧
        o.state = halted (Step.run tryPoll (hosts.take polled) w).state) ∧
      (∀ i ≤ polled, (Step.run tryPoll (hosts.take i) w).state.errors = failures w.errors (hosts.take i) ∧
        (Step.run tryPoll (hosts.take i) w).state.known = lastKnown w.known (hosts.take i)) ∧
      (∀ n, Trips w.errors hosts n → polled = n + 1 ∧
        ∃ host e, hosts[n]? = some host ∧ host.answers = .error e ∧ alarms o.reports = [failure e]) ∧
      ((∀ n, ¬Trips w.errors hosts n) → polled = hosts.length ∧ alarms o.reports = []) ∧
      ∀ first' rest', run first' rest' o.state = ⟨[startNote], o.state, .ok ([], rest'.length + 1)⟩ := by
  intro hosts o
  obtain ⟨slept, hloop⟩ := loop_apply hsafe hrunning hcount nofun
  have ho : o = _ := (run_apply first rest w).trans (congrArg (Outcome.after [startNote]) hloop)
  have hreports : o.reports = startNote :: (Step.run tryPoll (hosts.take (polls w.errors hosts)) w).reports := by
    rw [ho]
    rfl
  have hstate : o.state = halted (Step.run tryPoll (hosts.take (polls w.errors hosts)) w).state := by
    rw [ho]
    rfl
  refine ⟨polls w.errors hosts, polls_le w.errors hosts, ⟨⟨slept, ?_⟩, hreports, hstate⟩, fun i _ => ?_, fun n hn => ?_,
    fun hnone => ?_, ?_⟩
  · rw [ho]
    rfl
  · exact counted_of_run (fun host hmem => hsafe host (List.mem_of_mem_take hmem)) hcount
  · obtain ⟨host, e, hhost, he, halarms⟩ := alarms_of_trips hsafe hcount hn
    refine ⟨polls_of_trips hn, host, e, hhost, he, ?_⟩
    rw [hreports, polls_of_trips hn]
    exact halarms
  · have hendured := endured_of_not_trips hnone
    refine ⟨polls_of_endured hendured, ?_⟩
    rw [hreports, polls_of_endured hendured, List.take_length]
    exact alarms_of_endured hsafe hcount hendured
  · exact fun first' rest' => run_of_not_running (by rw [hstate]; rfl) first' rest'

/-- A host that is too busy to answer. -/
def busyHost : Interfaces := ⟨.error (.host .system "busy"), .ok []⟩

/-- After a first poll: one that succeeds, eleven that fail, and one that succeeds again. -/
def laterHosts : List Interfaces :=
  [⟨.ok [("eth0", true)], .ok []⟩] ++ List.replicate 11 busyHost ++ [⟨.ok [("wlan0", true)], .ok []⟩]

/-- Nine failing polls went before; the tenth is put up with, the eleven in a row after a poll that succeeds are not. -/
theorem gives_up_laterHosts : (∀ host ∈ busyHost :: laterHosts, FailsSafely host) ∧
    Trips 9 (busyHost :: laterHosts) 12 ∧
    (∃ slept, (run busyHost laterHosts ⟨.zero, true, 9, []⟩).result = .ok (slept, 1)) ∧
    alarms (run busyHost laterHosts ⟨.zero, true, 9, []⟩).reports =
      [.failed (.cat ["Interface watcher failure: ", "busy"])] := by
  have hbusy : FailsSafely busyHost := by
    rintro e ⟨⟩
    rfl
  have hsafe : ∀ host ∈ busyHost :: laterHosts, FailsSafely host := by
    unfold laterHosts
    simp only [List.forall_mem_cons, List.forall_mem_append]
    refine ⟨hbusy, ⟨⟨nofun, nofun⟩, fun host hmem => ?_⟩, nofun, nofun⟩
    rw [List.eq_of_mem_replicate hmem]
    exact hbusy
  have htrips : Trips 9 (busyHost :: laterHosts) 12 := by decide +kernel
  obtain ⟨polled, -, ⟨⟨slept, hresult⟩, -, -⟩, -, htrip, -⟩ :=
    gives_up_of_run busyHost laterHosts ⟨.zero, true, 9, []⟩ rfl (by decide) hsafe
  obtain ⟨rfl, host, e, hhost, he, halarms⟩ := htrip 12 htrips
  obtain rfl : busyHost = host := Option.some.inj hhost
  obtain rfl : Fault.host .system "busy" = e := Except.error.inj he
  exact ⟨hsafe, htrips, ⟨slept, hresult⟩, halarms⟩

end Watcher
end LinkMeter.Host
