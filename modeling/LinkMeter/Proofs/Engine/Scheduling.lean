import LinkMeter.Proofs.Engine.Timer
import LinkMeter.Proofs.Number.Overflow

/-! # What the timer runs

A timer is asked to schedule, to cancel and to clean up, and it goes off while it is pending. A callback that runs may ask
for more; by then the timer is disarmed. What a run of calls and expirations told so far says what the timer holds: it is
pending if an accepted schedule is the latest thing told, refused ones apart, and that schedule is the one that an
expiration runs. After a cleanup an expiration runs nothing, and in the end the event loop deletes the timer. -/

namespace LinkMeter.Engine.Timer
variable {κ : Type}

/-- What is asked of a timer. A delay is a whole number of milliseconds. -/
inductive Call (κ : Type) where
  | schedule (now : Binary64) (delay : Int) (callback : κ)
  | cancel
  | cleanup

/-- What is told of a timer. -/
inductive Note (κ : Type) where
  | accepted (callback : κ)
  /-- A schedule with a negative delay. -/
  | refused
  /-- Any other call that failed: the timer cannot be started with the delay, or it is deleted. -/
  | failed
  | cancelled
  | cleaned
  | expired (ran : Option κ)
  | deleted
deriving DecidableEq

/-- What happens to a timer: a call, or that it goes off, or that the event loop deletes what was cleaned up. What a
callback asks for while it runs is given with the expiration. -/
inductive Event (κ : Type) where
  | call (c : Call κ)
  | expire (during : List (Call κ))
  | sweep

/-- Does what is asked for. -/
def answer (start : Number → Except Fault Binary64) : Call κ → Logged (Owned κ) Unit
  | .schedule now delay callback => Owned.schedule start now (.int delay) callback
  | .cancel => Owned.cancel
  | .cleanup => Owned.cleanup

/-- What is told of a call that ends so. -/
def noteOf : Call κ → Except Fault Unit → Note κ
  | .schedule _ _ callback, .ok () => .accepted callback
  | .schedule _ delay _, .error _ => if delay < 0 then .refused else .failed
  | .cancel, .ok () => .cancelled
  | .cleanup, .ok () => .cleaned
  | _, .error _ => .failed

/-- Does what is asked for and tells of it. -/
def ask (start : Number → Except Fault Binary64) (c : Call κ) : Step (Note κ) (Owned κ) Unit := fun o =>
  ⟨[noteOf c (answer start c o).result], (answer start c o).state, .ok ()⟩

/-- Makes an event happen. A timer goes off if it is pending; it is disarmed before the callback runs. -/
def perform (start : Number → Except Fault Binary64) : Event κ → Step (Note κ) (Owned κ) Unit
  | .call c => ask start c
  | .expire during => do
    let o ← Step.get
    if o.timer.isPending then
      Step.set { o with timer := o.timer.spent }
      Step.report (.expired o.timer.taken)
      if o.timer.taken.isSome then Step.run (ask start) during
  | .sweep => do
    let o ← Step.get
    if o.isDoomed then
      Step.set o.swept
      Step.report .deleted

/-! ## The latest note -/

/-- The note is the latest one, refused schedules apart. -/
def Latest (n : Note κ) (told : List (Note κ)) : Prop :=
  ∃ early late, told = early ++ n :: late ∧ ∀ m ∈ late, m = .refused

section Latest
variable {n m : Note κ} {told : List (Note κ)}

/-- A list with one element more, split at an element: that one is the last, or it comes before it. -/
theorem concat_eq_append_cons {α : Type} {l early late : List α} {a b : α} : l ++ [a] = early ++ b :: late ↔
    (l = early ∧ a = b ∧ late = []) ∨ ∃ rest, late = rest ++ [a] ∧ l = early ++ b :: rest := by
  constructor
  · intro h
    rcases List.eq_nil_or_concat late with rfl | ⟨rest, last, rfl⟩
    · obtain ⟨hl, ha⟩ := List.append_inj' h rfl
      exact .inl ⟨hl, List.head_eq_of_cons_eq ha, rfl⟩
    · rw [List.concat_eq_append, ← List.cons_append, ← List.append_assoc] at h
      obtain ⟨hl, ha⟩ := List.append_inj' h rfl
      obtain rfl := List.head_eq_of_cons_eq ha
      exact .inr ⟨rest, List.concat_eq_append, hl⟩
  · rintro (⟨rfl, rfl, rfl⟩ | ⟨rest, rfl, rfl⟩)
    · rfl
    · rw [List.append_assoc, List.cons_append]

theorem not_latest_nil : ¬Latest n [] := by
  rintro ⟨early, late, h, -⟩
  cases early <;> cases h

theorem latest_concat : Latest n (told ++ [m]) ↔ m = n ∨ m = .refused ∧ Latest n told := by
  constructor
  · rintro ⟨early, late, h, hlate⟩
    obtain ⟨-, hm, -⟩ | ⟨rest, rfl, htold⟩ := concat_eq_append_cons.mp h
    · exact .inl hm
    · exact .inr ⟨hlate m (List.mem_append_right rest List.mem_cons_self), early, rest, htold,
        fun n hn => hlate n (List.mem_append_left [m] hn)⟩
  · rintro (rfl | ⟨rfl, early, late, rfl, hlate⟩)
    · exact ⟨told, [], rfl, nofun⟩
    · refine ⟨early, late ++ [.refused], by rw [List.append_assoc, List.cons_append], fun n hn => ?_⟩
      rcases List.mem_append.mp hn with hn | hn
      · exact hlate n hn
      · exact List.mem_singleton.mp hn

theorem latest_refused (hne : n ≠ .refused) : Latest n (told ++ [.refused]) ↔ Latest n told := by
  rw [latest_concat]
  exact ⟨fun h => h.elim (fun h => absurd h.symm hne) And.right, fun h => .inr ⟨rfl, h⟩⟩

theorem latest_of_ne_refused (hne : m ≠ .refused) : Latest n (told ++ [m]) ↔ m = n := by
  rw [latest_concat]
  exact ⟨fun h => h.elim id fun h => absurd h.1 hne, .inl⟩

/-- If the latest note comes after an expiration, the two are apart in the list. -/
theorem mem_of_latest {ran : Option κ} {early between : List (Note κ)}
    (h : Latest n (early ++ .expired ran :: between)) (hne : n ≠ .expired ran) : n ∈ between := by
  obtain ⟨first, late, h, hlate⟩ := h
  -- Either the expiration comes first, or it is among what came after the latest note, where all are refused.
  rcases List.append_eq_append_iff.mp h with ⟨rest, rfl, hrest⟩ | ⟨rest, rfl, hrest⟩
  · cases rest with
    | nil => exact absurd (List.head_eq_of_cons_eq hrest).symm hne
    | cons a rest =>
      obtain ⟨-, rfl⟩ := List.cons_eq_cons.mp hrest
      exact List.mem_append_right rest List.mem_cons_self
  · cases rest with
    | nil => exact absurd (List.head_eq_of_cons_eq hrest) hne
    | cons a rest =>
      obtain ⟨-, rfl⟩ := List.cons_eq_cons.mp hrest
      cases hlate (.expired ran) (List.mem_append_right rest List.mem_cons_self)

end Latest

/-! ## What a call makes of a timer -/

theorem cleanup_apply (t : Timer κ) : ∃ records, cleanup t = ⟨records, ⟨none, none, false⟩, .ok ()⟩ := by
  unfold cleanup
  rw [Step.get_bind, Step.set_bind]
  cases t.connected <;> exact ⟨_, rfl⟩

section Ask
variable {start : Number → Except Fault Binary64} {o : Owned κ}

theorem Owned.use_of_deleted {α : Type} (h : o.deleted = true) (m : Logged (Timer κ) α) :
    Owned.use m o = ⟨[], o, .error Owned.gone⟩ := by
  unfold Owned.use
  rw [Step.get_bind, if_pos h]
  rfl

theorem Owned.use_of_present {α : Type} (h : o.deleted = false) (m : Logged (Timer κ) α) :
    Owned.use m o = ⟨(m o.timer).reports, { o with timer := (m o.timer).state }, (m o.timer).result⟩ := by
  unfold Owned.use
  rw [Step.get_bind, if_neg (Bool.not_eq_true _ ▸ h), Step.zoom_apply]

theorem Owned.schedule_of_lt {delay : Int} (hdelay : delay < 0) (now : Binary64) (callback : κ) (o : Owned κ) :
    Owned.schedule start now (.int delay) callback o =
      ⟨[], o, .error (.negativeDelay (Number.int delay).toText)⟩ := by
  unfold Owned.schedule
  rw [unlessNegative_of_lt hdelay]
  rfl

theorem Owned.schedule_of_le {delay : Int} (hdelay : 0 ≤ delay) (now : Binary64) (callback : κ) :
    Owned.schedule start now (.int delay) callback = Owned.use (restart start now (.int delay) callback) :=
  unlessNegative_of_le hdelay _

theorem Owned.cleanup_of_deleted (h : o.deleted = true) : Owned.cleanup o = ⟨[], o.forgotten, .error Owned.gone⟩ := by
  unfold Owned.cleanup
  rw [Step.modify_bind]
  exact Owned.use_of_deleted (o := o.forgotten) h Timer.cleanup

theorem Owned.cleanup_of_present (h : o.deleted = false) : ∃ records,
    Owned.cleanup o = ⟨records, { o with timer := ⟨none, none, false⟩ }, .ok ()⟩ := by
  obtain ⟨records, hcleanup⟩ := cleanup_apply o.forgotten.timer
  have hpresent : o.forgotten.deleted = false := h
  unfold Owned.cleanup
  rw [Step.modify_bind, Owned.use_of_present hpresent, hcleanup]
  exact ⟨records, rfl⟩

/-- What a call makes of a timer, by what is told of it. -/
inductive Asked (start : Number → Except Fault Binary64) (o : Owned κ) : Call κ → Note κ → Owned κ → Prop where
  | refused {now : Binary64} {delay : Int} {callback : κ} (hdelay : delay < 0) :
    Asked start o (.schedule now delay callback) .refused o
  | accepted {now later : Binary64} {delay : Int} {callback : κ} (hdelay : 0 ≤ delay)
      (hstart : start (.int delay) = .ok later) (hpresent : o.deleted = false) :
    Asked start o (.schedule now delay callback) (.accepted callback)
      { o with timer := o.timer.armed (now.add later) callback }
  | stopped {now : Binary64} {delay : Int} {callback : κ} {e : Fault} (hstart : start (.int delay) = .error e)
      (hpresent : o.deleted = false) :
    Asked start o (.schedule now delay callback) .failed { o with timer := o.timer.loaded callback }
  | cancelled (hpresent : o.deleted = false) : Asked start o .cancel .cancelled { o with timer := o.timer.idle }
  | cleaned (hpresent : o.deleted = false) : Asked start o .cleanup .cleaned { o with timer := ⟨none, none, false⟩ }
  | unusable {c : Call κ} (hdeleted : o.deleted = true) : Asked start o c .failed o
  | forgotten (hdeleted : o.deleted = true) :
    Asked start o .cleanup .failed o.forgotten

theorem ask_of_answer {c : Call κ} {records : List Log.Record} {o' : Owned κ} {r : Except Fault Unit}
    (h : answer start c o = ⟨records, o', r⟩) : ask start c o = ⟨[noteOf c r], o', .ok ()⟩ := by
  unfold ask
  rw [h]

theorem noteOf_of_lt {now : Binary64} {delay : Int} {callback : κ} (hdelay : delay < 0) (e : Fault) :
    noteOf (.schedule now delay callback) (.error e) = .refused := if_pos hdelay

theorem noteOf_of_le {now : Binary64} {delay : Int} {callback : κ} (hdelay : 0 ≤ delay) (e : Fault) :
    noteOf (.schedule now delay callback) (.error e) = .failed := if_neg (Int.not_lt.mpr hdelay)

/-- Each call tells one note, and the note says what became of the timer. -/
theorem asked (start : Number → Except Fault Binary64) (c : Call κ) (o : Owned κ) :
    ∃ n o', ask start c o = ⟨[n], o', .ok ()⟩ ∧ Asked start o c n o' := by
  cases c with
  | schedule now delay callback =>
    rcases Int.lt_or_le delay 0 with hdelay | hdelay
    · have hanswer : answer start (.schedule now delay callback) o = _ := Owned.schedule_of_lt hdelay now callback o
      refine ⟨.refused, o, ?_, .refused hdelay⟩
      rw [ask_of_answer hanswer, noteOf_of_lt hdelay]
    · have hanswer : answer start (.schedule now delay callback) o = Owned.use (restart start now (.int delay) callback) o :=
        congrFun (Owned.schedule_of_le hdelay now callback) o
      cases hdeleted : o.deleted with
      | true =>
        rw [Owned.use_of_deleted hdeleted] at hanswer
        refine ⟨.failed, o, ?_, .unusable hdeleted⟩
        rw [ask_of_answer hanswer, noteOf_of_le hdelay]
      | false =>
        rw [Owned.use_of_present hdeleted] at hanswer
        cases hstart : start (.int delay) with
        | error e =>
          rw [restart_of_error hstart] at hanswer
          refine ⟨.failed, _, ?_, .stopped hstart hdeleted⟩
          rw [ask_of_answer hanswer, noteOf_of_le hdelay]
        | ok later =>
          rw [restart_of_ok hstart] at hanswer
          exact ⟨_, _, ask_of_answer hanswer, .accepted hdelay hstart hdeleted⟩
  | cancel =>
    cases hdeleted : o.deleted with
    | true => exact ⟨_, _, ask_of_answer (Owned.use_of_deleted hdeleted Timer.cancel), .unusable hdeleted⟩
    | false =>
      have huse := Owned.use_of_present hdeleted Timer.cancel
      rw [cancel_apply] at huse
      exact ⟨_, _, ask_of_answer huse, .cancelled hdeleted⟩
  | cleanup =>
    cases hdeleted : o.deleted with
    | true => exact ⟨_, _, ask_of_answer (Owned.cleanup_of_deleted hdeleted), .forgotten hdeleted⟩
    | false =>
      obtain ⟨records, hcleanup⟩ := Owned.cleanup_of_present hdeleted
      exact ⟨_, _, ask_of_answer hcleanup, .cleaned hdeleted⟩

end Ask

/-! ## What the notes say of a timer -/

/-- What was told says whether the timer was cleaned up and whether it is still there. -/
structure Marks (told : List (Note κ)) (o : Owned κ) : Prop where
  connected : o.timer.connected = true ↔ .cleaned ∉ told
  present : o.deleted = false ↔ .deleted ∉ told
  doomed : o.deleted = true → o.timer.connected = false
  idle : o.deleted = true → o.timer.isPending = false

/-- What was told last says whether the timer is pending, and for which callback. -/
structure Holds (told : List (Note κ)) (t : Timer κ) : Prop where
  waiting : ∀ k, Latest (.accepted k) told ↔ t.isPending = true ∧ t.callback = some k
  armed : t.isPending = true → t.callback.isSome = true
  stored : t.connected = true → t.callback.isSome = true → t.isPending = true ∨ Latest .failed told

/-- What was told before an expiration says what it ran. -/
def Runs (told : List (Note κ)) : Prop :=
  ∀ before ran after, told = before ++ .expired ran :: after →
    ∀ k, ran = some k ↔ .cleaned ∉ before ∧ Latest (.accepted k) before

/-- What was told so far says what the timer holds and what it ran. -/
structure Tells (told : List (Note κ)) (o : Owned κ) : Prop where
  marks : Marks told o
  holds : Holds told o.timer
  runs : Runs told

section Tells
variable {start : Number → Except Fault Binary64} {told : List (Note κ)} {o o' : Owned κ} {t t' : Timer κ} {n : Note κ}

theorem tells_fresh : Tells [] (Owned.fresh : Owned κ) where
  marks := ⟨⟨fun _ => nofun, fun _ => rfl⟩, ⟨fun _ => nofun, fun _ => rfl⟩, nofun, nofun⟩
  holds := ⟨fun k => ⟨fun h => absurd h not_latest_nil, nofun⟩, nofun, nofun⟩
  runs := by
    intro before ran after h
    cases before <;> cases h

theorem not_mem_concat {m : Note κ} (hne : n ≠ m) : m ∉ told ++ [n] ↔ m ∉ told := by
  rw [List.mem_append, List.mem_singleton, not_or]
  exact ⟨And.left, fun h => ⟨h, hne.symm⟩⟩

/-- The timer is deleted only after a cleanup. -/
theorem Marks.not_deleted (h : Marks told o) (hcleaned : .cleaned ∉ told) : .deleted ∉ told := by
  refine h.present.mp ?_
  cases hdeleted : o.deleted with
  | false => rfl
  | true => cases (h.doomed hdeleted).symm.trans (h.connected.mpr hcleaned)

theorem Marks.concat (h : Marks told o) (hcleaned : n ≠ .cleaned) (hdeleted : n ≠ .deleted)
    (hconnected : o'.timer.connected = o.timer.connected) (hpresent : o'.deleted = o.deleted)
    (hidle : o.deleted = true → o'.timer.isPending = false) : Marks (told ++ [n]) o' where
  connected := by rw [hconnected, not_mem_concat hcleaned, h.connected]
  present := by rw [hpresent, not_mem_concat hdeleted, h.present]
  doomed := by
    rw [hpresent, hconnected]
    exact h.doomed
  idle := by
    rw [hpresent]
    exact hidle

theorem Marks.cleaned (h : Marks told o) :
    Marks (told ++ [.cleaned]) { o with timer := ⟨none, none, false⟩ } where
  connected := ⟨nofun, fun hnot => absurd (List.mem_append_right told List.mem_cons_self) hnot⟩
  present := h.present.trans (not_mem_concat (by nofun)).symm
  doomed := fun _ => rfl
  idle := fun _ => rfl

theorem Marks.swept (h : Marks told o) (hcleaned : o.timer.connected = false) : Marks (told ++ [.deleted]) o.swept where
  connected := h.connected.trans (not_mem_concat (by nofun)).symm
  present := ⟨nofun, fun hnot => absurd (List.mem_append_right told List.mem_cons_self) hnot⟩
  doomed := fun _ => hcleaned
  idle := fun _ => rfl

theorem Holds.refused (h : Holds told t) : Holds (told ++ [.refused]) t where
  waiting := fun k => (latest_refused (by nofun)).trans (h.waiting k)
  armed := h.armed
  stored := fun hconnected hcallback => (h.stored hconnected hcallback).imp_right (latest_refused (by nofun)).mpr

theorem holds_accepted (t : Timer κ) (due : Binary64) (callback : κ) :
    Holds (told ++ [.accepted callback]) (t.armed due callback) where
  waiting := fun k => by
    rw [latest_of_ne_refused (by nofun), Note.accepted.injEq]
    exact ⟨fun h => ⟨rfl, congrArg some h⟩, fun h => Option.some.inj h.2⟩
  armed := fun _ => rfl
  stored := fun _ _ => .inl rfl

/-- Nothing is pending after a note that is neither of an accepted schedule nor of a refused one. -/
theorem holds_stopped (haccepted : ∀ k, n ≠ .accepted k) (hrefused : n ≠ .refused) (hpending : t.isPending = false)
    (hcallback : t.connected = true → t.callback = none ∨ n = .failed) : Holds (told ++ [n]) t where
  waiting := fun k => by
    rw [latest_of_ne_refused hrefused, hpending]
    exact ⟨fun heq => absurd heq (haccepted k), nofun⟩
  armed := fun h => absurd (hpending.symm.trans h) nofun
  stored := fun hconnected hsome => by
    rcases hcallback hconnected with hnone | hfailed
    · rw [hnone] at hsome
      cases hsome
    · exact .inr ((latest_of_ne_refused hrefused).mpr hfailed)

/-- A note that is no expiration says nothing of what ran. -/
theorem Runs.concat (h : Runs told) (hn : ∀ ran, n ≠ .expired ran) : Runs (told ++ [n]) := by
  intro before ran after htold
  obtain ⟨-, hlast, -⟩ | ⟨rest, -, htold⟩ := concat_eq_append_cons.mp htold
  · exact absurd hlast (hn ran)
  · exact h before ran rest htold

theorem Tells.asked {c : Call κ} (h : Tells told o) (hasked : Asked start o c n o') : Tells (told ++ [n]) o' := by
  cases hasked with
  | refused hdelay =>
    exact ⟨h.marks.concat (by nofun) (by nofun) rfl rfl h.marks.idle, h.holds.refused, h.runs.concat (by nofun)⟩
  | accepted hdelay hstart hpresent =>
    exact ⟨h.marks.concat (by nofun) (by nofun) rfl rfl (fun hdeleted => nomatch hpresent.symm.trans hdeleted),
      holds_accepted _ _ _, h.runs.concat (by nofun)⟩
  | stopped hstart hpresent =>
    exact ⟨h.marks.concat (by nofun) (by nofun) rfl rfl fun _ => rfl,
      holds_stopped (by nofun) (by nofun) rfl fun _ => .inr rfl, h.runs.concat (by nofun)⟩
  | cancelled hpresent =>
    exact ⟨h.marks.concat (by nofun) (by nofun) rfl rfl fun _ => rfl,
      holds_stopped (by nofun) (by nofun) rfl fun _ => .inl rfl, h.runs.concat (by nofun)⟩
  | cleaned hpresent =>
    exact ⟨h.marks.cleaned, holds_stopped (by nofun) (by nofun) rfl fun _ => .inl rfl, h.runs.concat (by nofun)⟩
  | unusable hdeleted =>
    exact ⟨h.marks.concat (by nofun) (by nofun) rfl rfl h.marks.idle,
      holds_stopped (by nofun) (by nofun) (h.marks.idle hdeleted) fun _ => .inr rfl, h.runs.concat (by nofun)⟩
  | forgotten hdeleted =>
    exact ⟨h.marks.concat (by nofun) (by nofun) rfl rfl h.marks.idle,
      holds_stopped (by nofun) (by nofun) (h.marks.idle hdeleted) fun _ => .inr rfl, h.runs.concat (by nofun)⟩

theorem tells_ask (c : Call κ) (told : List (Note κ)) (o : Owned κ) (h : Tells told o) :
    Tells (told ++ (ask start c o).reports) (ask start c o).state := by
  obtain ⟨n, o', heq, hasked⟩ := asked start c o
  rw [heq]
  exact h.asked hasked

/-! ## Going off -/

theorem not_pending_spent (t : Timer κ) : t.spent.isPending = false := by
  unfold spent
  cases t.connected <;> rfl

theorem connected_spent (t : Timer κ) : t.spent.connected = t.connected := by
  unfold spent
  split <;> rfl

theorem callback_spent (h : t.connected = true) : t.spent.callback = none := by
  unfold spent
  rw [if_pos h]
  rfl

/-- What going off runs is the callback of the latest schedule, unless there was a cleanup. -/
theorem Tells.taken (h : Tells told o) (hpending : o.timer.isPending = true) (k : κ) :
    o.timer.taken = some k ↔ .cleaned ∉ told ∧ Latest (.accepted k) told := by
  rw [h.holds.waiting k, ← h.marks.connected]
  unfold Timer.taken
  cases o.timer.connected with
  | true => exact ⟨fun h => ⟨rfl, hpending, h⟩, fun h => h.2.2⟩
  | false => exact ⟨nofun, nofun⟩

theorem Tells.expired (h : Tells told o) (hpending : o.timer.isPending = true) :
    Tells (told ++ [.expired o.timer.taken]) { o with timer := o.timer.spent } where
  marks := h.marks.concat (by nofun) (by nofun) (connected_spent o.timer) rfl fun _ => not_pending_spent o.timer
  holds := by
    refine holds_stopped (by nofun) (by nofun) (not_pending_spent o.timer) fun hconnected => .inl (callback_spent ?_)
    rwa [connected_spent] at hconnected
  runs := by
    intro before ran after htold
    obtain ⟨rfl, hran, -⟩ | ⟨rest, -, htold⟩ := concat_eq_append_cons.mp htold
    · obtain rfl := Note.expired.inj hran
      exact h.taken hpending
    · exact h.runs before ran rest htold

theorem Tells.swept (h : Tells told o) (hcleaned : o.timer.connected = false) : Tells (told ++ [.deleted]) o.swept where
  marks := h.marks.swept hcleaned
  holds := holds_stopped (by nofun) (by nofun) rfl fun hconnected => absurd (hcleaned.symm.trans hconnected) nofun
  runs := h.runs.concat (by nofun)

theorem perform_expire (during : List (Call κ)) (o : Owned κ) : perform start (.expire during) o =
    if o.timer.isPending then
      (if o.timer.taken.isSome then Step.run (ask start) during { o with timer := o.timer.spent }
        else ⟨[], { o with timer := o.timer.spent }, .ok ()⟩).after [.expired o.timer.taken]
    else ⟨[], o, .ok ()⟩ := by
  show (if o.timer.isPending then _ else _ : Step (Note κ) (Owned κ) Unit) o = _
  cases o.timer.isPending with
  | false => rfl
  | true => cases o.timer.taken <;> rfl

theorem perform_sweep (o : Owned κ) : perform start .sweep o =
    if o.isDoomed then ⟨[.deleted], o.swept, .ok ()⟩ else ⟨[], o, .ok ()⟩ := by
  show (if o.isDoomed then _ else _ : Step (Note κ) (Owned κ) Unit) o = _
  cases o.isDoomed <;> rfl

/-- An event tells at most one note before what the calls made during it tell, so it keeps what each of them keeps. -/
theorem tells_perform (e : Event κ) (told : List (Note κ)) (o : Owned κ) (h : Tells told o) :
    Tells (told ++ (perform start e o).reports) (perform start e o).state := by
  cases e with
  | call c => exact tells_ask c told o h
  | expire during =>
    rw [perform_expire]
    cases hpending : o.timer.isPending with
    | false =>
      rw [if_neg Bool.false_ne_true, List.append_nil]
      exact h
    | true =>
      have hspent := h.expired hpending
      rw [if_pos rfl, Outcome.after_reports, Outcome.after_state, ← List.append_assoc]
      cases o.timer.taken.isSome with
      | false =>
        rw [if_neg Bool.false_ne_true, List.append_nil]
        exact hspent
      | true => exact Step.run_tells (fun c _ => tells_ask c) hspent
  | sweep =>
    rw [perform_sweep]
    cases hdoomed : o.isDoomed with
    | false =>
      rw [if_neg Bool.false_ne_true, List.append_nil]
      exact h
    | true =>
      obtain ⟨hcleaned, -⟩ := (Bool.and_eq_true _ _).mp hdoomed
      exact h.swept ((Bool.not_eq_true' _).mp hcleaned)

theorem Tells.pending_iff (h : Tells told o) : o.timer.isPending = true ↔ ∃ k, Latest (.accepted k) told := by
  constructor
  · intro hpending
    obtain ⟨k, hk⟩ := Option.isSome_iff_exists.mp (h.holds.armed hpending)
    exact ⟨k, (h.holds.waiting k).mpr ⟨hpending, hk⟩⟩
  · rintro ⟨k, hk⟩
    exact ((h.holds.waiting k).mp hk).1

theorem Tells.expires (h : Tells told o) {k : κ} (hcleaned : .cleaned ∉ told) (hk : Latest (.accepted k) told)
    (during : List (Call κ)) : (perform start (.expire during) o).reports.head? = some (.expired (some k)) := by
  have hpending : o.timer.isPending = true := ((h.holds.waiting k).mp hk).1
  have htaken : o.timer.taken = some k := (h.taken hpending k).mpr ⟨hcleaned, hk⟩
  rw [perform_expire, if_pos hpending, Outcome.after_reports, htaken]
  rfl

/-- As long as the timer is there, a schedule is accepted just if its delay is not negative and the timer can be started with
it. -/
theorem accepted_iff (hpresent : o.deleted = false) (now : Binary64) (delay : Int) (k : κ) :
    (ask start (.schedule now delay k) o).reports = [.accepted k] ↔
      0 ≤ delay ∧ ∃ later, start (.int delay) = .ok later := by
  obtain ⟨n, o', heq, hasked⟩ := asked start (.schedule now delay k) o
  rw [heq]
  cases hasked with
  | refused hdelay => exact iff_of_false nofun fun h => Int.not_le.mpr hdelay h.1
  | accepted hdelay hstart _ => exact iff_of_true rfl ⟨hdelay, _, hstart⟩
  | stopped hstart _ => exact iff_of_false nofun fun ⟨_, later, hok⟩ => nomatch hstart.symm.trans hok
  | unusable hdeleted => cases hpresent.symm.trans hdeleted

end Tells

/-- At the end of a run the notes say what the timer holds. -/
theorem tells_run (start : Number → Except Fault Binary64) (events : List (Event κ)) :
    Tells (Step.run (perform start) events (Owned.fresh : Owned κ)).reports
      (Step.run (perform start) events (Owned.fresh : Owned κ)).state :=
  Step.run_tells (fun e _ => tells_perform e) tells_fresh

/-- What a timer does after any run of calls and expirations, also ones in which callbacks ask for more while they run,
whatever delays it can be started with. Before a cleanup it is pending just while an accepted schedule is the latest thing
told, refused ones apart, and just while a callback is stored, unless the latest thing told is a schedule that failed. Going
off then runs the callback of that schedule, nothing else was ever run, and a cleanup ends it for good. Between two that ran
the second was accepted, so that none runs twice. A schedule is accepted if its delay is not negative and the timer can be
started with it; a negative delay leaves all as it is. A cleanup succeeds as long as the event loop has not deleted the
timer, which it does only after a cleanup. -/
theorem runs_of_told (start : Number → Except Fault Binary64) (events : List (Event κ)) :
    let told := (Step.run (perform start) events (Owned.fresh : Owned κ)).reports
    let o := (Step.run (perform start) events (Owned.fresh : Owned κ)).state
    (.cleaned ∉ told → (o.timer.isPending = true ↔ ∃ k, Latest (.accepted k) told) ∧
        (¬Latest .failed told → (o.timer.isPending = true ↔ o.timer.callback.isSome = true))) ∧
      (.cleaned ∉ told → ∀ k, Latest (.accepted k) told →
        ∀ during, (perform start (.expire during) o).reports.head? = some (.expired (some k))) ∧
      (∀ before ran after, told = before ++ .expired ran :: after →
        ∀ k, ran = some k ↔ .cleaned ∉ before ∧ Latest (.accepted k) before) ∧
      (∀ early k between k' late, told = early ++ .expired (some k) :: between ++ .expired (some k') :: late →
        .accepted k' ∈ between) ∧
      (.deleted ∉ told → ∀ now (delay : Int) k, (ask start (.schedule now delay k) o).reports = [.accepted k] ↔
        0 ≤ delay ∧ ∃ later, start (.int delay) = .ok later) ∧
      (∀ now (delay : Int) k, delay < 0 → Owned.schedule start now (.int delay) k o =
        ⟨[], o, .error (.negativeDelay (Number.int delay).toText)⟩) ∧
      (.deleted ∉ told → (Owned.cleanup o).result = .ok ()) ∧ (.cleaned ∉ told → .deleted ∉ told) := by
  intro told o
  have h : Tells told o := tells_run start events
  refine ⟨fun hcleaned => ⟨h.pending_iff, fun hfailed => ⟨h.holds.armed, fun hcallback => ?_⟩⟩, ?_, h.runs, ?_, ?_, ?_, ?_,
    h.marks.not_deleted⟩
  · exact (h.holds.stored (h.marks.connected.mpr hcleaned) hcallback).resolve_right hfailed
  · exact fun hcleaned k hk => h.expires hcleaned hk
  · intro early k between k' late htold
    obtain ⟨-, hlatest⟩ := (h.runs _ _ late htold k').mp rfl
    exact mem_of_latest hlatest nofun
  · exact fun hdeleted => accepted_iff (h.marks.present.mpr hdeleted)
  · exact fun now delay k hdelay => Owned.schedule_of_lt hdelay now k o
  · intro hdeleted
    obtain ⟨records, hcleanup⟩ := Owned.cleanup_of_present (h.marks.present.mpr hdeleted)
    rw [hcleanup]

/-- A callback schedules another one while it runs; what is scheduled after the cleanup is not run. -/
example : (Step.run (perform in32Bits) [.call (.schedule .zero 10 'a'),
    .expire [.schedule .zero 5 'b', .schedule .zero (-1) 'c'], .expire [], .expire [], .call .cleanup,
    .call (.schedule .zero 1 'd'), .expire [], .sweep] (Owned.fresh : Owned Char)).reports =
    [.accepted 'a', .expired (some 'a'), .accepted 'b', .refused, .expired (some 'b'), .cleaned, .accepted 'd',
      .expired none, .deleted] := by decide +kernel

/-- A timer after one callback was scheduled and then another one with some delay. -/
def rescheduled (start : Number → Except Fault Binary64) (delay : Int) : Owned Char :=
  (Step.run (perform start) [.call (.schedule .zero 10 'a'), .call (.schedule .zero delay 'b')] Owned.fresh).state

/-- If the timer cannot be started with the delay, the second callback is stored although the timer is not pending, and
neither of them is run. So it is with a delay that is too large for the clock, and with one of more than 32 bits. A timer
that was cleaned up can be deleted when it is cleaned up again. -/
theorem stored_of_failed :
    ((rescheduled Number.toBinary64 (Nat.pow 10 400 : Nat)).timer.callback = some 'b' ∧
      (rescheduled Number.toBinary64 (Nat.pow 10 400 : Nat)).timer.isPending = false ∧
      (perform Number.toBinary64 (.expire []) (rescheduled Number.toBinary64 (Nat.pow 10 400 : Nat))).reports = []) ∧
    ((rescheduled in32Bits (Nat.pow 2 31 : Nat)).timer.callback = some 'b' ∧
      (rescheduled in32Bits (Nat.pow 2 31 : Nat)).timer.isPending = false ∧
      (perform in32Bits (.expire []) (rescheduled in32Bits (Nat.pow 2 31 : Nat))).reports = []) ∧
    (Owned.cleanup (Step.run (perform in32Bits) [.call .cleanup, .sweep] (Owned.fresh : Owned Char)).state).result =
      .error Owned.gone := by
  refine ⟨⟨?_, ?_, ?_⟩, ⟨?_, ?_, ?_⟩, ?_⟩
  all_goals decide +kernel

end LinkMeter.Engine.Timer
