import LinkMeter.Proofs.Engine.Runs

/-! # The connectivity that the engine knows

As long as the probe gives one answer, every action of an engine that is told nothing about the connectivity either
leaves it knowing that answer or changes neither what it knows nor that it is about to ask (`perform_heeds`). -/

namespace LinkMeter.Engine
variable {σ : Type}

/-- While `P` holds of the surroundings the probe has one answer, and `P` goes on to hold whatever is read. -/
structure Definite (c : Connections σ) (P : σ → Prop) (available : Bool) : Prop where
  probe : ∀ w, P w → P (c.probe w).state ∧ (c.probe w).result = .ok available
  counters : c.counters.Keeps P

/-- No message that waits tells the engine about the connectivity. -/
def Untold (queue : List Message) : Prop := ∀ b, .connectivityChanged (some b) ∉ queue

/-- Nothing is told to the engine about the connectivity, and `P` goes on to hold of the surroundings. -/
def Action.Neutral (P : σ → Prop) : Action σ → Prop
  | .message m | .post m => ∀ b, m ≠ .connectivityChanged (some b)
  | .surround f => ∀ w, P w → P (f w)
  | .deliver | .expire | .clock _ | .cleanup => True

theorem display_around (e : Engine σ) :
    (display e).state.around = e.around ∧ (display e).state.connected = e.connected := by
  cases h : e.decision with
  | error f =>
    rw [display_of_error h]
    exact ⟨rfl, rfl⟩
  | ok d =>
    rw [display_of_ok h]
    exact ⟨rfl, rfl⟩

section Definite
variable {c : Connections σ} {P : σ → Prop} {available : Bool} {e e' : Engine σ} {m : Message}

theorem Definite.answer (h : Definite c P available) (hP : P e.around) : answer c e = available := by
  unfold Engine.answer
  rw [(h.probe e.around hP).2]

/-- What becomes of the connectivity and the surroundings when a message is worked on. -/
structure Heeded (P : σ → Prop) (available : Bool) (m : Message) (e e' : Engine σ) : Prop where
  around : P e'.around
  connected : e'.connected = available ∨ e'.connected = e.connected ∧ m ≠ .connectivityChanged none

theorem Heeded.asked (h : Definite c P available) {e₀ : Engine σ} (hP : P e₀.around) :
    Heeded P available m e (asked c e₀) :=
  ⟨(h.probe e₀.around hP).1, .inl (h.answer hP)⟩

theorem sampling_around (h : Definite c P available) (hP : P e.around) : P (sampling c e).state.2 := by
  unfold sampling
  exact Rate.Sampler.tick_keeps_around h.counters (c.clock e.now) e.sampler hP

theorem Heeded.sampled (h : Definite c P available) (hP : P e.around) {p : Rate.Sampler × σ}
    (hp : (sampling c e).state = p) : Heeded P available .tick e (e.resampled p) := by
  have hkept := sampling_around h hP
  rw [hp] at hkept
  exact ⟨hkept, .inr ⟨rfl, nofun⟩⟩

theorem Prepared.heeded (h : Definite c P available) (hP : P e.around) (hm : ∀ b, m ≠ .connectivityChanged (some b))
    (hprepared : Prepared c e m e') : Heeded P available m e e' := by
  cases hprepared with
  | tick _ _ hp => exact .sampled h hP hp
  | updateView => exact ⟨hP, .inr ⟨rfl, nofun⟩⟩
  | configChanged config => exact .asked h hP
  | connectivityChanged b => exact absurd rfl (hm b)
  | connectivityAsked => exact .asked h hP
  | screenOn => exact .asked h hP
  | attach => exact .asked h hP
  | detach => exact ⟨hP, .inr ⟨rfl, nofun⟩⟩

theorem Aside.heeded (h : Definite c P available) (hP : P e.around) {r : Except Fault Unit}
    (haside : Aside c e m e' r) : Heeded P available m e e' := by
  cases haside with
  | tickFailed _ _ hp => exact .sampled h hP hp
  | tickDropped _ => exact ⟨hP, .inr ⟨rfl, nofun⟩⟩
  | linkUpdated _ _ => exact ⟨hP, .inr ⟨rfl, nofun⟩⟩
  | linkLost _ => exact ⟨hP, .inr ⟨rfl, nofun⟩⟩
  | screenOff _ => exact ⟨hP, .inr ⟨rfl, nofun⟩⟩

theorem process_heeded (h : Definite c P available) (hP : P e.around) (hm : ∀ b, m ≠ .connectivityChanged (some b)) :
    Heeded P available m e (process c m e).state := by
  cases process_handled c m e with
  | @shown e₁ reports hprepared _ ho =>
    obtain ⟨haround, hconnected⟩ := hprepared.heeded h hP hm
    obtain ⟨hsame, hknown⟩ := display_around e₁
    rw [ho, Outcome.after_state]
    refine ⟨?_, ?_⟩
    · rw [hsame]
      exact haround
    · rw [hknown]
      exact hconnected
  | aside haside _ ho =>
    rw [ho]
    exact haside.heeded h hP

/-- What an action leaves behind: surroundings as before, nothing told, and the answer of the probe or a state in which
it is as much known and as much about to be asked for as before. -/
structure Heeds (P : σ → Prop) (available : Bool) (e e' : Engine σ) : Prop where
  around : P e'.around
  untold : Untold e'.queue
  connected : e'.connected = available ∨ e'.connected = e.connected ∧
    (.connectivityChanged none ∈ e.queue → .connectivityChanged none ∈ e'.queue)

theorem untold_concat {queue : List Message} (h : Untold queue) (hm : ∀ b, m ≠ .connectivityChanged (some b)) :
    Untold (queue ++ [m]) := by
  intro b hb
  rcases List.mem_append.mp hb with hb | hb
  · exact h b hb
  · exact hm b (List.mem_singleton.mp hb).symm

theorem post_heeds (hP : P e.around) (huntold : Untold e.queue) (hm : ∀ b, m ≠ .connectivityChanged (some b)) :
    Heeds P available e (post m e).state :=
  ⟨hP, untold_concat huntold hm, .inr ⟨rfl, fun hq => List.mem_append_left [m] hq⟩⟩

theorem deliver_heeds (h : Definite c P available) (hP : P e.around) (huntold : Untold e.queue) :
    Heeds P available e (deliver c e).state := by
  rcases deliver_cases c e with ⟨-, heq⟩ | ⟨m, rest, hqueue, heq⟩
  · rw [heq]
    exact ⟨hP, huntold, .inr ⟨rfl, id⟩⟩
  · rw [hqueue] at huntold
    have hm : ∀ b, m ≠ .connectivityChanged (some b) := fun b hb => huntold b (hb ▸ List.mem_cons_self)
    obtain ⟨haround, hconnected⟩ :=
      process_heeded (c := c) (e := { e with queue := rest }) h hP hm
    have hrest := (process_kept c m { e with queue := rest }).queue
    rw [heq]
    refine ⟨haround, ?_, hconnected.imp_right fun ⟨hknown, hasks⟩ => ⟨hknown, fun hq => ?_⟩⟩
    · rw [hrest]
      exact fun b hb => huntold b (List.mem_cons_of_mem m hb)
    · -- A message that asks would have left the answer of the probe behind, so the one that asks still waits.
      rw [hqueue] at hq
      rw [hrest]
      exact (List.mem_cons.mp hq).resolve_left fun heq => hasks heq.symm

theorem expire_heeds (hP : P e.around) (huntold : Untold e.queue) : Heeds P available e (expire e).state := by
  rw [expire_apply]
  cases e.timer.taken with
  | none => exact ⟨hP, huntold, .inr ⟨rfl, id⟩⟩
  | some _ => exact ⟨hP, untold_concat huntold nofun, .inr ⟨rfl, List.mem_append_left [Message.tick]⟩⟩

theorem perform_heeds (h : Definite c P available) (hP : P e.around) (huntold : Untold e.queue) {a : Action σ}
    (ha : a.Neutral P) : Heeds P available e (perform c a e).state := by
  cases a with
  | message m =>
    obtain ⟨haround, hconnected⟩ := process_heeded h hP ha
    have hqueue : (perform c (.message m) e).state.queue = e.queue := (process_kept c m e).queue
    refine ⟨haround, ?_, hconnected.imp_right fun ⟨hknown, _⟩ => ⟨hknown, ?_⟩⟩
    · rw [hqueue]
      exact huntold
    · rw [hqueue]
      exact id
  | post m => exact post_heeds hP huntold ha
  | deliver => exact deliver_heeds h hP huntold
  | expire => exact expire_heeds hP huntold
  | clock now => exact ⟨hP, huntold, .inr ⟨rfl, id⟩⟩
  | surround f => exact ⟨ha e.around hP, huntold, .inr ⟨rfl, id⟩⟩
  | cleanup =>
    obtain ⟨reports, -, hcleanup⟩ := cleanup_apply e
    rw [perform_cleanup, hcleanup]
    exact ⟨hP, huntold, .inr ⟨rfl, id⟩⟩

end Definite
end LinkMeter.Engine
