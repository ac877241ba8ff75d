import LinkMeter.Engine.Timer
import LinkMeter.Proofs.Step

/-! # What the timer does

Cancelling never fails. A schedule whose delay is not negative replaces what is pending, and even if the timer cannot be
started with the delay it stops what was. -/

namespace LinkMeter.Engine.Timer
variable {κ : Type}

/-- The record of a cancelled callback; there is none if nothing was pending. -/
def cancelNotes (t : Timer κ) : List Log.Record :=
  if t.isPending then [⟨.debug, .timer, .cat ["Pending tick cancelled"], none⟩] else []

theorem cancel_apply (t : Timer κ) : cancel t = ⟨t.cancelNotes, t.idle, .ok ()⟩ := by
  unfold cancel cancelNotes
  rw [Step.get_bind, Step.set_bind]
  by_cases h : t.isPending
  · rw [if_pos h, if_pos h]
    rfl
  · rw [if_neg h, if_neg h]
    rfl

def scheduleNote (delay : Int) : Log.Record := ⟨.debug, .timer, .cat ["Tick scheduled in ", .ofInt delay, "ms"], none⟩

theorem lt_zero_iff {delay : Int} : (Number.int delay).lt (.int 0) = true ↔ delay < 0 := by
  unfold Number.lt Number.le
  simp only [Bool.and_eq_true, Bool.not_eq_true', decide_eq_true_eq, decide_eq_false_iff_not]
  omega

theorem unlessNegative_of_le {σ : Type} {delay : Int} (hdelay : 0 ≤ delay) (m : Logged σ Unit) :
    unlessNegative (.int delay) m = m := if_neg fun h => Int.not_lt.mpr hdelay (lt_zero_iff.mp h)

theorem unlessNegative_of_lt {σ : Type} {delay : Int} (hdelay : delay < 0) (m : Logged σ Unit) :
    unlessNegative (.int delay) m = Step.fail (.negativeDelay (Number.int delay).toText) := if_pos (lt_zero_iff.mpr hdelay)

section Restart
variable {start : Number → Except Fault Binary64} {delay : Int}

theorem restart_of_ok {later : Binary64} (h : start (.int delay) = .ok later) (now : Binary64) (callback : κ)
    (t : Timer κ) : restart start now (.int delay) callback t =
      ⟨[scheduleNote delay], t.armed (now.add later) callback, .ok ()⟩ := by
  unfold restart
  rw [Step.modify_bind, h, Step.lift_ok_bind, Step.modify_bind]
  rfl

theorem restart_of_error {e : Fault} (h : start (.int delay) = .error e) (now : Binary64) (callback : κ) (t : Timer κ) :
    restart start now (.int delay) callback t = ⟨[], t.loaded callback, .error e⟩ := by
  unfold restart
  rw [Step.modify_bind, h, Step.lift_error_bind]

end Restart

theorem schedule_apply {delay : Int} {later : Binary64} (hdelay : 0 ≤ delay) (hlater : Binary64.ofInt delay = .ok later)
    (now : Binary64) (callback : κ) (t : Timer κ) :
    schedule now (.int delay) callback t = ⟨[scheduleNote delay], t.armed (now.add later) callback, .ok ()⟩ := by
  have hnumber : Number.toBinary64 (.int delay) = .ok later := hlater
  unfold schedule scheduleBy
  rw [unlessNegative_of_le hdelay, restart_of_ok hnumber]

/-- With a delay of 32 bits, it makes no difference whether the timer can be started with any others. -/
theorem scheduleBy_in32Bits {delay : Int} (hdelay : 0 ≤ delay) (hbits : delay < (Nat.pow 2 31 : Nat)) (now : Binary64)
    (callback : κ) : scheduleBy in32Bits now (.int delay) callback = schedule now (.int delay) callback := by
  have hlow : -(Nat.pow 2 31 : Nat) ≤ delay := Int.le_trans (by decide) hdelay
  have hstart : in32Bits (.int delay) = Number.toBinary64 (.int delay) := by
    unfold in32Bits Number.toBinary64
    exact if_pos ⟨hlow, hbits⟩
  unfold schedule scheduleBy restart
  rw [hstart]

end LinkMeter.Engine.Timer
