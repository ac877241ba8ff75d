import LinkMeter.Log.Record
import LinkMeter.Number.Basic

/-! # The single-shot timer

The timer runs one callback after a delay; scheduling again replaces what is pending. It is disarmed before its callback
runs, so the callback may schedule again. After a cleanup the timer can still be armed, but it runs nothing any more, and
once the event loop has deleted it, it cannot be used. -/

namespace LinkMeter.Engine

/-- A timer whose callbacks are named by values of type `κ`. -/
structure Timer (κ : Type) where
  /-- When the timer goes off, in milliseconds, if it is armed. -/
  due : Option Binary64
  callback : Option κ
  /-- Whether going off runs the callback; not any more after a cleanup. -/
  connected : Bool

namespace Timer
variable {κ : Type}

/-- A timer that was never armed. -/
def fresh : Timer κ := ⟨none, none, true⟩

/-- Whether the timer is armed. -/
def isPending (t : Timer κ) : Bool := t.due.isSome

/-- The timer armed for a callback. -/
def armed (t : Timer κ) (due : Binary64) (callback : κ) : Timer κ := ⟨some due, some callback, t.connected⟩

/-- The timer without anything pending. -/
def idle (t : Timer κ) : Timer κ := ⟨none, none, t.connected⟩

/-- The disarmed timer with a callback. -/
def loaded (t : Timer κ) (callback : κ) : Timer κ := ⟨none, some callback, t.connected⟩

/-- Does what is asked for with a delay, unless the delay is negative. -/
def unlessNegative {σ : Type} (delay : Number) (m : Logged σ Unit) : Logged σ Unit :=
  if delay.lt (.int 0) then Step.fail (.negativeDelay delay.toText) else m

/-- Stops the timer and starts it to run a callback `delay` milliseconds from `now`. What `start` makes of the delay are the
milliseconds that the timer waits. If it cannot be started with the delay, it is stopped all the same, and the new callback
is never run. -/
def restart (start : Number → Except Fault Binary64) (now : Binary64) (delay : Number) (callback : κ) :
    Logged (Timer κ) Unit := do
  Step.modify fun t => t.loaded callback
  let later ← Step.lift (start delay)
  Step.modify fun t => t.armed (now.add later) callback
  let whole ← Step.lift delay.trunc
  Log.write .debug .timer ["Tick scheduled in ", .ofInt whole, "ms"]

/-- Arms the timer to run a callback `delay` milliseconds from `now`. A negative delay is refused and leaves the timer as
it is. -/
def scheduleBy (start : Number → Except Fault Binary64) (now : Binary64) (delay : Number) (callback : κ) :
    Logged (Timer κ) Unit :=
  unlessNegative delay (restart start now delay callback)

/-- Arms a timer that can be started with every delay that has a number. -/
def schedule (now : Binary64) (delay : Number) (callback : κ) : Logged (Timer κ) Unit :=
  scheduleBy Number.toBinary64 now delay callback

/-- What a timer waits that counts whole milliseconds in 32 bits. -/
def in32Bits : Number → Except Fault Binary64
  | .int n => if -(Nat.pow 2 31 : Nat) ≤ n ∧ n < (Nat.pow 2 31 : Nat) then Binary64.ofInt n else .error .integerTooLarge
  | .float _ => .error .wrongKind

/-- Disarms the timer. -/
def cancel : Logged (Timer κ) Unit := do
  let t ← Step.get
  Step.set t.idle
  if t.isPending then Log.write .debug .timer ["Pending tick cancelled"]

/-- Disarms the timer for good. -/
def cleanup : Logged (Timer κ) Unit := do
  let t ← Step.get
  Step.set ⟨none, none, false⟩
  if !t.connected then Log.write .debug .timer ["Tick timer already disconnected"]
  Log.write .debug .timer ["Tick timer scheduled for deletion"]

/-- The timer after it went off. -/
def spent (t : Timer κ) : Timer κ := if t.connected then t.idle else { t with due := none }

/-- The callback that going off runs, if it runs one. -/
def taken (t : Timer κ) : Option κ := if t.connected then t.callback else none

/-! ## Deletion -/

/-- A timer in the hands of an event loop, which deletes it some time after a cleanup. -/
structure Owned (κ : Type) where
  timer : Timer κ
  deleted : Bool

namespace Owned

/-- A timer that was never armed and is still there. -/
def fresh : Owned κ := ⟨Timer.fresh, false⟩

/-- Whether the event loop is to delete the timer. -/
def isDoomed (o : Owned κ) : Bool := !o.timer.connected && !o.deleted

/-- The timer after the event loop has deleted it. It never goes off. -/
def swept (o : Owned κ) : Owned κ := ⟨⟨none, o.timer.callback, o.timer.connected⟩, true⟩

/-- The timer without its callback, armed or not. -/
def forgotten (o : Owned κ) : Owned κ := ⟨⟨o.timer.due, none, o.timer.connected⟩, o.deleted⟩

/-- The fault of using a timer that is deleted. -/
def gone : Fault := .host .runtime "wrapped C/C++ object of type QTimer has been deleted"

/-- Uses the timer. One that is deleted cannot be used. -/
def use {α : Type} (m : Logged (Timer κ) α) : Logged (Owned κ) α := do
  if (← Step.get).deleted then Step.fail gone
  else Step.zoom Owned.timer (fun t o => { o with timer := t }) m

/-- Arms the timer. A negative delay is refused before the timer is used. -/
def schedule (start : Number → Except Fault Binary64) (now : Binary64) (delay : Number) (callback : κ) :
    Logged (Owned κ) Unit :=
  unlessNegative delay (use (restart start now delay callback))

/-- Disarms the timer. -/
def cancel : Logged (Owned κ) Unit := use Timer.cancel

/-- Forgets the callback and disarms the timer for good. -/
def cleanup : Logged (Owned κ) Unit := do
  Step.modify forgotten
  use Timer.cleanup

end Owned
end Timer
end LinkMeter.Engine
