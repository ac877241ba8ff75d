import LinkMeter.Number.Shortest
import LinkMeter.Step

/-! # Letting time pass

Time passes for anything that has a clock, a timer and a queue: messages that wait are worked off, and whenever the timer
is due it goes off and the queue is worked off again. -/

namespace LinkMeter.Engine

/-- Something on which time passes. -/
structure Clockwork (ω S : Type) where
  /-- The time in milliseconds. -/
  now : S → Binary64
  setNow : Binary64 → S → S
  /-- When the timer goes off next. -/
  due : S → Option Binary64
  /-- Lets the timer go off. -/
  expire : Step ω S Unit
  /-- Works off the messages that wait. -/
  pump : Step ω S Unit

namespace Clockwork
variable {ω S : Type}

/-- The later of two times; the first one if they are equal. -/
def later (x y : Binary64) : Binary64 := if x.lt y then y else x

/-- Lets the timer go off as long as it is due until `target`, at most `fuel` times. -/
def expireUntil (c : Clockwork ω S) (target : Binary64) : (fuel : Nat) → Step ω S Unit
  | 0 => pure ()
  | fuel + 1 => do
    match c.due (← Step.get) with
    | none => pure ()
    | some due =>
      if due.le target then
        Step.modify fun s => c.setNow (later (c.now s) due) s
        c.expire
        c.pump
        expireUntil c target fuel

/-- Lets `ms` milliseconds pass, in which the timer goes off at most `most` times. A fault stops time where it
arises. -/
def advance (c : Clockwork ω S) (most : Nat) (ms : Binary64) : Step ω S Unit := do
  let target := (c.now (← Step.get)).add ms
  c.pump
  c.expireUntil target most
  Step.modify (c.setNow target)

end Clockwork
end LinkMeter.Engine
