import LinkMeter.Fault
import LinkMeter.Number.Rounding

/-! # Binary floating-point numbers

A finite number is a sign and a magnitude counted in steps of 2^-1074, the smallest positive magnitude, so sums and
comparisons are those of whole numbers. Every operation takes its exact result and rounds it once: to 53 significant
bits, a half going to the even neighbour, and to infinity from 2^1024 on. -/

namespace LinkMeter

/-- A number with 53 significant bits. -/
inductive Binary64 where
  | finite (negative : Bool) (steps : Nat)
  | infinite (negative : Bool)
  | nan
deriving DecidableEq

namespace Binary64

/-- The binary places after the point of the smallest positive magnitude. -/
def places : Nat := 1074

/-- The steps that make up one. -/
def unit : Nat := Nat.pow 2 places

/-- The steps of the least magnitude that is too large for a finite number. -/
def bound : Nat := Nat.pow 2 (places + 1024)

/-- The quotient of steps `num / den` rounded to 53 significant bits. -/
def roundSteps (num den : Nat) : Nat :=
  let spare := Nat.pow 2 (Nat.log2 (num / den) - 52)
  Rounding.halfEven num (den * spare) * spare

/-- The number nearest to a magnitude of `num / den` steps. -/
def rounded (negative : Bool) (num den : Nat) : Binary64 :=
  let steps := roundSteps num den
  if steps < bound then finite negative steps else infinite negative

/-- The number nearest to `num / den`. -/
def ofRatio (negative : Bool) (num den : Nat) : Binary64 := rounded negative (num * unit) den

/-- The number of steps with its sign. -/
def signed (negative : Bool) (steps : Nat) : Int := if negative then -(steps : Int) else steps

/-- Zero, without a sign. -/
def zero : Binary64 := finite false 0

/-- The number, where infinity counts as the given fault. -/
def orFault (e : Fault) : Binary64 → Except Fault Binary64
  | infinite _ => .error e
  | x => .ok x

/-- The number nearest to an integer; there is none from 2^1024 on. -/
def ofInt (n : Int) : Except Fault Binary64 := (ofRatio (n < 0) n.natAbs 1).orFault .integerTooLarge

/-- The opposite number. -/
def neg : Binary64 → Binary64
  | finite s m => finite (!s) m
  | infinite s => infinite (!s)
  | nan => nan

/-- The sum. A sum of zero is negative only when both terms are. -/
def add : Binary64 → Binary64 → Binary64
  | nan, _ | _, nan => nan
  | infinite s, infinite t => if s = t then infinite s else nan
  | infinite s, finite _ _ => infinite s
  | finite _ _, infinite t => infinite t
  | finite s m, finite t n =>
    let total := signed s m + signed t n
    if total = 0 then finite (s && t) 0 else rounded (total < 0) total.natAbs 1

/-- The difference. -/
def sub (x y : Binary64) : Binary64 := add x (neg y)

/-- The product. -/
def mul : Binary64 → Binary64 → Binary64
  | nan, _ | _, nan => nan
  | infinite s, infinite t => infinite (s != t)
  | infinite s, finite t n => if n = 0 then nan else infinite (s != t)
  | finite s m, infinite t => if m = 0 then nan else infinite (s != t)
  | finite s m, finite t n => rounded (s != t) (m * n) unit

/-- The quotient; a divisor of zero is a fault, whatever the dividend. -/
def div : Binary64 → Binary64 → Except Fault Binary64
  | _, finite _ 0 => .error .divisionByZero
  | nan, _ | _, nan => .ok nan
  | infinite _, infinite _ => .ok nan
  | infinite s, finite t _ => .ok (infinite (s != t))
  | finite s _, infinite t => .ok (finite (s != t) 0)
  | finite s m, finite t n => .ok (rounded (s != t) (m * unit) n)

/-- The quotient of an integer by a positive one, rounded once. -/
def ofQuotient (num : Int) (den : Nat) : Except Fault Binary64 :=
  (ofRatio (num < 0) num.natAbs den).orFault .quotientTooLarge

/-- Whether the first number is below the second. -/
def lt : Binary64 → Binary64 → Bool
  | nan, _ | _, nan => false
  | infinite s, infinite t => s && !t
  | infinite s, finite _ _ => s
  | finite _ _, infinite t => !t
  | finite s m, finite t n => signed s m < signed t n

/-- Whether the first number is at most the second. -/
def le : Binary64 → Binary64 → Bool
  | nan, _ | _, nan => false
  | infinite s, infinite t => s || !t
  | infinite s, finite _ _ => s
  | finite _ _, infinite t => !t
  | finite s m, finite t n => signed s m ≤ signed t n

/-- Whether an integer is at most the number. -/
def intLe (n : Int) : Binary64 → Bool
  | nan => false
  | infinite s => !s
  | finite s m => n * unit ≤ signed s m

/-- Whether the number is at most an integer. -/
def leInt : Binary64 → Int → Bool
  | nan, _ => false
  | infinite s, _ => s
  | finite s m, n => signed s m ≤ n * unit

/-- The integer part of a finite number; otherwise zero. -/
def whole : Binary64 → Int
  | finite s m => signed s (m / unit)
  | _ => 0

/-- The greatest integer that is not above a finite number; otherwise zero. -/
def floor : Binary64 → Int
  | finite s m => (signed s m).fdiv unit
  | _ => 0

theorem unit_pos : 0 < unit := by decide +kernel

/-- A number between two natural numbers has its integer part between them too. -/
theorem whole_mem {low high : Nat} {x : Binary64} (hl : intLe low x = true) (hh : x.leInt high = true) :
    (low : Int) ≤ x.whole ∧ x.whole ≤ high := by
  match x with
  | nan => simp [intLe] at hl
  | infinite s => cases s <;> simp [intLe, leInt] at hl hh
  | finite s m =>
    simp only [intLe, leInt, decide_eq_true_eq, whole, ← Int.natCast_mul] at hl hh ⊢
    have hu := unit_pos
    generalize unit = u at *
    cases s
    · simp only [signed, Bool.false_eq_true, ↓reduceIte, Int.ofNat_le] at *
      exact ⟨(Nat.le_div_iff_mul_le hu).2 hl, Nat.div_le_of_le_mul (by rw [Nat.mul_comm]; exact hh)⟩
    · simp only [signed, ↓reduceIte] at *
      have hm : m = 0 := by omega
      have hlu : low * u = 0 := by omega
      have hlow : low = 0 := (Nat.mul_eq_zero.1 hlu).resolve_right (Nat.ne_of_gt hu)
      simp [hm, hlow]

/-- The integer part, which only a finite number has. -/
def trunc : Binary64 → Except Fault Int
  | nan => .error .nanToInteger
  | infinite _ => .error .infinityToInteger
  | x => .ok x.whole

end Binary64
end LinkMeter
