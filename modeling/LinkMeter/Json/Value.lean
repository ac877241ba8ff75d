import LinkMeter.Number.Basic

/-! # JSON values

The members of an object keep the order in which their names came first, and a name has one value. -/

namespace LinkMeter.Json

/-- A JSON value; whole numbers and floating-point numbers are told apart. -/
inductive Value where
  | null
  | bool (b : Bool)
  | number (n : Number)
  | string (t : Text)
  | array (items : List Value)
  | object (members : List (Text × Value))
deriving BEq

/-- The members of an object, or any named values. -/
abbrev Fields := List (Text × Value)

namespace Fields

/-- The value under a name. -/
def get? (name : Text) : Fields → Option Value
  | [] => none
  | (other, v) :: rest => if other = name then some v else get? name rest

/-- Puts a value under a name: in the place of an earlier one, else at the end. -/
def put (name : Text) (v : Value) : Fields → Fields
  | [] => [(name, v)]
  | (other, w) :: rest => if other = name then (name, v) :: rest else (other, w) :: put name v rest

/-- The fields with all of `updates` put in, one after the other. -/
def merge (fields updates : Fields) : Fields := updates.foldl (fun fs (name, v) => put name v fs) fields

theorem get?_put {name other : Text} {v : Value} {fields : Fields} :
    (fields.put name v).get? other = if name = other then some v else fields.get? other := by
  induction fields with
  | nil => simp [put, get?]
  | cons f rest ih =>
    obtain ⟨n, w⟩ := f
    by_cases h : n = name
    · subst h
      simp only [put, ↓reduceIte, get?]
      split <;> rfl
    · simp only [put, h, ↓reduceIte, get?, ih]
      by_cases ho : n = other
      · subst ho
        simp [Ne.symm h]
      · simp [ho]

end Fields

namespace Value

instance : Coe Text Value := ⟨string⟩
instance : Coe Bool Value := ⟨bool⟩
instance : Coe Number Value := ⟨number⟩
instance : Coe Int Value := ⟨fun n => number (.int n)⟩

/-- The members of an object; other values have none. -/
def fields : Value → Fields
  | object members => members
  | _ => []

/-- The number that a value is; truth values count as one and zero. -/
def number? : Value → Option Number
  | number n => some n
  | bool b => some (.int (if b then 1 else 0))
  | _ => none

/-- Whether a value counts as true: anything but nothing, zero and what is empty. -/
def isTruthy : Value → Bool
  | null => false
  | bool b => b
  | number n => !n.isZero
  | string t => !t.isEmpty
  | array vs => !vs.isEmpty
  | object fs => !fs.isEmpty

end Value
end LinkMeter.Json
