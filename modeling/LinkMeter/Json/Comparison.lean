import LinkMeter.Json.Value
import LinkMeter.Text.Order

/-! # Comparing values

Values are equal when they have the same parts, whatever the order in which objects list their members; numbers and truth
values are compared as numbers. Only numbers, texts and lists have an order, and only among themselves. -/

namespace LinkMeter.Json.Value

mutual

/-- Whether two values are equal. -/
def same : Value → Value → Bool
  | null, null => true
  | bool b, w => w.number?.any (Number.same (.int (if b then 1 else 0)))
  | number n, w => w.number?.any n.same
  | string s, string t => s == t
  | array vs, array ws => sameItems vs ws
  | object fs, object gs => fs.length == gs.length && sameMembers fs gs
  | _, _ => false

def sameItems : List Value → List Value → Bool
  | [], [] => true
  | v :: vs, w :: ws => same v w && sameItems vs ws
  | _, _ => false

/-- Whether every one of the members has an equal one of its name among the others. -/
def sameMembers : List (Text × Value) → Fields → Bool
  | [], _ => true
  | (name, v) :: fs, gs =>
    (match gs.get? name with
    | some w => same v w
    | none => false) && sameMembers fs gs

end

mutual

/-- Whether the first value is at most the second. Texts and lists are ordered by the first difference, and are at most
their extensions. -/
def atMost : Value → Value → Except Fault Bool
  | string s, w =>
    match w with
    | string t => .ok (Text.le s t)
    | _ => .error .wrongKind
  | array vs, w =>
    match w with
    | array ws => itemsAtMost vs ws
    | _ => .error .wrongKind
  | v, w =>
    match v.number?, w.number? with
    | some m, some n => .ok (m.le n)
    | _, _ => .error .wrongKind

def itemsAtMost : List Value → List Value → Except Fault Bool
  | [], _ => .ok true
  | _ :: _, [] => .ok false
  | v :: vs, w :: ws => if same v w then itemsAtMost vs ws else atMost v w

end

example : same (array [bool true]) (array [(1 : Int)]) = true ∧
    same (object [("a", null), ("b", null)]) (object [("b", null), ("a", null)]) = true := by
  decide +kernel

end LinkMeter.Json.Value
