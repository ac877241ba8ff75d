import LinkMeter.Link.Handle
import LinkMeter.Log.Record
import LinkMeter.Text.Order

/-! # The link registry

The links that are up, in the order in which their handles first came, with the interface of each if it has one yet. A
mark says whether the set was touched since the mark was last taken; it starts set, since the first sample has nothing to
be compared with. -/

namespace LinkMeter.Link

/-- The known links and the mark of a change. -/
structure Registry where
  links : List (Handle × Option Text)
  changed : Bool

namespace Registry

/-- No links yet. -/
def empty : Registry := ⟨[], true⟩

/-- The number of links. -/
def size (r : Registry) : Nat := r.links.length

/-- The interface of a link, if the link is known. -/
def get? (r : Registry) (h : Handle) : Option (Option Text) := r.links.lookup h

/-- Whether the link is known. -/
def has (r : Registry) (h : Handle) : Bool := (r.get? h).isSome

/-- The links with an interface put under a handle: in the place of an earlier one, else at the end. -/
def put (h : Handle) (name : Option Text) : List (Handle × Option Text) → List (Handle × Option Text)
  | [] => [(h, name)]
  | (other, n) :: rest => if other = h then (h, name) :: rest else (other, n) :: put h name rest

/-- The registry with the link added or replaced. -/
def insert (r : Registry) (h : Handle) (name : Option Text) : Registry := ⟨put h name r.links, true⟩

/-- The registry without the link. It counts as changed even if the link was not known. -/
def erase (r : Registry) (h : Handle) : Registry := ⟨r.links.filter (·.1 ≠ h), true⟩

/-- The registry with the mark taken off. -/
def settled (r : Registry) : Registry := { r with changed := false }

/-- The interfaces of the links, each once, in ascending order. -/
def names (r : Registry) : List Text := Text.setOf (r.links.filterMap (·.2))

/-- Adds or replaces a link. -/
def add (h : Handle) (name : Option Text) : Logged Registry Unit := do
  let r ← Step.get
  Step.set (r.insert h name)
  match r.get? h with
  | none => Log.write .debug .links ["Link ", h.spelled, " added (interface=", interfaceText name, ")"]
  | some old =>
    Log.write .debug .links
      ["Link ", h.spelled, " updated (interface ", interfaceText old, " -> ", interfaceText name, ")"]

/-- Removes a link if it is known. -/
def remove (h : Handle) : Logged Registry Unit := do
  let r ← Step.get
  Step.set (r.erase h)
  match r.get? h with
  | none => Log.write .debug .links ["Removal of unknown link ", h.spelled, " ignored"]
  | some old => Log.write .debug .links ["Link ", h.spelled, " removed (interface=", interfaceText old, ")"]

/-- Takes the mark of a change. -/
def consume : Logged Registry Bool := do
  let r ← Step.get
  Step.set r.settled
  pure r.changed

end Registry
end LinkMeter.Link
