import LinkMeter.Text.Basic

/-! # The order of texts

Texts are ordered by their code points, the first difference deciding, and a text comes before its extensions. A set of
texts is kept as an ascending list without repetitions, so two sets with the same members are the same list. -/

namespace LinkMeter.Text

/-- The order by code points. -/
def le : Text → Text → Bool
  | [], _ => true
  | _ :: _, [] => false
  | a :: s, b :: t => a < b || (a == b && le s t)

/-- An ascending list of texts with `t` put in its place; a text that is there already is not repeated. -/
def insertInto (t : Text) : List Text → List Text
  | [] => [t]
  | u :: rest =>
    if t = u then u :: rest
    else if le t u then t :: u :: rest
    else u :: insertInto t rest

/-- The set of the given texts: ascending, each once. -/
def setOf (ts : List Text) : List Text := ts.foldr insertInto []

/-- Every text that is given is in the set, and no other. -/
theorem mem_insertInto {t u : Text} {ts : List Text} : u ∈ insertInto t ts ↔ u = t ∨ u ∈ ts := by
  induction ts with
  | nil => simp [insertInto]
  | cons v rest ih =>
    simp only [insertInto]
    split
    · rename_i h; subst h; simp
    · split
      · simp
      · simp only [List.mem_cons, ih]
        constructor
        · rintro (h | h | h) <;> simp [h]
        · rintro (h | h | h) <;> simp [h]

theorem mem_setOf {u : Text} {ts : List Text} : u ∈ setOf ts ↔ u ∈ ts := by
  induction ts with
  | nil => simp [setOf]
  | cons t rest ih =>
    have : setOf (t :: rest) = insertInto t (setOf rest) := rfl
    simp [this, mem_insertInto, ih]

end LinkMeter.Text
