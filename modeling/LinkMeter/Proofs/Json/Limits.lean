import LinkMeter.Json.Parser
import LinkMeter.Text.Utf8

/-! # Faults of reading

Bytes are a fault only if they are no text, and a text that is read as JSON only if it goes beyond a limit of the reader:
the digits of an integer, or the depth of nesting. Every other text that is no JSON is malformed. -/

namespace LinkMeter

namespace Utf8

theorem collect_error {pieces : List Piece} {e : Fault} (h : collect pieces = .error e) :
    ∃ error first last byte, e = .undecodable error first last byte := by
  induction pieces with
  | nil => cases h
  | cons piece rest ih =>
    cases piece with
    | char c =>
      rw [collect] at h
      cases hrest : collect rest with
      | ok t =>
        rw [hrest] at h
        cases h
      | error e' =>
        rw [hrest] at h
        cases h
        exact ih hrest
    | bad error start bytes => exact ⟨_, _, _, _, (Except.error.inj h).symm⟩

end Utf8

namespace Json.Parser
variable {α β : Type}

/-- The fault is a limit of the reader. -/
inductive IsLimit : Fault → Prop where
  | digits (n : Nat) : IsLimit (.digitLimit (some n))
  | depth (inArray : Bool) : IsLimit (.nestedTooDeep inArray)

/-- Reading ends in no fault but a limit. -/
def Limited (r : Except Failure α) : Prop := ∀ e, r = .error (.fault e) → IsLimit e

theorem Limited.ok (a : α) : Limited (.ok a : Except Failure α) := nofun

theorem Limited.malformed : Limited (.error .malformed : Except Failure α) := nofun

theorem Limited.map {r : Except Failure α} (h : Limited r) (f : α → β) : Limited (r.map f) := by
  intro e he
  cases r with
  | error f => exact h e (by cases he; rfl)
  | ok a => cases he

theorem Limited.bind {r : Except Failure α} {f : α → Except Failure β} (h : Limited r) (hf : ∀ a, Limited (f a)) :
    Limited (r >>= f) := by
  intro e he
  cases r with
  | error f => exact h e (by cases he; rfl)
  | ok a => exact hf a e he

theorem number_limited (t : Text) : Limited (number t) := by
  unfold number
  split
  split
  · exact .malformed
  · exact .malformed
  · dsimp only
    split
    · exact .ok _
    · split
      · exact .ok _
      · split
        · intro e he
          cases he
          exact .digits _
        · exact .ok _

theorem limited (fuel : Nat) : (∀ room t, Limited (value fuel room t)) ∧ (∀ room t, Limited (items fuel room t)) ∧
    ∀ room t, Limited (members fuel room t) := by
  -- On the fuel, for the three readers at once: each calls another with one unit less.
  induction fuel with
  | zero => exact ⟨fun _ _ => .malformed, fun _ _ => .malformed, fun _ _ => .malformed⟩
  | succ fuel ih =>
    obtain ⟨hvalue, hitems, hmembers⟩ := ih
    refine ⟨fun room t => ?_, fun room t => ?_, fun room t => ?_⟩
    · cases t with
      | nil => exact .malformed
      | cons c rest =>
        unfold value
        split
        · split
          · exact .ok _
          · exact .malformed
        · split
          · split
            · intro e he
              cases he
              exact .depth _
            · dsimp only
              split
              · split
                · exact .ok _
                · exact (hitems _ _).map _
              · split
                · exact .ok _
                · exact (hmembers _ _).map _
          · split
            · exact .ok _
            · exact (number_limited _).map _
    · unfold items
      refine (hvalue room t).bind fun found => ?_
      dsimp only
      split
      · exact .ok _
      · exact (hitems _ _).map _
      · exact .malformed
    · unfold members
      split
      · split
        · exact .malformed
        · split
          · refine (hvalue _ _).bind fun found => ?_
            dsimp only
            split
            · exact .ok _
            · exact (hmembers _ _).map _
            · exact .malformed
          · exact .malformed
      · exact .malformed

theorem parse_limited (t : Text) : Limited (parse t) := by
  unfold parse
  refine ((limited _).1 _ _).bind fun found => ?_
  dsimp only
  split
  · exact .ok _
  · exact .malformed

end Json.Parser
end LinkMeter
