import LinkMeter.Json.Spelling

/-! # Values that cannot be spelled

A value cannot be spelled just if an integer of too many digits stands somewhere in it, at any depth. -/

namespace LinkMeter.Json

/-- The integer has more digits than are written. -/
def Long (n : Int) : Prop := Number.mostDigits < (Text.ofNat n.natAbs).length

instance (n : Int) : Decidable (Long n) := inferInstanceAs (Decidable (_ < _))

namespace Value

/-- The first value is the second or stands in it, as an item or under a name. -/
inductive Within : Value → Value → Prop where
  | self {v : Value} : Within v v
  | item {v w : Value} {items : List Value} (h : w ∈ items) (hw : Within v w) : Within v (.array items)
  | member {v w : Value} {name : Text} {members : List (Text × Value)} (h : (name, w) ∈ members) (hw : Within v w) :
    Within v (.object members)

theorem allSpellable_eq (items : List Value) : allSpellable items = items.all isSpellable := by
  induction items with
  | nil => rfl
  | cons v items ih => rw [allSpellable, List.all_cons, ih]

theorem membersSpellable_eq (members : List (Text × Value)) :
    membersSpellable members = members.all fun f => f.2.isSpellable := by
  induction members with
  | nil => rfl
  | cons f members ih => rw [membersSpellable, List.all_cons, ih]

theorem isSpellable_int (n : Int) : isSpellable (.number (.int n)) = false ↔ Long n := by
  rw [isSpellable, decide_eq_false_iff_not, Nat.not_le]
  rfl

theorem isSpellable_array (items : List Value) :
    isSpellable (.array items) = false ↔ ∃ v ∈ items, v.isSpellable = false := by
  rw [isSpellable, allSpellable_eq, List.all_eq_false]
  simp only [Bool.not_eq_true]

theorem isSpellable_object (members : List (Text × Value)) :
    isSpellable (.object members) = false ↔ ∃ f ∈ members, f.2.isSpellable = false := by
  rw [isSpellable, membersSpellable_eq, List.all_eq_false]
  simp only [Bool.not_eq_true]

theorem isSpellable_of_within {v w : Value} (h : Within v w) (hv : v.isSpellable = false) : w.isSpellable = false := by
  induction h with
  | self => exact hv
  | item h _ ih => exact (isSpellable_array _).mpr ⟨_, h, ih⟩
  | member h _ ih => exact (isSpellable_object _).mpr ⟨_, h, ih⟩

mutual

theorem exists_long : (v : Value) → v.isSpellable = false → ∃ n, Within (.number (.int n)) v ∧ Long n
  | .number (.int n), h => ⟨n, .self, (isSpellable_int n).mp h⟩
  | .array items, h =>
    have ⟨w, hw, n, hn, hlong⟩ := exists_long_item items ((isSpellable_array items).mp h)
    ⟨n, .item hw hn, hlong⟩
  | .object members, h =>
    have ⟨f, hf, n, hn, hlong⟩ := exists_long_member members ((isSpellable_object members).mp h)
    ⟨n, .member hf hn, hlong⟩
  | .null, h | .bool _, h | .number (.float _), h | .string _, h => absurd h (by simp [isSpellable])

theorem exists_long_item : (items : List Value) → (∃ v ∈ items, v.isSpellable = false) →
    ∃ v ∈ items, ∃ n, Within (.number (.int n)) v ∧ Long n
  | [], h => absurd h (by simp)
  | v :: items, ⟨w, hmem, hw⟩ => by
    rcases List.mem_cons.mp hmem with heq | hrest
    · exact ⟨v, List.mem_cons_self, exists_long v (heq ▸ hw)⟩
    · obtain ⟨u, hu, hn⟩ := exists_long_item items ⟨w, hrest, hw⟩
      exact ⟨u, List.mem_cons_of_mem v hu, hn⟩

theorem exists_long_member : (members : List (Text × Value)) → (∃ f ∈ members, f.2.isSpellable = false) →
    ∃ f ∈ members, ∃ n, Within (.number (.int n)) f.2 ∧ Long n
  | [], h => absurd h (by simp)
  | (name, v) :: members, ⟨f, hmem, hf⟩ => by
    rcases List.mem_cons.mp hmem with heq | hrest
    · rw [heq] at hf
      exact ⟨(name, v), List.mem_cons_self, exists_long v hf⟩
    · obtain ⟨g, hg, hn⟩ := exists_long_member members ⟨f, hrest, hf⟩
      exact ⟨g, List.mem_cons_of_mem _ hg, hn⟩

end

theorem isSpellable_eq_false_iff (v : Value) :
    v.isSpellable = false ↔ ∃ n, Within (.number (.int n)) v ∧ Long n :=
  ⟨exists_long v, fun ⟨n, hn, hlong⟩ => isSpellable_of_within hn ((isSpellable_int n).mpr hlong)⟩

end Value
end LinkMeter.Json
