import LinkMeter.Host.Watcher
import LinkMeter.Proofs.Step

/-! # Connectivity and links

The watcher compares sets of addresses of any family; the question for the connectivity looks for one internet address
that reaches a network. Where every address says what it is and its text tells its family, the answer to the question can
be read off the links that the watcher compares (`isConnected_of_named`), so it changes only when they do. -/

namespace LinkMeter.Host

namespace Watcher

/-! ## The links of a host -/

theorem mem_place {link l : Text × List Text} {links : Links} : l ∈ place link links ↔ l = link ∨ l ∈ links := by
  induction links with
  | nil => simp [place]
  | cons other rest ih =>
    unfold place
    split
    · exact List.mem_cons
    · rw [List.mem_cons, List.mem_cons, ih]
      exact or_left_comm

/-- The link of an interface that is said to be up or not. -/
def linkOf (addresses : List (Text × List Address)) (state : Text × Bool) : Text × List Text :=
  (state.1, addressSet (addressesOf addresses state.1))

theorem mem_linksOf {states : List (Text × Bool)} {addresses : List (Text × List Address)} {l : Text × List Text} :
    l ∈ linksOf states addresses ↔ ∃ state ∈ states, isTracked state = true ∧ linkOf addresses state = l := by
  suffices h : ∀ tracked : List (Text × Bool),
      l ∈ tracked.foldr (fun s links => place (linkOf addresses s) links) [] ↔
        ∃ state ∈ tracked, linkOf addresses state = l by
    refine (h (states.filter isTracked)).trans ?_
    simp only [List.mem_filter, and_assoc]
  intro tracked
  induction tracked with
  | nil => simp
  | cons s rest ih =>
    rw [List.foldr_cons, mem_place, ih]
    simp only [List.mem_cons, exists_eq_or_imp, @eq_comm _ l]

theorem mem_addressSet {t : Text} {as_ : List Address} :
    t ∈ addressSet as_ ↔ t ≠ [] ∧ ∃ a ∈ as_, a.text = some t := by
  unfold addressSet
  rw [Text.mem_setOf, List.mem_filterMap]
  simp only [Option.filter_eq_some_iff, decide_eq_true_eq]
  constructor
  · rintro ⟨a, ha, htext, hne⟩
    exact ⟨hne, a, ha, htext⟩
  · rintro ⟨hne, a, ha, htext⟩
    exact ⟨a, ha, htext, hne⟩

end Watcher

/-! ## The answer of the probe -/

/-- Every address says what it is, and its text tells its family. -/
def Named (family : Text → Family) (as_ : List Address) : Prop :=
  ∀ a ∈ as_, ∃ t, a.text = some t ∧ t ≠ [] ∧ a.family = family t

/-- Whether an address of the family that its text tells reaches a network. -/
def reaches (family : Text → Family) (t : Text) : Bool := family t != .link && isRoutable t

/-- Whether one of the links has an address that reaches a network. -/
def connects (family : Text → Family) (links : Links) : Bool := links.any fun l => l.2.any (reaches family)

section Named
variable {family : Text → Family} {as_ : List Address} {states : List (Text × Bool)}
  {addresses : List (Text × List Address)}

theorem Named.tail {a : Address} (h : Named family (a :: as_)) : Named family as_ :=
  fun b hb => h b (List.mem_cons_of_mem a hb)

theorem anyRoutable_of_named (h : Named family as_) :
    anyRoutable as_ = .ok (as_.any fun a => reaches family (a.text.getD [])) := by
  induction as_ with
  | nil => rfl
  | cons a rest ih =>
    obtain ⟨t, htext, -, hfamily⟩ := h a List.mem_cons_self
    rw [anyRoutable, List.any_cons, htext, Option.getD_some, hfamily, ih h.tail]
    unfold reaches
    by_cases hlink : family t = .link
    · simp [hlink]
    · by_cases hroutable : isRoutable t = true
      · simp [hlink, hroutable]
      · simp [hlink, hroutable]

theorem any_addressSet (h : Named family as_) :
    (Watcher.addressSet as_).any (reaches family) = as_.any fun a => reaches family (a.text.getD []) := by
  rw [Bool.eq_iff_iff, List.any_eq_true, List.any_eq_true]
  constructor
  · rintro ⟨t, ht, hreaches⟩
    obtain ⟨-, a, ha, htext⟩ := Watcher.mem_addressSet.mp ht
    exact ⟨a, ha, by rw [htext]; exact hreaches⟩
  · rintro ⟨a, ha, hreaches⟩
    obtain ⟨t, htext, hne, -⟩ := h a ha
    rw [htext] at hreaches
    exact ⟨t, Watcher.mem_addressSet.mpr ⟨hne, a, ha, htext⟩, hreaches⟩

theorem anyConnected_of_named (h : ∀ name, Named family (addressesOf addresses name)) :
    anyConnected addresses states =
      .ok (states.any fun state => isTracked state && (Watcher.linkOf addresses state).2.any (reaches family)) := by
  induction states with
  | nil => rfl
  | cons state rest ih =>
    rw [anyConnected, List.any_cons]
    by_cases htracked : isTracked state = true
    · rw [if_pos htracked, htracked, anyRoutable_of_named (h state.1), ← any_addressSet (h state.1), ih]
      unfold Watcher.linkOf
      cases (Watcher.addressSet (addressesOf addresses state.1)).any (reaches family) <;> rfl
    · rw [if_neg htracked, ih]
      simp [htracked]

theorem any_linksOf (p : Text × List Text → Bool) : (Watcher.linksOf states addresses).any p =
    states.any fun state => isTracked state && p (Watcher.linkOf addresses state) := by
  rw [Bool.eq_iff_iff, List.any_eq_true, List.any_eq_true]
  constructor
  · rintro ⟨l, hl, hp⟩
    obtain ⟨state, hstate, htracked, rfl⟩ := Watcher.mem_linksOf.mp hl
    exact ⟨state, hstate, Bool.and_eq_true_iff.mpr ⟨htracked, hp⟩⟩
  · rintro ⟨state, hstate, hp⟩
    obtain ⟨htracked, hp⟩ := Bool.and_eq_true_iff.mp hp
    exact ⟨Watcher.linkOf addresses state, Watcher.mem_linksOf.mpr ⟨state, hstate, htracked, rfl⟩, hp⟩

theorem named_addressesOf (h : ∀ entry ∈ addresses, Named family entry.2) (name : Text) :
    Named family (addressesOf addresses name) := by
  unfold addressesOf
  cases hlookup : addresses.lookup name with
  | none => exact fun a ha => absurd ha List.not_mem_nil
  | some as_ =>
    obtain ⟨before, after, rfl, -⟩ := List.lookup_eq_some_iff.mp hlookup
    exact h (name, as_) (List.mem_append_right _ List.mem_cons_self)

/-- The host is connected if one of its links has an address that reaches a network. -/
theorem isConnected_of_named {σ : Type} (h : ∀ entry ∈ addresses, Named family entry.2) (w : σ) :
    isConnected ⟨.ok states, .ok addresses⟩ w = ⟨[], w, .ok (connects family (Watcher.linksOf states addresses))⟩ := by
  show (Step.lift (anyConnected addresses states) : Logged σ Bool) w = _
  unfold connects
  rw [anyConnected_of_named (named_addressesOf h), any_linksOf]
  rfl

end Named

end LinkMeter.Host
