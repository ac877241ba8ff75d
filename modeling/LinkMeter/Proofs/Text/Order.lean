import LinkMeter.Text.Order
import Mathlib.Data.List.Sort

/-! # Ascending lists of texts

The order by code points is total. An ascending list without repetitions is therefore known by its members
(`Ascending.ext`), and a set of texts is such a list. -/

namespace LinkMeter.Text

theorem le_refl (s : Text) : le s s = true := by
  induction s with
  | nil => rfl
  | cons a s ih => simp [le, ih]

theorem le_total (s t : Text) : le s t = true ∨ le t s = true := by
  induction s generalizing t with
  | nil => exact .inl rfl
  | cons a s ih =>
    cases t with
    | nil => exact .inr rfl
    | cons b t =>
      simp only [le, Bool.or_eq_true, Bool.and_eq_true, decide_eq_true_eq, beq_iff_eq]
      rcases Nat.lt_trichotomy a b with h | rfl | h
      · exact .inl (.inl h)
      · rcases ih t with h | h
        · exact .inl (.inr ⟨rfl, h⟩)
        · exact .inr (.inr ⟨rfl, h⟩)
      · exact .inr (.inl h)

theorem le_antisymm {s t : Text} (h : le s t = true) (h' : le t s = true) : s = t := by
  induction s generalizing t with
  | nil =>
    cases t with
    | nil => rfl
    | cons b t => cases h'
  | cons a s ih =>
    cases t with
    | nil => cases h
    | cons b t =>
      simp only [le, Bool.or_eq_true, Bool.and_eq_true, decide_eq_true_eq, beq_iff_eq] at h h'
      rcases h with h | ⟨rfl, h⟩
      · rcases h' with h' | ⟨rfl, -⟩
        · exact absurd h' (Nat.lt_asymm h)
        · exact absurd h (Nat.lt_irrefl _)
      · rcases h' with h' | ⟨-, h'⟩
        · exact absurd h' (Nat.lt_irrefl _)
        · rw [ih h h']

theorem le_trans {s t u : Text} (h : le s t = true) (h' : le t u = true) : le s u = true := by
  induction s generalizing t u with
  | nil => rfl
  | cons a s ih =>
    cases t with
    | nil => cases h
    | cons b t =>
      cases u with
      | nil => cases h'
      | cons c u =>
        simp only [le, Bool.or_eq_true, Bool.and_eq_true, decide_eq_true_eq, beq_iff_eq] at h h' ⊢
        rcases h with h | ⟨rfl, h⟩
        · rcases h' with h' | ⟨rfl, -⟩
          · exact .inl (Nat.lt_trans h h')
          · exact .inl h
        · rcases h' with h' | ⟨rfl, h'⟩
          · exact .inl h'
          · exact .inr ⟨rfl, ih h h'⟩

/-- The first text comes before the second. -/
def Before (s t : Text) : Prop := le s t = true ∧ s ≠ t

instance : Std.Irrefl Before := ⟨fun _ h => h.2 rfl⟩

instance : Std.Antisymm Before := ⟨fun _ _ h h' => le_antisymm h.1 h'.1⟩

theorem Before.trans {s t u : Text} (h : Before s t) (h' : Before t u) : Before s u := by
  refine ⟨le_trans h.1 h'.1, ?_⟩
  rintro rfl
  exact h.2 (le_antisymm h.1 h'.1)

/-- Each text comes before those after it. -/
def Ascending (ts : List Text) : Prop := ts.Pairwise Before

theorem Ascending.ext {ts us : List Text} (ht : Ascending ts) (hu : Ascending us) (h : ∀ t, t ∈ ts ↔ t ∈ us) : ts = us :=
  List.Pairwise.eq_of_mem_iff ht hu h

theorem Ascending.nodup {ts : List Text} (h : Ascending ts) : ts.Nodup := List.Pairwise.imp (fun hlt => hlt.2) h

theorem Ascending.filter {ts : List Text} (h : Ascending ts) (p : Text → Bool) : Ascending (ts.filter p) :=
  List.Pairwise.filter p h

theorem ascending_insertInto (t : Text) {ts : List Text} (h : Ascending ts) : Ascending (insertInto t ts) := by
  induction ts with
  | nil => exact List.pairwise_singleton _ t
  | cons u rest ih =>
    obtain ⟨hu, hrest⟩ := List.pairwise_cons.mp h
    unfold insertInto
    split
    · exact h
    · rename_i hne
      split
      · rename_i hle
        have ht : Before t u := ⟨hle, hne⟩
        refine List.pairwise_cons.mpr ⟨fun v hv => ?_, h⟩
        rcases List.mem_cons.mp hv with rfl | hv
        · exact ht
        · exact ht.trans (hu v hv)
      · rename_i hle
        have ht : Before u t := ⟨(le_total t u).resolve_left hle, Ne.symm hne⟩
        refine List.pairwise_cons.mpr ⟨fun v hv => ?_, ih hrest⟩
        rcases mem_insertInto.mp hv with rfl | hv
        · exact ht
        · exact hu v hv

theorem ascending_setOf (ts : List Text) : Ascending (setOf ts) := by
  induction ts with
  | nil => exact List.Pairwise.nil
  | cons t rest ih => exact ascending_insertInto t ih

end LinkMeter.Text
