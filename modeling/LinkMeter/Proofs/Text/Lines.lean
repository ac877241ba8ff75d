import LinkMeter.Text.Basic

/-! # Lines and the text that they make up

Splitting a text at a mark undoes putting pieces together with that mark between them, if there is a piece and the mark
is in none of them. -/

namespace LinkMeter.Text

theorem splitAt_ne_nil (mark : CodePoint) (t : Text) : splitAt mark t ≠ [] := by
  cases t with
  | nil => exact List.cons_ne_nil _ _
  | cons c t =>
    unfold splitAt
    split
    · exact List.cons_ne_nil _ _
    · split <;> exact List.cons_ne_nil _ _

theorem splitAt_cons_mark (mark : CodePoint) (t : Text) : splitAt mark (mark :: t) = [] :: splitAt mark t := by
  rw [splitAt]
  split
  · next hnone => exact absurd hnone (splitAt_ne_nil mark t)
  · next hsome => rw [if_pos rfl, hsome]

theorem splitAt_cons_of_ne {mark c : CodePoint} {t piece : Text} {pieces : List Text} (hne : c ≠ mark)
    (h : splitAt mark t = piece :: pieces) : splitAt mark (c :: t) = (c :: piece) :: pieces := by
  rw [splitAt, h]
  exact if_neg hne

theorem splitAt_of_notMem {mark : CodePoint} {t : Text} (h : mark ∉ t) : splitAt mark t = [t] := by
  induction t with
  | nil => rfl
  | cons c t ih =>
    obtain ⟨hne, hrest⟩ := List.ne_and_not_mem_of_not_mem_cons h
    exact splitAt_cons_of_ne hne.symm (ih hrest)

theorem splitAt_append {mark : CodePoint} {t : Text} (h : mark ∉ t) (rest : Text) :
    splitAt mark (t ++ mark :: rest) = t :: splitAt mark rest := by
  induction t with
  | nil => exact splitAt_cons_mark mark rest
  | cons c t ih =>
    obtain ⟨hne, hrest⟩ := List.ne_and_not_mem_of_not_mem_cons h
    exact splitAt_cons_of_ne hne.symm (ih hrest)

/-- Pieces without the mark are found again in the text that they make up. -/
theorem splitAt_join {mark : CodePoint} {ts : List Text} (hnil : ts ≠ []) (h : ∀ t ∈ ts, mark ∉ t) :
    splitAt mark (join [mark] ts) = ts := by
  induction ts with
  | nil => exact absurd rfl hnil
  | cons t ts ih =>
    have ht : mark ∉ t := h t List.mem_cons_self
    cases ts with
    | nil => exact splitAt_of_notMem ht
    | cons u ts =>
      have hrest := ih (List.cons_ne_nil u ts) fun v hv => h v (List.mem_cons_of_mem t hv)
      have hjoin : join [mark] (t :: u :: ts) = t ++ mark :: join [mark] (u :: ts) := by
        rw [join, List.append_assoc, List.singleton_append]
        exact List.cons_ne_nil u ts
      rw [hjoin, splitAt_append ht, hrest]

/-! ## Lines -/

/-- The text is one line: there is something in it, and no line feed. -/
structure IsLine (t : Text) : Prop where
  ne_nil : t ≠ []
  no_feed : lineFeed ∉ t

instance (t : Text) : Decidable (IsLine t) :=
  decidable_of_iff (t ≠ [] ∧ lineFeed ∉ t) ⟨fun h => ⟨h.1, h.2⟩, fun h => ⟨h.ne_nil, h.no_feed⟩⟩

theorem IsLine.append {s t : Text} (hs : IsLine s) (ht : IsLine t) : IsLine (s ++ t) where
  ne_nil := fun hnil => hs.ne_nil (List.append_eq_nil_iff.mp hnil).1
  no_feed := fun hfeed => (List.mem_append.mp hfeed).elim hs.no_feed ht.no_feed

theorem IsLine.cat {t : Text} {ts : List Text} (h : ∀ u ∈ t :: ts, IsLine u) : IsLine (cat (t :: ts)) where
  ne_nil := fun hnil => (h t List.mem_cons_self).ne_nil (List.append_eq_nil_iff.mp hnil).1
  no_feed := fun hfeed => by
    obtain ⟨u, hu, hfeed⟩ := List.mem_flatten.mp hfeed
    exact (h u hu).no_feed hfeed

/-- The characters with which numbers are written come behind the line feed. -/
theorem IsLine.of_le {t : Text} (hnil : t ≠ []) (h : ∀ c ∈ t, 45 ≤ c) : IsLine t where
  ne_nil := hnil
  no_feed := fun hfeed => absurd (h lineFeed hfeed) (by decide)

theorem lines_join {ts : List Text} (hnil : ts ≠ []) (h : ∀ t ∈ ts, IsLine t) : lines (join [lineFeed] ts) = ts :=
  splitAt_join hnil fun t ht => (h t ht).no_feed

theorem join_ne_nil {separator : Text} {ts : List Text} (hnil : ts ≠ []) (h : ∀ t ∈ ts, IsLine t) :
    join separator ts ≠ [] := by
  cases ts with
  | nil => exact absurd rfl hnil
  | cons t ts =>
    have ht : t ≠ [] := (h t List.mem_cons_self).ne_nil
    cases ts with
    | nil => exact ht
    | cons u ts =>
      rw [join]
      · exact fun hempty => ht (List.append_eq_nil_iff.mp (List.append_eq_nil_iff.mp hempty).1).1
      · exact List.cons_ne_nil u ts

end LinkMeter.Text
