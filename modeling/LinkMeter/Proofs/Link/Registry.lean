import LinkMeter.Link.Registry
import LinkMeter.Proofs.Step

/-! # The links of a registry

Adding and removing links never fail. They keep the handles distinct, and what they leave alone are the links of all other
handles. -/

namespace LinkMeter.Link.Registry
variable {h : Handle} {name : Option Text} {links : List (Handle × Option Text)} {link : Handle × Option Text}

theorem add_state (h : Handle) (name : Option Text) (r : Registry) : (add h name r).state = r.insert h name := by
  unfold add
  rw [Step.get_bind, Step.set_bind]
  cases r.get? h <;> rfl

theorem add_result (h : Handle) (name : Option Text) (r : Registry) : (add h name r).result = .ok () := by
  unfold add
  rw [Step.get_bind, Step.set_bind]
  cases r.get? h <;> rfl

theorem remove_state (h : Handle) (r : Registry) : (remove h r).state = r.erase h := by
  unfold remove
  rw [Step.get_bind, Step.set_bind]
  cases r.get? h <;> rfl

theorem remove_result (h : Handle) (r : Registry) : (remove h r).result = .ok () := by
  unfold remove
  rw [Step.get_bind, Step.set_bind]
  cases r.get? h <;> rfl

/-- Taking the mark changes nothing if there is none. -/
theorem settled_of_unchanged {r : Registry} (h : r.changed = false) : r.settled = r := by
  unfold settled
  rw [← h]

theorem handles_put (h : Handle) (name : Option Text) (links : List (Handle × Option Text)) :
    (put h name links).map Prod.fst =
      if h ∈ links.map Prod.fst then links.map Prod.fst else links.map Prod.fst ++ [h] := by
  induction links with
  | nil => rfl
  | cons other rest ih =>
    unfold put
    by_cases heq : other.1 = h
    · simp [heq]
    · have hne : h ≠ other.1 := Ne.symm heq
      simp only [if_neg heq, List.map_cons, ih, List.mem_cons, hne, false_or, List.cons_append]
      split <;> rfl

theorem nodup_put (hd : (links.map Prod.fst).Nodup) : ((put h name links).map Prod.fst).Nodup := by
  rw [handles_put]
  split
  · exact hd
  · rename_i hnew
    refine List.nodup_append.mpr ⟨hd, List.nodup_cons.mpr ⟨List.not_mem_nil, List.nodup_nil⟩, ?_⟩
    intro a ha b hb
    rw [List.mem_singleton.mp hb]
    rintro rfl
    exact hnew ha

theorem of_mem_put (hmem : link ∈ put h name links) : link = (h, name) ∨ link ∈ links := by
  induction links with
  | nil => exact .inl (List.mem_singleton.mp hmem)
  | cons other rest ih =>
    unfold put at hmem
    split at hmem
    · exact (List.mem_cons.mp hmem).imp id (List.mem_cons_of_mem _)
    · rcases List.mem_cons.mp hmem with rfl | hmem
      · exact .inr List.mem_cons_self
      · exact (ih hmem).imp id (List.mem_cons_of_mem _)

theorem mem_put (hd : (links.map Prod.fst).Nodup) : link ∈ put h name links ↔ link = (h, name) ∨ link ∈ links ∧ link.1 ≠ h := by
  induction links with
  | nil => simp [put]
  | cons other rest ih =>
    obtain ⟨handle, n⟩ := other
    rw [List.map_cons, List.nodup_cons] at hd
    obtain ⟨hnew, hd⟩ := hd
    unfold put
    split
    · rename_i heq
      subst heq
      have hother : ∀ l ∈ rest, l.1 ≠ handle := by
        intro l hl heq
        exact hnew (List.mem_map.mpr ⟨l, hl, heq⟩)
      rw [List.mem_cons, List.mem_cons]
      constructor
      · rintro (hlink | hlink)
        · exact .inl hlink
        · exact .inr ⟨.inr hlink, hother link hlink⟩
      · rintro (hlink | ⟨rfl | hlink, hne⟩)
        · exact .inl hlink
        · exact absurd rfl hne
        · exact .inr hlink
    · rename_i heq
      rw [List.mem_cons, List.mem_cons, ih hd]
      constructor
      · rintro (rfl | hlink | ⟨hlink, hne⟩)
        · exact .inr ⟨.inl rfl, heq⟩
        · exact .inl hlink
        · exact .inr ⟨.inr hlink, hne⟩
      · rintro (hlink | ⟨rfl | hlink, hne⟩)
        · exact .inr (.inl hlink)
        · exact .inl rfl
        · exact .inr (.inr ⟨hlink, hne⟩)

theorem nodup_erase {r : Registry} (hd : (r.links.map Prod.fst).Nodup) (h : Handle) :
    ((r.erase h).links.map Prod.fst).Nodup :=
  hd.sublist (List.filter_sublist.map Prod.fst)

theorem mem_erase {r : Registry} : link ∈ (r.erase h).links ↔ link ∈ r.links ∧ link.1 ≠ h := by
  show link ∈ r.links.filter _ ↔ _
  rw [List.mem_filter, decide_eq_true_eq]

/-! ## The link of a handle -/

theorem lookup_link (link : Handle × Option Text) (rest : List (Handle × Option Text)) (h : Handle) :
    (link :: rest).lookup h = if h = link.1 then some link.2 else rest.lookup h := by
  rw [List.lookup_cons]
  by_cases heq : h = link.1
  · rw [if_pos heq, beq_iff_eq.mpr heq]
  · rw [if_neg heq, beq_eq_false_iff_ne.mpr heq]

theorem get?_insert (r : Registry) (h : Handle) (name : Option Text) (other : Handle) :
    (r.insert h name).get? other = if other = h then some name else r.get? other := by
  show (put h name r.links).lookup other = if other = h then some name else r.links.lookup other
  induction r.links with
  | nil => rw [put, lookup_link]
  | cons link rest ih =>
    unfold put
    by_cases hput : link.1 = h
    · rw [if_pos hput, lookup_link, lookup_link, hput]
      by_cases heq : other = h
      · rw [if_pos heq, if_pos heq]
      · rw [if_neg heq, if_neg heq, if_neg heq]
    · rw [if_neg hput, lookup_link, lookup_link, ih]
      by_cases hlink : other = link.1
      · rw [if_pos hlink, if_pos hlink, if_neg (hlink ▸ hput)]
      · rw [if_neg hlink, if_neg hlink]

theorem get?_erase (r : Registry) (h other : Handle) :
    (r.erase h).get? other = if other = h then none else r.get? other := by
  show (r.links.filter (·.1 ≠ h)).lookup other = if other = h then none else r.links.lookup other
  induction r.links with
  | nil => exact (ite_self none).symm
  | cons link rest ih =>
    rw [List.filter_cons, lookup_link]
    by_cases hlost : link.1 = h
    · rw [if_neg (by simp [hlost]), ih, hlost]
      by_cases heq : other = h
      · rw [if_pos heq, if_pos heq]
      · rw [if_neg heq, if_neg heq, if_neg heq]
    · rw [if_pos (by simp [hlost]), lookup_link, ih]
      by_cases hlink : other = link.1
      · rw [if_pos hlink, if_pos hlink, if_neg (hlink ▸ hlost)]
      · rw [if_neg hlink, if_neg hlink]

theorem get?_eq_some_iff {r : Registry} (hd : (r.links.map Prod.fst).Nodup) :
    r.get? h = some name ↔ (h, name) ∈ r.links := by
  unfold get?
  constructor
  · intro hget
    obtain ⟨before, after, hlinks, -⟩ := List.lookup_eq_some_iff.mp hget
    rw [hlinks]
    exact List.mem_append_right _ List.mem_cons_self
  · intro hmem
    obtain ⟨before, after, hlinks⟩ := List.append_of_mem hmem
    refine List.lookup_eq_some_iff.mpr ⟨before, after, hlinks, fun link hlink => ?_⟩
    rw [hlinks, List.map_append] at hd
    have hne := (List.nodup_append.mp hd).2.2 link.1 (List.mem_map_of_mem hlink) h List.mem_cons_self
    simpa using Ne.symm hne

theorem mem_names {r : Registry} (hd : (r.links.map Prod.fst).Nodup) {t : Text} :
    t ∈ r.names ↔ ∃ h, r.get? h = some (some t) := by
  unfold names
  rw [Text.mem_setOf, List.mem_filterMap]
  constructor
  · rintro ⟨⟨h, name⟩, hlink, rfl⟩
    exact ⟨h, (get?_eq_some_iff hd).mpr hlink⟩
  · rintro ⟨h, hget⟩
    exact ⟨(h, some t), (get?_eq_some_iff hd).mp hget, rfl⟩

end LinkMeter.Link.Registry
