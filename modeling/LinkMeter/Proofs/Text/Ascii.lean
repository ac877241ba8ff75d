import LinkMeter.Text.Utf8

/-! # Texts of single bytes

A text whose characters are single bytes is decoded from its bytes, and the system gives it back as it was. -/

namespace LinkMeter.Text

/-- Each character of the text is one byte. -/
def Ascii (t : Text) : Prop := ∀ c ∈ t, c < 128

instance (t : Text) : Decidable (Ascii t) := inferInstanceAs (Decidable (∀ c ∈ t, c < 128))

theorem Ascii.piecesFrom {t : Text} (h : Ascii t) (at_ : Nat) :
    Utf8.piecesFrom at_ none (Utf8.encode t) = t.map .char := by
  induction t generalizing at_ with
  | nil => rfl
  | cons c t ih =>
    have hc : c < 128 := h c List.mem_cons_self
    have hbyte : (UInt8.ofNat c).toNat = c := UInt8.toNat_ofNat_of_lt' (Nat.lt_trans hc (by decide))
    have hnext : Utf8.next at_ (UInt8.ofNat c) none = ([.char c], none) := by
      show Utf8.first at_ (UInt8.ofNat c) = _
      unfold Utf8.first
      rw [hbyte, if_pos hc]
    have hbytes : Utf8.encode (c :: t) = UInt8.ofNat c :: Utf8.encode t := by
      show Utf8.encodeOne c ++ Utf8.encode t = _
      unfold Utf8.encodeOne
      rw [if_pos hc, List.singleton_append]
    rw [hbytes, Utf8.piecesFrom, hnext]
    show _ :: Utf8.piecesFrom (at_ + 1) none (Utf8.encode t) = _
    rw [ih fun d hd => h d (List.mem_cons_of_mem c hd)]
    rfl

theorem Ascii.decode_encode {t : Text} (h : Ascii t) : Utf8.decode (Utf8.encode t) = .ok t := by
  have hcollect : ∀ t : Text, Utf8.collect (t.map .char) = .ok t := by
    intro t
    induction t with
    | nil => rfl
    | cons c t ih =>
      rw [List.map_cons, Utf8.collect, ih]
      rfl
  unfold Utf8.decode
  rw [h.piecesFrom, hcollect]

theorem Ascii.append {s t : Text} (hs : Ascii s) (ht : Ascii t) : Ascii (s ++ t) :=
  fun c hc => (List.mem_append.mp hc).elim (hs c) (ht c)

theorem Ascii.cat {ts : List Text} (h : ∀ t ∈ ts, Ascii t) : Ascii (cat ts) := by
  intro c hc
  obtain ⟨t, ht, hc⟩ := List.mem_flatten.mp hc
  exact h t ht c hc

theorem Ascii.join {separator : Text} {ts : List Text} (hseparator : Ascii separator) (h : ∀ t ∈ ts, Ascii t) :
    Ascii (join separator ts) := by
  induction ts with
  | nil => exact fun c hc => absurd hc List.not_mem_nil
  | cons t ts ih =>
    have hrest := ih fun u hu => h u (List.mem_cons_of_mem t hu)
    cases ts with
    | nil => exact h t List.mem_cons_self
    | cons u ts => exact ((h t List.mem_cons_self).append hseparator).append hrest

theorem Ascii.replicate {c : CodePoint} (h : c < 128) (n : Nat) : Ascii (List.replicate n c) :=
  fun _ hd => List.eq_of_mem_replicate hd ▸ h

/-- A text of single bytes comes back from the system unchanged. -/
theorem Ascii.throughSystem {t : Text} (h : Ascii t) : Utf8.throughSystem t = t := by
  have hbytes : Utf8.toSystem t = Utf8.encode t := by
    unfold Utf8.toSystem Utf8.encode
    rw [List.flatMap_def, List.flatMap_def]
    refine congrArg List.flatten (List.map_congr_left fun c hc => if_neg ?_)
    have hlow : ¬ 0xDC80 ≤ c := Nat.not_le.mpr (Nat.lt_trans (h c hc) (by decide))
    unfold Utf8.isStray
    simp [hlow]
  have hpieces : ∀ t : Text, (t.map Utf8.Piece.char).flatMap Utf8.systemPiece = t := by
    intro t
    induction t with
    | nil => rfl
    | cons c t ih =>
      rw [List.map_cons, List.flatMap_cons, ih]
      rfl
  unfold Utf8.throughSystem Utf8.ofSystem
  rw [hbytes, h.piecesFrom, hpieces]

end LinkMeter.Text
