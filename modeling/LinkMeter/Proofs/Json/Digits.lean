import LinkMeter.Json.Parser

/-! # Whole numbers are read back

The digits in which a natural number is written are its digits in base ten, so reading them gives the number again. -/

namespace LinkMeter

/-- The text ends, or what follows a value in a list of lines comes: a comma or a line feed. -/
def Json.Ends (rest : Text) : Prop := ∀ c, rest.head? = some c → c = 44 ∨ c = 10

namespace Binary64

/-- The digits of a number, the first one counting most. -/
def decimalDigits (n : Nat) : List Nat := (Nat.toDigits 10 n).map fun c => c.toNat - 48

theorem mem_ofNat {n : Nat} {c : CodePoint} (h : c ∈ Text.ofNat n) : 48 ≤ c ∧ c ≤ 57 := by
  obtain ⟨d, hd, rfl⟩ := List.mem_map.mp h
  have hdigit := Nat.isDigit_of_mem_toDigits (b := 10) (by decide) (by decide) hd
  unfold Char.isDigit at hdigit
  simp only [Bool.and_eq_true, decide_eq_true_eq] at hdigit
  exact ⟨hdigit.1, hdigit.2⟩

/-- Digits are taken up to the first character that is none. -/
theorem takeDigits_append {digits rest : Text} (h : ∀ c ∈ digits, 48 ≤ c ∧ c ≤ 57)
    (hrest : ∀ c, rest.head? = some c → Text.asciiDigit? c = none) :
    takeDigits (digits ++ rest) = (digits.map (· - 48), rest) := by
  induction digits with
  | nil =>
    cases rest with
    | nil => rfl
    | cons c rest =>
      rw [List.nil_append, takeDigits, hrest c rfl]
      rfl
  | cons c digits ih =>
    have hdigit : Text.asciiDigit? c = some (c - 48) := if_pos (h c List.mem_cons_self)
    rw [List.cons_append, takeDigits, hdigit, ih fun d hd => h d (List.mem_cons_of_mem c hd)]
    rfl

theorem map_ofNat (n : Nat) : (Text.ofNat n).map (· - 48) = decimalDigits n := by
  unfold Text.ofNat decimalDigits
  rw [List.map_map]
  rfl

theorem takeDigits_ofNat (n : Nat) {rest : Text} (hrest : Json.Ends rest) :
    takeDigits (Text.ofNat n ++ rest) = (decimalDigits n, rest) := by
  have hnone : ∀ c, rest.head? = some c → Text.asciiDigit? c = none := by
    intro c hc
    obtain rfl | rfl := hrest c hc <;> rfl
  rw [takeDigits_append (fun c hc => mem_ofNat hc) hnone, map_ofNat]

theorem digitsValue_decimalDigits (n : Nat) : digitsValue (decimalDigits n) = n := by
  unfold digitsValue decimalDigits
  rw [List.foldl_map]
  exact Nat.ofDigitChars_ten_toDigits

theorem toDigits_head {n : Nat} (h : 0 < n) : ∃ c rest, Nat.toDigits 10 n = c :: rest ∧ 48 < c.toNat := by
  induction n using Nat.strongRecOn with
  | ind n ih =>
    by_cases hlt : n < 10
    · have hall : ∀ d, d < 10 → 0 < d → 48 < d.digitChar.toNat := by decide
      rw [Nat.toDigits_of_lt_base hlt]
      exact ⟨_, [], rfl, hall n hlt h⟩
    · obtain ⟨c, rest, heq, hc⟩ := ih (n / 10) (by omega) (by omega)
      rw [Nat.toDigits_of_base_le (by decide) (by omega), heq]
      exact ⟨c, rest ++ [_], rfl, hc⟩

/-- No number of several digits starts with a zero. -/
theorem decimalDigits_ne_zero_cons (n d : Nat) (rest : List Nat) : decimalDigits n ≠ 0 :: d :: rest := by
  intro h
  rcases Nat.eq_zero_or_pos n with rfl | hpos
  · cases h
  · obtain ⟨c, digits, heq, hc⟩ := toDigits_head hpos
    unfold decimalDigits at h
    rw [heq, List.map_cons] at h
    have hzero : c.toNat - 48 = 0 := (List.cons.inj h).1
    omega

theorem decimalDigits_ne_nil (n : Nat) : decimalDigits n ≠ [] := by
  unfold decimalDigits
  simp [Nat.toDigits_ne_nil]

theorem length_decimalDigits (n : Nat) : (decimalDigits n).length = (Text.ofNat n).length := by
  unfold decimalDigits Text.ofNat
  rw [List.length_map, List.length_map]

/-- Leading zeros do not change what a number is read as. -/
theorem digitsValue_padded (width n : Nat) : digitsValue ((Text.padded width n).map (· - 48)) = n := by
  have hzeros : ∀ k digits, digitsValue (List.replicate k 0 ++ digits) = digitsValue digits := by
    intro k digits
    induction k with
    | zero => rfl
    | succ k ih => exact ih
  unfold Text.padded
  rw [List.map_append, List.map_replicate, map_ofNat, hzeros, digitsValue_decimalDigits]

theorem padded_injective {width m n : Nat} (h : Text.padded width m = Text.padded width n) : m = n := by
  rw [← digitsValue_padded width m, h, digitsValue_padded]

end Binary64

namespace Json.Parser

theorem number_of_digits {t rest : Text} {digits : List Nat} (htake : Binary64.takeDigits t = (digits, rest))
    (hnil : digits ≠ []) (hzero : ∀ d tail, digits ≠ 0 :: d :: tail) (hlength : digits.length ≤ mostDigits)
    (hfraction : fraction rest = ([], rest)) (hexponent : exponent? rest = none) :
    number t = .ok (.int (Binary64.digitsValue digits), rest) := by
  unfold number
  split
  rename_i negative body heq
  obtain ⟨rfl, rfl⟩ : negative = false ∧ body = t := by
    split at heq
    · -- A sign is no digit.
      have hsign : ([], 45 :: _) = (digits, rest) := htake
      exact absurd (Prod.mk.inj hsign).1.symm hnil
    · cases heq
      exact ⟨rfl, rfl⟩
  rw [htake]
  split
  · rename_i heq
    exact absurd (Prod.mk.inj heq).1 hnil
  · rename_i d tail _ heq
    exact absurd (Prod.mk.inj heq).1 (hzero d tail)
  · rename_i heq
    cases heq
    rw [hfraction]
    dsimp only
    rw [hexponent]
    dsimp only
    rw [if_neg (by simp), if_neg (Nat.not_lt.mpr hlength)]
    rfl

/-- A natural number is read up to the end of its digits. -/
theorem number_ofNat {n : Nat} (h : (Text.ofNat n).length ≤ mostDigits) {rest : Text} (hrest : Ends rest) :
    number (Text.ofNat n ++ rest) = .ok (.int n, rest) := by
  have hfraction : fraction rest = ([], rest) := by
    cases rest with
    | nil => rfl
    | cons c rest => obtain rfl | rfl := hrest c rfl <;> rfl
  have hexponent : exponent? rest = none := by
    cases rest with
    | nil => rfl
    | cons c rest => obtain rfl | rfl := hrest c rfl <;> rfl
  have hread := number_of_digits (Binary64.takeDigits_ofNat n hrest) (Binary64.decimalDigits_ne_nil n)
    (Binary64.decimalDigits_ne_zero_cons n) (by rwa [Binary64.length_decimalDigits]) hfraction hexponent
  rwa [Binary64.digitsValue_decimalDigits] at hread

end Json.Parser
end LinkMeter
