import LinkMeter.Json.Printer
import LinkMeter.Proofs.Json.Digits
import LinkMeter.Proofs.Text.Ascii

/-! # A file of fields is read back

Fields that are written with one line for each are read back as they were, if their names are distinct and names and
values are plain: strings whose characters stand for themselves, truth values and natural numbers. -/

namespace LinkMeter.Json

/-- The characters of the text stand for themselves between quotes. -/
def PlainText (t : Text) : Prop := ∀ c ∈ t, 32 ≤ c ∧ c < 127 ∧ c ≠ 34 ∧ c ≠ 92

instance (t : Text) : Decidable (PlainText t) := inferInstanceAs (Decidable (∀ c ∈ t, _))

/-- A truth value, a natural number or a plain string. -/
inductive Plain : Value → Prop where
  | bool (b : Bool) : Plain (.bool b)
  | nat {n : Nat} (h : (Text.ofNat n).length ≤ Parser.mostDigits) : Plain (.number (.int n))
  | string {t : Text} (h : PlainText t) : Plain (.string t)

/-- Every name and value is plain. -/
def PlainFields (fields : Fields) : Prop := ∀ f ∈ fields, PlainText f.1 ∧ Plain f.2

theorem PlainText.tail {c : CodePoint} {t : Text} (h : PlainText (c :: t)) : PlainText t :=
  fun d hd => h d (List.mem_cons_of_mem c hd)

theorem PlainFields.tail {f : Text × Value} {fields : Fields} (h : PlainFields (f :: fields)) : PlainFields fields :=
  fun g hg => h g (List.mem_cons_of_mem f hg)

/-! ## Strings -/

theorem escapedChar_of_plain {c : CodePoint} (h : 32 ≤ c ∧ c < 127 ∧ c ≠ 34 ∧ c ≠ 92) : escapedChar c = [c] := by
  obtain ⟨hlow, hhigh, hquote, hback⟩ := h
  have hne : ∀ d, d < 32 → c ≠ d := fun d hd heq => absurd hlow (Nat.not_le.mpr (heq ▸ hd))
  simp [escapedChar, hlow, hhigh, hquote, hback, hne]

theorem printString_of_plain {t : Text} (h : PlainText t) : printString t = 34 :: (t ++ [34]) := by
  have hchars : t.flatMap escapedChar = t := by
    induction t with
    | nil => rfl
    | cons c t ih => rw [List.flatMap_cons, escapedChar_of_plain (h c List.mem_cons_self), ih h.tail, List.singleton_append]
  unfold printString
  rw [hchars]
  rfl

namespace Parser

theorem units?_of_plain {t : Text} (h : PlainText t) (rest : Text) :
    units? (t ++ 34 :: rest) = some (t.map fun c => ⟨false, c⟩, rest) := by
  induction t with
  | nil => rfl
  | cons c t ih =>
    obtain ⟨hlow, -, hquote, hback⟩ := h c List.mem_cons_self
    have hplain : ¬ (c < 32 ∨ c = 92) := fun hc => hc.elim (Nat.not_lt.mpr hlow) hback
    rw [List.cons_append, units?, if_neg hplain, ih h.tail]
    · rfl
    · exact hquote
    · intro a b c d rest hc
      exact absurd hc hback
    · intro c' rest hc
      exact absurd hc hback

theorem joined_of_plain (t : Text) : joined (t.map fun c => ⟨false, c⟩) = t := by
  induction t with
  | nil => rfl
  | cons c t ih =>
    cases t with
    | nil => rfl
    | cons d t =>
      have hpair : isPair ⟨false, c⟩ ⟨false, d⟩ = false := rfl
      rw [List.map_cons] at ih
      rw [List.map_cons, List.map_cons, joined, hpair, if_neg Bool.false_ne_true, ih]

theorem string?_of_plain {t : Text} (h : PlainText t) (rest : Text) : string? (t ++ 34 :: rest) = some (t, rest) := by
  unfold string?
  rw [units?_of_plain h]
  exact congrArg some (Prod.ext (joined_of_plain t) rfl)

/-! ## Values -/

theorem ofNat_cons (n : Nat) : ∃ c t, Text.ofNat n = c :: t ∧ 48 ≤ c ∧ c ≤ 57 := by
  cases h : Text.ofNat n with
  | nil => exact absurd (List.map_eq_nil_iff.mp h) Nat.toDigits_ne_nil
  | cons c t =>
    have hc : c ∈ Text.ofNat n := h ▸ List.mem_cons_self
    exact ⟨c, t, rfl, Binary64.mem_ofNat hc⟩

theorem word?_of_digit {c : CodePoint} (hlow : 48 ≤ c) (hhigh : c ≤ 57) (t : Text) : word? (c :: t) = none := by
  have hheads : ∀ w ∈ words, ∃ d rest, w.1 = d :: rest ∧ ¬ (48 ≤ d ∧ d ≤ 57) := by
    intro w hw
    simp only [words, List.mem_cons, List.not_mem_nil, or_false] at hw
    obtain rfl | rfl | rfl | rfl | rfl | rfl := hw <;> exact ⟨_, _, rfl, by decide⟩
  refine List.findSome?_eq_none_iff.mpr fun w hw => if_neg ?_
  obtain ⟨d, rest, heq, hd⟩ := hheads w hw
  have hne : d ≠ c := by
    rintro rfl
    exact hd ⟨hlow, hhigh⟩
  rw [heq]
  simp [List.isPrefixOf, hne]

theorem value_digit {c : CodePoint} (hlow : 48 ≤ c) (hhigh : c ≤ 57) (fuel room : Nat) (t : Text) :
    value (fuel + 1) room (c :: t) = (number (c :: t)).map fun (n, rest) => (.number n, rest) := by
  have hquote : c ≠ 34 := by
    rintro rfl
    exact absurd hlow (by decide)
  have hopen : ¬ (c = 91 ∨ c = 123) := by
    rintro (rfl | rfl) <;> exact absurd hhigh (by decide)
  have hword := word?_of_digit hlow hhigh t
  show (if c = 34 then _ else if c = 91 ∨ c = 123 then _ else _) = _
  rw [if_neg hquote, if_neg hopen, hword]

theorem value_of_plain {v : Value} (h : Plain v) {rest : Text} (hrest : Ends rest) (fuel room : Nat) :
    value (fuel + 1) room (print v ++ rest) = .ok (v, rest) := by
  cases h with
  | bool b => cases b <;> rfl
  | @nat n h =>
    obtain ⟨c, t, heq, hlow, hhigh⟩ := ofNat_cons n
    have hnumber := number_ofNat h hrest
    show value (fuel + 1) room (Text.ofNat n ++ rest) = _
    rw [heq, List.cons_append] at hnumber ⊢
    rw [value_digit hlow hhigh, hnumber]
    rfl
  | @string t h =>
    have hstring := string?_of_plain h rest
    show value (fuel + 1) room (printString t ++ rest) = _
    rw [printString_of_plain h, List.cons_append, List.append_assoc, List.singleton_append]
    unfold value
    dsimp only
    rw [if_pos rfl, hstring]

/-! ## Fields -/

theorem skip_print {v : Value} (h : Plain v) (rest : Text) : skip (32 :: (print v ++ rest)) = print v ++ rest := by
  cases h with
  | bool b => cases b <;> rfl
  | @nat n h =>
    obtain ⟨c, t, heq, hlow, -⟩ := ofNat_cons n
    have hspace : isSpace c = false := by
      have hne : ∀ d, d < 48 → c ≠ d := fun d hd heq => absurd hlow (Nat.not_le.mpr (heq ▸ hd))
      simp [isSpace, hne]
    show skip (32 :: (Text.ofNat n ++ rest)) = Text.ofNat n ++ rest
    rw [heq]
    show skip (c :: (t ++ rest)) = _
    unfold skip
    rw [List.dropWhile_cons_of_neg (by rw [hspace]; nofun)]
    rfl
  | @string t h =>
    show skip (32 :: (printString t ++ rest)) = printString t ++ rest
    rw [printString_of_plain h]
    rfl

section Members
variable {f : Text × Value} {rest later : Text}

theorem members_last (hname : PlainText f.1) (hvalue : Plain f.2) (hrest : Ends rest) (hlast : skip rest = 125 :: later)
    (fuel room : Nat) :
    members (fuel + 2) room (34 :: (f.1 ++ 34 :: 58 :: 32 :: (print f.2 ++ rest))) = .ok ([f], later) := by
  have hread := value_of_plain hvalue hrest fuel room
  rw [← skip_print hvalue] at hread
  have hcolon : ∀ t, skip (58 :: t) = 58 :: t := fun _ => rfl
  unfold members
  simp only [string?_of_plain hname, hcolon, hread, hlast, bind, Except.bind]

theorem members_more (hname : PlainText f.1) (hvalue : Plain f.2) (hrest : Ends rest) (hmore : skip rest = 44 :: later)
    {fuel room : Nat} {fields : Fields} {left : Text} (hlater : members (fuel + 1) room (skip later) = .ok (fields, left)) :
    members (fuel + 2) room (34 :: (f.1 ++ 34 :: 58 :: 32 :: (print f.2 ++ rest))) = .ok (f :: fields, left) := by
  have hread := value_of_plain hvalue hrest fuel room
  rw [← skip_print hvalue] at hread
  have hcolon : ∀ t, skip (58 :: t) = 58 :: t := fun _ => rfl
  unfold members
  simp only [string?_of_plain hname, hcolon, hread, hmore, hlater, bind, Except.bind, Except.map]

end Members

end Parser

/-- The line of one field. -/
def fieldLine (f : Text × Value) : Text := .cat ["    ", printString f.1, ": ", print f.2]

theorem fieldLine_of_plain {f : Text × Value} (h : PlainText f.1) (rest : Text) :
    Parser.skip (fieldLine f ++ rest) = 34 :: (f.1 ++ 34 :: 58 :: 32 :: (print f.2 ++ rest)) := by
  have hline : fieldLine f ++ rest = 32 :: 32 :: 32 :: 32 :: (printString f.1 ++ 58 :: 32 :: (print f.2 ++ rest)) := by
    simp [fieldLine, Text.cat, Text.ofString]
  rw [hline, printString_of_plain h, List.cons_append, List.append_assoc]
  rfl

namespace Parser

theorem members_of_plain (f : Text × Value) (fields : Fields) (h : PlainFields (f :: fields)) (fuel room : Nat)
    (hfuel : fields.length ≤ fuel) : members (fuel + 2) room
      (skip (Text.join ",\n" ((f :: fields).map fieldLine) ++ [10, 125])) = .ok (f :: fields, []) := by
  -- Each member spends one unit of fuel on itself, and its value another that is still there for the next member.
  induction fields generalizing f fuel with
  | nil =>
    obtain ⟨hname, hvalue⟩ := h f List.mem_cons_self
    have hends : Ends [10, 125] := fun c hc => .inr (Option.some.inj hc).symm
    show members (fuel + 2) room (skip (fieldLine f ++ [10, 125])) = _
    rw [fieldLine_of_plain hname, members_last hname hvalue hends rfl]
  | cons g fields ih =>
    obtain ⟨hname, hvalue⟩ := h f List.mem_cons_self
    obtain ⟨fuel, rfl⟩ : ∃ fuel', fuel = fuel' + 1 := ⟨fuel - 1, by simp at hfuel; omega⟩
    have hrest := ih g h.tail fuel (Nat.le_of_succ_le_succ hfuel)
    generalize hlater : Text.join ",\n" ((g :: fields).map fieldLine) ++ [10, 125] = later at hrest
    have hends : Ends (44 :: 10 :: later) := fun c hc => .inl (Option.some.inj hc).symm
    have hlines : Text.join ",\n" ((f :: g :: fields).map fieldLine) ++ [10, 125] = fieldLine f ++ 44 :: 10 :: later := by
      rw [← hlater]
      show fieldLine f ++ [44, 10] ++ Text.join ",\n" ((g :: fields).map fieldLine) ++ [10, 125] = _
      simp
    have hskip : skip (10 :: later) = skip later := rfl
    rw [← hskip] at hrest
    rw [hlines, fieldLine_of_plain hname, members_more hname hvalue hends rfl hrest]

/-- Members make an object. -/
theorem value_object {fuel room : Nat} {t rest : Text} {fields : Fields}
    (h : members fuel room (skip t) = .ok (fields, rest)) :
    value (fuel + 1) (room + 1) (123 :: t) = .ok (.object (Fields.merge [] fields), rest) := by
  unfold value
  simp only [Nat.reduceEqDiff, ↓reduceIte, or_true]
  split
  · rename_i heq
    -- A closing brace starts no member.
    rw [heq] at h
    cases fuel with
    | zero => cases h
    | succ fuel => cases h
  · rw [h]
    rfl

end Parser

/-! ## The whole file -/

theorem put_of_not_mem {name : Text} {v : Value} {fields : Fields} (h : name ∉ fields.map Prod.fst) :
    fields.put name v = fields ++ [(name, v)] := by
  induction fields with
  | nil => rfl
  | cons f fields ih =>
    rw [List.map_cons, List.mem_cons, not_or] at h
    rw [Fields.put, if_neg (Ne.symm h.1), ih h.2, List.cons_append]

/-- Fields whose names are distinct and new are put in at the end. -/
theorem merge_of_nodup {fields updates : Fields} (h : ((fields ++ updates).map Prod.fst).Nodup) :
    fields.merge updates = fields ++ updates := by
  induction updates generalizing fields with
  | nil => exact (List.append_nil fields).symm
  | cons f updates ih =>
    have hnew : f.1 ∉ fields.map Prod.fst := by
      intro hmem
      rw [List.map_append, List.nodup_append] at h
      exact h.2.2 f.1 hmem f.1 List.mem_cons_self rfl
    show (fields.put f.1 f.2).merge updates = _
    rw [put_of_not_mem hnew, ih (by rwa [List.append_assoc]), List.append_assoc]
    rfl

theorem length_le_join (fields : Fields) (separator : Text) :
    fields.length ≤ (Text.join separator (fields.map fieldLine)).length := by
  have hline : ∀ f, 0 < (fieldLine f).length := fun f => by simp [fieldLine, Text.cat, Text.ofString]
  induction fields with
  | nil => exact Nat.zero_le 0
  | cons f fields ih =>
    cases fields with
    | nil => exact hline f
    | cons g fields =>
      have hf := hline f
      show _ ≤ (fieldLine f ++ separator ++ Text.join separator ((g :: fields).map fieldLine)).length
      rw [List.length_append, List.length_append, List.length_cons]
      omega

/-- A file of fields with distinct plain names and plain values is read back. -/
theorem parse_printLines {fields : Fields} (hne : fields ≠ []) (hplain : PlainFields fields)
    (hnames : (fields.map Prod.fst).Nodup) : Parser.parse (printLines fields) = .ok (.object fields) := by
  obtain ⟨f, fields, rfl⟩ := List.exists_cons_of_ne_nil hne
  have hlength := length_le_join (f :: fields) ",\n"
  have htext : printLines (f :: fields) =
      123 :: 10 :: (Text.join ",\n" ((f :: fields).map fieldLine) ++ [10, 125]) := by
    show Text.cat [_, Text.join ",\n" ((f :: fields).map fieldLine), _] = _
    simp [Text.cat, Text.ofString]
  have hread := fun fuel => Parser.members_of_plain f fields hplain fuel 986
  rw [htext]
  generalize Text.join ",\n" ((f :: fields).map fieldLine) = lines at hread hlength
  have hvalue : Parser.value (2 * (123 :: 10 :: (lines ++ [10, 125])).length + 2) Parser.deepest
      (123 :: 10 :: (lines ++ [10, 125])) = .ok (.object (f :: fields), []) := by
    have hfuel : fields.length ≤ 2 * (123 :: 10 :: (lines ++ [10, 125])).length - 1 := by
      simp only [List.length_cons, List.length_append] at hlength ⊢
      omega
    have hmerge : Fields.merge [] (f :: fields) = f :: fields := @merge_of_nodup [] (f :: fields) hnames
    have hobject := Parser.value_object (t := 10 :: (lines ++ [10, 125])) (hread _ hfuel)
    rwa [hmerge] at hobject
  unfold Parser.parse
  have hskip : Parser.skip (123 :: 10 :: (lines ++ [10, 125])) = 123 :: 10 :: (lines ++ [10, 125]) := rfl
  rw [hskip, hvalue]
  rfl

/-! ## As bytes -/

theorem PlainText.ascii {t : Text} (h : PlainText t) : Text.Ascii t := fun c hc => Nat.lt_succ_of_lt (h c hc).2.1

theorem ascii_printString {t : Text} (h : PlainText t) : Text.Ascii (printString t) := by
  rw [printString_of_plain h]
  exact Text.Ascii.append (s := [34]) (by decide) (h.ascii.append (by decide))

theorem ascii_print {v : Value} (h : Plain v) : Text.Ascii (print v) := by
  cases h with
  | bool b => cases b <;> decide
  | nat h => exact fun c hc => Nat.lt_of_le_of_lt (Binary64.mem_ofNat hc).2 (by decide)
  | string h => exact ascii_printString h

theorem ascii_printLines {fields : Fields} (h : PlainFields fields) : Text.Ascii (printLines fields) := by
  have hline : ∀ t ∈ fields.map fieldLine, Text.Ascii t := by
    intro t ht
    obtain ⟨f, hf, rfl⟩ := List.mem_map.mp ht
    obtain ⟨hname, hvalue⟩ := h f hf
    refine Text.Ascii.cat ?_
    simp only [List.forall_mem_cons]
    exact ⟨by decide, ascii_printString hname, by decide, ascii_print hvalue, nofun⟩
  refine Text.Ascii.cat ?_
  simp only [List.forall_mem_cons]
  exact ⟨by decide, Text.Ascii.join (by decide) hline, by decide, nofun⟩

end LinkMeter.Json
