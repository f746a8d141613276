import SchemaAudit.Proofs.Json.Strings

/-! # Whole numbers as JSON

A whole number that has no more digits than are read is read back from its text, unless what stands behind it carries
it on: `readNumber_integerText`. One with more digits is refused: `readNumber_of_many`. -/

namespace SchemaAudit.Json

/-! ### Digits -/

theorem isDigit_of_mem_naturalText {n : Nat} {c : Char} (h : c ∈ Number.naturalText n) : isDigit c = true := by
  have hd : c.isDigit = true := Nat.isDigit_of_mem_toDigits (by decide) (by decide) h
  simp only [Char.isDigit, Bool.and_eq_true, decide_eq_true_eq, ge_iff_le] at hd
  simp only [isDigit, Bool.and_eq_true, decide_eq_true_eq, Char.le_def]
  exact hd

theorem naturalText_ne_nil (n : Nat) : Number.naturalText n ≠ [] := by
  rw [Number.naturalText, Nat.toDigits_eq_if (by decide)]
  split <;> simp

theorem toNat_digitChar : ∀ d < 10, (Nat.digitChar d).toNat - 0x30 = d := by decide

theorem digitsValue_append (ds : List Char) (c : Char) :
    digitsValue (ds ++ [c]) = digitsValue ds * 10 + (c.toNat - 0x30) := by
  simp only [digitsValue, List.foldl_append, List.foldl_cons, List.foldl_nil]

theorem digitsValue_naturalText (n : Nat) : digitsValue (Number.naturalText n) = n := by
  induction n using Nat.strongRecOn with
  | _ n ih =>
    rw [Number.naturalText, Nat.toDigits_eq_if (by decide)]
    split
    · simp only [digitsValue, List.foldl_cons, List.foldl_nil]
      rw [toNat_digitChar n ‹_›]
      omega
    · have hlt : n / 10 < n := by omega
      have hq := ih (n / 10) hlt
      rw [Number.naturalText] at hq
      rw [digitsValue_append, hq, toNat_digitChar _ (Nat.mod_lt _ (by decide))]
      omega

/-- Only zero is written with a zero in front. -/
theorem naturalText_zero_cons {n : Nat} {ds : List Char} (h : Number.naturalText n = '0' :: ds) : ds = [] := by
  induction n using Nat.strongRecOn generalizing ds with
  | _ n ih =>
    rw [Number.naturalText, Nat.toDigits_eq_if (by decide)] at h
    split at h
    · simp only [List.cons.injEq] at h
      exact h.2.symm
    · obtain ⟨d, es, hd⟩ := List.exists_cons_of_ne_nil (naturalText_ne_nil (n / 10))
      have hd' : Nat.toDigits 10 (n / 10) = d :: es := hd
      rw [hd', List.cons_append, List.cons.injEq] at h
      have hn : Number.naturalText (n / 10) = '0' :: es := by rw [hd, h.1]
      have hes := ih (n / 10) (by omega) hn
      have hv := digitsValue_naturalText (n / 10)
      rw [hn, hes] at hv
      simp [digitsValue] at hv
      omega

/-! ### Reading -/

/-- A text that cannot carry on a number. -/
def EndsNumber (rest : List Char) : Prop :=
  ∀ c ∈ rest.head?, isDigit c = false ∧ c ≠ '.' ∧ c ≠ 'e' ∧ c ≠ 'E'

variable {rest : List Char}

theorem takeWhile_isDigit {ds : List Char} (hd : ∀ c ∈ ds, isDigit c = true) (hr : EndsNumber rest) :
    (ds ++ rest).takeWhile isDigit = ds ∧ (ds ++ rest).dropWhile isDigit = rest := by
  have h0 : rest.takeWhile isDigit = [] ∧ rest.dropWhile isDigit = rest := by
    cases rest with
    | nil => exact ⟨rfl, rfl⟩
    | cons c rest =>
      have hc := (hr c rfl).1
      exact ⟨List.takeWhile_cons_of_neg (by simp [hc]), List.dropWhile_cons_of_neg (by simp [hc])⟩
  rw [List.takeWhile_append_of_pos hd, List.dropWhile_append_of_pos hd, h0.1, h0.2, List.append_nil]
  exact ⟨rfl, rfl⟩

theorem readWhole_naturalText (n : Nat) (hr : EndsNumber rest) :
    readWhole (Number.naturalText n ++ rest) = some (Number.naturalText n, rest) := by
  obtain ⟨d, ds, hd⟩ := List.exists_cons_of_ne_nil (naturalText_ne_nil n)
  have hall : ∀ c ∈ d :: ds, isDigit c = true := fun c hc => isDigit_of_mem_naturalText (hd ▸ hc)
  rw [hd, List.cons_append]
  by_cases h0 : d = '0'
  · subst h0
    rw [naturalText_zero_cons hd]
    rfl
  · obtain ⟨ht, hw⟩ := takeWhile_isDigit (fun c hc => hall c (List.mem_cons_of_mem _ hc)) hr
    rw [readWhole.eq_2 _ _ (fun h => absurd h h0), if_pos (hall d List.mem_cons_self), ht, hw]

theorem readFraction_of_ends (hr : EndsNumber rest) : readFraction rest = (none, rest) := by
  unfold readFraction
  split
  · exact absurd rfl (hr '.' rfl).2.1
  · rfl

theorem readExponent_of_ends (hr : EndsNumber rest) : readExponent rest = (none, rest) := by
  cases rest with
  | nil => rfl
  | cons c rest =>
    have hc := hr c rfl
    rw [readExponent, if_neg (by simp [hc])]

theorem readUnsigned_naturalText (start : List Char) (negative : Bool) (n : Nat) (hr : EndsNumber rest) :
    readUnsigned start negative (Number.naturalText n ++ rest) =
      if digitLimit < (Number.naturalText n).length then
        .error ⟨.tooManyDigits (Number.naturalText n).length, start⟩
      else .ok (.int (if negative then -Int.ofNat n else Int.ofNat n), rest) := by
  rw [readUnsigned, readWhole_naturalText n hr]
  dsimp only
  rw [readFraction_of_ends hr]
  dsimp only
  rw [readExponent_of_ends hr]
  simp only [Option.isNone_none, Bool.and_self, ↓reduceIte, digitsValue_naturalText]

/-- Whether a whole number has no more digits than are read. -/
def FewDigits (n : Int) : Prop := (Number.naturalText n.natAbs).length ≤ digitLimit

instance (n : Int) : Decidable (FewDigits n) := inferInstanceAs (Decidable (_ ≤ _))

theorem readNumber_ofNat (n : Nat) : readNumber (Number.naturalText n ++ rest) =
    readUnsigned (Number.naturalText n ++ rest) false (Number.naturalText n ++ rest) := by
  obtain ⟨d, ds, hd⟩ := List.exists_cons_of_ne_nil (naturalText_ne_nil n)
  have hm : d ≠ '-' := fun h => by
    have := isDigit_of_mem_naturalText (n := n) (c := d) (hd ▸ List.mem_cons_self)
    rw [h] at this
    exact absurd this (by decide)
  rw [hd, List.cons_append, readNumber.eq_2 _ (fun _ h => absurd (List.cons.inj h).1 hm)]

theorem readNumber_integerText {n : Int} (hn : FewDigits n) (hr : EndsNumber rest) :
    readNumber (Number.integerText n ++ rest) = .ok (.int n, rest) := by
  cases n with
  | ofNat n =>
    have hlimit : ¬ digitLimit < (Number.naturalText n).length := Nat.not_lt.mpr hn
    rw [Number.integerText, readNumber_ofNat, readUnsigned_naturalText _ _ n hr, if_neg hlimit]
    rfl
  | negSucc n =>
    have hlimit : ¬ digitLimit < (Number.naturalText (n + 1)).length := Nat.not_lt.mpr hn
    rw [Number.integerText, List.cons_append, readNumber, readUnsigned_naturalText _ _ (n + 1) hr, if_neg hlimit]
    rfl

theorem readNumber_of_many {n : Int} (hn : ¬ FewDigits n) (hr : EndsNumber rest) :
    ∃ stop, readNumber (Number.integerText n ++ rest) = .error stop := by
  cases n with
  | ofNat n =>
    have hlimit : digitLimit < (Number.naturalText n).length := Nat.not_le.mp hn
    rw [Number.integerText, readNumber_ofNat, readUnsigned_naturalText _ _ n hr, if_pos hlimit]
    exact ⟨_, rfl⟩
  | negSucc n =>
    have hlimit : digitLimit < (Number.naturalText (n + 1)).length := Nat.not_le.mp hn
    rw [Number.integerText, List.cons_append, readNumber, readUnsigned_naturalText _ _ (n + 1) hr, if_pos hlimit]
    exact ⟨_, rfl⟩

/-- A number begins with a digit, or with a sign and a digit. -/
theorem integerText_cons (n : Int) : (∃ d ds, Number.integerText n = d :: ds ∧ isDigit d = true) ∨
    ∃ d ds, Number.integerText n = '-' :: d :: ds ∧ isDigit d = true := by
  have digits (m : Nat) : ∃ d ds, Number.naturalText m = d :: ds ∧ isDigit d = true := by
    obtain ⟨d, ds, hd⟩ := List.exists_cons_of_ne_nil (naturalText_ne_nil m)
    exact ⟨d, ds, hd, isDigit_of_mem_naturalText (hd ▸ List.mem_cons_self)⟩
  cases n with
  | ofNat n => exact Or.inl (digits n)
  | negSucc n =>
    obtain ⟨d, ds, hd, hdig⟩ := digits (n + 1)
    exact Or.inr ⟨d, ds, by rw [Number.integerText, hd], hdig⟩

/-- No word begins as a number does. -/
theorem readScalar_eq_readNumber (n : Int) :
    readScalar (Number.integerText n ++ rest) = readNumber (Number.integerText n ++ rest) := by
  rw [readScalar.eq_7]
  all_goals
    intro t ht
    rcases integerText_cons n with ⟨d, ds, hd, hdig⟩ | ⟨d, ds, hd, hdig⟩
    all_goals
      rw [hd] at ht
      simp only [List.cons_append, List.cons.injEq] at ht
      first
        | (obtain ⟨rfl, -⟩ := ht; exact absurd hdig (by decide))
        | (obtain ⟨-, rfl, -⟩ := ht; exact absurd hdig (by decide))

end SchemaAudit.Json
