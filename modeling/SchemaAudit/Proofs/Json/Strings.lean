import SchemaAudit.Json.Reader
import SchemaAudit.Json.Printer
import SchemaAudit.Proofs.Text.Half

/-! # Strings as JSON

A string is read back from its text: `readString_stringText`. Every escape that the printer writes is one that the
reader knows. Where only ASCII is written, a character above U+FFFF becomes a pair of halves, and the reader joins any
two halves that make a pair (`rejoined`); so a string comes back as it was if no half stands in it by itself. -/

namespace SchemaAudit.Json

/-! ### Digits in base sixteen -/

theorem hexValue?_hexDigit : ∀ n < 16, hexValue? (Text.hexDigit n) = some n := by decide

theorem hex_four (n : Nat) : Text.hex 4 n = [Text.hexDigit (n / 4096 % 16), Text.hexDigit (n / 256 % 16),
    Text.hexDigit (n / 16 % 16), Text.hexDigit (n % 16)] := by
  simp only [Text.hex, List.nil_append, List.cons_append, Nat.div_div_eq_div_mul]

theorem hex4?_hex {n : Nat} (h : n < 0x10000) : hex4? (Text.hexDigit (n / 4096 % 16)) (Text.hexDigit (n / 256 % 16))
    (Text.hexDigit (n / 16 % 16)) (Text.hexDigit (n % 16)) = some n := by
  simp only [hex4?, hexValue?_hexDigit _ (Nat.mod_lt _ (by decide : 0 < 16)), Option.bind_eq_bind, Option.bind_some,
    Option.some.injEq]
  omega

/-! ### Strings -/

/-- A string read on with one more character before it. -/
def Step.push (c : Char) (r : Step (List Char)) : Step (List Char) := r.map fun (text, after) => (c :: text, after)

variable {opening rest : List Char} {c : Char}

theorem readString_escaped [StandIns] {l x : Char} (hu : l ≠ 'u') (hx : escaped? l = some x) :
    readString opening ('\\' :: l :: rest) = (readString opening rest).push x := by
  rw [readString.eq_6 _ _ _ (fun _ _ _ _ _ _ h => absurd h hu) (fun h => absurd h hu), hx]
  rfl

theorem readString_shown [StandIns] (hq : c ≠ '"') (hb : c ≠ '\\') (hc : ¬c.toNat < 0x20) :
    readString opening (c :: rest) = (readString opening rest).push c := by
  rw [readString.eq_7 _ _ _ (fun h => absurd h hq) (fun h => absurd h hb) (fun _ _ _ _ _ _ h => absurd h hb)
    (fun _ h => absurd h hb) (fun _ _ h => absurd h hb), if_neg hc]
  rfl

/-- A text that does not begin with the escape of a second half. -/
def NoSecondHalf (s : List Char) : Prop :=
  ∀ a b c d e s', s = '\\' :: 'u' :: a :: b :: c :: d :: e :: s' → ∃ n, hex4? a b c d = some n ∧ Text.isLowHalf n = false

theorem noSecondHalf_of_letter {l : Char} (h : l ≠ 'u') : NoSecondHalf ('\\' :: l :: rest) := by
  intro a b c d e s' heq
  rw [List.cons.injEq, List.cons.injEq] at heq
  exact absurd heq.2.1 h

theorem noSecondHalf_of_shown (h : c ≠ '\\') : NoSecondHalf (c :: rest) := by
  intro a b c d e s' heq
  exact absurd (List.cons.inj heq).1 h

theorem noSecondHalf_unitEscape {n : Nat} (hn : n < 0x10000) (h : Text.isLowHalf n = false) :
    NoSecondHalf (unitEscape n ++ rest) := by
  intro a b c d e s' heq
  rw [unitEscape, hex_four] at heq
  simp only [List.cons_append, List.nil_append, List.cons.injEq] at heq
  obtain ⟨-, -, rfl, rfl, rfl, rfl, -⟩ := heq
  exact ⟨n, hex4?_hex hn, h⟩

/-- A unit stands for its character, unless it is a first half and a second one follows. -/
theorem readString_unitEscape [StandIns]
    {n : Nat} (hn : n < 0x10000) (hh : Text.isHighHalf n = true → NoSecondHalf rest)
    (hr : rest ≠ []) :
    readString opening (unitEscape n ++ rest) = (readString opening rest).push (Text.unitChar n) := by
  obtain ⟨e, rest, rfl⟩ := List.exists_cons_of_ne_nil hr
  rw [unitEscape, hex_four]
  simp only [List.cons_append, List.nil_append]
  rw [readString.eq_4, hex4?_hex hn]
  dsimp only
  split
  · split
    · obtain ⟨low, hlow, hno⟩ := hh ‹_› _ _ _ _ _ _ rfl
      simp only [hlow, hno]
      rfl
    · rfl
  · rfl

/-- Two halves of a pair stand for one character. -/
theorem readString_pair [StandIns]
    {high low : Nat} (hn : high < 0x10000) (ln : low < 0x10000) (hh : Text.isHighHalf high = true)
    (hl : Text.isLowHalf low = true) (hr : rest ≠ []) :
    readString opening (unitEscape high ++ (unitEscape low ++ rest)) =
      (readString opening rest).push (Text.pairChar high low) := by
  obtain ⟨t, rest, rfl⟩ := List.exists_cons_of_ne_nil hr
  rw [unitEscape, unitEscape, hex_four, hex_four]
  simp only [List.cons_append, List.nil_append]
  rw [readString.eq_4, hex4?_hex hn]
  simp only [hh, hl, hex4?_hex ln, ↓reduceIte]
  rfl

theorem isHighHalf_toNat_elim {P : Prop} (h : Text.isHighHalf c.toNat = true) : P := by
  rw [Text.isHighHalf_toNat] at h
  cases h

theorem readString_longEscape [StandIns] (hs : Text.isStandIn c = false) (hr : rest ≠ []) :
    readString opening (longEscape c ++ rest) = (readString opening rest).push c := by
  have hv : c.toNat < 0xd800 ∨ 0xdfff < c.toNat ∧ c.toNat < 0x110000 := c.valid
  rw [longEscape, Text.codePoint_of_not_isStandIn hs]
  split
  · rw [readString_unitEscape ‹_› isHighHalf_toNat_elim hr, Text.unitChar_toNat]
  · have hh : Text.isHighHalf (0xd800 + (c.toNat - 0x10000) / 0x400) = true := by
      simp only [Text.isHighHalf, Bool.and_eq_true, decide_eq_true_eq]
      omega
    have hl : Text.isLowHalf (0xdc00 + (c.toNat - 0x10000) % 0x400) = true := by
      simp only [Text.isLowHalf, Bool.and_eq_true, decide_eq_true_eq]
      omega
    have hc : Text.pairChar (0xd800 + (c.toNat - 0x10000) / 0x400) (0xdc00 + (c.toNat - 0x10000) % 0x400) = c := by
      rw [Text.pairChar, show 0x10000 + (0xd800 + (c.toNat - 0x10000) / 0x400 - 0xd800) * 0x400 +
        (0xdc00 + (c.toNat - 0x10000) % 0x400 - 0xdc00) = c.toNat by omega]
      exact Char.ofNat_toNat c
    rw [List.append_assoc, readString_pair (by omega) (by omega) hh hl hr, hc]

/-- A character as it is written inside a string is read as that character. -/
theorem readString_stringChar [StandIns]
    {asciiOnly : Bool} (hs : asciiOnly = true → Text.isStandIn c = false) (hr : rest ≠ []) :
    readString opening (stringChar asciiOnly c ++ rest) = (readString opening rest).push c := by
  unfold stringChar
  split
  · subst_vars; exact readString_escaped (by decide) rfl
  split
  · subst_vars; exact readString_escaped (by decide) rfl
  split
  · subst_vars; exact readString_escaped (by decide) rfl
  split
  · subst_vars; exact readString_escaped (by decide) rfl
  split
  · subst_vars; exact readString_escaped (by decide) rfl
  split
  · subst_vars; exact readString_escaped (by decide) rfl
  split
  · subst_vars; exact readString_escaped (by decide) rfl
  split
  · rw [readString_unitEscape (by omega) isHighHalf_toNat_elim hr, Text.unitChar_toNat]
  split
  · exact readString_longEscape (hs (by simp_all)) hr
  · exact readString_shown ‹_› ‹_› ‹_›

/-! ### Halves by themselves -/

/-- A text with every first half of a pair joined to a second half behind it. -/
def rejoined [StandIns] : List Char → List Char
  | c :: d :: s =>
    if Text.isHighHalf (Text.codePoint c) && Text.isLowHalf (Text.codePoint d) then
      Text.pairChar (Text.codePoint c) (Text.codePoint d) :: rejoined s
    else c :: rejoined (d :: s)
  | s => s

theorem stringChar_of_isStandIn [StandIns] (h : Text.isStandIn c = true) :
    stringChar true c = unitEscape (Text.codePoint c) := by
  have hlow := Text.le_toNat_of_isStandIn h
  have hne (d : Char) (hd : d.toNat < 0x80) : c ≠ d := by
    rintro rfl
    omega
  unfold stringChar longEscape
  rw [if_neg (hne _ (by decide)), if_neg (hne _ (by decide)), if_neg (hne _ (by decide)), if_neg (hne _ (by decide)),
    if_neg (hne _ (by decide)), if_neg (hne _ (by decide)), if_neg (hne _ (by decide)), if_neg (by omega),
    if_pos (by rw [Bool.true_and]; exact decide_eq_true (by omega))]
  exact if_pos (Text.codePoint_lt_of_isStandIn h)

/-- A character that is no second half is not written as one. -/
theorem noSecondHalf_stringChar [StandIns] (h : Text.isLowHalf (Text.codePoint c) = false) :
    NoSecondHalf (stringChar true c ++ rest) := by
  unfold stringChar
  split
  · exact noSecondHalf_of_letter (by decide)
  split
  · exact noSecondHalf_of_letter (by decide)
  split
  · exact noSecondHalf_of_letter (by decide)
  split
  · exact noSecondHalf_of_letter (by decide)
  split
  · exact noSecondHalf_of_letter (by decide)
  split
  · exact noSecondHalf_of_letter (by decide)
  split
  · exact noSecondHalf_of_letter (by decide)
  split
  · have hlow := Text.isHalf_toNat c
    rw [Text.isHalf, Bool.or_eq_false_iff] at hlow
    exact noSecondHalf_unitEscape (by omega) hlow.2
  split
  · unfold longEscape
    dsimp only
    split
    · exact noSecondHalf_unitEscape ‹_› h
    · have hv : c.toNat < 0xd800 ∨ 0xdfff < c.toNat ∧ c.toNat < 0x110000 := c.valid
      have hp := Text.codePoint_le c
      rw [List.append_assoc]
      refine noSecondHalf_unitEscape (by omega) ?_
      simp only [Text.isLowHalf, Bool.and_eq_false_iff, decide_eq_false_iff_not]
      omega
  · exact noSecondHalf_of_shown ‹_›

/-- A character before a text that does not carry on a pair is read as that character. -/
theorem readString_before [StandIns]
    (h : Text.isHighHalf (Text.codePoint c) = true → NoSecondHalf rest) (hr : rest ≠ []) :
    readString opening (stringChar true c ++ rest) = (readString opening rest).push c := by
  cases hs : Text.isStandIn c with
  | false => exact readString_stringChar (fun _ => hs) hr
  | true =>
    rw [stringChar_of_isStandIn hs, readString_unitEscape (Text.codePoint_lt_of_isStandIn hs) h hr, Text.unitChar_codePoint]

theorem readString_rejoined [StandIns] (s : List Char) :
    readString opening (s.flatMap (stringChar true) ++ '"' :: rest) = .ok (rejoined s, rest) := by
  induction s using rejoined.induct with
  | case1 c d s hpair ih =>
    rw [Bool.and_eq_true] at hpair
    have hc : Text.isStandIn c = true := Text.isStandIn_of_isHalf (by rw [Text.isHalf, hpair.1]; rfl)
    have hd : Text.isStandIn d = true := Text.isStandIn_of_isHalf (by rw [Text.isHalf, hpair.2, Bool.or_true])
    rw [List.flatMap_cons, List.flatMap_cons, stringChar_of_isStandIn hc, stringChar_of_isStandIn hd, List.append_assoc,
      List.append_assoc, readString_pair (Text.codePoint_lt_of_isStandIn hc) (Text.codePoint_lt_of_isStandIn hd)
        hpair.1 hpair.2 (by simp), ih, rejoined, hpair.1, hpair.2]
    rfl
  | case2 c d s hno ih =>
    have hsecond (hhigh : Text.isHighHalf (Text.codePoint c) = true) :
        NoSecondHalf ((d :: s).flatMap (stringChar true) ++ '"' :: rest) := by
      rw [List.flatMap_cons, List.append_assoc]
      refine noSecondHalf_stringChar ?_
      simpa [hhigh] using hno
    rw [List.flatMap_cons, List.append_assoc, readString_before hsecond (by simp), ih, rejoined, if_neg hno]
    rfl
  | case3 s hshort =>
    cases s with
    | nil => exact readString.eq_2 ..
    | cons c s =>
      cases s with
      | nil =>
        rw [List.flatMap_cons, List.flatMap_nil, List.append_nil,
          readString_before (fun _ => noSecondHalf_of_shown (by decide)) (by simp), readString.eq_2]
        rfl
      | cons d s => exact absurd rfl (hshort c d s)

theorem rejoined_of_whole [StandIns] {s : List Char} (h : ∀ c ∈ s, Text.isStandIn c = false) : rejoined s = s := by
  induction s using rejoined.induct with
  | case1 c d s hpair ih =>
    rw [Bool.and_eq_true] at hpair
    have hc : Text.isStandIn c = true := Text.isStandIn_of_isHalf (by rw [Text.isHalf, hpair.1]; rfl)
    rw [h c List.mem_cons_self] at hc
    cases hc
  | case2 c d s hno ih => rw [rejoined, if_neg hno, ih fun x hx => h x (List.mem_cons_of_mem c hx)]
  | case3 s hshort => exact rejoined.eq_2 s hshort

/-! ### Whole strings -/

/-- The text that is read of a string. -/
def textRead [StandIns] (asciiOnly : Bool) (s : List Char) : List Char := if asciiOnly then rejoined s else s

theorem textRead_of_whole [StandIns] {asciiOnly : Bool} {s : List Char}
    (hs : asciiOnly = true → ∀ c ∈ s, Text.isStandIn c = false) : textRead asciiOnly s = s := by
  cases asciiOnly with
  | false => rfl
  | true => exact rejoined_of_whole (hs rfl)

theorem readString_stringText [StandIns] (asciiOnly : Bool) (s : List Char) :
    readString opening (s.flatMap (stringChar asciiOnly) ++ '"' :: rest) = .ok (textRead asciiOnly s, rest) := by
  cases asciiOnly with
  | true => exact readString_rejoined s
  | false =>
    induction s with
    | nil => exact readString.eq_2 ..
    | cons c s ih =>
      have hc : readString opening (stringChar false c ++ (s.flatMap (stringChar false) ++ '"' :: rest)) =
          (readString opening (s.flatMap (stringChar false) ++ '"' :: rest)).push c :=
        readString_stringChar (fun h => Bool.noConfusion h) (by simp)
      rw [List.flatMap_cons, List.append_assoc, hc, ih]
      rfl

end SchemaAudit.Json
