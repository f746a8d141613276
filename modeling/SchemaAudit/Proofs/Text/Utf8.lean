import SchemaAudit.Text.Utf8

/-! # UTF-8, written and read

What stands at the start of the bytes of a character is that character, so a text survives being written in UTF-8 and
read again: `decodeUtf8_encodeUtf8`. No other bytes stand for a character, so only texts are read: `decodeUtf8_eq_ok_iff`.
-/

namespace SchemaAudit.Text

theorem toNat_ofNat_byte {n : Nat} (h : n < 256) : (UInt8.ofNat n).toNat = n := by
  rw [UInt8.toNat_ofNat']
  exact Nat.mod_eq_of_lt h

theorem isContinuation_ofNat {n : Nat} (h : n < 64) : isContinuation (UInt8.ofNat (n + 0x80)) = true := by
  have hb := toNat_ofNat_byte (n := n + 0x80) (by omega)
  simp only [isContinuation, Bool.and_eq_true, decide_eq_true_eq, UInt8.le_iff_toNat_le, hb]
  exact ⟨by simp, by simp; omega⟩

theorem low6_ofNat {n : Nat} (h : n < 64) : low6 (UInt8.ofNat (n + 0x80)) = n := by
  rw [low6, toNat_ofNat_byte (by omega)]
  omega

theorem maySecond_ofNat {first n : Nat} (hf : first < 256) (hn : n < 64) (he0 : first = 0xe0 → 0x20 ≤ n)
    (hed : first = 0xed → n < 0x20) (hf0 : first = 0xf0 → 0x10 ≤ n) (hf4 : first = 0xf4 → n < 0x10) :
    maySecond (UInt8.ofNat first) (UInt8.ofNat (n + 0x80)) = true := by
  have h1 := toNat_ofNat_byte hf
  have h2 := toNat_ofNat_byte (n := n + 0x80) (by omega)
  simp only [maySecond, isContinuation_ofNat hn, UInt8.le_iff_toNat_le, UInt8.lt_iff_toNat_lt, ← UInt8.toNat_inj, h1,
    h2]
  simp
  omega

/-- The bounds of the step that a first byte decides. -/
theorem utf8Step_ofNat {n : Nat} (hn : n < 256) (rest : List UInt8) : utf8Step (UInt8.ofNat n) rest =
    if n < 0x80 then .char (Char.ofNat n) 0
    else if n < 0xc2 then .fault .invalidStart 0
    else if n < 0xe0 then utf8Longer (UInt8.ofNat n) (n % 32) 1 rest
    else if n < 0xf0 then utf8Longer (UInt8.ofNat n) (n % 16) 2 rest
    else if n < 0xf5 then utf8Longer (UInt8.ofNat n) (n % 8) 3 rest
    else .fault .invalidStart 0 := by
  simp only [utf8Step, UInt8.lt_iff_toNat_lt, toNat_ofNat_byte hn]
  rfl

theorem utf8Step_two {n : Nat} (h1 : 0x80 ≤ n) (h2 : n ≤ 0x7ff) (rest : List UInt8) :
    utf8Step (UInt8.ofNat (n / 64 % 0x20 + 0xc0)) (UInt8.ofNat (n % 0x40 + 0x80) :: rest) = .char (Char.ofNat n) 1 := by
  rw [utf8Step_ofNat (by omega), if_neg (by omega), if_neg (by omega), if_pos (by omega)]
  simp only [utf8Longer]
  rw [if_pos (maySecond_ofNat (by omega) (by omega) (by omega) (by omega) (by omega) (by omega)), low6_ofNat (by omega)]
  congr 2
  omega

theorem utf8Step_three {n : Nat} (h1 : 0x800 ≤ n) (h2 : n ≤ 0xffff) (h3 : n < 0xd800 ∨ 0xdfff < n) (rest : List UInt8) :
    utf8Step (UInt8.ofNat (n / 4096 % 0x10 + 0xe0))
      (UInt8.ofNat (n / 64 % 0x40 + 0x80) :: UInt8.ofNat (n % 0x40 + 0x80) :: rest) = .char (Char.ofNat n) 2 := by
  rw [utf8Step_ofNat (by omega), if_neg (by omega), if_neg (by omega), if_neg (by omega), if_pos (by omega)]
  simp only [utf8Longer]
  rw [if_pos (maySecond_ofNat (by omega) (by omega) (by omega) (by omega) (by omega) (by omega)),
    if_pos (isContinuation_ofNat (by omega)), low6_ofNat (by omega), low6_ofNat (by omega)]
  congr 2
  omega

theorem utf8Step_four {n : Nat} (h1 : 0x10000 ≤ n) (h2 : n < 0x110000) (rest : List UInt8) :
    utf8Step (UInt8.ofNat (n / 262144 % 0x08 + 0xf0)) (UInt8.ofNat (n / 4096 % 0x40 + 0x80) ::
      UInt8.ofNat (n / 64 % 0x40 + 0x80) :: UInt8.ofNat (n % 0x40 + 0x80) :: rest) = .char (Char.ofNat n) 3 := by
  rw [utf8Step_ofNat (by omega), if_neg (by omega), if_neg (by omega), if_neg (by omega), if_neg (by omega),
    if_pos (by omega)]
  simp only [utf8Longer]
  rw [if_pos (maySecond_ofNat (by omega) (by omega) (by omega) (by omega) (by omega) (by omega)),
    if_pos (isContinuation_ofNat (by omega)), if_pos (isContinuation_ofNat (by omega)), low6_ofNat (by omega),
    low6_ofNat (by omega), low6_ofNat (by omega)]
  congr 2
  omega

/-- What stands at the start of a character's bytes is that character, and they are all of it. -/
theorem utf8Step_utf8EncodeChar (c : Char) (rest : List UInt8) : ∃ first more,
    String.utf8EncodeChar c = first :: more ∧ utf8Step first (more ++ rest) = .char c more.length := by
  have hc : Char.ofNat c.val.toNat = c := Char.ofNat_toNat c
  have hvalid : c.val.toNat < 0xd800 ∨ 0xdfff < c.val.toNat ∧ c.val.toNat < 0x110000 := c.valid
  unfold String.utf8EncodeChar
  dsimp only
  split
  · refine ⟨_, _, rfl, ?_⟩
    rw [utf8Step_ofNat (by omega), if_pos (by omega), hc]
    rfl
  · split
    · refine ⟨_, _, rfl, ?_⟩
      rw [List.singleton_append, utf8Step_two (by omega) (by omega), hc]
      rfl
    · split
      · refine ⟨_, _, rfl, ?_⟩
        rw [List.cons_append, List.singleton_append, utf8Step_three (by omega) (by omega) (by omega), hc]
        rfl
      · refine ⟨_, _, rfl, ?_⟩
        rw [List.cons_append, List.cons_append, List.singleton_append, utf8Step_four (by omega) (by omega), hc]
        rfl

theorem decodeFrom_char {first : UInt8} {rest : List UInt8} {c : Char} {n : Nat}
    (h : utf8Step first rest = .char c n) (position : Nat) :
    decodeFrom position (first :: rest) = (decodeFrom (position + n + 1) (rest.drop n)).map (c :: ·) := by
  rw [decodeFrom]
  split
  · rename_i heq
    cases h.symm.trans heq
    rfl
  · rename_i heq
    cases h.symm.trans heq

theorem decodeFrom_encodeUtf8 (position : Nat) (s : List Char) : decodeFrom position (encodeUtf8 s) = .ok s := by
  induction s generalizing position with
  | nil => rw [encodeUtf8, List.flatMap_nil, decodeFrom]
  | cons c s ih =>
    obtain ⟨first, more, hc, hstep⟩ := utf8Step_utf8EncodeChar c (encodeUtf8 s)
    rw [encodeUtf8, List.flatMap_cons, hc, List.cons_append]
    change decodeFrom position (first :: (more ++ encodeUtf8 s)) = _
    rw [decodeFrom_char hstep, List.drop_left, ih]
    rfl

/-- A text survives being written in UTF-8 and read again. -/
theorem decodeUtf8_encodeUtf8 (s : List Char) : decodeUtf8 (encodeUtf8 s) = .ok s := decodeFrom_encodeUtf8 0 s

/-! ### The other way round -/

section

variable {a b c d : UInt8} {rest : List UInt8} {char : Char} {lead n : Nat}

theorem val_ofNat {n : Nat} (h : n < 0xd800 ∨ 0xdfff < n ∧ n < 0x110000) : (Char.ofNat n).val.toNat = n :=
  toNat_ofNat h

theorem ofNat_eq {n : Nat} (h : n = a.toNat) : UInt8.ofNat n = a := by rw [h, UInt8.ofNat_toNat]

theorem bounds_of_isContinuation (h : isContinuation b = true) : 0x80 ≤ b.toNat ∧ b.toNat ≤ 0xbf := by
  simp only [isContinuation, Bool.and_eq_true, decide_eq_true_eq, UInt8.le_iff_toNat_le] at h
  exact h

theorem bounds_of_maySecond (h : maySecond a b = true) : (0x80 ≤ b.toNat ∧ b.toNat ≤ 0xbf) ∧
    (a.toNat = 0xe0 → 0xa0 ≤ b.toNat) ∧ (a.toNat = 0xed → b.toNat < 0xa0) ∧ (a.toNat = 0xf0 → 0x90 ≤ b.toNat) ∧
    (a.toNat = 0xf4 → b.toNat < 0x90) := by
  simp only [maySecond, Bool.and_eq_true, Bool.not_eq_true', Bool.and_eq_false_iff, decide_eq_false_iff_not,
    UInt8.le_iff_toNat_le, UInt8.lt_iff_toNat_lt, ← UInt8.toNat_inj] at h
  simp only [UInt8.reduceToNat] at h
  obtain ⟨⟨⟨⟨hb, he0⟩, hed⟩, hf0⟩, hf4⟩ := h
  have hb := bounds_of_isContinuation hb
  omega

theorem utf8EncodeChar_one (h : a.toNat < 0x80) : String.utf8EncodeChar (Char.ofNat a.toNat) = [a] := by
  unfold String.utf8EncodeChar
  rw [val_ofNat (Or.inl (by omega))]
  dsimp only
  rw [if_pos (by omega), UInt8.ofNat_toNat]

theorem utf8EncodeChar_two (ha : 0xc2 ≤ a.toNat ∧ a.toNat < 0xe0) (hb : maySecond a b = true) :
    String.utf8EncodeChar (Char.ofNat (a.toNat % 32 * 64 + low6 b)) = [a, b] := by
  obtain ⟨hb, -⟩ := bounds_of_maySecond hb
  unfold String.utf8EncodeChar low6
  rw [val_ofNat (Or.inl (by omega))]
  dsimp only
  rw [if_neg (by omega), if_pos (by omega), ofNat_eq (a := a) (by omega), ofNat_eq (a := b) (by omega)]

theorem utf8EncodeChar_three (ha : 0xe0 ≤ a.toNat ∧ a.toNat < 0xf0) (hb : maySecond a b = true)
    (hc : isContinuation c = true) :
    String.utf8EncodeChar (Char.ofNat ((a.toNat % 16 * 64 + low6 b) * 64 + low6 c)) = [a, b, c] := by
  obtain ⟨hb, h0, hd, -⟩ := bounds_of_maySecond hb
  have hc := bounds_of_isContinuation hc
  unfold String.utf8EncodeChar low6
  rw [val_ofNat (by omega)]
  dsimp only
  rw [if_neg (by omega), if_neg (by omega), if_pos (by omega), ofNat_eq (a := a) (by omega),
    ofNat_eq (a := b) (by omega), ofNat_eq (a := c) (by omega)]

theorem utf8EncodeChar_four (ha : 0xf0 ≤ a.toNat ∧ a.toNat < 0xf5) (hb : maySecond a b = true)
    (hc : isContinuation c = true) (hd : isContinuation d = true) :
    String.utf8EncodeChar (Char.ofNat (((a.toNat % 8 * 64 + low6 b) * 64 + low6 c) * 64 + low6 d)) = [a, b, c, d] := by
  obtain ⟨hb, -, -, h0, h4⟩ := bounds_of_maySecond hb
  have hc := bounds_of_isContinuation hc
  have hd := bounds_of_isContinuation hd
  unfold String.utf8EncodeChar low6
  rw [val_ofNat (by omega)]
  dsimp only
  rw [if_neg (by omega), if_neg (by omega), if_neg (by omega), ofNat_eq (a := a) (by omega),
    ofNat_eq (a := b) (by omega), ofNat_eq (a := c) (by omega), ofNat_eq (a := d) (by omega)]

theorem utf8Longer_char_one (h : utf8Longer a lead 1 rest = .char char n) : ∃ b after, rest = b :: after ∧ n = 1 ∧
    maySecond a b = true ∧ char = Char.ofNat (lead * 64 + low6 b) := by
  rcases rest with - | ⟨b, after⟩
  · cases h
  · simp only [utf8Longer] at h
    split at h
    · cases h
      exact ⟨b, after, rfl, rfl, ‹_›, rfl⟩
    · cases h

theorem utf8Longer_char_two (h : utf8Longer a lead 2 rest = .char char n) : ∃ b c after, rest = b :: c :: after ∧
    n = 2 ∧ maySecond a b = true ∧ isContinuation c = true ∧
      char = Char.ofNat ((lead * 64 + low6 b) * 64 + low6 c) := by
  rcases rest with - | ⟨b, - | ⟨c, after⟩⟩
  · cases h
  · simp only [utf8Longer] at h
    split at h <;> cases h
  · simp only [utf8Longer] at h
    split at h
    · split at h
      · cases h
        exact ⟨b, c, after, rfl, rfl, ‹_›, ‹_›, rfl⟩
      · cases h
    · cases h

theorem utf8Longer_char_three (h : utf8Longer a lead 3 rest = .char char n) : ∃ b c d after,
    rest = b :: c :: d :: after ∧ n = 3 ∧ maySecond a b = true ∧ isContinuation c = true ∧ isContinuation d = true ∧
      char = Char.ofNat (((lead * 64 + low6 b) * 64 + low6 c) * 64 + low6 d) := by
  rcases rest with - | ⟨b, - | ⟨c, - | ⟨d, after⟩⟩⟩
  · cases h
  · simp only [utf8Longer] at h
    split at h <;> cases h
  · simp only [utf8Longer] at h
    split at h
    · split at h <;> cases h
    · cases h
  · simp only [utf8Longer] at h
    split at h
    · split at h
      · split at h
        · cases h
          exact ⟨b, c, d, after, rfl, rfl, ‹_›, ‹_›, ‹_›, rfl⟩
        · cases h
      · cases h
    · cases h

/-- The bytes of a character that stands at the start of some bytes are the first of these. -/
theorem utf8EncodeChar_of_utf8Step (h : utf8Step a rest = .char char n) :
    String.utf8EncodeChar char ++ rest.drop n = a :: rest := by
  simp only [utf8Step, UInt8.lt_iff_toNat_lt] at h
  simp only [UInt8.reduceToNat] at h
  split at h
  · cases h
    rw [utf8EncodeChar_one ‹_›]
    rfl
  split at h
  · cases h
  split at h
  · obtain ⟨b, after, rfl, rfl, hb, rfl⟩ := utf8Longer_char_one h
    rw [utf8EncodeChar_two (by omega) hb]
    rfl
  split at h
  · obtain ⟨b, c, after, rfl, rfl, hb, hc, rfl⟩ := utf8Longer_char_two h
    rw [utf8EncodeChar_three (by omega) hb hc]
    rfl
  split at h
  · obtain ⟨b, c, d, after, rfl, rfl, hb, hc, hd, rfl⟩ := utf8Longer_char_three h
    rw [utf8EncodeChar_four (by omega) hb hc hd]
    rfl
  · cases h

theorem encodeUtf8_of_decodeFrom {position : Nat} {bytes : List UInt8} {s : List Char}
    (h : decodeFrom position bytes = .ok s) : encodeUtf8 s = bytes := by
  induction position, bytes using decodeFrom.induct generalizing s with
  | case1 position =>
    rw [decodeFrom] at h
    cases h
    rfl
  | case2 position first rest c more hstep ih =>
    rw [decodeFrom_char hstep] at h
    cases hrest : decodeFrom (position + more + 1) (rest.drop more) with
    | error e =>
      rw [hrest] at h
      cases h
    | ok t =>
      rw [hrest] at h
      cases h
      rw [encodeUtf8, List.flatMap_cons, ← utf8EncodeChar_of_utf8Step hstep, ← ih hrest]
      rfl
  | case3 position first rest reason more hstep =>
    rw [decodeFrom] at h
    split at h
    · rename_i hchar
      cases hstep.symm.trans hchar
    · cases h

/-- The bytes that are read as a text are those that it is written in. -/
theorem decodeUtf8_eq_ok_iff {bytes : List UInt8} {s : List Char} : decodeUtf8 bytes = .ok s ↔ bytes = encodeUtf8 s := by
  constructor
  · intro h
    exact (encodeUtf8_of_decodeFrom h).symm
  · rintro rfl
    exact decodeUtf8_encodeUtf8 s

end

/-- A text without carriage returns has the line ends of every convention. -/
theorem universalNewlines_eq_self {s : List Char} (h : '\r' ∉ s) : universalNewlines s = s := by
  induction s using universalNewlines.induct with
  | case1 => rfl
  | case2 rest ih => simp at h
  | case3 rest _ ih => simp at h
  | case4 c rest hn1 hn2 ih =>
    rw [universalNewlines, ih fun hr => h (List.mem_cons_of_mem _ hr)]
    · exact fun _ hc _ => h (hc ▸ List.mem_cons_self)
    · exact fun hc => h (hc ▸ List.mem_cons_self)

end SchemaAudit.Text
