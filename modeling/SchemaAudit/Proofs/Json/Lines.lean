import SchemaAudit.Proofs.Json.Values

/-! # The characters of a written value

Strings escape every control character, so a written value has none of its own: only the line feeds between its lines
stand below U+0020, and those only where values are indented. What lies outside ASCII comes out of some string of the
value. -/

namespace SchemaAudit.Json

variable {style : Style} {asciiOnly : Bool} {depth k : Nat} {v : Json} {P : Char → Prop} {c d : Char}

/-- A value without a number with a point, whose strings hold nothing but certain characters. -/
inductive Spelled (P : Char → Prop) : Json → Prop
  | null : Spelled P .null
  | bool (b : Bool) : Spelled P (.bool b)
  | int (n : Int) : Spelled P (.int n)
  | str {s : String} (chars : ∀ c ∈ s.toList, P c) : Spelled P (.str s)
  | arr {items : List Json} (spelled : ∀ x ∈ items, Spelled P x) : Spelled P (.arr items)
  | obj {members : List (String × Json)} (names : ∀ m ∈ members, ∀ c ∈ m.1.toList, P c)
    (spelled : ∀ m ∈ members, Spelled P m.2) : Spelled P (.obj members)

theorem Spelled.imp {Q : Char → Prop} (h : Spelled P v) (weaker : ∀ c, P c → Q c) : Spelled Q v := by
  induction h with
  | null => exact Spelled.null
  | bool b => exact Spelled.bool b
  | int n => exact Spelled.int n
  | str chars => exact Spelled.str fun c hc => weaker c (chars c hc)
  | arr _ ih => exact Spelled.arr ih
  | obj names _ ih => exact Spelled.obj (fun m hm c hc => weaker c (names m hm c hc)) ih

theorem Readable.spelled [StandIns] (h : Readable asciiOnly depth v) : Spelled (fun _ => True) v := by
  induction h with
  | null => exact Spelled.null
  | bool b => exact Spelled.bool b
  | int few => exact Spelled.int _
  | str whole => exact Spelled.str fun _ _ => trivial
  | arr _ ih => exact Spelled.arr ih
  | obj _ _ _ ih => exact Spelled.obj (fun _ _ _ _ => trivial) ih

/-- A character of ASCII that is no control below the space. -/
def Plain (c : Char) : Prop := 0x20 ≤ c.toNat ∧ c.toNat < 0x80

/-- A character that may stand in a written value: no control, except the line feed between two lines, and outside
ASCII only what strings hold. -/
def Written (style : Style) (P : Char → Prop) (c : Char) : Prop :=
  Plain c ∨ (0x20 ≤ c.toNat ∧ P c) ∨ (style.indented = true ∧ c = '\n')

theorem Written.ne_carriageReturn (h : Written style P c) : c ≠ '\r' := by
  rintro rfl
  rcases h with h | ⟨h, -⟩ | ⟨-, h⟩
  · exact absurd h.1 (by decide)
  · exact absurd h (by decide)
  · exact absurd h (by decide)

theorem Written.of_ascii (h : Written style P c) (hP : ∀ c, c.toNat < 0x80 → P c) : P c := by
  rcases h with h | ⟨-, h⟩ | ⟨-, rfl⟩
  · exact hP c h.2
  · exact h
  · exact hP _ (by decide)

/-! ### Escapes and digits -/

theorem plain_hexDigit : ∀ n < 16, 0x20 ≤ (Text.hexDigit n).toNat ∧ (Text.hexDigit n).toNat < 0x80 := by decide

theorem plain_of_mem_unitEscape {n : Nat} (h : c ∈ unitEscape n) : Plain c := by
  rw [unitEscape, hex_four] at h
  simp only [List.mem_cons, List.not_mem_nil, or_false] at h
  rcases h with rfl | rfl | rfl | rfl | rfl | rfl
  · exact ⟨by decide, by decide⟩
  · exact ⟨by decide, by decide⟩
  all_goals exact plain_hexDigit _ (Nat.mod_lt _ (by decide))

theorem plain_of_mem_longEscape [StandIns] (h : d ∈ longEscape c) : Plain d := by
  simp only [longEscape] at h
  split at h
  · exact plain_of_mem_unitEscape h
  · rcases List.mem_append.mp h with h | h
    · exact plain_of_mem_unitEscape h
    · exact plain_of_mem_unitEscape h

/-- A character stands in a string as it is, or as an escape. -/
theorem mem_stringChar [StandIns] (h : d ∈ stringChar asciiOnly c) : Plain d ∨ (0x20 ≤ d.toNat ∧ d = c) := by
  have two {l : Char} (hl : Plain l) (hd : d ∈ ['\\', l]) : Plain d := by
    simp only [List.mem_cons, List.not_mem_nil, or_false] at hd
    rcases hd with rfl | rfl
    · exact ⟨by decide, by decide⟩
    · exact hl
  unfold stringChar at h
  split at h
  · exact Or.inl (two ⟨by decide, by decide⟩ h)
  split at h
  · exact Or.inl (two ⟨by decide, by decide⟩ h)
  split at h
  · exact Or.inl (two ⟨by decide, by decide⟩ h)
  split at h
  · exact Or.inl (two ⟨by decide, by decide⟩ h)
  split at h
  · exact Or.inl (two ⟨by decide, by decide⟩ h)
  split at h
  · exact Or.inl (two ⟨by decide, by decide⟩ h)
  split at h
  · exact Or.inl (two ⟨by decide, by decide⟩ h)
  split at h
  · exact Or.inl (plain_of_mem_unitEscape h)
  split at h
  · exact Or.inl (plain_of_mem_longEscape h)
  · cases List.mem_singleton.mp h
    exact Or.inr ⟨by omega, rfl⟩

theorem written_of_mem_stringText [StandIns] {s : List Char} (hs : ∀ c ∈ s, P c) (h : d ∈ stringText asciiOnly s) :
    Written style P d := by
  simp only [stringText, List.mem_cons, List.mem_append, List.mem_flatMap, List.not_mem_nil, or_false] at h
  rcases h with rfl | ⟨c, hc, hd⟩ | rfl
  · exact Or.inl ⟨by decide, by decide⟩
  · rcases mem_stringChar hd with hplain | ⟨hlow, rfl⟩
    · exact Or.inl hplain
    · exact Or.inr (Or.inl ⟨hlow, hs d hc⟩)
  · exact Or.inl ⟨by decide, by decide⟩

theorem plain_of_isDigit (h : isDigit d = true) : Plain d := by
  simp only [isDigit, Bool.and_eq_true, decide_eq_true_eq, Char.le_def] at h
  have hlow : ('0' : Char).val.toNat ≤ d.val.toNat := h.1
  have hhigh : d.val.toNat ≤ ('9' : Char).val.toNat := h.2
  exact ⟨Nat.le_trans (by decide) hlow, Nat.lt_of_le_of_lt hhigh (by decide)⟩

theorem plain_of_mem_integerText {n : Int} (h : d ∈ Number.integerText n) : Plain d := by
  cases n with
  | ofNat n => exact plain_of_isDigit (isDigit_of_mem_naturalText h)
  | negSucc n =>
    rcases List.mem_cons.mp h with rfl | h
    · exact ⟨by decide, by decide⟩
    · exact plain_of_isDigit (isDigit_of_mem_naturalText h)

/-! ### Between items -/

theorem written_of_mem_lineStart (hs : style.indented = true) (h : c ∈ lineStart k) : Written style P c := by
  rcases List.mem_cons.mp h with rfl | h
  · exact Or.inr (Or.inr ⟨hs, rfl⟩)
  · rw [List.eq_of_mem_replicate h]
    exact Or.inl ⟨by decide, by decide⟩

theorem written_of_mem_opening (h : c ∈ opening style k) : Written style P c := by
  unfold opening at h
  split at h
  · exact written_of_mem_lineStart ‹_› h
  · cases h

theorem written_of_mem_separator (h : c ∈ separator style k) : Written style P c := by
  unfold separator at h
  split at h
  · rcases List.mem_cons.mp h with rfl | h
    · exact Or.inl ⟨by decide, by decide⟩
    · exact written_of_mem_lineStart ‹_› h
  · simp only [List.mem_cons, List.not_mem_nil, or_false] at h
    rcases h with rfl | rfl
    · exact Or.inl ⟨by decide, by decide⟩
    · exact Or.inl ⟨by decide, by decide⟩

theorem written_of_mem_memberText [StandIns] {m : String × Json} (hname : ∀ c ∈ m.1.toList, P c)
    (hvalue : ∀ c ∈ valueText style k m.2, Written style P c) (h : c ∈ memberText style k m) : Written style P c := by
  simp only [memberText, List.mem_append, List.mem_cons, List.not_mem_nil, or_false] at h
  rcases h with h | (rfl | rfl) | h
  · exact written_of_mem_stringText hname h
  · exact Or.inl ⟨by decide, by decide⟩
  · exact Or.inl ⟨by decide, by decide⟩
  · exact hvalue c h

theorem written_of_mem_itemsText [StandIns]
    {items : List Json} (hi : ∀ x ∈ items, ∀ c ∈ valueText style k x, Written style P c)
    (h : c ∈ itemsText style k items) : Written style P c := by
  induction items with
  | nil => cases h
  | cons x items ih =>
    simp only [itemsText, List.mem_append] at h
    rcases h with (h | h) | h
    · exact written_of_mem_separator h
    · exact hi x List.mem_cons_self c h
    · exact ih (fun y hy => hi y (List.mem_cons_of_mem _ hy)) h

theorem written_of_mem_membersText [StandIns]
    {members : List (String × Json)} (hnames : ∀ m ∈ members, ∀ c ∈ m.1.toList, P c)
    (hm : ∀ m ∈ members, ∀ c ∈ valueText style k m.2, Written style P c) (h : c ∈ membersText style k members) :
    Written style P c := by
  induction members with
  | nil => cases h
  | cons m members ih =>
    rw [membersText_cons, List.mem_append, List.mem_append] at h
    rcases h with h | h | h
    · exact written_of_mem_separator h
    · exact written_of_mem_memberText (hnames m List.mem_cons_self) (hm m List.mem_cons_self) h
    · exact ih (fun p hp => hnames p (List.mem_cons_of_mem _ hp)) (fun p hp => hm p (List.mem_cons_of_mem _ hp)) h

/-! ### Whole values -/

theorem Spelled.written [StandIns] (h : Spelled P v) (k : Nat) : ∀ c ∈ valueText style k v, Written style P c := by
  have plain {l : Char} (texts : List Char) (ht : texts.all fun l => 0x20 ≤ l.toNat && l.toNat < 0x80)
      (hl : l ∈ texts) : Written style P l := by
    simp only [List.all_eq_true, Bool.and_eq_true, decide_eq_true_eq] at ht
    exact Or.inl (ht l hl)
  induction h generalizing k with
  | null => exact fun c hc => plain ['n', 'u', 'l', 'l'] (by decide) hc
  | bool b =>
    cases b with
    | true => exact fun c hc => plain ['t', 'r', 'u', 'e'] (by decide) hc
    | false => exact fun c hc => plain ['f', 'a', 'l', 's', 'e'] (by decide) hc
  | int n => exact fun c hc => Or.inl (plain_of_mem_integerText hc)
  | str chars => exact fun c hc => written_of_mem_stringText chars hc
  | @arr items _ ih =>
    intro c hc
    cases items with
    | nil => exact plain ['[', ']'] (by decide) hc
    | cons x items =>
      simp only [valueText_arr_cons, List.mem_cons, List.mem_append, List.not_mem_nil, or_false] at hc
      rcases hc with rfl | hc | hc | hc | hc | rfl
      · exact Or.inl ⟨by decide, by decide⟩
      · exact written_of_mem_opening hc
      · exact ih x List.mem_cons_self (k + 1) c hc
      · exact written_of_mem_itemsText (fun y hy => ih y (List.mem_cons_of_mem _ hy) (k + 1)) hc
      · exact written_of_mem_opening hc
      · exact Or.inl ⟨by decide, by decide⟩
  | @obj members names _ ih =>
    intro c hc
    cases members with
    | nil => exact plain ['\x7b', '\x7d'] (by decide) hc
    | cons m members =>
      simp only [valueText_obj_cons, List.mem_cons, List.mem_append, List.not_mem_nil, or_false] at hc
      rcases hc with rfl | hc | hc | hc | hc | rfl
      · exact Or.inl ⟨by decide, by decide⟩
      · exact written_of_mem_opening hc
      · exact written_of_mem_memberText (names m List.mem_cons_self) (ih m List.mem_cons_self (k + 1)) hc
      · exact written_of_mem_membersText (fun p hp => names p (List.mem_cons_of_mem _ hp))
          (fun p hp => ih p (List.mem_cons_of_mem _ hp) (k + 1)) hc
      · exact written_of_mem_opening hc
      · exact Or.inl ⟨by decide, by decide⟩

/-- A value that is not indented is written on one line, without a control character. -/
theorem Readable.visible_toText [StandIns] (h : Readable asciiOnly depth v) (hs : style.indented = false) :
    ∀ c ∈ (v.toText style).toList, 0x20 ≤ c.toNat := by
  intro c hc
  rw [toText, String.toList_ofList] at hc
  rcases h.spelled.written 0 c hc with hplain | ⟨hlow, -⟩ | ⟨hindented, -⟩
  · exact hplain.1
  · exact hlow
  · cases hs.symm.trans hindented

end SchemaAudit.Json
