import SchemaAudit.Display.Markup

/-! # Texts that need no escape

Escaping only adds backslashes, so a text is its own escaped form exactly if nothing has to be added: no bracket in it
opens a word in brackets, and its last backslash does not stand alone (`escape_eq_self_iff`). -/

namespace SchemaAudit.Display

variable {n : Nat} {s : List Char} {text : String}

/-- A text that stands for itself in markup: nothing in it is read as a word in brackets, and no lone backslash at its
end is taken with what follows. -/
structure Literal (text : String) : Prop where
  brackets : ∀ before rest, text.toList = before ++ '[' :: rest → opensTag rest = false
  slashes : ∀ before, text.toList = before ++ ['\\'] → before.getLast? = some '\\'

theorem literal_empty : Literal "" := ⟨by simp, by simp⟩

/-! ### Words in brackets -/

theorem length_escapeTags_cons (n : Nat) (c : Char) (s : List Char) : (escapeTags n (c :: s)).length =
    if c = '\\' then (escapeTags (n + 1) s).length
    else (if c = '[' ∧ opensTag s = true then 2 * n + 1 else n) + 1 + (escapeTags 0 s).length := by
  rw [escapeTags]
  simp only [Bool.and_eq_true, decide_eq_true_eq]
  split
  · rfl
  split
  · simp only [List.length_append, List.length_replicate, List.length_cons]
    omega
  · simp only [List.length_append, List.length_replicate, List.length_cons]
    omega

theorem le_length_escapeTags (n : Nat) (s : List Char) : n + s.length ≤ (escapeTags n s).length := by
  induction s generalizing n with
  | nil =>
    rw [escapeTags, List.length_replicate]
    exact Nat.le_refl n
  | cons c s ih =>
    have counted := ih (n + 1)
    have dropped := ih 0
    rw [length_escapeTags_cons, List.length_cons]
    split
    · omega
    split
    · omega
    · omega

/-- A word in brackets makes the escaped text longer. -/
theorem lt_length_escapeTags (before : List Char) {rest : List Char} (h : opensTag rest = true) (n : Nat) :
    n + (before ++ '[' :: rest).length < (escapeTags n (before ++ '[' :: rest)).length := by
  induction before generalizing n with
  | nil =>
    have := le_length_escapeTags 0 rest
    rw [List.nil_append, length_escapeTags_cons, if_neg (by decide), if_pos ⟨rfl, h⟩, List.length_cons]
    omega
  | cons c before ih =>
    have counted := ih (n + 1)
    have dropped := ih 0
    rw [List.cons_append, length_escapeTags_cons, List.length_cons]
    split
    · omega
    split
    · omega
    · omega

theorem escapeTags_eq (n : Nat) (h : ∀ before rest, s = before ++ '[' :: rest → opensTag rest = false) :
    escapeTags n s = List.replicate n '\\' ++ s := by
  induction s generalizing n with
  | nil => rw [escapeTags, List.append_nil]
  | cons c s ih =>
    have htail : ∀ before rest, s = before ++ '[' :: rest → opensTag rest = false := fun before rest hs =>
      h (c :: before) rest (by rw [hs, List.cons_append])
    rw [escapeTags]
    split
    · rename_i hslash
      rw [ih (n + 1) htail, hslash, List.replicate_succ', List.append_assoc, List.singleton_append]
    · have hnot : ¬ (decide (c = '[') && opensTag s) = true := by
        rw [Bool.and_eq_true, decide_eq_true_eq]
        rintro ⟨rfl, hopens⟩
        cases (h [] s rfl).symm.trans hopens
      rw [if_neg hnot, ih 0 htail, List.replicate_zero, List.nil_append]

/-! ### The last backslash -/

theorem closeSlash_eq (s : List Char) : closeSlash s = s ∨ closeSlash s = s ++ ['\\'] := by
  unfold closeSlash
  split
  · exact Or.inl rfl
  · exact Or.inr rfl
  · exact Or.inl rfl

theorem closeSlash_eq_self_iff :
    closeSlash s = s ↔ ∀ before, s = before ++ ['\\'] → before.getLast? = some '\\' := by
  have hreverse {before : List Char} (hs : s = before ++ ['\\']) : s.reverse = '\\' :: before.reverse := by
    rw [hs, List.reverse_append, List.reverse_singleton, List.singleton_append]
  unfold closeSlash
  split
  · rename_i rest hs
    refine iff_of_true rfl fun before hbefore => ?_
    rw [hreverse hbefore, List.cons.injEq] at hs
    rw [List.getLast?_eq_head?_reverse, hs.2, List.head?_cons]
  · rename_i rest hnot hs
    refine iff_of_false (by simp) fun h => ?_
    have hlast := h rest.reverse (by rw [← List.reverse_cons, ← hs, List.reverse_reverse])
    rw [List.getLast?_reverse] at hlast
    obtain ⟨rest, rfl⟩ := List.head?_eq_some_iff.mp hlast
    exact hnot rest rfl
  · rename_i _ hnot
    exact iff_of_true rfl fun before hbefore => absurd (hreverse hbefore) (hnot _)

/-! ### Whole texts -/

theorem le_length_escape (text : String) : text.length ≤ (escape text).length := by
  have htags := le_length_escapeTags 0 text.toList
  rw [escape, String.length_ofList, ← String.length_toList]
  rcases closeSlash_eq (escapeTags 0 text.toList) with hclose | hclose
  · rw [hclose]
    omega
  · rw [hclose, List.length_append]
    omega

/-- A text that does not get longer needs no escape. -/
theorem literal_of_length (h : (escape text).length = text.length) : Literal text := by
  have htags := le_length_escapeTags 0 text.toList
  rw [escape, String.length_ofList, ← String.length_toList] at h
  rcases closeSlash_eq (escapeTags 0 text.toList) with hclose | hclose
  · rw [hclose] at h
    have brackets : ∀ before rest, text.toList = before ++ '[' :: rest → opensTag rest = false := by
      intro before rest hsplit
      cases hopens : opensTag rest with
      | false => rfl
      | true =>
        have hlonger := lt_length_escapeTags before hopens 0
        rw [← hsplit] at hlonger
        omega
    rw [escapeTags_eq 0 brackets, List.replicate_zero, List.nil_append] at hclose
    exact ⟨brackets, closeSlash_eq_self_iff.mp hclose⟩
  · rw [hclose, List.length_append, List.length_singleton] at h
    omega

theorem escape_eq_self_iff : escape text = text ↔ Literal text := by
  refine ⟨fun h => literal_of_length (by rw [h]), fun h => ?_⟩
  rw [escape, escapeTags_eq 0 h.brackets, List.replicate_zero, List.nil_append, closeSlash_eq_self_iff.mpr h.slashes,
    String.ofList_toList]

theorem escape_eq_empty_iff : escape text = "" ↔ text = "" := by
  constructor
  · intro h
    have hlength := le_length_escape text
    rw [h] at hlength
    exact String.length_eq_zero_iff.mp (Nat.le_zero.mp hlength)
  · rintro rfl
    exact escape_eq_self_iff.mpr literal_empty

end SchemaAudit.Display
