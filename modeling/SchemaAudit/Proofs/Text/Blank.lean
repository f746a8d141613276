import SchemaAudit.Text.Blank

/-! # Trimming, words and cuts

What is cut at blanks, at texts and at single characters, for texts that are put together from parts: a part without blanks
before a blank is a word, blanks at the ends of a text are trimmed away, and a text is cut at the first place where
another one stands in it, or at the one place where a character can be. -/

namespace SchemaAudit.Text

variable {s t w before after : List Char} {c sep : Char}

/-- What is found of a text by going through its characters. -/
theorem forall_of_all {p : Char → Prop} [DecidablePred p] (h : (s.all fun c => decide (p c)) = true) : ∀ c ∈ s, p c :=
  fun c hc => of_decide_eq_true (List.all_eq_true.mp h c hc)

/-- A text that is empty or goes on with a blank. -/
def EndsWord (t : List Char) : Prop := ∀ c ∈ t.head?, isBlank c = true

theorem endsWord_nil : EndsWord [] := nofun

theorem endsWord_cons (h : isBlank c = true) : EndsWord (c :: t) := by
  intro d hd
  cases hd
  exact h

/-! ### Words -/

theorem words_blank_cons (h : isBlank c = true) (t : List Char) : words (c :: t) = words t := by
  cases t with
  | nil => simp [words, h]
  | cons d t => simp [words, h]

theorem words_append_of_blank (h : ∀ c ∈ s, isBlank c = true) (t : List Char) : words (s ++ t) = words t := by
  induction s with
  | nil => rfl
  | cons c s ih =>
    rw [List.forall_mem_cons] at h
    rw [List.cons_append, words_blank_cons h.1, ih h.2]

/-- A part without blanks that ends there is a word. -/
theorem words_append (hne : w ≠ []) (hw : ∀ c ∈ w, isBlank c = false) (ht : EndsWord t) :
    words (w ++ t) = w :: words t := by
  induction w with
  | nil => exact absurd rfl hne
  | cons c w ih =>
    rw [List.forall_mem_cons] at hw
    cases w with
    | nil =>
      cases t with
      | nil => simp [words, hw.1]
      | cons d t => simp [words, hw.1, ht d rfl]
    | cons d w =>
      have hrest := ih (List.cons_ne_nil d w) hw.2
      rw [List.cons_append] at hrest
      simp [words, hw.1, hw.2 d List.mem_cons_self, hrest]

theorem words_ne_nil (hc : c ∈ s) (h : isBlank c = false) : words s ≠ [] := by
  induction s with
  | nil => cases hc
  | cons d s ih =>
    cases hd : isBlank d with
    | true =>
      rw [words_blank_cons hd]
      rcases List.mem_cons.mp hc with rfl | hc
      · cases h.symm.trans hd
      · exact ih hc
    | false =>
      cases s with
      | nil => simp [words, hd]
      | cons e s =>
        simp only [words, hd, Bool.false_eq_true, if_false]
        split
        · exact List.cons_ne_nil _ _
        · split
          · exact List.cons_ne_nil _ _
          · exact List.cons_ne_nil _ _

/-- A word has characters, and none of them is blank. -/
theorem word_of_mem_words (h : w ∈ words s) : w ≠ [] ∧ ∀ c ∈ w, isBlank c = false := by
  have single {c : Char} (hc : isBlank c = false) : [c] ≠ [] ∧ ∀ d ∈ [c], isBlank d = false :=
    ⟨List.cons_ne_nil c [], List.forall_mem_singleton.mpr hc⟩
  -- The cases are those of the cut: before a blank a word begins anew, before anything else the next word grows.
  fun_induction words s generalizing w with
  | case1 => cases h
  | case2 c hc => cases h
  | case3 c hc =>
    cases List.mem_singleton.mp h
    exact single (Bool.eq_false_iff.mpr hc)
  | case4 c d rest hc ih => exact ih h
  | case5 c d rest hc hd ih =>
    rcases List.mem_cons.mp h with rfl | h
    · exact single (Bool.eq_false_iff.mpr hc)
    · exact ih h
  | case6 c d rest hc hd hnone ih =>
    cases List.mem_singleton.mp h
    exact single (Bool.eq_false_iff.mpr hc)
  | case7 c d rest hc hd first others hsome ih =>
    rw [hsome] at ih
    rcases List.mem_cons.mp h with rfl | h
    · obtain ⟨-, hfirst⟩ := ih List.mem_cons_self
      exact ⟨List.cons_ne_nil c first, List.forall_mem_cons.mpr ⟨Bool.eq_false_iff.mpr hc, hfirst⟩⟩
    · exact ih (List.mem_cons_of_mem first h)

theorem takeWhile_append {p : Char → Bool} (hs : ∀ c ∈ s, p c = true) (ht : ∀ c ∈ t.head?, p c = false) :
    (s ++ t).takeWhile p = s := by
  rw [List.takeWhile_append_of_pos hs]
  cases t with
  | nil => exact List.append_nil s
  | cons c t => rw [List.takeWhile_cons_of_neg (by simp [ht c rfl]), List.append_nil]

/-- The first word of a text ends where the first blank stands. -/
theorem takeWhile_word (hw : ∀ c ∈ w, isBlank c = false) (ht : EndsWord t) : (w ++ t).takeWhile (!isBlank ·) = w :=
  takeWhile_append (fun c hc => by rw [hw c hc]; rfl) fun c hc => by rw [ht c hc]; rfl

theorem first_word_unique {w' t' : List Char} (hw : ∀ c ∈ w, isBlank c = false) (ht : EndsWord t)
    (hw' : ∀ c ∈ w', isBlank c = false) (ht' : EndsWord t') (h : w ++ t = w' ++ t') : w = w' := by
  rw [← takeWhile_word hw ht, h, takeWhile_word hw' ht']

/-! ### Trimming -/

theorem trimLeft_append (h : ∀ c ∈ s, isBlank c = true) (t : List Char) : trimLeft (s ++ t) = trimLeft t :=
  List.dropWhile_append_of_pos h

theorem trimLeft_cons (h : isBlank c = false) (t : List Char) : trimLeft (c :: t) = c :: t :=
  List.dropWhile_cons_of_neg (by simp [h])

theorem trimLeft_of_head? (h : ∀ c ∈ s.head?, isBlank c = false) : trimLeft s = s := by
  cases s with
  | nil => rfl
  | cons c s => exact trimLeft_cons (h c rfl) s

theorem isBlank_of_mem_head?_trimLeft (h : c ∈ (trimLeft s).head?) : isBlank c = false := by
  have hnot := List.head?_dropWhile_not isBlank s
  rw [trimLeft, Option.mem_def] at h
  rw [h] at hnot
  simpa using hnot

theorem trimRight_append (h : ∀ c ∈ t, isBlank c = true) (s : List Char) : trimRight (s ++ t) = trimRight s := by
  rw [trimRight, trimRight, List.reverse_append,
    List.dropWhile_append_of_pos fun c hc => h c (List.mem_reverse.mp hc)]

theorem trimRight_concat (h : isBlank c = false) (s : List Char) : trimRight (s ++ [c]) = s ++ [c] := by
  rw [trimRight, List.reverse_concat, List.dropWhile_cons_of_neg (by simp [h]), List.reverse_cons, List.reverse_reverse]

/-- A text is what is left of it without the blanks at its end, and those blanks. -/
theorem exists_trimRight (s : List Char) : ∃ blanks, s = trimRight s ++ blanks ∧ ∀ c ∈ blanks, isBlank c = true := by
  refine ⟨(s.reverse.takeWhile isBlank).reverse, ?_, fun c hc => ?_⟩
  · rw [trimRight, ← List.reverse_append, List.takeWhile_append_dropWhile, List.reverse_reverse]
  · exact List.all_eq_true.mp List.all_takeWhile c (List.mem_reverse.mp hc)

theorem isBlank_of_trimRight_eq_nil (h : trimRight s = []) : ∀ c ∈ s, isBlank c = true := by
  obtain ⟨blanks, hs, hblanks⟩ := exists_trimRight s
  rw [h, List.nil_append] at hs
  rwa [hs]

theorem trimRight_of_getLast? (h : ∀ c ∈ s.getLast?, isBlank c = false) : trimRight s = s := by
  rcases List.eq_nil_or_concat s with rfl | ⟨s, c, rfl⟩
  · rfl
  · rw [List.concat_eq_append] at h ⊢
    exact trimRight_concat (h c List.getLast?_concat) s

theorem trim_of_ends (hfirst : ∀ c ∈ s.head?, isBlank c = false) (hlast : ∀ c ∈ s.getLast?, isBlank c = false) :
    trim s = s := by
  rw [trim, trimLeft_of_head? hfirst, trimRight_of_getLast? hlast]

theorem trim_of_word (hw : ∀ c ∈ w, isBlank c = false) : trim w = w :=
  trim_of_ends (fun c hc => hw c (List.mem_of_mem_head? hc)) fun c hc => hw c (List.mem_of_getLast? hc)

theorem isBlank_of_mem_getLast?_trimRight (h : c ∈ (trimRight s).getLast?) : isBlank c = false := by
  rw [trimRight, List.getLast?_reverse] at h
  have := List.head?_dropWhile_not isBlank s.reverse
  rw [h] at this
  simpa using this

theorem isBlank_of_mem_head?_trim (h : c ∈ (trim s).head?) : isBlank c = false := by
  -- What is trimmed off at the end does not reach the first character that is left.
  obtain ⟨blanks, hsplit, -⟩ := exists_trimRight (trimLeft s)
  refine isBlank_of_mem_head?_trimLeft (s := s) ?_
  rw [trim] at h
  rw [hsplit, List.head?_append, Option.mem_def.mp h, Option.some_or]
  rfl

/-- Trimming a text trims its end, if that has more than blanks or no blank stands before it. -/
theorem trimRight_append_kept (h : trimRight t = [] → ∀ c ∈ s.getLast?, isBlank c = false) :
    trimRight (s ++ t) = s ++ trimRight t := by
  obtain ⟨blanks, ht, hblanks⟩ := exists_trimRight t
  have hlast : ∀ c ∈ (s ++ trimRight t).getLast?, isBlank c = false := by
    intro c hc
    cases htrim : (trimRight t).getLast? with
    | none =>
      have hnil := List.getLast?_eq_none_iff.mp htrim
      rw [hnil, List.append_nil] at hc
      exact h hnil c hc
    | some d =>
      rw [List.getLast?_append, htrim, Option.some_or] at hc
      cases hc
      exact isBlank_of_mem_getLast?_trimRight htrim
  calc trimRight (s ++ t) = trimRight ((s ++ trimRight t) ++ blanks) := by rw [List.append_assoc, ← ht]
    _ = trimRight (s ++ trimRight t) := trimRight_append hblanks _
    _ = s ++ trimRight t := trimRight_of_getLast? hlast

/-- Trimming a text takes nothing from a word in it. -/
theorem trimRight_append_word (hne : w ≠ []) (hw : ∀ c ∈ w, isBlank c = false) (s t : List Char) :
    trimRight (s ++ (w ++ t)) = s ++ (w ++ trimRight t) := by
  have hlast : ∀ c ∈ (s ++ w).getLast?, isBlank c = false := by
    intro c hc
    rw [List.getLast?_append, List.getLast?_eq_some_getLast hne, Option.some_or] at hc
    cases hc
    exact hw _ (List.getLast_mem hne)
  rw [← List.append_assoc, trimRight_append_kept fun _ => hlast, List.append_assoc]

theorem trim_append (h : ∀ c ∈ w, isBlank c = true) (s : List Char) : trim (w ++ s) = trim s := by
  rw [trim, trimLeft_append h, trim]

theorem trim_append_blank (h : ∀ c ∈ w, isBlank c = true) (s : List Char) : trim (s ++ w) = trim s := by
  have hnil : trimLeft w = [] := by
    have happend := trimLeft_append h []
    rwa [List.append_nil] at happend
  rw [trim, trim, trimLeft, List.dropWhile_append]
  split
  · rename_i hempty
    rw [trimLeft, List.isEmpty_iff.mp hempty]
    exact congrArg trimRight hnil
  · exact trimRight_append h _

theorem prefix_trimRight (s : List Char) : trimRight s <+: s := by
  obtain ⟨blanks, hs, -⟩ := exists_trimRight s
  exact ⟨blanks, hs.symm⟩

theorem infix_trim (s : List Char) : trim s <:+: s :=
  (prefix_trimRight _).isInfix.trans (List.dropWhile_suffix _).isInfix

theorem endsWord_trimRight (h : EndsWord t) : EndsWord (trimRight t) := by
  obtain ⟨blanks, ht, -⟩ := exists_trimRight t
  intro c hc
  refine h c ?_
  rw [ht, List.head?_append, Option.mem_def.mp hc, Option.some_or]
  rfl

/-! ### Cuts at a text -/

variable {needle : List Char}

theorem not_infix_dropLast (hne : needle ≠ []) : ¬ needle <:+: needle.dropLast := by
  intro h
  have hlength := h.length_le
  have hpos := List.length_pos_iff.mpr hne
  rw [List.length_dropLast] at hlength
  omega

/-- What begins in front of a needle ends before that needle does. -/
theorem isPrefixOf_cons_append_iff (needle before after : List Char) (c : Char) :
    needle.isPrefixOf (c :: (before ++ (needle ++ after))) = true ↔ needle <+: c :: (before ++ needle.dropLast) := by
  have hwhole : c :: (before ++ needle.dropLast) <+: c :: (before ++ (needle ++ after)) := by
    rw [List.cons_prefix_cons, List.prefix_append_right_inj]
    exact ⟨rfl, (List.dropLast_prefix needle).trans (List.prefix_append _ _)⟩
  have hlength : needle.length ≤ (c :: (before ++ needle.dropLast)).length := by
    rw [List.length_cons, List.length_append, List.length_dropLast]
    omega
  rw [List.isPrefixOf_iff_prefix]
  exact ⟨fun h => List.prefix_of_prefix_length_le h hwhole hlength, fun h => h.trans hwhole⟩

theorem cutAt_cons_of_not (h : needle.isPrefixOf (c :: s) = false) :
    cutAt needle (c :: s) = (cutAt needle s).map fun cut => (c :: cut.1, cut.2) := by
  rw [cutAt, h, if_neg Bool.false_ne_true]

/-- A text is cut at the first place where the needle stands: none ends earlier. -/
theorem cutAt_eq_some_iff (hne : needle ≠ []) : cutAt needle s = some (before, after) ↔
    s = before ++ (needle ++ after) ∧ ¬ needle <:+: before ++ needle.dropLast := by
  constructor
  · intro h
    induction s generalizing before with
    | nil =>
      rw [cutAt, if_neg (by simpa using hne)] at h
      cases h
    | cons c s ih =>
      rw [cutAt] at h
      split at h
      · rename_i hstarts
        obtain ⟨t, ht⟩ := List.isPrefixOf_iff_prefix.mp hstarts
        rw [← ht, List.drop_left] at h
        cases h
        exact ⟨ht.symm, not_infix_dropLast hne⟩
      · rename_i hstarts
        obtain ⟨⟨before', after'⟩, hcut, heq⟩ := Option.map_eq_some_iff.mp h
        cases heq
        obtain ⟨rfl, hfirst⟩ := ih hcut
        refine ⟨rfl, fun hinside => ?_⟩
        rcases List.infix_cons_iff.mp hinside with hstart | hinside
        · exact hstarts ((isPrefixOf_cons_append_iff needle before' after c).mpr hstart)
        · exact hfirst hinside
  · rintro ⟨rfl, hfirst⟩
    induction before with
    | nil =>
      obtain ⟨c, rest, rfl⟩ := List.exists_cons_of_ne_nil hne
      have hstarts : (c :: rest).isPrefixOf (c :: (rest ++ after)) = true :=
        List.isPrefixOf_iff_prefix.mpr (List.prefix_append (c :: rest) after)
      rw [List.nil_append, List.cons_append, cutAt, if_pos hstarts, ← List.cons_append, List.drop_left]
    | cons c before ih =>
      have hrest : ¬ needle <:+: before ++ needle.dropLast := fun h => hfirst (List.infix_cons h)
      have hstarts : needle.isPrefixOf (c :: (before ++ (needle ++ after))) = false := by
        refine Bool.eq_false_iff.mpr fun h => hfirst ?_
        exact ((isPrefixOf_cons_append_iff needle before after c).mp h).isInfix
      rw [List.cons_append, cutAt_cons_of_not hstarts, ih hrest]
      rfl

/-- No place where the needle stands is earlier than the one where the text is cut. -/
theorem length_le_of_cutAt {p q : List Char} (hne : needle ≠ []) (h : cutAt needle s = some (before, after))
    (hs : s = p ++ (needle ++ q)) : before.length ≤ p.length := by
  obtain ⟨hcut, hfirst⟩ := (cutAt_eq_some_iff hne).mp h
  refine Nat.le_of_not_lt fun hlater => ?_
  have hstart : before ++ needle.dropLast <+: s := by
    rw [hcut, List.prefix_append_right_inj]
    exact (List.dropLast_prefix needle).trans (List.prefix_append _ _)
  have hplace : p ++ needle <+: s := by
    rw [hs, ← List.append_assoc]
    exact List.prefix_append _ _
  have hlength : (p ++ needle).length ≤ (before ++ needle.dropLast).length := by
    rw [List.length_append, List.length_append, List.length_dropLast]
    omega
  have hwithin : p ++ needle <+: before ++ needle.dropLast := List.prefix_of_prefix_length_le hplace hstart hlength
  exact hfirst ((List.suffix_append p needle).isInfix.trans hwithin.isInfix)

theorem cutAt_eq_none_iff (hne : needle ≠ []) : cutAt needle s = none ↔ ¬ needle <:+: s := by
  induction s with
  | nil => simp [cutAt, hne]
  | cons c s ih =>
    rw [cutAt, List.infix_cons_iff, not_or, ← ih]
    split
    · rename_i hstarts
      simp [List.isPrefixOf_iff_prefix.mp hstarts]
    · rename_i hstarts
      simp [mt List.isPrefixOf_iff_prefix.mpr hstarts]

/-! ### Cuts at one character -/

theorem cutAtChar_of_not_mem (h : sep ∉ before) (after : List Char) :
    cutAtChar sep (before ++ sep :: after) = some (before, after) := by
  induction before with
  | nil => simp [cutAtChar, cutAt, List.isPrefixOf]
  | cons c before ih =>
    rw [List.mem_cons, not_or] at h
    have hcut : cutAt [sep] (before ++ sep :: after) = some (before, after) := ih h.2
    simp [cutAtChar, cutAt, List.isPrefixOf, h.1, hcut]

theorem cutAtChar_eq_some_iff : cutAtChar sep s = some (before, after) ↔ sep ∉ before ∧ s = before ++ sep :: after := by
  constructor
  · intro h
    induction s generalizing before with
    | nil => cases h
    | cons c s ih =>
      simp only [cutAtChar, cutAt, List.isPrefixOf, Bool.and_true, beq_iff_eq] at h ih
      split at h
      · rename_i hsep
        cases h
        exact ⟨List.not_mem_nil, by rw [hsep]; rfl⟩
      · rename_i hsep
        obtain ⟨⟨before', after'⟩, hcut, heq⟩ := Option.map_eq_some_iff.mp h
        cases heq
        obtain ⟨hbefore, hs⟩ := ih hcut
        exact ⟨List.not_mem_cons_of_ne_of_not_mem hsep hbefore, congrArg (c :: ·) hs⟩
  · rintro ⟨hbefore, rfl⟩
    exact cutAtChar_of_not_mem hbefore after

theorem cutAtLastChar_of_not_mem (h : sep ∉ after) (before : List Char) :
    cutAtLastChar sep (before ++ sep :: after) = some (before, after) := by
  have hreverse : (before ++ sep :: after).reverse = after.reverse ++ sep :: before.reverse := by simp
  rw [cutAtLastChar, hreverse, cutAtChar_of_not_mem fun hm => h (List.mem_reverse.mp hm)]
  simp only [Option.map_some, List.reverse_reverse]

theorem cutAtLastChar_eq_some_iff :
    cutAtLastChar sep s = some (before, after) ↔ sep ∉ after ∧ s = before ++ sep :: after := by
  constructor
  · intro h
    obtain ⟨⟨behind, ahead⟩, hcut, heq⟩ := Option.map_eq_some_iff.mp h
    cases heq
    obtain ⟨hbehind, hs⟩ := cutAtChar_eq_some_iff.mp hcut
    refine ⟨fun hm => hbehind (List.mem_reverse.mp hm), ?_⟩
    rw [← List.reverse_reverse s, hs, List.reverse_append, List.reverse_cons, List.append_assoc, List.singleton_append]
  · rintro ⟨hafter, rfl⟩
    exact cutAtLastChar_of_not_mem hafter before

end SchemaAudit.Text
