import SchemaAudit.Ddl.Block
import SchemaAudit.Proofs.Ddl.Splitting
import SchemaAudit.Proofs.Text.Pattern

/-! # The block of a manifest

A block is read by two cuts, at the first opening fence and at the first fence behind it. Nothing before an opening fence
can make it part of an earlier one, and blanks before a fence keep backticks in front of them apart from it, so a block
that is written with blanks inside its fences is read as it was written (`block?_fenced`).

The two cuts are what a pattern finds: an opening fence, blanks, as little text as possible, blanks, a fence
(`block?_eq_find?`). -/

namespace SchemaAudit.Ddl

open Text (isBlank trim trimLeft trimRight cutAt Pattern Search)

variable {needle text inner x t p q : List Char} {c : Char}

/-! ### Where a text stands in another one -/

/-- Behind a text without the last character of a needle the needle does not end. -/
theorem infix_of_getLast? (h : needle <:+: p ++ t) (hlast : ∀ c ∈ needle.getLast?, c ∉ t) : needle <:+: p := by
  induction t generalizing p with
  | nil => rwa [List.append_nil] at h
  | cons c t ih =>
    rw [List.append_cons] at h
    have hmore := ih h fun d hd hmem => hlast d hd (List.mem_cons_of_mem c hmem)
    rcases List.infix_concat_iff.mp hmore with hend | hmore
    · rcases List.suffix_concat_iff.mp hend with rfl | ⟨before, rfl, -⟩
      · exact List.nil_infix
      · exact absurd List.mem_cons_self (hlast c List.getLast?_concat)
    · exact hmore

/-- A needle stands before or behind a character that it does not have. -/
theorem infix_of_not_mem (h : needle <:+: x ++ c :: t) (hc : c ∉ needle) : needle <:+: x ∨ needle <:+: t := by
  obtain ⟨start, hneedle, hstart⟩ := List.infix_iff_suffix_prefix.mp h
  rcases List.prefix_or_prefix_of_prefix hstart (List.prefix_append x (c :: t)) with hx | ⟨more, rfl⟩
  · exact Or.inl (hneedle.isInfix.trans hx.isInfix)
  · rw [List.prefix_append_right_inj] at hstart
    rcases List.prefix_cons_iff.mp hstart with rfl | ⟨more, rfl, hmore⟩
    · rw [List.append_nil] at hneedle
      exact Or.inl hneedle.isInfix
    · exact Or.inr ((suffix_of_not_mem hneedle hc).isInfix.trans hmore.isInfix)

theorem infix_of_absent (hne : needle ≠ []) (hx : ∀ c ∈ x, c ∉ needle) (h : needle <:+: x ++ t) : needle <:+: t := by
  induction x with
  | nil => exact h
  | cons c x ih =>
    rw [List.forall_mem_cons] at hx
    rcases infix_of_not_mem (x := []) h hx.1 with h | h
    · exact absurd (List.eq_nil_of_infix_nil h) hne
    · exact ih hx.2 h

/-! ### The two cuts -/

theorem openingFence_ne_nil : openingFence ≠ [] := List.cons_ne_nil _ _

theorem closingFence_ne_nil : closingFence ≠ [] := List.cons_ne_nil _ _

theorem not_mem_closingFence (h : isBlank c = true) : c ∉ closingFence := by
  have hfence : ∀ d ∈ closingFence, isBlank d = false := Text.forall_of_all (by decide)
  intro hmem
  cases h.symm.trans (hfence c hmem)

theorem block?_of_cutAt (h : cutAt openingFence text = some (p, inner)) :
    block? text = (cutAt closingFence inner).map fun cut => trim cut.1 := by
  rw [block?, h]
  change (cutAt closingFence inner).bind _ = _
  cases cutAt closingFence inner <;> rfl

/-- Nothing in front of an opening fence can begin an earlier one that it completes. -/
theorem cutAt_openingFence (hp : ¬ openingFence <:+: p) (t : List Char) :
    cutAt openingFence (p ++ (openingFence ++ t)) = some (p, t) := by
  refine (Text.cutAt_eq_some_iff openingFence_ne_nil).mpr ⟨rfl, fun h => hp (infix_of_getLast? h ?_)⟩
  rintro c ⟨⟩
  decide

theorem not_infix_blanks_dropLast (hp : ∀ c ∈ p, isBlank c = true) :
    ¬ closingFence <:+: p ++ closingFence.dropLast := by
  intro h
  have hshort := infix_of_absent closingFence_ne_nil (fun c hc => not_mem_closingFence (hp c hc)) h
  exact Text.not_infix_dropLast closingFence_ne_nil hshort

theorem cutAt_closingFence_of_blank (hp : ∀ c ∈ p, isBlank c = true) (t : List Char) :
    cutAt closingFence (p ++ (closingFence ++ t)) = some (p, t) :=
  (Text.cutAt_eq_some_iff closingFence_ne_nil).mpr ⟨rfl, not_infix_blanks_dropLast hp⟩

/-- Blanks in front of a fence keep backticks before them apart from it. -/
theorem cutAt_closingFence (hx : ¬ closingFence <:+: x) (hne : p ≠ []) (hp : ∀ c ∈ p, isBlank c = true)
    (t : List Char) : cutAt closingFence (x ++ (p ++ (closingFence ++ t))) = some (x ++ p, t) := by
  refine (Text.cutAt_eq_some_iff closingFence_ne_nil).mpr ⟨(List.append_assoc _ _ _).symm, fun h => ?_⟩
  obtain ⟨c, rest, rfl⟩ := List.exists_cons_of_ne_nil hne
  rw [List.forall_mem_cons] at hp
  rw [List.append_assoc, List.cons_append] at h
  rcases infix_of_not_mem h (not_mem_closingFence hp.1) with h | h
  · exact hx h
  · exact not_infix_blanks_dropLast hp.2 h

/-- A text has no block if no fence stands behind an opening one, wherever that is. -/
theorem block?_eq_none_iff : block? text = none ↔
    ¬ ∃ before inner after, text = before ++ (openingFence ++ (inner ++ (closingFence ++ after))) := by
  cases hcut : cutAt openingFence text with
  | none =>
    have habsent := (Text.cutAt_eq_none_iff openingFence_ne_nil).mp hcut
    have hnone : block? text = none := by
      rw [block?, hcut]
      rfl
    refine iff_of_true hnone ?_
    rintro ⟨before, inner, after, rfl⟩
    exact habsent ((List.prefix_append openingFence _).isInfix.trans (List.suffix_append before _).isInfix)
  | some cut =>
    obtain ⟨first, behind⟩ := cut
    obtain ⟨htext, -⟩ := (Text.cutAt_eq_some_iff openingFence_ne_nil).mp hcut
    rw [block?_of_cutAt hcut, Option.map_eq_none_iff, Text.cutAt_eq_none_iff closingFence_ne_nil]
    refine not_congr ⟨?_, ?_⟩
    · rintro ⟨inner, after, rfl⟩
      exact ⟨first, inner, after, by rw [htext, List.append_assoc]⟩
    · -- the first opening fence is no later than the one given, so what is behind that one is behind the first
      rintro ⟨before, inner, after, hplace⟩
      have hfirst := Text.length_le_of_cutAt openingFence_ne_nil hcut hplace
      have hsame := congrArg List.length (htext.symm.trans hplace)
      simp only [List.length_append] at hsame
      have hrest : inner ++ (closingFence ++ after) <:+ text := by
        rw [hplace, ← List.append_assoc before]
        exact List.suffix_append _ _
      have hbehind : behind <:+ text := by
        rw [htext, ← List.append_assoc first]
        exact List.suffix_append _ _
      have hwithin : inner ++ (closingFence ++ after) <:+ behind := by
        refine List.suffix_of_suffix_length_le hrest hbehind ?_
        simp only [List.length_append]
        omega
      have hfence : closingFence <:+: inner ++ (closingFence ++ after) :=
        (List.prefix_append closingFence after).isInfix.trans (List.suffix_append inner _).isInfix
      exact hfence.trans hwithin.isInfix

theorem exists_cuts_of_block? (h : block? text = some x) : ∃ before body rest after,
    text = before ++ (openingFence ++ rest) ∧ cutAt closingFence rest = some (body, after) ∧ x = trim body := by
  cases hcut : cutAt openingFence text with
  | none =>
    rw [block?, hcut] at h
    cases h
  | some cut =>
    rw [block?_of_cutAt hcut] at h
    obtain ⟨⟨body, after⟩, hclose, rfl⟩ := Option.map_eq_some_iff.mp h
    exact ⟨cut.1, body, cut.2, after, ((Text.cutAt_eq_some_iff openingFence_ne_nil).mp hcut).1, hclose, rfl⟩

theorem not_closingFence_of_block? (h : block? text = some x) : ¬ closingFence <:+: x := by
  obtain ⟨before, body, rest, after, -, hclose, rfl⟩ := exists_cuts_of_block? h
  intro hfence
  have hbody : closingFence <:+: body := hfence.trans (Text.infix_trim body)
  exact ((Text.cutAt_eq_some_iff closingFence_ne_nil).mp hclose).2 (hbody.trans (List.prefix_append body _).isInfix)

/-! ### What the pattern finds -/

/-- The pattern of a block. -/
def blockSearch : Search where
  before := .both (.literal openingFence) (.most isBlank)
  asked := .least fun _ => true
  after := .both (.most isBlank) (.literal closingFence)

/-- Whether a text goes on with blanks and a fence. -/
def closes (s : List Char) : Bool := closingFence.isPrefixOf (trimLeft s)

theorem isPrefixOf_closingFence_cons (h : isBlank c = true) (s : List Char) :
    closingFence.isPrefixOf (c :: s) = false := by
  refine Bool.eq_false_iff.mpr fun hstarts => not_mem_closingFence h ?_
  obtain ⟨t, ht⟩ := List.isPrefixOf_iff_prefix.mp hstarts
  cases ht
  exact List.mem_cons_self

theorem closes_append (hp : ∀ c ∈ p, isBlank c = true) (t : List Char) : closes (p ++ (closingFence ++ t)) = true := by
  rw [closes, Text.trimLeft_append hp]
  exact List.isPrefixOf_iff_prefix.mpr (List.prefix_append closingFence t)

theorem exists_of_closes (h : closes t = true) :
    ∃ blanks after, t = blanks ++ (closingFence ++ after) ∧ ∀ c ∈ blanks, isBlank c = true := by
  obtain ⟨after, hafter⟩ := List.isPrefixOf_iff_prefix.mp h
  refine ⟨t.takeWhile isBlank, after, ?_, fun c hc => List.all_eq_true.mp List.all_takeWhile c hc⟩
  rw [hafter, trimLeft, List.takeWhile_append_dropWhile]

theorem follow_after (w s : List Char) :
    blockSearch.after.follow (fun _ => some w) s = if closes s then some w else none := by
  rw [blockSearch, Pattern.follow_both, Pattern.follow_most]
  · exact Pattern.follow_literal _ _ _
  · intro c s hc
    rw [Pattern.follow_literal, isPrefixOf_closingFence_cons hc, if_neg Bool.false_ne_true]

theorem findSome?_map_after (c : Char) (ways : List Pattern.Way) (f : List Char → Bool) :
    (ways.map (Pattern.Way.after c)).findSome? (fun w => if f w.2 then some w.1 else none) =
      (ways.findSome? fun w => if f w.2 then some w.1 else none).map (c :: ·) := by
  rw [List.findSome?_map, List.map_findSome?]
  refine congrArg (List.findSome? · ways) (funext fun w => ?_)
  cases hw : f w.2 <;> simp [Pattern.Way.after, hw]

/-- As little text as possible before blanks and a fence is the text before the first fence without the blanks at its
end. -/
theorem findSome?_leastWays (s : List Char) :
    ((Pattern.least fun _ => true).ways s).findSome? (fun w => if closes w.2 then some w.1 else none) =
      (cutAt closingFence s).map fun cut => trimRight cut.1 := by
  rw [Pattern.ways]
  induction s with
  | nil => rfl
  | cons c s ih =>
    rw [Pattern.leastWays, List.findSome?_cons]
    cases hcloses : closes (c :: s) with
    | true =>
      obtain ⟨blanks, after, htext, hblanks⟩ := exists_of_closes hcloses
      rw [htext, cutAt_closingFence_of_blank hblanks, Option.map_some, ← List.nil_append blanks,
        Text.trimRight_append hblanks]
      rfl
    | false =>
      have hstarts : closingFence.isPrefixOf (c :: s) = false := by
        refine Bool.eq_false_iff.mpr fun hstarts => ?_
        obtain ⟨after, hafter⟩ := List.isPrefixOf_iff_prefix.mp hstarts
        have htrue := closes_append (p := []) (by simp) after
        rw [List.nil_append, hafter, hcloses] at htrue
        cases htrue
      rw [if_pos rfl, if_neg Bool.false_ne_true, findSome?_map_after, ih, Text.cutAt_cons_of_not hstarts]
      cases hcut : cutAt closingFence s with
      | none => rfl
      | some cut =>
        have hkept : trimRight (c :: cut.1) = c :: trimRight cut.1 := by
          refine Text.trimRight_append_kept (s := [c]) fun hnil d hd => ?_
          obtain rfl : c = d := Option.some.inj hd
          -- otherwise only blanks would stand before the fence
          refine Bool.eq_false_iff.mpr fun hc => ?_
          have hblank := Text.isBlank_of_trimRight_eq_nil hnil
          obtain ⟨rfl, -⟩ := (Text.cutAt_eq_some_iff closingFence_ne_nil).mp hcut
          have htrue := closes_append (List.forall_mem_cons.mpr ⟨hc, hblank⟩) cut.2
          rw [List.cons_append, hcloses] at htrue
          cases htrue
        simp [hkept]

/-- The blanks behind the opening fence are no part of the block, however far the fence that closes it is. -/
theorem follow_blanks (s : List Char) :
    (Pattern.most isBlank).follow (fun t => (cutAt closingFence t).map fun cut => trimRight cut.1) s =
      (cutAt closingFence s).map fun cut => trim cut.1 := by
  induction s with
  | nil => rfl
  | cons c s ih =>
    rw [Pattern.follow_most_cons]
    cases hc : isBlank c with
    | true =>
      have hdropped : ∀ x, trim (c :: x) = trim x := Text.trim_append (w := [c]) (by simpa using hc)
      rw [if_pos rfl, ih, Text.cutAt_cons_of_not (isPrefixOf_closingFence_cons hc s)]
      cases cutAt closingFence s <;> simp [hdropped]
    | false =>
      rw [if_neg Bool.false_ne_true, Option.none_or]
      refine Option.map_congr fun cut hcut => ?_
      obtain ⟨hs, -⟩ := (Text.cutAt_eq_some_iff closingFence_ne_nil).mp hcut
      cases hbody : cut.1 with
      | nil => rfl
      | cons d body =>
        rw [hbody] at hs
        cases hs
        rw [trim, Text.trimLeft_cons hc]

theorem here?_blockSearch (s : List Char) : blockSearch.here? s = if openingFence.isPrefixOf s then
    (cutAt closingFence (s.drop openingFence.length)).map (fun cut => trim cut.1) else none := by
  have hbehind : (fun s => (blockSearch.asked.ways s).findSome? fun w =>
      blockSearch.after.follow (fun _ => some w.1) w.2) =
      fun s => (cutAt closingFence s).map fun cut => trimRight cut.1 := by
    funext s
    simp only [follow_after]
    exact findSome?_leastWays s
  rw [Search.here?, hbehind, blockSearch, Pattern.follow_both, Pattern.follow_literal, follow_blanks]

/-- The two cuts find what the pattern finds, at the first place where it matches. -/
theorem block?_eq_find? (text : List Char) : block? text = blockSearch.find? text := by
  induction text with
  | nil => rfl
  | cons c s ih =>
    rw [Search.find?, here?_blockSearch, ← ih]
    cases hstarts : openingFence.isPrefixOf (c :: s) with
    | true =>
      have hcut : cutAt openingFence (c :: s) = some ([], (c :: s).drop openingFence.length) := by
        rw [cutAt, hstarts, if_pos rfl]
      rw [if_pos rfl, ← block?_of_cutAt hcut]
      cases hblock : block? (c :: s) with
      | some b => rfl
      | none =>
        -- no fence stands behind this opening one, so none stands behind a later one
        rw [Option.none_or, eq_comm]
        rw [block?_eq_none_iff] at hblock ⊢
        rintro ⟨before, inner, after, rfl⟩
        exact hblock ⟨c :: before, inner, after, rfl⟩
    | false =>
      rw [if_neg Bool.false_ne_true, Option.none_or, block?, block?, Text.cutAt_cons_of_not hstarts]
      cases cutAt openingFence s <;> rfl

/-! ### What a manifest gives -/

/-- The block between prose without an opening fence and whatever is behind it is what is written there, if blanks stand
inside its fences. A text has a block if and only if a fence stands behind an opening one, and a block has no fence and
no blanks around it. -/
theorem block?_fenced (text : List Char) :
    (∀ p w x w' q, ¬ openingFence <:+: p → (∀ c ∈ w, isBlank c = true) → ¬ closingFence <:+: x →
      w' ≠ [] → (∀ c ∈ w', isBlank c = true) →
      block? (p ++ (openingFence ++ (w ++ (x ++ (w' ++ (closingFence ++ q)))))) = some (trim x)) ∧
    (block? text = none ↔
      ¬ ∃ before inner after, text = before ++ (openingFence ++ (inner ++ (closingFence ++ after)))) ∧
    ∀ b, block? text = some b → ¬ closingFence <:+: b ∧ (∀ c ∈ b.head?, isBlank c = false) ∧
      ∀ c ∈ b.getLast?, isBlank c = false := by
  refine ⟨fun p w x w' q hp hw hx hne hw' => ?_, block?_eq_none_iff, fun b hb => ?_⟩
  · have hinner : ¬ closingFence <:+: w ++ x :=
      fun h => hx (infix_of_absent closingFence_ne_nil (fun c hc => not_mem_closingFence (hw c hc)) h)
    rw [block?_of_cutAt (cutAt_openingFence hp _), ← List.append_assoc w, cutAt_closingFence hinner hne hw',
      Option.map_some, Text.trim_append_blank hw', Text.trim_append hw]
  · obtain ⟨-, body, -, -, -, -, hbody⟩ := exists_cuts_of_block? hb
    refine ⟨not_closingFence_of_block? hb, fun c hc => ?_, fun c hc => ?_⟩
    · rw [hbody] at hc
      exact Text.isBlank_of_mem_head?_trim hc
    · rw [hbody] at hc
      exact Text.isBlank_of_mem_getLast?_trimRight hc

theorem block?_fenced_among_fences :
    block? "A ```text``` and a ``stray\n```sql \n``a`` 'b'\t ```sql\n```\n```sql\nc\n```".toList =
      some "``a`` 'b'".toList :=
  (block?_fenced []).1 "A ```text``` and a ``stray\n".toList " \n".toList "``a`` 'b'".toList "\t ".toList
    "sql\n```\n```sql\nc\n```".toList ((Text.cutAt_eq_none_iff openingFence_ne_nil).mp (by decide))
    (Text.forall_of_all (by decide)) ((Text.cutAt_eq_none_iff closingFence_ne_nil).mp (by decide))
    (List.cons_ne_nil _ _) (Text.forall_of_all (by decide))

end SchemaAudit.Ddl
