import SchemaAudit.Proofs.Ddl.Places

/-! # The pieces of a line

A line is cut exactly at its separators, the commas at which the scanner has nothing open (`separators`). Nothing is lost
but these commas (`intercalate_splitFrom`), no piece has a separator of its own (`separators_of_splitFrom`), and what
stands before a separator is cut without regard to what stands behind it (`splitFrom_append_cons`). That a piece may be
scanned from its own start rests on one fact: the scanner is in its first state wherever it cuts
(`Scan.eq_start_of_separates`), also behind parentheses that close nothing. -/

namespace SchemaAudit.Ddl

variable {s : Scan} {c : Char} {x piece line a b : List Char} {ps : List (List Char)}

/-! ### Separators -/

/-- Whether a comma stands at a place of a text, outside parentheses and quotes as the scanner finds it from a state
on. -/
def separatesAt (s : Scan) (text : List Char) (i : Nat) : Bool :=
  text[i]? = some ',' ∧ s.run (text.take i) = .start

/-- The places of the commas that separate. -/
def separators (s : Scan) (line : List Char) : List Nat := (List.range line.length).filter (separatesAt s line)

theorem separates_iff : s.separates c = true ↔ c = ',' ∧ s = .start := by
  constructor
  · intro h
    exact ⟨eq_comma_of_separates h, Scan.eq_start_of_separates h⟩
  · rintro ⟨rfl, rfl⟩
    rfl

theorem separatesAt_zero (s : Scan) (c : Char) (line : List Char) : separatesAt s (c :: line) 0 = s.separates c := by
  rw [Bool.eq_iff_iff, separates_iff]
  simp [separatesAt, Scan.run]

theorem separatesAt_succ (s : Scan) (c : Char) (line : List Char) (i : Nat) :
    separatesAt s (c :: line) (i + 1) = separatesAt (s.next c) line i := rfl

theorem separators_cons (s : Scan) (c : Char) (line : List Char) : separators s (c :: line) =
    (if s.separates c then [0] else []) ++ (separators (s.next c) line).map Nat.succ := by
  have hrest : separatesAt s (c :: line) ∘ Nat.succ = separatesAt (s.next c) line :=
    funext (separatesAt_succ s c line)
  rw [separators, List.length_cons, List.range_succ_eq_map, List.filter_cons, separatesAt_zero, List.filter_map, hrest]
  split <;> rfl

theorem separators_cons_of_kept (h : s.separates c = false) (line : List Char) :
    separators s (c :: line) = (separators (s.next c) line).map Nat.succ := by
  rw [separators_cons, h, if_neg Bool.false_ne_true, List.nil_append]

/-! ### Cutting -/

theorem splitFrom_cons_of_separates (h : s.separates c = true) (line : List Char) :
    splitFrom s (c :: line) = [] :: splitFrom s line := by
  rw [splitFrom, if_pos h]

theorem length_startingWith (h : ps ≠ []) : (startingWith x ps).length = ps.length := by
  cases ps with
  | nil => exact absurd rfl h
  | cons p ps => rfl

theorem startingWith_append_left (h : ps ≠ []) (qs : List (List Char)) :
    startingWith x (ps ++ qs) = startingWith x ps ++ qs := by
  cases ps with
  | nil => exact absurd rfl h
  | cons p ps => rfl

theorem intercalate_startingWith (h : ps ≠ []) (sep x : List Char) :
    sep.intercalate (startingWith x ps) = x ++ sep.intercalate ps := by
  cases ps with
  | nil => exact absurd rfl h
  | cons p ps =>
    cases ps with
    | nil => simp [startingWith]
    | cons q ps => simp [startingWith, List.intercalate_cons_of_ne_nil]

/-- One comma between each two pieces makes the line again. -/
theorem intercalate_splitFrom (s : Scan) (line : List Char) : [','].intercalate (splitFrom s line) = line := by
  induction line generalizing s with
  | nil => rfl
  | cons c line ih =>
    have hne := splitFrom_ne_nil (s.next c) line
    cases hs : s.separates c with
    | true =>
      rw [splitFrom_cons_of_separates hs, List.intercalate_cons_of_ne_nil (splitFrom_ne_nil s line), ih,
        eq_comma_of_separates hs]
      rfl
    | false =>
      rw [splitFrom_cons_of_kept hs, intercalate_startingWith hne, ih]
      rfl

theorem length_splitFrom (s : Scan) (line : List Char) :
    (splitFrom s line).length = (separators s line).length + 1 := by
  induction line generalizing s with
  | nil => rfl
  | cons c line ih =>
    cases hs : s.separates c with
    | true =>
      rw [splitFrom_cons_of_separates hs, separators_cons, hs, next_of_separates hs, List.length_cons, ih]
      simp
    | false =>
      rw [splitFrom_cons_of_kept hs, length_startingWith (splitFrom_ne_nil _ _), ih, separators_cons_of_kept hs,
        List.length_map]

/-- The first piece has no separator from the state that the line is scanned from, and the others have none from their
own start. -/
theorem separators_of_splitFrom (h : splitFrom s line = piece :: ps) :
    separators s piece = [] ∧ ∀ p ∈ ps, separators .start p = [] := by
  induction line generalizing s piece ps with
  | nil =>
    cases h
    exact ⟨rfl, nofun⟩
  | cons c line ih =>
    cases hs : s.separates c with
    | true =>
      rw [splitFrom_cons_of_separates hs, Scan.eq_start_of_separates hs] at h
      obtain ⟨p, more, hp⟩ := List.exists_cons_of_ne_nil (splitFrom_ne_nil .start line)
      obtain ⟨hfirst, hothers⟩ := ih hp
      rw [hp] at h
      cases h
      exact ⟨rfl, List.forall_mem_cons.mpr ⟨hfirst, hothers⟩⟩
    | false =>
      obtain ⟨p, more, hp⟩ := List.exists_cons_of_ne_nil (splitFrom_ne_nil (s.next c) line)
      obtain ⟨hfirst, hothers⟩ := ih hp
      rw [splitFrom_cons_of_kept hs, hp] at h
      cases h
      refine ⟨?_, hothers⟩
      rw [List.singleton_append, separators_cons_of_kept hs, hfirst]
      rfl

theorem separators_of_mem_splitDefinitions (h : piece ∈ splitDefinitions line) : separators .start piece = [] := by
  obtain ⟨p, ps, hp⟩ := List.exists_cons_of_ne_nil (splitFrom_ne_nil .start line)
  obtain ⟨hfirst, hothers⟩ := separators_of_splitFrom hp
  rw [splitDefinitions, hp] at h
  rcases List.mem_cons.mp h with rfl | h
  · exact hfirst
  · exact hothers piece h

/-- A text without separators is its only piece. -/
theorem splitFrom_eq_singleton (h : separators s x = []) : splitFrom s x = [x] := by
  have hlength := length_splitFrom s x
  rw [h] at hlength
  obtain ⟨p, hp⟩ := List.length_eq_one_iff.mp hlength
  have hjoin := intercalate_splitFrom s x
  rw [hp, List.intercalate_singleton] at hjoin
  rw [hp, hjoin]

theorem splitFrom_append_cons (h : s.run a = .start) (b : List Char) :
    splitFrom s (a ++ ',' :: b) = splitFrom s a ++ splitFrom .start b := by
  induction a generalizing s with
  | nil =>
    obtain rfl : s = .start := h
    rfl
  | cons c a ih =>
    have hrun : (s.next c).run a = .start := h
    rw [List.cons_append]
    cases hs : s.separates c with
    | true =>
      rw [next_of_separates hs] at hrun
      rw [splitFrom_cons_of_separates hs, splitFrom_cons_of_separates hs, ih hrun, List.cons_append]
    | false =>
      rw [splitFrom_cons_of_kept hs, splitFrom_cons_of_kept hs, ih hrun,
        startingWith_append_left (splitFrom_ne_nil _ _)]

/-! ### Lines -/

/-- The definitions on a line are what stands between its separators: with commas between them they are the line again,
each of them is its own only definition and has no separator, there is one more of them than separators, and those
before a separator and those behind it are the definitions of the two texts that it stands between. -/
theorem splitDefinitions_at_separators (line : List Char) :
    [','].intercalate (splitDefinitions line) = line ∧
    (∀ piece ∈ splitDefinitions line, splitDefinitions piece = [piece] ∧ separators .start piece = []) ∧
    (splitDefinitions line).length = (separators .start line).length + 1 ∧
    ∀ a b, Scan.start.run a = .start →
      splitDefinitions (a ++ ',' :: b) = splitDefinitions a ++ splitDefinitions b := by
  refine ⟨intercalate_splitFrom .start line, fun piece hpiece => ?_, length_splitFrom .start line, ?_⟩
  · have hnone := separators_of_mem_splitDefinitions hpiece
    exact ⟨splitFrom_eq_singleton hnone, hnone⟩
  · intro a b ha
    exact splitFrom_append_cons ha b

/-- A line with parentheses that close nothing, with commas in parentheses and in a quote, and with an open quote at its
end. -/
theorem splitDefinitions_at_separators_unbalanced :
    "a) numeric(10, 2)".toList ∈ splitDefinitions "a) numeric(10, 2),b text DEFAULT 'x,y".toList ∧
    splitDefinitions "a) numeric(10, 2)".toList = ["a) numeric(10, 2)".toList] ∧
    Scan.start.run "a) numeric(10, 2)".toList = .start ∧
    splitDefinitions ("a) numeric(10, 2)".toList ++ ',' :: "b text DEFAULT 'x,y".toList) =
      splitDefinitions "a) numeric(10, 2)".toList ++ splitDefinitions "b text DEFAULT 'x,y".toList := by
  obtain ⟨-, hpieces, -, happend⟩ :=
    splitDefinitions_at_separators "a) numeric(10, 2),b text DEFAULT 'x,y".toList
  have hmem : "a) numeric(10, 2)".toList ∈ splitDefinitions "a) numeric(10, 2),b text DEFAULT 'x,y".toList := by
    decide
  exact ⟨hmem, (hpieces _ hmem).1, rfl, happend _ _ rfl⟩

end SchemaAudit.Ddl
