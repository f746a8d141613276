import SchemaAudit.Proofs.Ddl.Layout

/-! # Where columns come from

A body is cut into places (`places`): each has the lines above it, what stands before it on its own line, and its text. A
column is read from one place (`columns_eq_places`). As far as its own line tells, no place begins inside a quote or inside
parentheses (`Place.Grown`). What the lines above have left open stays as it is for quotes, and is at most closed for
parentheses (`Scan.quoted_run`, `Scan.depth_run_le`). So what stands in parentheses on one line is never read as columns
of its own, while what stands there over several lines may be. -/

namespace SchemaAudit.Ddl

variable {s t : Scan} {c : Char} {x rest body ddl : List Char} {k : Nat}

/-! ### The scanner from one state and from another -/

theorem Scan.run_append (s : Scan) (x y : List Char) : s.run (x ++ y) = (s.run x).run y := List.foldl_append

theorem Scan.quoted_next (s : Scan) (c : Char) : (s.next c).quoted = (s.quoted ^^ decide (c = '\'')) := by
  unfold next
  by_cases hc : c = '\''
  · simp [hc]
  · cases hs : s.quoted with
    | true => simp [hc, hs]
    | false =>
      simp only [hc, if_false, Bool.false_eq_true, decide_false, Bool.xor_false]
      repeat' split
      · rfl
      · rfl
      · exact hs

/-- Whether a place is in a quote depends on the number of marks before it alone. -/
theorem Scan.quoted_run (s : Scan) (x : List Char) : (s.run x).quoted = (s.quoted ^^ (Scan.start.run x).quoted) := by
  -- A mark at the front turns the state in both scans, so the one from the start is taken apart as well.
  induction x generalizing s with
  | nil => exact (Bool.xor_false _).symm
  | cons c x ih =>
    have hstart : (Scan.start.run (c :: x)).quoted = ((Scan.start.next c).quoted ^^ (Scan.start.run x).quoted) :=
      ih (Scan.start.next c)
    have hs : (s.run (c :: x)).quoted = ((s.next c).quoted ^^ (Scan.start.run x).quoted) := ih (s.next c)
    have hopen : Scan.start.quoted = false := rfl
    rw [hs, hstart, quoted_next s, quoted_next Scan.start, hopen, Bool.false_xor, Bool.xor_assoc]

theorem Scan.depth_next (s : Scan) (c : Char) : (s.next c).depth =
    if c = '\'' ∨ s.quoted then s.depth else if c = '(' then s.depth + 1 else if c = ')' then s.depth - 1
      else s.depth := by
  unfold next
  by_cases hc : c = '\''
  · simp [hc]
  · simp only [hc, if_false, false_or]
    repeat' split
    all_goals rfl

theorem Scan.depth_next_le (hquoted : s.quoted = t.quoted) (hdepth : s.depth ≤ t.depth + k) (c : Char) :
    (s.next c).depth ≤ (t.next c).depth + k := by
  rw [depth_next, depth_next, hquoted]
  repeat' split
  all_goals omega

/-- What is open at the start adds at most itself to the depth. -/
theorem Scan.depth_run_le (hquoted : s.quoted = t.quoted) (hdepth : s.depth ≤ t.depth + k) (x : List Char) :
    (s.run x).depth ≤ (t.run x).depth + k := by
  induction x generalizing s t with
  | nil => exact hdepth
  | cons c x ih =>
    refine ih ?_ (depth_next_le hquoted hdepth c)
    rw [quoted_next, quoted_next, hquoted]

theorem Scan.eq_start_of_separates (h : s.separates c = true) : s = .start := by
  obtain ⟨depth, quoted⟩ := s
  simp only [separates, Bool.and_eq_true, decide_eq_true_eq, Bool.not_eq_true'] at h
  obtain ⟨⟨-, rfl⟩, rfl⟩ := h
  rfl

theorem eq_comma_of_separates (h : s.separates c = true) : c = ',' := by
  simp only [Scan.separates, Bool.and_eq_true, decide_eq_true_eq] at h
  exact h.1.1

/-! ### Places -/

/-- A piece of a body, with the lines above it and what stands before it on its own line. -/
structure Place where
  above : List Char
  before : List Char
  text : List Char
  deriving DecidableEq, Repr

namespace Place

/-- What stands above and before a place, and its text. -/
def upTo (p : Place) : List Char := p.above ++ (p.before ++ p.text)

/-- The state behind a place on its own line. -/
def state (p : Place) : Scan := Scan.start.run (p.before ++ p.text)

-- A place grows by a character, ends at a separator, or ends with its line.

def grow (p : Place) (c : Char) : Place := ⟨p.above, p.before, p.text ++ [c]⟩

def next (p : Place) (c : Char) : Place := ⟨p.above, p.before ++ (p.text ++ [c]), []⟩

def below (p : Place) : Place := ⟨p.above ++ (p.before ++ (p.text ++ ['\n'])), [], []⟩

/-- The column that the text of a place declares, if it is the definition of one. -/
def column? (p : Place) : Option Declared := Ddl.column? (cleanLine p.text)

theorem upTo_grow (p : Place) (c : Char) : (p.grow c).upTo = p.upTo ++ [c] := by
  simp only [upTo, grow, List.append_assoc]

theorem upTo_next (p : Place) (c : Char) : (p.next c).upTo = p.upTo ++ [c] := by
  simp only [upTo, next, List.append_assoc, List.append_nil]

theorem upTo_below (p : Place) : p.below.upTo = p.upTo ++ ['\n'] := by
  simp only [upTo, below, List.append_assoc, List.append_nil]

theorem state_grow (p : Place) (c : Char) : (p.grow c).state = p.state.next c := by
  rw [state, grow, ← List.append_assoc, Scan.run_append]
  rfl

theorem state_next {p : Place} (h : p.state.separates c = true) : (p.next c).state = p.state := by
  have hrun : (p.next c).state = p.state.next c := by
    rw [state, next, List.append_nil, ← List.append_assoc, Scan.run_append]
    rfl
  rw [hrun, next_of_separates h]

end Place

/-- The places of a text, from a place on that the text follows. -/
def placesFrom (p : Place) : List Char → List Place
  | [] => [p]
  | c :: rest =>
    if c = '\n' then p :: placesFrom p.below rest
    else if p.state.separates c then p :: placesFrom (p.next c) rest
    else placesFrom (p.grow c) rest

/-- The places of a body, in their order. -/
def places (body : List Char) : List Place := placesFrom ⟨[], [], []⟩ body

/-- The texts of the places are the pieces that the body is cut into. -/
theorem map_text_placesFrom (p : Place) (rest : List Char) :
    (placesFrom p rest).map Place.text = startingWith p.text (cuts p.state rest) := by
  induction rest generalizing p with
  | nil => exact congrArg (· :: []) (List.append_nil p.text).symm
  | cons c rest ih =>
    have hempty {q : Place} (hq : q.text = []) : (placesFrom q rest).map Place.text = cuts q.state rest := by
      rw [ih, hq, startingWith_nil_cuts]
    rw [placesFrom, cuts]
    split
    · rw [List.map_cons, hempty rfl, startingWith, List.append_nil]
      rfl
    · split
      · rename_i hs
        rw [List.map_cons, hempty rfl, Place.state_next hs, startingWith, List.append_nil]
      · rw [ih, Place.state_grow, ← startingWith_append]
        rfl

theorem definitions_eq_places (body : List Char) :
    definitions body = (places body).map fun p => cleanLine p.text := by
  have htexts : (places body).map Place.text = cuts .start body := by
    rw [places, map_text_placesFrom]
    exact startingWith_nil_cuts _ _
  rw [definitions_eq, ← htexts, List.map_map]
  rfl

/-- Each column of a statement is read from one place of its body, in the order of the places. -/
theorem columns_eq_places (ddl : List Char) :
    columns ddl = .ok (((body? ddl).elim [] places).filterMap Place.column?) := by
  rw [columns_eq]
  cases body? ddl with
  | none => rfl
  | some body =>
    rw [Option.elim_some, Option.elim_some, definitions_eq_places, List.filterMap_map]
    rfl

/-! ### What is open where a place begins -/

/-- A place on one line, behind nothing or a separator on its line and behind nothing or a line end above it, where
nothing is open as far as its own line tells. -/
structure Place.Grown (p : Place) : Prop where
  above_lines : ∀ c ∈ p.above.getLast?, c = '\n'
  before_separator : ∀ c ∈ p.before.getLast?, c = ','
  one_line : '\n' ∉ p.before ++ p.text
  nothing_open : Scan.start.run p.before = .start

namespace Place.Grown

variable {p : Place}

theorem empty : Grown ⟨[], [], []⟩ := ⟨nofun, nofun, List.not_mem_nil, rfl⟩

theorem grow (h : p.Grown) (hc : c ≠ '\n') : (p.grow c).Grown where
  above_lines := h.above_lines
  before_separator := h.before_separator
  one_line := by
    rw [Place.grow, ← List.append_assoc, List.mem_append, List.mem_singleton, not_or]
    exact ⟨h.one_line, hc.symm⟩
  nothing_open := h.nothing_open

theorem next (h : p.Grown) (hc : c ≠ '\n') (hs : p.state.separates c = true) : (p.next c).Grown where
  above_lines := h.above_lines
  before_separator := by
    intro d hd
    rw [Place.next, ← List.append_assoc, List.getLast?_concat] at hd
    cases hd
    exact eq_comma_of_separates hs
  one_line := by
    rw [Place.next, List.append_nil, ← List.append_assoc, List.mem_append, List.mem_singleton, not_or]
    exact ⟨h.one_line, hc.symm⟩
  nothing_open := by
    have hstate := Place.state_next hs
    rw [Place.state, Place.next, List.append_nil] at hstate
    rw [Place.next, hstate, Scan.eq_start_of_separates hs]

theorem below (p : Place) : p.below.Grown where
  above_lines := by
    intro d hd
    rw [Place.below, ← List.append_assoc, ← List.append_assoc, List.getLast?_concat] at hd
    cases hd
    rfl
  before_separator := nofun
  one_line := List.not_mem_nil
  nothing_open := rfl

end Place.Grown

theorem grown_of_mem_placesFrom {p q : Place} (hp : p.Grown) (hq : q ∈ placesFrom p rest) : q.Grown := by
  -- The place in front of the text is grown, and so is the one that the next character leads to.
  induction rest generalizing p with
  | nil =>
    cases List.mem_singleton.mp hq
    exact hp
  | cons c rest ih =>
    rw [placesFrom] at hq
    split at hq
    · rcases List.mem_cons.mp hq with rfl | hq
      · exact hp
      · exact ih (.below p) hq
    rename_i hc
    split at hq
    · rename_i hs
      rcases List.mem_cons.mp hq with rfl | hq
      · exact hp
      · exact ih (hp.next hc hs) hq
    · exact ih (hp.grow hc) hq

/-- Behind a place a text ends, or a comma or the end of a line follows. -/
theorem exists_of_mem_placesFrom {p q : Place} (hq : q ∈ placesFrom p rest) :
    ∃ after, p.upTo ++ rest = q.upTo ++ after ∧ ∀ c ∈ after.head?, c = ',' ∨ c = '\n' := by
  induction rest generalizing p with
  | nil =>
    cases List.mem_singleton.mp hq
    exact ⟨[], rfl, nofun⟩
  | cons c rest ih =>
    have hsplit {p' : Place} (hup : p'.upTo = p.upTo ++ [c]) : p.upTo ++ c :: rest = p'.upTo ++ rest := by
      rw [hup, List.append_assoc, List.singleton_append]
    have hends (hc : c = ',' ∨ c = '\n') : ∀ d ∈ (c :: rest).head?, d = ',' ∨ d = '\n' := by
      rintro d ⟨⟩
      exact hc
    rw [placesFrom] at hq
    split at hq
    · rename_i hc
      rcases List.mem_cons.mp hq with rfl | hq
      · exact ⟨c :: rest, rfl, hends (.inr hc)⟩
      · rw [hsplit (hc ▸ p.upTo_below)]
        exact ih hq
    split at hq
    · rename_i hs
      rcases List.mem_cons.mp hq with rfl | hq
      · exact ⟨c :: rest, rfl, hends (.inl (eq_comma_of_separates hs))⟩
      · rw [hsplit (p.upTo_next c)]
        exact ih hq
    · rw [hsplit (p.upTo_grow c)]
      exact ih hq

/-! ### Statements -/

/-- The body of a statement is what stands between its first opening and its last closing parenthesis. -/
theorem body?_eq_some_iff : body? ddl = some body ↔
    body ≠ [] ∧ ∃ header tail, ddl = header ++ '(' :: (body ++ ')' :: tail) ∧ '(' ∉ header ∧ ')' ∉ tail := by
  simp only [body?, Option.bind_eq_bind, Option.bind_eq_some_iff, Prod.exists, Text.cutAtChar_eq_some_iff,
    Text.cutAtLastChar_eq_some_iff]
  constructor
  · rintro ⟨header, inner, ⟨hheader, rfl⟩, body', tail, ⟨htail, rfl⟩, h⟩
    split at h
    · cases h
    · rename_i hempty
      cases h
      exact ⟨mt List.isEmpty_iff.mpr hempty, header, tail, rfl, hheader, htail⟩
  · rintro ⟨hne, header, tail, rfl, hheader, htail⟩
    refine ⟨header, _, ⟨hheader, rfl⟩, body, tail, ⟨htail, rfl⟩, ?_⟩
    rw [if_neg (mt List.isEmpty_iff.mp hne)]

/-- Where a column comes from. The columns of a statement are read each from one place of its body, in order. A place
stands on one line, at the start of the line or behind a comma on it, and goes on to a comma or the end of the line.
Where it begins nothing is open as far as its line tells. In the whole body it begins in a quote exactly if its line
does, and otherwise at most as deep in parentheses as its line: where nothing is open as the line begins, nothing is
open as the place begins. -/
theorem columns_places (ddl : List Char) :
    columns ddl = .ok (((body? ddl).elim [] places).filterMap Place.column?) ∧
    ∀ body, body? ddl = some body →
      (∃ header tail, ddl = header ++ '(' :: (body ++ ')' :: tail) ∧ '(' ∉ header ∧ ')' ∉ tail) ∧
      ∀ p ∈ places body, p.Grown ∧
        (∃ after, body = p.upTo ++ after ∧ ∀ c ∈ after.head?, c = ',' ∨ c = '\n') ∧
        (Scan.start.run (p.above ++ p.before)).quoted = (Scan.start.run p.above).quoted ∧
        ((Scan.start.run p.above).quoted = false →
          (Scan.start.run (p.above ++ p.before)).depth ≤ (Scan.start.run p.above).depth) ∧
        (Scan.start.run p.above = .start → Scan.start.run (p.above ++ p.before) = .start) := by
  refine ⟨columns_eq_places ddl, fun body hbody => ⟨(body?_eq_some_iff.mp hbody).2, fun p hp => ?_⟩⟩
  have hgrown : p.Grown := grown_of_mem_placesFrom .empty hp
  obtain ⟨after, hafter, hends⟩ := exists_of_mem_placesFrom hp
  rw [Scan.run_append]
  refine ⟨hgrown, ⟨after, hafter, hends⟩, ?_, fun hquoted => ?_, fun hstart => ?_⟩
  · rw [Scan.quoted_run, hgrown.nothing_open]
    exact Bool.xor_false _
  · -- From the line's own start the text before the place ends at depth zero.
    have hdepth := Scan.depth_run_le (t := Scan.start) (k := (Scan.start.run p.above).depth) hquoted
      (Nat.le_add_left _ _) p.before
    rwa [hgrown.nothing_open, Scan.start, Nat.zero_add] at hdepth
  · rw [hstart, hgrown.nothing_open]

/-- An expression over three lines, from which a column is read inside parentheses. -/
theorem column_inside_parentheses :
    columns "CREATE TABLE t (\n  a int CHECK (\n    a > 0\n  )\n)".toList = .ok [⟨"a", "int"⟩, ⟨"a", ">"⟩] ∧
    body? "CREATE TABLE t (\n  a int CHECK (\n    a > 0\n  )\n)".toList =
      some "\n  a int CHECK (\n    a > 0\n  )\n".toList ∧
    ∃ p, (places "\n  a int CHECK (\n    a > 0\n  )\n".toList).filter (·.column? = some ⟨"a", ">"⟩) = [p] ∧
      Scan.start.run (p.above ++ p.before) = ⟨1, false⟩ := by
  refine ⟨rfl, rfl, ⟨"\n  a int CHECK (\n".toList, [], "    a > 0".toList⟩, ?_, ?_⟩
  · rfl
  · rfl

end SchemaAudit.Ddl
