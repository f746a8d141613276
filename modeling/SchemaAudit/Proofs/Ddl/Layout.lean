import SchemaAudit.Proofs.Ddl.Splitting

/-! # Layouts of a statement

The scanner starts anew on each line, so what it has open at the end of a line is forgotten. A text that leaves nothing
open gives it nothing to forget: wherever the lines around such texts end, they are cut as each of them is cut by itself
(`cuts_append`, `LaidOut.cleaned_cuts`). What is read of a statement is therefore one and the same for all its layouts
(`columns_of_layouts`). Every statement is read, too: what is left of a piece after cleaning is empty or starts with a
word, so it has a kind, and one of a column has two words (`Starts.classifyLine`). The statement has the columns of those
definitions and no others (`columns_eq`). -/

namespace SchemaAudit.Ddl

open Text (isBlank trimLeft trimRight trim words)

variable {x t blanks line body body' header tail : List Char} {c : Char} {s : Scan} {texts : List (List Char)}

/-! ### Every line is read -/

/-- A line that is empty or starts with a word. -/
def Starts (line : List Char) : Prop := ∀ c ∈ line.head?, isBlank c = false

theorem starts_trim (x : List Char) : Starts (trim x) := fun _ => Text.isBlank_of_mem_head?_trim

theorem Starts.dropLast {line : List Char} (h : Starts line) : Starts line.dropLast := by
  cases line with
  | nil => exact h
  | cons c line =>
    cases line with
    | nil => exact nofun
    | cons d line => exact h

theorem starts_cleanLine (x : List Char) : Starts (cleanLine x) := by
  rw [cleanLine]
  split
  · exact (starts_trim x).dropLast
  · exact starts_trim x

/-- A line that starts with a word has a kind, and a column if that is its kind. -/
theorem Starts.classifyLine {line : List Char} (h : Starts line) :
    ∃ kind, classifyLine line = .ok kind ∧ (kind = .column → ∃ column, declared line = .ok column) := by
  cases line with
  | nil => exact ⟨.blank, rfl, nofun⟩
  | cons c line =>
    have hwords : words (c :: line) ≠ [] := Text.words_ne_nil List.mem_cons_self (h c rfl)
    obtain ⟨first, others, hsplit⟩ := List.exists_cons_of_ne_nil hwords
    rw [Ddl.classifyLine, declared, hsplit, if_neg (by simp)]
    dsimp only
    split
    · exact ⟨_, rfl, nofun⟩
    split
    · exact ⟨_, rfl, nofun⟩
    split
    · exact ⟨_, rfl, nofun⟩
    · rename_i hothers _
      obtain ⟨second, others, rfl⟩ := List.exists_cons_of_ne_nil (mt List.isEmpty_iff.mpr hothers)
      exact ⟨_, rfl, fun _ => ⟨_, rfl⟩⟩

/-- The column that a cleaned definition declares, if it is the definition of one. -/
def column? (line : List Char) : Option Declared :=
  match classifyLine line with
  | .ok .column => (declared line).toOption
  | _ => none

theorem column?_eq_some_iff {column : Declared} :
    column? line = some column ↔ classifyLine line = .ok .column ∧ declared line = .ok column := by
  unfold column?
  split
  · rename_i hkind
    simp only [hkind, true_and]
    cases declared line <;> simp [Except.toOption]
  · rename_i hkind
    simp only [reduceCtorEq, false_iff, not_and]
    exact fun h => absurd h hkind

theorem columnsAmong_eq {lines : List (List Char)} (h : ∀ line ∈ lines, Starts line) :
    columnsAmong lines = .ok (lines.filterMap column?) := by
  induction lines with
  | nil => rfl
  | cons line lines ih =>
    rw [List.forall_mem_cons] at h
    obtain ⟨kind, hkind, hcolumn⟩ := h.1.classifyLine
    rw [columnsAmong, hkind, ih h.2, List.filterMap_cons]
    cases kind with
    | column =>
      obtain ⟨column, hdeclared⟩ := hcolumn rfl
      rw [column?_eq_some_iff.mpr ⟨hkind, hdeclared⟩, hdeclared]
      rfl
    | blank | constraint | incomplete | keyword =>
      rw [column?, hkind]
      rfl

theorem starts_of_mem_definitions (h : line ∈ definitions body) : Starts line := by
  rw [definitions_eq] at h
  obtain ⟨piece, -, rfl⟩ := List.mem_map.mp h
  exact starts_cleanLine piece

/-- A statement is read as the columns of its definitions. -/
theorem columns_eq (ddl : List Char) :
    columns ddl = .ok (((body? ddl).elim [] definitions).filterMap column?) := by
  rw [columns]
  cases body? ddl with
  | none => rfl
  | some body => exact columnsAmong_eq fun _ => starts_of_mem_definitions

/-- Every text is read as a statement. -/
theorem exists_columns (ddl : List Char) : ∃ cs, columns ddl = .ok cs := ⟨_, columns_eq ddl⟩

/-! ### Cutting behind a text -/

theorem next_of_separates (h : s.separates c = true) : s.next c = s := by
  simp only [Scan.separates, Bool.and_eq_true, decide_eq_true_eq, Bool.not_eq_true'] at h
  obtain ⟨⟨rfl, -⟩, hquoted⟩ := h
  simp [Scan.next, hquoted]

/-- Behind a text on one line the cutting goes on from the state after that text, and its last piece goes on as the
first one of what follows. -/
theorem cuts_append (line : '\n' ∉ x) (s : Scan) (t : List Char) : ∃ ps p, splitFrom s x = ps ++ [p] ∧
    cuts s (x ++ t) = ps ++ startingWith p (cuts (s.run x) t) := by
  induction x generalizing s with
  | nil => exact ⟨[], [], rfl, (startingWith_nil_cuts s t).symm⟩
  | cons c x ih =>
    rw [List.mem_cons, not_or] at line
    obtain ⟨ps, p, hsplit, hcuts⟩ := ih line.2 (s.next c)
    cases hs : s.separates c with
    | true =>
      have hrun : s.run (c :: x) = s.run x := congrArg (Scan.run · x) (next_of_separates hs)
      rw [next_of_separates hs] at hsplit hcuts
      refine ⟨[] :: ps, p, ?_, ?_⟩
      · rw [splitFrom, if_pos hs, hsplit]
        rfl
      · rw [List.cons_append, cuts, if_neg (Ne.symm line.1), if_pos hs, hcuts, hrun]
        rfl
    | false =>
      rw [splitFrom_cons_of_kept hs, hsplit, List.cons_append, cuts_cons_of_kept (Ne.symm line.1) hs, hcuts]
      cases ps with
      | nil => exact ⟨[], c :: p, rfl, (startingWith_append [c] p _).symm⟩
      | cons q ps => exact ⟨(c :: q) :: ps, p, rfl, rfl⟩

/-! ### Closed texts -/

/-- A text on one line that leaves neither a parenthesis nor a quote open. It may have commas of its own, and it need
not define anything. -/
structure IsClosed (x : List Char) : Prop where
  one_line : '\n' ∉ x
  closed : Scan.start.run x = .start

theorem cleaned_append (ps qs : List (List Char)) : cleaned (ps ++ qs) = cleaned ps ++ cleaned qs := by
  rw [cleaned, List.map_append, List.filter_append]
  rfl

theorem cleanLine_append_blank (h : ∀ c ∈ blanks, isBlank c = true) (x : List Char) :
    cleanLine (x ++ blanks) = cleanLine x := by
  rw [cleanLine, cleanLine, Text.trim_append_blank h]

/-- A closed text is cut as it is by itself, whatever blanks and line ends stand behind it. -/
theorem IsClosed.cleaned_cuts {after : List Char} {ps : List (List Char)} (h : IsClosed x)
    (ha : ∀ c ∈ after, isBlank c = true) (ht : cuts .start t = [] :: ps) :
    cleaned (cuts .start (x ++ (after ++ t))) = cleaned (splitDefinitions x) ++ cleaned ps := by
  obtain ⟨b, more, hmore, hb, hcleaned⟩ := cuts_of_blank ha ht
  obtain ⟨qs, q, hsplit, hcuts⟩ := cuts_append h.one_line .start (after ++ t)
  have hlast : cleaned ((q ++ b) :: more) = cleaned [q] ++ cleaned ps := by
    rw [← hcleaned, ← cleaned_append, cleaned, cleaned, List.singleton_append, List.map_cons, List.map_cons,
      cleanLine_append_blank hb]
  rw [hcuts, h.closed, hmore, startingWith, cleaned_append, hlast, splitDefinitions, hsplit, cleaned_append,
    List.append_assoc]

/-! ### Layouts -/

/-- A body with some texts in it, a comma behind each but perhaps the last, and any blanks and line ends around each. -/
inductive LaidOut : List (List Char) → List Char → Prop
  | nothing {blanks : List Char} (blank : ∀ c ∈ blanks, isBlank c = true) : LaidOut [] blanks
  | last {before text after : List Char} (before_blank : ∀ c ∈ before, isBlank c = true)
    (after_blank : ∀ c ∈ after, isBlank c = true) : LaidOut [text] (before ++ (text ++ after))
  | next {before text after body : List Char} {texts : List (List Char)} (before_blank : ∀ c ∈ before, isBlank c = true)
    (after_blank : ∀ c ∈ after, isBlank c = true) (rest : LaidOut texts body) :
    LaidOut (text :: texts) (before ++ (text ++ (after ++ ',' :: body)))

/-- Closed texts are cut one by one, however they are laid out. -/
theorem LaidOut.cleaned_cuts (h : LaidOut texts body) (closed : ∀ x ∈ texts, IsClosed x) :
    cleaned (cuts .start body) = cleaned (texts.flatMap splitDefinitions) := by
  induction h with
  | @nothing blanks blank =>
    have hcuts := cleaned_cuts_of_blank blank []
    rw [List.append_nil] at hcuts
    rw [hcuts]
    rfl
  | @last before text after before_blank after_blank =>
    have hend : cuts .start [] = [] :: [] := rfl
    have htext := (closed text List.mem_cons_self).cleaned_cuts after_blank hend
    rw [List.append_nil] at htext
    rw [cleaned_cuts_of_blank before_blank, htext, List.flatMap_cons, cleaned_append]
    rfl
  | @next before text after body texts before_blank after_blank _ ih =>
    rw [List.forall_mem_cons] at closed
    have hcomma : cuts .start (',' :: body) = [] :: cuts .start body := rfl
    rw [cleaned_cuts_of_blank before_blank, closed.1.cleaned_cuts after_blank hcomma, ih closed.2, List.flatMap_cons,
      cleaned_append]

/-- All layouts of some closed texts in one statement are read as the same columns, which are those of the texts
read one by one. -/
theorem columns_of_layouts (hheader : '(' ∉ header) (htail : ')' ∉ tail) (closed : ∀ x ∈ texts, IsClosed x)
    (h : LaidOut texts body) (h' : LaidOut texts body') : ∃ cs,
      columns (header ++ '(' :: (body ++ ')' :: tail)) = .ok cs ∧
      columns (header ++ '(' :: (body' ++ ')' :: tail)) = .ok cs ∧
      columnsAmong ((texts.flatMap splitDefinitions).map cleanLine) = .ok cs := by
  have hread {body : List Char} (h : LaidOut texts body) : columns (header ++ '(' :: (body ++ ')' :: tail)) =
      columnsAmong ((texts.flatMap splitDefinitions).map cleanLine) := by
    rw [columns_of_body hheader htail, h.cleaned_cuts closed, cleaned, columnsAmong_filter]
  obtain ⟨cs, hcs⟩ := exists_columns (header ++ '(' :: (body ++ ')' :: tail))
  exact ⟨cs, hcs, by rw [hread h', ← hread h, hcs], by rw [← hread h, hcs]⟩

theorem blank_of_line : ∀ c ∈ ['\n', '\t'], isBlank c = true := Text.forall_of_all (by decide)

theorem space_line_blank : ∀ c ∈ [' ', '\n'], isBlank c = true := Text.forall_of_all (by decide)

/-- Four texts on one line and over seven lines: two columns in one of them, none in the next, a comma in parentheses
and one in a quote. -/
theorem columns_of_layouts_regrouped :
    columns "t(a N(1,2),b u, c v,,d w ',(');".toList =
      .ok [⟨"a", "n(1,2)"⟩, ⟨"b", "u"⟩, ⟨"c", "v"⟩, ⟨"d", "w"⟩] ∧
    columns "t(\n\ta N(1,2)\n,\n\tb u, c v \n,,\n\td w ',('\n\t);".toList =
      .ok [⟨"a", "n(1,2)"⟩, ⟨"b", "u"⟩, ⟨"c", "v"⟩, ⟨"d", "w"⟩] := by
  have closed : ∀ x ∈ ["a N(1,2)".toList, "b u, c v".toList, [], "d w ',('".toList], IsClosed x := by
    simp only [List.forall_mem_cons]
    exact ⟨⟨by decide, by decide⟩, ⟨by decide, by decide⟩, ⟨by decide, by decide⟩, ⟨by decide, by decide⟩, nofun⟩
  have line : LaidOut ["a N(1,2)".toList, "b u, c v".toList, [], "d w ',('".toList]
      "a N(1,2),b u, c v,,d w ',('".toList :=
    @LaidOut.next [] _ [] _ _ nofun nofun (@LaidOut.next [] _ [] _ _ nofun nofun
      (@LaidOut.next [] _ [] _ _ nofun nofun (@LaidOut.last [] _ [] nofun nofun)))
  have lines : LaidOut ["a N(1,2)".toList, "b u, c v".toList, [], "d w ',('".toList]
      "\n\ta N(1,2)\n,\n\tb u, c v \n,,\n\td w ',('\n\t".toList :=
    @LaidOut.next ['\n', '\t'] _ ['\n'] _ _ blank_of_line (Text.forall_of_all (by decide))
      (@LaidOut.next ['\n', '\t'] _ [' ', '\n'] _ _ blank_of_line space_line_blank
        (@LaidOut.next [] _ [] _ _ nofun nofun (@LaidOut.last ['\n', '\t'] _ ['\n', '\t'] blank_of_line blank_of_line)))
  obtain ⟨cs, hline, hlines, hread⟩ :=
    @columns_of_layouts _ _ ['t'] [';'] _ (by decide) (by decide) closed line lines
  have hvalue : columnsAmong ((["a N(1,2)".toList, "b u, c v".toList, [], "d w ',('".toList].flatMap
      splitDefinitions).map cleanLine) = .ok [⟨"a", "n(1,2)"⟩, ⟨"b", "u"⟩, ⟨"c", "v"⟩, ⟨"d", "w"⟩] := by
    rfl
  cases hread.symm.trans hvalue
  exact ⟨hline, hlines⟩

end SchemaAudit.Ddl
