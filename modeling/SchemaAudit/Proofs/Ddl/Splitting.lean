import SchemaAudit.Ddl.Columns
import SchemaAudit.Proofs.Text.Blank

/-! # The definitions of a statement, cut apart

A balanced definition comes out of the body of a statement whole: no comma in it separates, as each stands in
parentheses or in a quote, and behind it nothing is open (`Balanced.cuts_append`). Definitions with commas between
them, and with blanks and line ends around each, are therefore cut into just these definitions
(`columns_listed`). -/

namespace SchemaAudit.Ddl

open Text (isBlank trimRight)

variable {x t : List Char} {c : Char} {inside : Bool} {n : Nat}

/-! ### Balanced texts -/

/-- A text whose quotes and parentheses are closed, whether or not it stands inside parentheses: outside of them it has
no comma but in quotes. -/
inductive Balanced : Bool → List Char → Prop
  | nil {inside : Bool} : Balanced inside []
  | plain {inside : Bool} {c : Char} {x : List Char} (plain : c ∉ [',', '\'', '(', ')']) (rest : Balanced inside x) :
    Balanced inside (c :: x)
  | comma {x : List Char} (rest : Balanced true x) : Balanced true (',' :: x)
  | quote {inside : Bool} {body x : List Char} (closed : '\'' ∉ body) (rest : Balanced inside x) :
    Balanced inside ('\'' :: (body ++ '\'' :: x))
  | group {inside : Bool} {body x : List Char} (body_balanced : Balanced true body) (rest : Balanced inside x) :
    Balanced inside ('(' :: (body ++ ')' :: x))

theorem Balanced.append (h : Balanced inside x) (ht : Balanced inside t) : Balanced inside (x ++ t) := by
  induction h with
  | nil => exact ht
  | plain plain _ ih => exact .plain plain (ih ht)
  | comma _ ih => exact .comma (ih ht)
  | quote closed _ ih =>
    rw [List.cons_append, List.append_assoc]
    exact .quote closed (ih ht)
  | group body_balanced _ _ ih =>
    rw [List.cons_append, List.append_assoc]
    exact .group body_balanced (ih ht)

theorem balanced_of_plain (h : ∀ c ∈ x, c ∉ [',', '\'', '(', ')']) : Balanced inside x := by
  induction x with
  | nil => exact .nil
  | cons c x ih =>
    rw [List.forall_mem_cons] at h
    exact .plain h.1 (ih h.2)

theorem suffix_of_not_mem {p s : List Char} (h : t <:+ p ++ c :: s) (hc : c ∉ t) : t <:+ s := by
  rcases List.suffix_or_suffix_of_suffix h (List.suffix_append p (c :: s)) with ht | ht
  · rcases List.suffix_cons_iff.mp ht with rfl | ht
    · exact absurd List.mem_cons_self hc
    · exact ht
  · exact absurd (ht.subset List.mem_cons_self) hc

/-- Outside parentheses no balanced text ends in a comma, whatever blanks stand behind it. -/
theorem Balanced.not_comma_suffix (h : Balanced inside x) (outside : inside = false) {blanks : List Char}
    (hb : ∀ c ∈ blanks, isBlank c = true) : ¬ ',' :: blanks <:+ x := by
  have absent {q : Char} (hq : isBlank q = false) (hne : q ≠ ',') : q ∉ ',' :: blanks := by
    rw [List.mem_cons, not_or]
    refine ⟨hne, fun hm => ?_⟩
    cases hq.symm.trans (hb q hm)
  intro hs
  -- The comma cannot stand in front of a mark that closes, as only blanks are behind it: it is in what follows.
  induction h with
  | nil => cases List.suffix_nil.mp hs
  | plain plain _ ih =>
    rcases List.suffix_cons_iff.mp hs with heq | hs
    · cases heq
      exact plain List.mem_cons_self
    · exact ih outside hs
  | comma => cases outside
  | quote closed _ ih =>
    rw [← List.cons_append] at hs
    exact ih outside (suffix_of_not_mem hs (absent rfl (by decide)))
  | group _ _ _ ih =>
    rw [← List.cons_append] at hs
    exact ih outside (suffix_of_not_mem hs (absent rfl (by decide)))

/-! ### Cutting -/

/-- Pieces with a text put before the first of them. -/
def startingWith (x : List Char) : List (List Char) → List (List Char)
  | [] => [x]
  | p :: ps => (x ++ p) :: ps

/-- The pieces of a text between the commas that separate definitions and between its lines, from a state on. -/
def cuts (s : Scan) : List Char → List (List Char)
  | [] => [[]]
  | c :: rest =>
    if c = '\n' then [] :: cuts .start rest
    else if s.separates c then [] :: cuts s rest
    else startingWith [c] (cuts (s.next c) rest)

theorem startingWith_ne_nil (x : List Char) (ps : List (List Char)) : startingWith x ps ≠ [] := by
  cases ps <;> exact List.cons_ne_nil _ _

theorem startingWith_append (x y : List Char) (ps : List (List Char)) :
    startingWith (x ++ y) ps = startingWith x (startingWith y ps) := by
  cases ps with
  | nil => rfl
  | cons p ps => simp only [startingWith, List.append_assoc]

theorem cuts_ne_nil (s : Scan) (text : List Char) : cuts s text ≠ [] := by
  cases text with
  | nil => exact List.cons_ne_nil _ _
  | cons c text =>
    rw [cuts]
    split
    · exact List.cons_ne_nil _ _
    · split
      · exact List.cons_ne_nil _ _
      · exact startingWith_ne_nil _ _

theorem startingWith_nil_cuts (s : Scan) (text : List Char) : startingWith [] (cuts s text) = cuts s text := by
  obtain ⟨p, ps, hp⟩ := List.exists_cons_of_ne_nil (cuts_ne_nil s text)
  rw [hp]
  rfl

theorem splitFrom_cons_of_kept {s : Scan} (h : s.separates c = false) (text : List Char) :
    splitFrom s (c :: text) = startingWith [c] (splitFrom (s.next c) text) := by
  rw [splitFrom, h, if_neg Bool.false_ne_true]
  cases splitFrom (s.next c) text <;> rfl

theorem splitFrom_ne_nil (s : Scan) (text : List Char) : splitFrom s text ≠ [] := by
  cases text with
  | nil => exact List.cons_ne_nil _ _
  | cons c text =>
    cases hs : s.separates c with
    | true =>
      rw [splitFrom, if_pos hs]
      exact List.cons_ne_nil _ _
    | false =>
      rw [splitFrom_cons_of_kept hs]
      exact startingWith_ne_nil _ _

/-- Cutting at line ends and then at commas is cutting at both. -/
theorem cuts_eq (s : Scan) (text : List Char) : ∃ line lines, Text.pieces '\n' text = line :: lines ∧
    cuts s text = splitFrom s line ++ lines.flatMap splitDefinitions := by
  -- Each line is scanned from the start, so only the first one goes on from the state.
  induction text generalizing s with
  | nil => exact ⟨[], [], rfl, rfl⟩
  | cons c text ih =>
    rw [Text.pieces, cuts]
    by_cases hc : c = '\n'
    · obtain ⟨line, lines, hlines, hcuts⟩ := ih .start
      rw [if_pos hc, if_pos hc, hlines, hcuts]
      exact ⟨[], line :: lines, rfl, rfl⟩
    · rw [if_neg hc, if_neg hc]
      cases hs : s.separates c with
      | true =>
        obtain ⟨line, lines, hlines, hcuts⟩ := ih s
        rw [hlines, if_pos rfl, hcuts]
        refine ⟨c :: line, lines, rfl, ?_⟩
        rw [splitFrom, if_pos hs]
        rfl
      | false =>
        obtain ⟨line, lines, hlines, hcuts⟩ := ih (s.next c)
        rw [hlines, if_neg Bool.false_ne_true, hcuts]
        refine ⟨c :: line, lines, rfl, ?_⟩
        obtain ⟨p, ps, hp⟩ := List.exists_cons_of_ne_nil (splitFrom_ne_nil (s.next c) line)
        rw [splitFrom_cons_of_kept hs, hp]
        rfl

theorem definitions_eq (body : List Char) : definitions body = (cuts .start body).map cleanLine := by
  obtain ⟨line, lines, hlines, hcuts⟩ := cuts_eq .start body
  rw [definitions, hlines, hcuts, ← List.map_flatMap]
  rfl

/-! ### Cutting balanced texts -/

theorem cuts_cons_of_kept {s : Scan} (hc : c ≠ '\n') (hs : s.separates c = false) (t : List Char) :
    cuts s (c :: t) = startingWith [c] (cuts (s.next c) t) := by
  rw [cuts, if_neg hc, hs, if_neg Bool.false_ne_true]

theorem separates_quoted (n : Nat) (c : Char) : Scan.separates ⟨n, true⟩ c = false := by simp [Scan.separates]

theorem separates_of_ne_comma {s : Scan} (h : c ≠ ',') : s.separates c = false := by simp [Scan.separates, h]

theorem separates_inside (h : 0 < n) : Scan.separates ⟨n, false⟩ ',' = false := by
  simp [Scan.separates, Nat.pos_iff_ne_zero.mp h]

theorem next_of_plain (h : c ∉ [',', '\'', '(', ')']) : Scan.next ⟨n, false⟩ c = ⟨n, false⟩ := by
  simp only [List.mem_cons, List.not_mem_nil, or_false, not_or] at h
  simp [Scan.next, h]

/-- A quote is kept whole, with the mark that ends it. -/
theorem cuts_quoted {body : List Char} (closed : '\'' ∉ body) (line : '\n' ∉ body) (t : List Char) :
    cuts ⟨n, true⟩ (body ++ '\'' :: t) = startingWith (body ++ ['\'']) (cuts ⟨n, false⟩ t) := by
  induction body with
  | nil =>
    rw [List.nil_append, cuts_cons_of_kept (by decide) (separates_quoted n _)]
    rfl
  | cons c body ih =>
    rw [List.mem_cons, not_or] at closed line
    have hnext : Scan.next ⟨n, true⟩ c = ⟨n, true⟩ := by simp [Scan.next, Ne.symm closed.1]
    rw [List.cons_append, cuts_cons_of_kept (Ne.symm line.1) (separates_quoted n c), hnext, ih closed.2 line.2,
      ← startingWith_append]
    rfl

/-- A balanced text on one line is kept whole. -/
theorem Balanced.cuts_append (h : Balanced inside x) (line : '\n' ∉ x) (deep : inside = true → 0 < n)
    (t : List Char) : cuts ⟨n, false⟩ (x ++ t) = startingWith x (cuts ⟨n, false⟩ t) := by
  -- A group is read one level deeper and in front of its closing parenthesis, hence any depth and any text behind.
  induction h generalizing n t with
  | nil => exact (startingWith_nil_cuts _ t).symm
  | @plain inside c x plain _ ih =>
    rw [List.mem_cons, not_or] at line
    have hcomma : c ≠ ',' := fun heq => plain (heq ▸ List.mem_cons_self)
    rw [List.cons_append, cuts_cons_of_kept (Ne.symm line.1) (separates_of_ne_comma hcomma), next_of_plain plain,
      ih line.2 deep t, ← startingWith_append]
    rfl
  | comma _ ih =>
    rw [List.mem_cons, not_or] at line
    have hnext : Scan.next ⟨n, false⟩ ',' = ⟨n, false⟩ := rfl
    rw [List.cons_append, cuts_cons_of_kept (Ne.symm line.1) (separates_inside (deep rfl)), hnext,
      ih line.2 deep t, ← startingWith_append]
    rfl
  | @quote inside body x closed _ ih =>
    simp only [List.mem_cons, List.mem_append, not_or] at line
    obtain ⟨-, hbody, -, hx⟩ := line
    have hnext : Scan.next ⟨n, false⟩ '\'' = ⟨n, true⟩ := rfl
    rw [List.cons_append, List.append_assoc, List.cons_append,
      cuts_cons_of_kept (by decide) (separates_of_ne_comma (by decide)), hnext, cuts_quoted closed hbody,
      ih hx deep t, ← startingWith_append, ← startingWith_append]
    simp
  | @group inside body x _ _ ihbody ih =>
    simp only [List.mem_cons, List.mem_append, not_or] at line
    obtain ⟨-, hbody, -, hx⟩ := line
    have hopen : Scan.next ⟨n, false⟩ '(' = ⟨n + 1, false⟩ := rfl
    have hclose : Scan.next ⟨n + 1, false⟩ ')' = ⟨n, false⟩ := rfl
    rw [List.cons_append, List.append_assoc, List.cons_append,
      cuts_cons_of_kept (by decide) (separates_of_ne_comma (by decide)), hopen,
      ihbody hbody (fun _ => Nat.succ_pos n), cuts_cons_of_kept (by decide) (separates_of_ne_comma (by decide)),
      hclose, ih hx deep t, ← startingWith_append, ← startingWith_append, ← startingWith_append]
    simp

/-! ### Blanks around a definition -/

/-- Pieces cleaned, without those that are then empty. -/
def cleaned (ps : List (List Char)) : List (List Char) := (ps.map cleanLine).filter (!·.isEmpty)

theorem cleaned_cons_of_blank (h : ∀ c ∈ x, isBlank c = true) (ps : List (List Char)) :
    cleaned (x :: ps) = cleaned ps := by
  have hx : cleanLine x = [] := by
    rw [← List.append_nil x, cleanLine, Text.trim, Text.trimLeft_append h]
    rfl
  rw [cleaned, List.map_cons, hx]
  rfl

theorem plain_of_isBlank (h : isBlank c = true) : c ∉ [',', '\'', '(', ')'] := by
  simp only [List.mem_cons, List.not_mem_nil, or_false, not_or]
  refine ⟨?_, ?_, ?_, ?_⟩ <;> rintro rfl <;> cases h

theorem cuts_blank_cons (h : isBlank c = true) (hc : c ≠ '\n') (t : List Char) :
    cuts .start (c :: t) = startingWith [c] (cuts .start t) := by
  have hplain := plain_of_isBlank h
  have hcomma : c ≠ ',' := fun heq => hplain (heq ▸ List.mem_cons_self)
  have hnext : Scan.next .start c = .start := next_of_plain hplain
  rw [cuts_cons_of_kept hc (separates_of_ne_comma hcomma), hnext]

/-- Blanks and line ends before a definition are trimmed away or make empty pieces. -/
theorem cleaned_cuts_of_blank (h : ∀ c ∈ x, isBlank c = true) (t : List Char) :
    cleaned (cuts .start (x ++ t)) = cleaned (cuts .start t) := by
  induction x with
  | nil => rfl
  | cons c x ih =>
    rw [List.forall_mem_cons] at h
    rw [List.cons_append, ← ih h.2]
    by_cases hc : c = '\n'
    · rw [cuts, if_pos hc]
      exact cleaned_cons_of_blank (x := []) nofun _
    · obtain ⟨p, ps, hp⟩ := List.exists_cons_of_ne_nil (cuts_ne_nil .start (x ++ t))
      have hclean : cleanLine (c :: p) = cleanLine p := by
        rw [cleanLine, cleanLine, Text.trim, Text.trim, Text.trimLeft, List.dropWhile_cons_of_pos h.1]
        rfl
      rw [cuts_blank_cons h.1 hc, hp, startingWith, List.singleton_append, cleaned, cleaned, List.map_cons,
        List.map_cons, hclean]

/-- Of the pieces behind a definition the first is blank, and what is behind the blanks is cut by itself. -/
theorem cuts_of_blank {ps : List (List Char)} (h : ∀ c ∈ x, isBlank c = true) (ht : cuts .start t = [] :: ps) :
    ∃ p more, cuts .start (x ++ t) = p :: more ∧ (∀ c ∈ p, isBlank c = true) ∧ cleaned more = cleaned ps := by
  induction x with
  | nil => exact ⟨[], ps, ht, nofun, rfl⟩
  | cons c x ih =>
    rw [List.forall_mem_cons] at h
    obtain ⟨p, more, hcuts, hp, hmore⟩ := ih h.2
    rw [List.cons_append]
    by_cases hc : c = '\n'
    · rw [cuts, if_pos hc, hcuts]
      exact ⟨[], p :: more, rfl, nofun, (cleaned_cons_of_blank hp more).trans hmore⟩
    · rw [cuts_blank_cons h.1 hc, hcuts]
      exact ⟨c :: p, more, rfl, List.forall_mem_cons.mpr ⟨h.1, hp⟩, hmore⟩

/-! ### Definitions -/

/-- A definition as it stands in a body: balanced on its own, on one line and not starting with a blank. -/
structure IsDefinition (x : List Char) : Prop where
  balanced : Balanced false x
  one_line : '\n' ∉ x
  starts : ∃ c t, x = c :: t ∧ isBlank c = false

theorem IsDefinition.trimRight_ne_nil (h : IsDefinition x) : trimRight x ≠ [] := by
  obtain ⟨c, t, hx, hc⟩ := h.starts
  obtain ⟨blanks, hsplit, hblanks⟩ := Text.exists_trimRight x
  intro hnil
  rw [hnil, List.nil_append] at hsplit
  cases hc.symm.trans (hblanks c (hsplit ▸ hx ▸ List.mem_cons_self))

/-- Cleaning a definition takes the blanks from its end and nothing else. -/
theorem IsDefinition.cleanLine_append {blanks : List Char} (h : IsDefinition x)
    (hb : ∀ c ∈ blanks, isBlank c = true) : cleanLine (x ++ blanks) = trimRight x := by
  have htrim : Text.trim (x ++ blanks) = trimRight x := by
    obtain ⟨c, t, rfl, hc⟩ := h.starts
    rw [Text.trim, List.cons_append, Text.trimLeft_cons hc, ← List.cons_append, Text.trimRight_append hb]
  have hlast : (trimRight x).getLast? ≠ some ',' := by
    intro hlast
    obtain ⟨before, hbefore⟩ := List.getLast?_eq_some_iff.mp hlast
    obtain ⟨own, hx, hown⟩ := Text.exists_trimRight x
    refine h.balanced.not_comma_suffix rfl hown ⟨before, ?_⟩
    rw [List.append_cons, ← hbefore, ← hx]
  rw [cleanLine, htrim, if_neg hlast]

theorem IsDefinition.cleaned_cuts {after : List Char} {ps : List (List Char)} (h : IsDefinition x)
    (ha : ∀ c ∈ after, isBlank c = true) (ht : cuts .start t = [] :: ps) :
    cleaned (cuts .start (x ++ (after ++ t))) = trimRight x :: cleaned ps := by
  obtain ⟨p, more, hcuts, hp, hmore⟩ := cuts_of_blank ha ht
  have hwhole : cuts .start (x ++ (after ++ t)) = startingWith x (cuts .start (after ++ t)) :=
    h.balanced.cuts_append h.one_line nofun _
  have hkept : (!(trimRight x).isEmpty) = true := by simp [h.trimRight_ne_nil]
  rw [hwhole, hcuts, startingWith, cleaned, List.map_cons, h.cleanLine_append hp, List.filter_cons, if_pos hkept]
  exact congrArg _ hmore

/-- A definition with blanks around it, which may be line ends. -/
structure Entry where
  before : List Char
  text : List Char
  after : List Char
  definition : IsDefinition text
  before_blank : ∀ c ∈ before, isBlank c = true
  after_blank : ∀ c ∈ after, isBlank c = true

/-- Definitions with commas between them. -/
def listed : List Entry → List Char
  | [] => []
  | [e] => e.before ++ (e.text ++ e.after)
  | e :: f :: es => e.before ++ (e.text ++ (e.after ++ ',' :: listed (f :: es)))

theorem cleaned_cuts_listed (es : List Entry) :
    cleaned (cuts .start (listed es)) = es.map fun e => trimRight e.text := by
  induction es with
  | nil => rfl
  | cons e es ih =>
    cases es with
    | nil =>
      have hend : cuts .start [] = [] :: [] := rfl
      have hentry := e.definition.cleaned_cuts e.after_blank hend
      rw [List.append_nil] at hentry
      rw [listed, cleaned_cuts_of_blank e.before_blank, hentry]
      rfl
    | cons f es =>
      have hcomma : cuts .start (',' :: listed (f :: es)) = [] :: cuts .start (listed (f :: es)) := rfl
      rw [listed, cleaned_cuts_of_blank e.before_blank, e.definition.cleaned_cuts e.after_blank hcomma, ih]
      rfl

/-! ### Statements -/

theorem columnsAmong_filter (lines : List (List Char)) :
    columnsAmong (lines.filter (!·.isEmpty)) = columnsAmong lines := by
  induction lines with
  | nil => rfl
  | cons line lines ih =>
    cases line with
    | nil => exact ih
    | cons c line => rw [List.filter_cons_of_pos rfl, columnsAmong, columnsAmong, ih]

/-- The columns of a statement are those among the definitions between its first opening and its last closing
parenthesis. -/
theorem columns_of_body {header tail : List Char} (hheader : '(' ∉ header) (htail : ')' ∉ tail) (body : List Char) :
    columns (header ++ '(' :: (body ++ ')' :: tail)) = columnsAmong (cleaned (cuts .start body)) := by
  have hbody : body? (header ++ '(' :: (body ++ ')' :: tail)) = if body.isEmpty then none else some body := by
    rw [body?, Text.cutAtChar_of_not_mem hheader]
    change (Text.cutAtLastChar ')' (body ++ ')' :: tail)).bind _ = _
    rw [Text.cutAtLastChar_of_not_mem htail]
    rfl
  rw [columns, hbody, cleaned, columnsAmong_filter, ← definitions_eq]
  cases body with
  | nil => rfl
  | cons c body => rfl

/-- A statement is read definition by definition, however they are laid out. -/
theorem columns_listed {header tail : List Char} (hheader : '(' ∉ header) (htail : ')' ∉ tail) (es : List Entry) :
    columns (header ++ '(' :: (listed es ++ ')' :: tail)) = columnsAmong (es.map fun e => trimRight e.text) := by
  rw [columns_of_body hheader htail, cleaned_cuts_listed]

end SchemaAudit.Ddl
