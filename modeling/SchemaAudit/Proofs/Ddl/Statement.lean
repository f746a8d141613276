import SchemaAudit.Proofs.Ddl.Splitting
import SchemaAudit.Proofs.Text.Case

/-! # Statements written and read

A statement made of definitions, of columns and of the table as a whole, is read as the columns among them in their
order: `columns_of_definitions`. How the definitions are laid out over lines, what stands before the first opening and
behind the last closing parenthesis, and what is said of a column behind its type is all of no account. -/

namespace SchemaAudit.Ddl

open Text (isBlank isWord upper words trimRight EndsWord)

variable {name gap type rest word line : List Char}

/-! ### Kinds of lines -/

/-- The words that begin a definition for the table as a whole. -/
def tableWords : List String := ["CONSTRAINT", "PRIMARY", "KEY"]

/-- In whatever case such a word is written, it is a word: case mappings make a blank of nothing and nothing of a
blank. -/
theorem word_of_isSpelled {keyword : String} (hkeyword : keyword ∈ tableWords) (h : isSpelled keyword word = true) :
    word ≠ [] ∧ ∀ c ∈ word, isBlank c = false := by
  have hcapitals : keyword.toList ≠ [] ∧ ∀ c ∈ keyword.toList, isBlank c = false := by
    simp only [tableWords, List.mem_cons, List.not_mem_nil, or_false] at hkeyword
    rcases hkeyword with rfl | rfl | rfl
    all_goals exact ⟨by decide, Text.forall_of_all (by decide)⟩
  have hupper : upper word = keyword.toList := of_decide_eq_true h
  constructor
  · rintro rfl
    exact hcapitals.1 hupper.symm
  · intro c hc
    refine Bool.eq_false_iff.mpr fun hblank => ?_
    have hkept : Text.upperChar c = [c] := Text.keepsBlanks_upper.mapped_of_isBlank hblank
    have hmem : c ∈ upper word := List.mem_flatMap.mpr ⟨c, hc, hkept ▸ List.mem_singleton_self c⟩
    cases hblank.symm.trans (hcapitals.2 c (hupper ▸ hmem))

/-- A line that starts as a primary key has the first of its two words for its first word. -/
theorem isSpelled_of_startsPrimaryKey (hname : ∀ c ∈ name, isBlank c = false) (hrest : EndsWord rest)
    (h : startsPrimaryKey (upper (name ++ rest)) = true) : isSpelled "PRIMARY" name = true := by
  unfold startsPrimaryKey at h
  split at h
  · rename_i hstart
    obtain ⟨more, hmore⟩ := List.isPrefixOf_iff_prefix.mp hstart
    have hdrop : (upper (name ++ rest)).drop 7 = more := by rw [← hmore]; rfl
    rw [hdrop] at h
    simp only [Bool.and_eq_true, decide_eq_true_eq] at h
    obtain ⟨⟨hgap, -⟩, -⟩ := h
    have hends : EndsWord more := by
      cases more with
      | nil => exact Text.endsWord_nil
      | cons c more =>
        refine Text.endsWord_cons (Bool.not_eq_false _ ▸ fun hc => hgap ?_)
        rw [Text.trimLeft_cons hc]
    -- The capitals are cut in two ways where they have their first blank.
    rw [Text.upper_append] at hmore
    have hcapitals : ∀ c ∈ "PRIMARY".toList, isBlank c = false := Text.forall_of_all (by decide)
    exact decide_eq_true (Text.first_word_unique (fun _ => Text.isBlank_of_mem_upper hname)
      (Text.endsWord_upper hrest) hcapitals hends hmore.symm)
  · cases h

theorem classifyLine_column (hname : name ≠ []) (hword : ∀ c ∈ name, isBlank c = false) (hends : EndsWord rest)
    (hmore : words rest ≠ [])
    (hkeywords : ∀ keyword ∈ ["CREATE", "TABLE", "CONSTRAINT", "PRIMARY"], isSpelled keyword name = false) :
    classifyLine (name ++ rest) = .ok .column := by
  simp only [List.forall_mem_cons] at hkeywords
  obtain ⟨hcreate, htable, hconstraint, hprimary, -⟩ := hkeywords
  have hkey : startsPrimaryKey (upper (name ++ rest)) = false :=
    Bool.eq_false_iff.mpr fun h => Bool.eq_false_iff.mp hprimary (isSpelled_of_startsPrimaryKey hword hends h)
  rw [classifyLine, if_neg (by simp [hname]), Text.words_append hname hword hends]
  simp [hconstraint, hkey, hcreate, htable, hmore]

theorem classifyLine_constraint (hword : isSpelled "CONSTRAINT" word = true) (hends : EndsWord rest) :
    classifyLine (word ++ rest) = .ok .constraint := by
  obtain ⟨hne, hblank⟩ := word_of_isSpelled (by simp [tableWords]) hword
  rw [classifyLine, if_neg (by simp [hne]), Text.words_append hne hblank hends]
  simp [hword]

/-- Two words in capitals, with blanks between them and no word character behind them. -/
theorem startsPrimaryKey_of_words {key : List Char} (hprimary : isSpelled "PRIMARY" word = true)
    (hgap : gap ≠ []) (hblank : ∀ c ∈ gap, isBlank c = true) (hkey : isSpelled "KEY" key = true)
    (hends : ∀ c ∈ (upper rest).head?, isWord c = false) :
    startsPrimaryKey (upper (word ++ (gap ++ (key ++ rest)))) = true := by
  have hword : upper word = ['P', 'R', 'I', 'M', 'A', 'R', 'Y'] := of_decide_eq_true hprimary
  have hkeyword : upper key = ['K', 'E', 'Y'] := of_decide_eq_true hkey
  have htrim : Text.trimLeft (gap ++ ('K' :: 'E' :: 'Y' :: upper rest)) = 'K' :: 'E' :: 'Y' :: upper rest := by
    rw [Text.trimLeft_append hblank, Text.trimLeft_cons (by decide)]
  have hlength : 0 < gap.length := List.length_pos_iff.mpr hgap
  have hhead : (upper rest).head?.any isWord = false := by
    cases hc : (upper rest).head? with
    | none => rfl
    | some c => simp [hends c hc]
  rw [Text.upper_append, Text.upper_append, Text.upper_append, hword, hkeyword, Text.upper_of_blank hblank]
  simp only [startsPrimaryKey, List.cons_append, List.nil_append, List.drop_succ_cons, List.drop_zero, htrim]
  simp [hhead]
  omega

theorem classifyLine_primaryKey {key : List Char} (hprimary : isSpelled "PRIMARY" word = true) (hgap : gap ≠ [])
    (hblank : ∀ c ∈ gap, isBlank c = true) (hkey : isSpelled "KEY" key = true)
    (hends : ∀ c ∈ (upper rest).head?, isWord c = false) :
    classifyLine (word ++ (gap ++ (key ++ rest))) = .ok .constraint := by
  obtain ⟨hne, hword⟩ := word_of_isSpelled (by simp [tableWords]) hprimary
  have hgapEnds : EndsWord (gap ++ (key ++ rest)) := by
    obtain ⟨c, gap, rfl⟩ := List.exists_cons_of_ne_nil hgap
    exact Text.endsWord_cons (hblank c List.mem_cons_self)
  rw [classifyLine, if_neg (by simp [hne]), Text.words_append hne hword hgapEnds]
  simp [startsPrimaryKey_of_words hprimary hgap hblank hkey hends]

/-! ### Definitions -/

/-- A name for a column: a word without a comma, a quote or a parenthesis, and none of the words that begin something
else, in whatever case they are written. -/
structure IsColumnName (name : List Char) : Prop where
  ne_nil : name ≠ []
  one_word : ∀ c ∈ name, isBlank c = false
  plain : ∀ c ∈ name, c ∉ [',', '\'', '(', ')']
  no_keyword : ∀ keyword ∈ ["CREATE", "TABLE", "CONSTRAINT", "PRIMARY"], isSpelled keyword name = false

/-- The definition of a column: its name, its type and what else is said of it on the same line. The type is one word,
and closed together with what follows it. -/
structure ColumnDefinition where
  name : List Char
  gap : List Char
  type : List Char
  rest : List Char
  name_fits : IsColumnName name
  gap_ne_nil : gap ≠ []
  gap_blank : ∀ c ∈ gap, isBlank c = true
  type_ne_nil : type ≠ []
  type_word : ∀ c ∈ type, isBlank c = false
  rest_ends : EndsWord rest
  balanced : Balanced false (type ++ rest)
  one_line : '\n' ∉ gap ++ rest

/-- The beginnings of a definition for the table as a whole: the word for a constraint, or the two words for a primary
key, in whatever case they are written. -/
inductive StartsTable : List Char → Prop
  | constraint {word rest : List Char} (spelled : isSpelled "CONSTRAINT" word = true) (ends : EndsWord rest) :
    StartsTable (word ++ rest)
  | primaryKey {primary gap key rest : List Char} (first : isSpelled "PRIMARY" primary = true) (gap_ne_nil : gap ≠ [])
    (gap_blank : ∀ c ∈ gap, isBlank c = true) (second : isSpelled "KEY" key = true)
    (ends : ∀ c ∈ (upper rest).head?, isWord c = false) : StartsTable (primary ++ (gap ++ (key ++ rest)))

/-- A definition for the table as a whole. -/
structure TableDefinition where
  text : List Char
  starts : StartsTable text
  balanced : Balanced false text
  one_line : '\n' ∉ text

/-- A definition of a column or of the table as a whole. -/
inductive Definition where
  | column (c : ColumnDefinition)
  | table (t : TableDefinition)

namespace ColumnDefinition

/-- The definition as it is written. -/
def text (c : ColumnDefinition) : List Char := c.name ++ (c.gap ++ (c.type ++ c.rest))

/-- The column that is declared. -/
def declared (c : ColumnDefinition) : Declared := ⟨String.ofList c.name, normalizeType (String.ofList c.type)⟩

theorem endsWord_gap (c : ColumnDefinition) (t : List Char) : EndsWord (c.gap ++ t) := by
  obtain ⟨b, gap, hgap⟩ := List.exists_cons_of_ne_nil c.gap_ne_nil
  rw [hgap]
  exact Text.endsWord_cons (c.gap_blank b (hgap ▸ List.mem_cons_self))

theorem isDefinition (c : ColumnDefinition) : IsDefinition c.text := by
  have hblank : isBlank '\n' = true := by decide
  refine ⟨?_, ?_, ?_⟩
  · exact (balanced_of_plain c.name_fits.plain).append
      ((balanced_of_plain fun b hb => plain_of_isBlank (c.gap_blank b hb)).append c.balanced)
  · have hline := c.one_line
    simp only [text, List.mem_append, not_or] at hline ⊢
    refine ⟨fun hm => ?_, hline.1, fun hm => ?_, hline.2⟩
    · cases hblank.symm.trans (c.name_fits.one_word _ hm)
    · cases hblank.symm.trans (c.type_word _ hm)
  · obtain ⟨b, name, hname⟩ := List.exists_cons_of_ne_nil c.name_fits.ne_nil
    refine ⟨b, name ++ (c.gap ++ (c.type ++ c.rest)), ?_, c.name_fits.one_word b (hname ▸ List.mem_cons_self)⟩
    rw [text, hname]
    rfl

theorem trimRight_text (c : ColumnDefinition) :
    trimRight c.text = c.name ++ (c.gap ++ (c.type ++ trimRight c.rest)) := by
  have htrim := Text.trimRight_append_word c.type_ne_nil c.type_word (c.name ++ c.gap) c.rest
  simpa only [text, List.append_assoc] using htrim

theorem words_rest (c : ColumnDefinition) :
    words (c.gap ++ (c.type ++ trimRight c.rest)) = c.type :: words (trimRight c.rest) := by
  rw [Text.words_append_of_blank c.gap_blank,
    Text.words_append c.type_ne_nil c.type_word (Text.endsWord_trimRight c.rest_ends)]

theorem classifyLine_text (c : ColumnDefinition) : classifyLine (trimRight c.text) = .ok .column := by
  rw [c.trimRight_text]
  refine classifyLine_column c.name_fits.ne_nil c.name_fits.one_word (c.endsWord_gap _) ?_ c.name_fits.no_keyword
  rw [c.words_rest]
  exact List.cons_ne_nil _ _

theorem declared_text (c : ColumnDefinition) : Ddl.declared (trimRight c.text) = .ok c.declared := by
  rw [c.trimRight_text, Ddl.declared,
    Text.words_append c.name_fits.ne_nil c.name_fits.one_word (c.endsWord_gap _), c.words_rest]
  rfl

end ColumnDefinition

namespace TableDefinition

theorem isDefinition (d : TableDefinition) : IsDefinition d.text := by
  refine ⟨d.balanced, d.one_line, ?_⟩
  have starts {keyword : String} {word : List Char} (hkeyword : keyword ∈ tableWords)
      (h : isSpelled keyword word = true) (rest : List Char) : ∃ c t, word ++ rest = c :: t ∧ isBlank c = false := by
    obtain ⟨hne, hblank⟩ := word_of_isSpelled hkeyword h
    obtain ⟨c, word', rfl⟩ := List.exists_cons_of_ne_nil hne
    exact ⟨c, word' ++ rest, rfl, hblank c List.mem_cons_self⟩
  obtain ⟨text, hstarts, -, -⟩ := d
  cases hstarts with
  | constraint spelled => exact starts (by simp [tableWords]) spelled _
  | primaryKey first => exact starts (by simp [tableWords]) first _

theorem classifyLine_text (d : TableDefinition) : classifyLine (trimRight d.text) = .ok .constraint := by
  obtain ⟨text, hstarts, -, -⟩ := d
  cases hstarts with
  | @constraint word rest spelled ends =>
    obtain ⟨hne, hword⟩ := word_of_isSpelled (by simp [tableWords]) spelled
    have htrim := Text.trimRight_append_word hne hword [] rest
    rw [List.nil_append, List.nil_append] at htrim
    rw [htrim]
    exact classifyLine_constraint spelled (Text.endsWord_trimRight ends)
  | @primaryKey primary gap key rest first gap_ne_nil gap_blank second ends =>
    obtain ⟨hne, hkey⟩ := word_of_isSpelled (by simp [tableWords]) second
    have htrim := Text.trimRight_append_word hne hkey (primary ++ gap) rest
    simp only [List.append_assoc] at htrim
    rw [htrim]
    refine classifyLine_primaryKey first gap_ne_nil gap_blank second fun c hc => ends c ?_
    obtain ⟨blanks, hrest, -⟩ := Text.exists_trimRight rest
    rw [hrest, Text.upper_append, List.head?_append, Option.mem_def.mp hc, Option.some_or]
    rfl

end TableDefinition

namespace Definition

/-- A definition as it is written. -/
def text : Definition → List Char
  | column c => c.text
  | table t => t.text

/-- The column that is declared, if it is one. -/
def declared? : Definition → Option Declared
  | column c => some c.declared
  | table _ => none

theorem isDefinition (d : Definition) : IsDefinition d.text := by
  cases d with
  | column c => exact c.isDefinition
  | table t => exact t.isDefinition

end Definition

theorem columnsAmong_definitions (ds : List Definition) :
    columnsAmong (ds.map fun d => trimRight d.text) = .ok (ds.filterMap Definition.declared?) := by
  induction ds with
  | nil => rfl
  | cons d ds ih =>
    rw [List.map_cons, columnsAmong, ih]
    cases d with
    | column c =>
      rw [Definition.text, c.classifyLine_text]
      change (Ddl.declared (trimRight c.text) >>= _) = _
      rw [c.declared_text]
      rfl
    | table t =>
      rw [Definition.text, t.classifyLine_text]
      rfl

/-! ### Statements -/

/-- A definition with blanks before and behind it. A blank may be the end of a line. -/
structure Placed where
  before : List Char
  definition : Definition
  after : List Char
  before_blank : ∀ c ∈ before, isBlank c = true
  after_blank : ∀ c ∈ after, isBlank c = true

/-- A placed definition as it is written. -/
def Placed.entry (p : Placed) : Entry :=
  ⟨p.before, p.definition.text, p.after, p.definition.isDefinition, p.before_blank, p.after_blank⟩

theorem columnsAmong_placed (ps : List Placed) :
    columnsAmong ((ps.map Placed.entry).map fun e => trimRight e.text) =
      .ok (ps.filterMap fun p => p.definition.declared?) := by
  have hlines : (ps.map Placed.entry).map (fun e => trimRight e.text) =
      (ps.map Placed.definition).map fun d => trimRight d.text := by
    rw [List.map_map, List.map_map]
    rfl
  rw [hlines, columnsAmong_definitions, List.filterMap_map]
  rfl

/-- A statement with any definitions in its parentheses, and commas between them, is read as the columns that they
declare in their order, each with its name and the normal form of its type. -/
theorem columns_of_definitions {header tail : List Char} (hheader : '(' ∉ header) (htail : ')' ∉ tail)
    (ps : List Placed) : columns (header ++ '(' :: (listed (ps.map Placed.entry) ++ ')' :: tail)) =
      .ok (ps.filterMap fun p => p.definition.declared?) := by
  rw [columns_listed hheader htail, columnsAmong_placed]

theorem space_ne_nil : [' '] ≠ [] := List.cons_ne_nil _ _

theorem space_blank : ∀ c ∈ [' '], isBlank c = true := List.forall_mem_singleton.mpr rfl

/-- A column with a comma in the parameters of its type and one in a quote behind it. -/
def ColumnDefinition.parametrized : ColumnDefinition where
  name := ['a']
  gap := [' ']
  type := ['N', '(', '1', ',', '2', ')']
  rest := [' ', 'D', ' ', '\'', ',', ')', '\'']
  name_fits := ⟨by decide, Text.forall_of_all (by decide), Text.forall_of_all (by decide), by decide⟩
  gap_ne_nil := space_ne_nil
  gap_blank := space_blank
  type_ne_nil := by decide
  type_word := Text.forall_of_all (by decide)
  rest_ends := Text.endsWord_cons (by decide)
  balanced :=
    .plain (by decide) (@Balanced.group _ ['1', ',', '2'] _
      (.plain (by decide) (.comma (.plain (by decide) .nil)))
      (.plain (by decide) (.plain (by decide) (.plain (by decide) (@Balanced.quote _ [',', ')'] _ (by decide) .nil)))))
  one_line := by decide

set_option maxRecDepth 2000 in
/-- A primary key in small letters, with a tab between its words. -/
def TableDefinition.primaryKey : TableDefinition where
  text := ['p', 'r', 'i', 'm', 'a', 'r', 'y'] ++ (['\t'] ++ (['K', 'e', 'y'] ++ ['(', 'a', ',', 'b', ')']))
  starts := .primaryKey (by decide) (by decide) (Text.forall_of_all (by decide)) (by decide) (by rintro c ⟨⟩; decide)
  balanced := .append (x := ['p', 'r', 'i', 'm', 'a', 'r', 'y', '\t', 'K', 'e', 'y'])
    (balanced_of_plain (Text.forall_of_all (by decide)))
    (@Balanced.group _ ['a', ',', 'b'] _ (.plain (by decide) (.comma (.plain (by decide) .nil))) .nil)
  one_line := by decide

/-- The two of them, the second on a line of its own. -/
theorem columns_of_definitions_parametrized :
    columns "CREATE TABLE t (a N(1,2) D ',)',\n primary\tKey(a,b)\n);".toList = .ok [⟨"a", "n(1,2)"⟩] := by
  have hread := @columns_of_definitions "CREATE TABLE t ".toList [';'] (by decide) (by decide)
    [⟨[], .column .parametrized, [], nofun, nofun⟩,
      ⟨['\n', ' '], .table .primaryKey, ['\n'], Text.forall_of_all (by decide), Text.forall_of_all (by decide)⟩]
  have htype : normalizeType (String.ofList ColumnDefinition.parametrized.type) = "n(1,2)" := by decide
  simp only [List.filterMap_cons, List.filterMap_nil, Definition.declared?, ColumnDefinition.declared, htype] at hread
  exact hread

end SchemaAudit.Ddl
