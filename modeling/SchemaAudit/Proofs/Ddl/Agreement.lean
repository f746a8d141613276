import SchemaAudit.Diagnostics.Inspection
import SchemaAudit.Proofs.Ddl.Statement

/-! # Types in statements and types in the store

A statement gives a column the first word of its type alone, where the store tells the whole type. The two have one
normal form exactly if the type is a single word: `declared_agrees_iff`. That rests on normal forms keeping blanks: only
one of the spellings that are replaced has several words, and its first word is no such spelling. -/

namespace SchemaAudit.Ddl

open Text (isBlank words EndsWord)

variable {w rest : List Char} {table column type : String}

/-! ### Normal forms -/

theorem normalizeType_of_trimmed (hfirst : ∀ c ∈ w.head?, isBlank c = false)
    (hlast : ∀ c ∈ w.getLast?, isBlank c = false) : normalizeType (String.ofList w) =
      ((storeAliases.lookup (String.ofList (Text.lower w))).map TypeToken.spelling).getD
        (String.ofList (Text.lower w)) := by
  rw [normalizeType, String.toList_ofList, Text.trim_of_ends hfirst hlast]
  cases storeAliases.lookup (String.ofList (Text.lower w)) <;> rfl

theorem normalizeType_of_word (hw : ∀ c ∈ w, isBlank c = false) : normalizeType (String.ofList w) =
    ((storeAliases.lookup (String.ofList (Text.lower w))).map TypeToken.spelling).getD
      (String.ofList (Text.lower w)) :=
  normalizeType_of_trimmed (fun c hc => hw c (List.mem_of_mem_head? hc)) fun c hc => hw c (List.mem_of_getLast? hc)

theorem isBlank_of_mem_spelling (t : TypeToken) : ∀ c ∈ t.spelling.toList, isBlank c = false := by
  cases t <;> exact Text.forall_of_all (by decide)

/-- The normal form of one word is one word. -/
theorem isBlank_of_mem_normalizeType (hw : ∀ c ∈ w, isBlank c = false) :
    ∀ c ∈ (normalizeType (String.ofList w)).toList, isBlank c = false := by
  rw [normalizeType_of_word hw]
  cases storeAliases.lookup (String.ofList (Text.lower w)) with
  | some token => exact isBlank_of_mem_spelling token
  | none =>
    intro c hc
    rw [Option.map_none, Option.getD_none, String.toList_ofList] at hc
    exact Text.isBlank_of_mem_lowerFrom hw hc

/-- Of the spellings that are replaced only one has a blank. -/
theorem alias_of_blank {small : String} {token : TypeToken} {c : Char} (h : storeAliases.lookup small = some token)
    (hc : c ∈ small.toList) (hblank : isBlank c = true) :
    small = "timestamp with time zone" ∧ token = .timestampTz := by
  have hmem := mem_of_lookup h
  have oneWord {known : String} (hword : ∀ c ∈ known.toList, isBlank c = false) (heq : small = known) : False := by
    cases hblank.symm.trans (hword c (heq ▸ hc))
  simp only [storeAliases, List.mem_cons, List.not_mem_nil, or_false, Prod.mk.injEq] at hmem
  rcases hmem with ⟨heq, -⟩ | ⟨heq, htoken⟩ | ⟨heq, -⟩
  · exact (oneWord (Text.forall_of_all (by decide)) heq).elim
  · exact ⟨heq, htoken⟩
  · exact (oneWord (Text.forall_of_all (by decide)) heq).elim

/-- A type of several words and its first word have different normal forms. -/
theorem normalizeType_ne_of_words {b : Char} (hne : w ≠ []) (hw : ∀ c ∈ w, isBlank c = false) (hb : isBlank b = true)
    (hlast : ∀ c ∈ (w ++ b :: rest).getLast?, isBlank c = false) :
    normalizeType (String.ofList w) ≠ normalizeType (String.ofList (w ++ b :: rest)) := by
  obtain ⟨more, hlower⟩ := Text.lower_append_cons (Text.inert_of_isBlank hb) w rest
  have hfirst : ∀ c ∈ (w ++ b :: rest).head?, isBlank c = false := by
    obtain ⟨c, w, rfl⟩ := List.exists_cons_of_ne_nil hne
    intro d hd
    cases hd
    exact hw c List.mem_cons_self
  have hsmall : b ∈ (String.ofList (Text.lower (w ++ b :: rest))).toList := by
    rw [String.toList_ofList, hlower]
    exact List.mem_append_right _ List.mem_cons_self
  rw [normalizeType_of_trimmed hfirst hlast]
  -- A type that is no known spelling keeps its blank, which no normal form of one word has.
  cases hlookup : storeAliases.lookup (String.ofList (Text.lower (w ++ b :: rest))) with
  | none =>
    intro heq
    cases hb.symm.trans (isBlank_of_mem_normalizeType hw b (heq ▸ hsmall))
  | some token =>
    obtain ⟨hzone, rfl⟩ := alias_of_blank hlookup hsmall hb
    rw [hlower] at hzone
    have hchars : Text.lower w ++ b :: more = "timestamp".toList ++ " with time zone".toList := by
      rw [← String.toList_ofList (l := Text.lower w ++ b :: more), hzone]
      rfl
    have hstamp : Text.lower w = "timestamp".toList :=
      Text.first_word_unique (fun _ => Text.isBlank_of_mem_lower hw) (Text.endsWord_cons hb)
        (Text.forall_of_all (by decide)) (Text.endsWord_cons (by decide)) hchars
    rw [normalizeType_of_word hw, hstamp, Option.map_some, Option.getD_some]
    decide

/-! ### One column on both sides -/

/-- A type as a store spells it: some words on one line, with no blank at either end, closed and without a comma outside
parentheses. -/
structure IsStoreType (type : List Char) : Prop where
  ne_nil : type ≠ []
  starts : ∀ c ∈ type.head?, isBlank c = false
  ends : ∀ c ∈ type.getLast?, isBlank c = false
  one_line : '\n' ∉ type
  balanced : Balanced false type

/-- The statement of a table with one column. -/
def statement (table column type : String) : List Char :=
  ("CREATE TABLE " ++ table ++ " (" ++ column ++ " " ++ type ++ ")").toList

/-- A type of one or more words is its first word and what follows it, which goes on with a blank. -/
theorem IsStoreType.exists_first {type : List Char} (h : IsStoreType type) : ∃ first rest, type = first ++ rest ∧
    first ≠ [] ∧ (∀ c ∈ first, isBlank c = false) ∧ EndsWord rest := by
  refine ⟨type.takeWhile (!isBlank ·), type.dropWhile (!isBlank ·), List.takeWhile_append_dropWhile.symm, ?_,
    fun c hc => ?_, fun c hc => ?_⟩
  · obtain ⟨c, t, rfl⟩ := List.exists_cons_of_ne_nil h.ne_nil
    rw [List.takeWhile_cons_of_pos (by simp [h.starts c rfl])]
    exact List.cons_ne_nil _ _
  · simpa using List.all_eq_true.mp List.all_takeWhile c hc
  · have hnot := List.head?_dropWhile_not (!isBlank ·) type
    rw [Option.mem_def.mp hc] at hnot
    simpa using hnot

theorem IsStoreType.balanced_parts {type first : List Char} (h : IsStoreType type) (hsplit : type = first ++ rest) :
    Balanced false (first ++ rest) := by
  rw [← hsplit]
  exact h.balanced

theorem IsStoreType.one_line_rest {type first : List Char} (h : IsStoreType type) (hsplit : type = first ++ rest) :
    '\n' ∉ [' '] ++ rest := by
  have hline := h.one_line
  rw [hsplit, List.mem_append, not_or] at hline
  rw [List.mem_append, not_or]
  exact ⟨by decide, hline.2⟩

/-- The definition of a column that has a type of some words. -/
def IsStoreType.definition {name type first rest : List Char} (h : IsStoreType type) (hname : IsColumnName name)
    (hsplit : type = first ++ rest) (hne : first ≠ []) (hfirst : ∀ c ∈ first, isBlank c = false)
    (hrest : EndsWord rest) : ColumnDefinition where
  name := name
  gap := [' ']
  type := first
  rest := rest
  name_fits := hname
  gap_ne_nil := space_ne_nil
  gap_blank := space_blank
  type_ne_nil := hne
  type_word := hfirst
  rest_ends := hrest
  balanced := h.balanced_parts hsplit
  one_line := h.one_line_rest hsplit

theorem columns_statement {first : List Char} (htable : '(' ∉ table.toList) (hname : IsColumnName column.toList)
    (htype : IsStoreType type.toList) (hsplit : type.toList = first ++ rest) (hne : first ≠ [])
    (hfirst : ∀ c ∈ first, isBlank c = false) (hrest : EndsWord rest) :
    columns (statement table column type) = .ok [⟨column, normalizeType (String.ofList first)⟩] := by
  have hheader : '(' ∉ "CREATE TABLE ".toList ++ table.toList ++ [' '] := by
    simp only [List.mem_append, not_or]
    exact ⟨⟨by decide, htable⟩, by decide⟩
  have hlisted := columns_listed hheader (List.not_mem_nil (a := ')'))
    ([⟨[], .column (htype.definition hname hsplit hne hfirst hrest), [], nofun, nofun⟩].map Placed.entry)
  have htext : statement table column type = ("CREATE TABLE ".toList ++ table.toList ++ [' ']) ++
      '(' :: ((column.toList ++ ([' '] ++ (first ++ rest)) ++ []) ++ [')']) := by
    rw [statement]
    simp only [String.toList_append, hsplit, List.append_assoc]
    rfl
  have hdeclared : (htype.definition hname hsplit hne hfirst hrest).declared =
      ⟨column, normalizeType (String.ofList first)⟩ := by
    rw [ColumnDefinition.declared, IsStoreType.definition, String.ofList_toList]
  rw [columnsAmong_placed] at hlisted
  simp only [List.filterMap_cons, List.filterMap_nil, Definition.declared?, hdeclared] at hlisted
  rw [htext]
  exact hlisted

/-- A column has one type in a statement and in the store exactly if its type is a single word: the statement gives it
the normal form of the first word, the store that of the whole type, and these differ for every type of several
words. -/
theorem declared_agrees_iff (htable : '(' ∉ table.toList) (hname : IsColumnName column.toList)
    (htype : IsStoreType type.toList) : ∃ first others, words type.toList = first :: others ∧
      columns (statement table column type) = .ok [⟨column, normalizeType (String.ofList first)⟩] ∧
      (∀ d : Diagnostics, ⟨table, column, type⟩ ∈ d.columns →
        ⟨table, column, normalizeType type⟩ ∈ (d.snapshot table).columns) ∧
      (normalizeType (String.ofList first) = normalizeType type ↔ others = []) := by
  obtain ⟨first, rest, hsplit, hne, hfirst, hrest⟩ := htype.exists_first
  refine ⟨first, words rest, by rw [hsplit, Text.words_append hne hfirst hrest],
    columns_statement htable hname htype hsplit hne hfirst hrest, fun d hrow => ?_, ?_⟩
  · exact List.mem_map.mpr ⟨_, List.mem_filter.mpr ⟨hrow, decide_eq_true rfl⟩, rfl⟩
  · have hwhole : type = String.ofList (first ++ rest) := by rw [← hsplit, String.ofList_toList]
    rw [hwhole]
    cases rest with
    | nil => simp [words]
    | cons b rest =>
      have hlast := htype.ends
      rw [hsplit] at hlast
      have hwords : words (b :: rest) ≠ [] := by
        have hc := List.getLast?_eq_some_getLast (List.cons_ne_nil b rest)
        refine Text.words_ne_nil (List.mem_of_getLast? hc) (hlast _ ?_)
        rw [List.getLast?_append, hc, Option.some_or]
        rfl
      have hne' := normalizeType_ne_of_words hne hfirst (hrest b rfl) hlast
      exact ⟨fun heq => absurd heq hne', fun heq => absurd heq hwords⟩

theorem isColumnName_a : IsColumnName ['a'] :=
  ⟨by decide, Text.forall_of_all (by decide), Text.forall_of_all (by decide), by decide⟩

/-- A type with parameters, which is one word. -/
theorem declared_agrees_parametrized : ∃ type, columns (statement "t" "a" "N(1,2)") = .ok [⟨"a", type⟩] ∧
    type = normalizeType "N(1,2)" := by
  have hbalanced : Balanced false ['N', '(', '1', ',', '2', ')'] :=
    .plain (by decide) (@Balanced.group _ ['1', ',', '2'] _ (.plain (by decide) (.comma (.plain (by decide) .nil))) .nil)
  have htype : IsStoreType "N(1,2)".toList :=
    ⟨by decide, by rintro c ⟨⟩; decide, by rintro c ⟨⟩; decide, by decide, hbalanced⟩
  obtain ⟨first, others, hwords, hread, -, hagree⟩ :=
    @declared_agrees_iff "t" "a" "N(1,2)" (by decide) isColumnName_a htype
  have hone : words "N(1,2)".toList = ["N(1,2)".toList] := by decide
  cases hwords.symm.trans hone
  exact ⟨_, hread, hagree.mpr rfl⟩

/-- A type of four words, of which a statement has the first alone, and a table with a parenthesis in its name, which
opens the statement too early. -/
theorem declared_disagrees :
    (IsColumnName ['a'] ∧ IsStoreType "timestamp with time zone".toList ∧
      columns (statement "t" "a" "timestamp with time zone") = .ok [⟨"a", "timestamp"⟩] ∧
      normalizeType "timestamp with time zone" = "timestamp_tz") ∧
    IsColumnName ['a'] ∧ IsStoreType "uuid".toList ∧
      columns (statement "t(u" "a" "uuid") = .ok [⟨"u", "(a"⟩] ∧ normalizeType "uuid" = "uuid" := by
  have plain {type : List Char} (h : ∀ c ∈ type, c ∉ [',', '\'', '(', ')']) : Balanced false type := balanced_of_plain h
  have htypes : IsStoreType "timestamp with time zone".toList ∧ IsStoreType "uuid".toList :=
    ⟨⟨by decide, by rintro c ⟨⟩; decide, by rintro c ⟨⟩; decide, by decide, plain (Text.forall_of_all (by decide))⟩,
      ⟨by decide, by rintro c ⟨⟩; decide, by rintro c ⟨⟩; decide, by decide, plain (Text.forall_of_all (by decide))⟩⟩
  exact ⟨⟨isColumnName_a, htypes.1, rfl, by decide⟩, isColumnName_a, htypes.2, rfl, by decide⟩

end SchemaAudit.Ddl
