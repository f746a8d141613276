import SchemaAudit.Proofs.Ddl.Agreement
import SchemaAudit.Proofs.Ddl.Layout
import SchemaAudit.Proofs.Text.Lower
import SchemaAudit.Proofs.TypeToken

/-! # Well-formed columns

Every text is read as a statement, and what is read of it is well formed: a column has a name and a type of one word each,
its name is none of the words that begin something else, and its type is in normal form (`columns_wellFormed`), since
normal forms are taken once (`normalizeType_normalizeType`). -/

namespace SchemaAudit

/-! ### Normal forms -/

theorem normalizeType_spelling (t : TypeToken) : normalizeType t.spelling = t.spelling := by
  cases t <;> decide

theorem normalizeType_of_alias {raw : String} {token : TypeToken}
    (h : storeAliases.lookup (smallType raw) = some token) : normalizeType raw = token.spelling := by
  rw [smallType] at h
  rw [normalizeType, h]

theorem smallType_smallType (raw : String) : smallType (smallType raw) = smallType raw := by
  rw [smallType, smallType, String.toList_ofList, Text.lower_trim_settled]

/-- A type in normal form is its own normal form. -/
theorem normalizeType_normalizeType (raw : String) : normalizeType (normalizeType raw) = normalizeType raw := by
  cases hlookup : storeAliases.lookup (smallType raw) with
  | some token => rw [normalizeType_of_alias hlookup, normalizeType_spelling]
  | none =>
    have hagain : storeAliases.lookup (smallType (smallType raw)) = none := by rw [smallType_smallType, hlookup]
    rw [normalizeType_of_no_alias hlookup, normalizeType_of_no_alias hagain, smallType_smallType]

/-- A type that has characters has some in normal form, too. -/
theorem normalizeType_ne_empty {raw : String} (h : Text.trim raw.toList ≠ []) : normalizeType raw ≠ "" := by
  cases hlookup : storeAliases.lookup (smallType raw) with
  | some token =>
    rw [normalizeType_of_alias hlookup]
    cases token <;> decide
  | none =>
    rw [normalizeType_of_no_alias hlookup, smallType, ne_eq, String.ofList_eq_empty_iff]
    exact Text.lower_ne_nil h

namespace Ddl

open Text (isBlank words upper)

variable {line : List Char} {c : Declared}

/-! ### What a column is -/

/-- The definition of a column starts with two words, the first of which begins nothing else. -/
theorem exists_words_of_column (h : classifyLine line = .ok .column) : ∃ name type others,
    words line = name :: type :: others ∧
      ∀ keyword ∈ ["CREATE", "TABLE", "CONSTRAINT"], isSpelled keyword name = false := by
  unfold classifyLine at h
  split at h
  · cases h
  split at h
  · cases h
  rename_i name others hwords
  split at h
  · cases h
  rename_i hconstraint
  split at h
  · cases h
  rename_i hmore
  split at h
  · cases h
  rename_i hkeyword
  obtain ⟨type, others, rfl⟩ := List.exists_cons_of_ne_nil (mt List.isEmpty_iff.mpr hmore)
  simp only [Bool.or_eq_true, not_or, Bool.not_eq_true] at hconstraint hkeyword
  refine ⟨name, type, others, hwords, ?_⟩
  simp only [List.forall_mem_cons]
  exact ⟨hkeyword.1, hkeyword.2, hconstraint.1, nofun⟩

/-- A column with a name and a type of one word each. The name is none of the words that begin something else, in
whatever case it is written, and the type is in normal form. -/
structure Declared.WellFormed (c : Declared) : Prop where
  name_ne_empty : c.name ≠ ""
  name_word : ∀ b ∈ c.name.toList, isBlank b = false
  no_keyword : ∀ keyword ∈ ["CREATE", "TABLE", "CONSTRAINT"], upper c.name.toList ≠ keyword.toList
  type_ne_empty : c.type ≠ ""
  type_word : ∀ b ∈ c.type.toList, isBlank b = false
  type_normal : normalizeType c.type = c.type

theorem declared_of_words {name type : List Char} {others : List (List Char)}
    (hwords : words line = name :: type :: others) (h : declared line = .ok c) :
    c.name = String.ofList name ∧ c.type = normalizeType (String.ofList type) := by
  obtain ⟨cname, ctype⟩ := c
  simp only [declared, hwords, Except.ok.injEq, Declared.mk.injEq] at h
  exact ⟨h.1.symm, h.2.symm⟩

theorem wellFormed_of_words {name type : List Char} {others : List (List Char)}
    (hwords : words line = name :: type :: others)
    (hkeyword : ∀ keyword ∈ ["CREATE", "TABLE", "CONSTRAINT"], isSpelled keyword name = false)
    (hname : c.name = String.ofList name) (htype : c.type = normalizeType (String.ofList type)) : c.WellFormed := by
  have word {w : List Char} (hw : w ∈ name :: type :: others) : w ≠ [] ∧ ∀ b ∈ w, isBlank b = false := by
    rw [← hwords] at hw
    exact Text.word_of_mem_words hw
  obtain ⟨hnameSome, hnameWord⟩ := word List.mem_cons_self
  obtain ⟨htypeSome, htypeWord⟩ := word (List.mem_cons_of_mem name List.mem_cons_self)
  refine ⟨?_, ?_, ?_, ?_, ?_, ?_⟩
  · rwa [hname, ne_eq, String.ofList_eq_empty_iff]
  · rwa [hname, String.toList_ofList]
  · intro keyword hk
    have hspelled := hkeyword keyword hk
    rw [isSpelled, decide_eq_false_iff_not] at hspelled
    rwa [hname, String.toList_ofList]
  · rw [htype]
    refine normalizeType_ne_empty ?_
    rwa [String.toList_ofList, Text.trim_of_word htypeWord]
  · rw [htype]
    exact isBlank_of_mem_normalizeType htypeWord
  · rw [htype, normalizeType_normalizeType]

theorem wellFormed_of_column? (h : column? line = some c) : c.WellFormed := by
  obtain ⟨hkind, hdeclared⟩ := column?_eq_some_iff.mp h
  obtain ⟨name, type, others, hwords, hkeyword⟩ := exists_words_of_column hkind
  obtain ⟨hname, htype⟩ := declared_of_words hwords hdeclared
  exact wellFormed_of_words hwords hkeyword hname htype

/-- Every text is read as a statement: each of its definitions has a kind, and two words if it is that of a column. Every
column that is read is well formed. -/
theorem columns_wellFormed (ddl : List Char) :
    (∀ body, body? ddl = some body → ∀ line ∈ definitions body, ∃ kind, classifyLine line = .ok kind ∧
      (kind = .column → ∃ column, declared line = .ok column)) ∧
    ∃ cs, columns ddl = .ok cs ∧ ∀ c ∈ cs, c.WellFormed := by
  refine ⟨fun body _ line hline => (starts_of_mem_definitions hline).classifyLine, _, columns_eq ddl, fun c hc => ?_⟩
  obtain ⟨line, -, hline⟩ := List.mem_filterMap.mp hc
  exact wellFormed_of_column? hline

end Ddl

end SchemaAudit
