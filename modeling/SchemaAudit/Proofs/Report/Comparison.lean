import SchemaAudit.Report.Basic

/-! # When a comparison passes

A comparison passes exactly when both sides name the same columns and the snapshot's type of each contract column
satisfies the contract's (`passes_iff`). With the tokens on the left, being satisfied is handed on: what satisfies a
type that satisfies a token satisfies the token (`satisfies_trans`). Between arbitrary spellings it is not. -/

namespace SchemaAudit

variable {expected middle actual : String} {t : TypeToken}

/-! ### Satisfied types -/

theorem startsWith_iff {start text : String} : startsWith start text = true ↔ start.toList <+: text.toList :=
  List.isPrefixOf_iff_prefix

theorem startsWith_trans (h : startsWith expected middle = true) (g : startsWith middle actual = true) :
    startsWith expected actual = true :=
  startsWith_iff.mpr ((startsWith_iff.mp h).trans (startsWith_iff.mp g))

theorem satisfies_iff : satisfies expected actual = true ↔
    expected = TypeToken.unknown.spelling ∨
    (expected = TypeToken.enumLike.spelling ∧ startsWith "text" actual = true) ∨
    (expected = TypeToken.integer.spelling ∧ startsWith "bigint" actual = true) ∨
    startsWith expected actual = true := by
  unfold satisfies
  split
  · simp [*]
  split
  · simp_all
  split
  · simp_all
  · rename_i hu he hi
    simp only [Bool.and_eq_true, decide_eq_true_eq] at he hi
    simp only [hu, he, hi, false_or]

/-- A type that satisfies another one may be continued by parameters. -/
theorem satisfies_of_startsWith (h : satisfies expected middle = true) (g : startsWith middle actual = true) :
    satisfies expected actual = true := by
  rw [satisfies_iff] at h ⊢
  rcases h with h | ⟨h, ht⟩ | ⟨h, hb⟩ | h
  · exact Or.inl h
  · exact Or.inr (Or.inl ⟨h, startsWith_trans ht g⟩)
  · exact Or.inr (Or.inr (Or.inl ⟨h, startsWith_trans hb g⟩))
  · exact Or.inr (Or.inr (Or.inr (startsWith_trans h g)))

/-- The spelling of a token satisfies that token alone, or every type satisfies the token. -/
theorem eq_of_satisfies_spelling {u : TypeToken} (h : satisfies t.spelling u.spelling = true) :
    t = .unknown ∨ t = u ∨ (t = .enumLike ∧ u = .text) := by
  revert h
  cases t <;> cases u <;> decide

/-- Being satisfied is handed on from a token. It is not from every spelling: "int" takes "integer" and that takes
"bigint". -/
theorem satisfies_trans (h : satisfies t.spelling middle = true) (g : satisfies middle actual = true) :
    satisfies t.spelling actual = true := by
  have unknown (ht : t = .unknown) : satisfies t.spelling actual = true := satisfies_iff.mpr (Or.inl (by rw [ht]))
  rcases satisfies_iff.mp g with rfl | ⟨rfl, ht⟩ | ⟨rfl, hb⟩ | hp
  · rcases eq_of_satisfies_spelling h with ht | ht | ⟨-, hu⟩
    · exact unknown ht
    · exact unknown ht
    · cases hu
  · rcases eq_of_satisfies_spelling h with ht' | rfl | ⟨-, hu⟩
    · exact unknown ht'
    · exact g
    · cases hu
  · rcases eq_of_satisfies_spelling h with ht' | rfl | ⟨-, hu⟩
    · exact unknown ht'
    · exact g
    · cases hu
  · exact satisfies_of_startsWith h hp

example : satisfies "int" "integer" = true ∧ satisfies "integer" "bigint" = true ∧
    satisfies "int" "bigint" = false := by
  decide

namespace Report

variable {c d : Contract} {s : Snapshot} {name type : String}

/-! ### The type of a column -/

theorem actualType?_isSome_iff : (actualType? s name).isSome = true ↔ ∃ col ∈ s.columns, col.name = name := by
  simp only [actualType?, Option.isSome_map, List.find?_isSome, List.mem_reverse, decide_eq_true_eq]

theorem mem_of_actualType? (h : actualType? s name = some type) :
    ∃ col ∈ s.columns, col.name = name ∧ col.type = type := by
  simp only [actualType?, Option.map_eq_some_iff] at h
  obtain ⟨col, hcol, rfl⟩ := h
  exact ⟨col, List.mem_reverse.mp (List.mem_of_find?_eq_some hcol), by simpa using List.find?_some hcol, rfl⟩

/-- A name that a snapshot has for columns of one type only is the name of that type. -/
theorem actualType?_eq_of_unique (h : ∃ col ∈ s.columns, col.name = name)
    (unique : ∀ col ∈ s.columns, col.name = name → col.type = type) : actualType? s name = some type := by
  obtain ⟨actual, hactual⟩ := Option.isSome_iff_exists.mp (actualType?_isSome_iff.mpr h)
  obtain ⟨col, hcol, hname, rfl⟩ := mem_of_actualType? hactual
  rw [hactual, unique col hcol hname]

/-! ### Passing -/

/-- A comparison that is made and passes. -/
def Passes (c : Contract) (s : Snapshot) : Prop := ∃ r, compare c s = .ok r ∧ r.status = .pass

theorem compare_of_ne_nil (hs : s.columns ≠ []) : compare c s = .ok (ofDrift c s) := by
  rw [compare, if_neg (by simpa using hs)]

theorem passes_iff_status (hs : s.columns ≠ []) : Passes c s ↔ (ofDrift c s).status = .pass := by
  simp only [Passes, compare_of_ne_nil hs, Except.ok.injEq, exists_eq_left']

theorem missingFrom_eq_nil_iff :
    missingFrom c s = [] ↔ ∀ col ∈ c.columns, (actualType? s col.name).isSome = true := by
  simp only [missingFrom, List.filter_eq_nil_iff, Bool.not_eq_true, Option.isNone_eq_false_iff]

theorem extraneousTo_eq_nil_iff :
    extraneousTo c s = [] ↔ ∀ col ∈ s.columns, ∃ own ∈ c.columns, own.name = col.name := by
  simp only [extraneousTo, List.filter_eq_nil_iff, Bool.not_eq_true', Bool.not_eq_false, List.any_eq_true,
    decide_eq_true_eq]

theorem mismatches_eq_nil_iff : mismatches c s = [] ↔
    ∀ col ∈ c.columns, ∀ type, actualType? s col.name = some type → satisfies col.type type = true := by
  simp only [mismatches, List.filterMap_eq_nil_iff, mismatch?, Option.bind_eq_none_iff, ite_eq_left_iff,
    reduceCtorEq, imp_false, Bool.not_eq_true, Bool.not_eq_false]

theorem status_ofDrift (c : Contract) (s : Snapshot) :
    (ofDrift c s).status = .pass ∨ (ofDrift c s).status = .fail := by
  unfold ofDrift
  dsimp only
  split
  · exact Or.inl rfl
  · exact Or.inr rfl

theorem status_ofDrift_eq_pass_iff : (ofDrift c s).status = .pass ↔
    missingFrom c s = [] ∧ extraneousTo c s = [] ∧ mismatches c s = [] := by
  simp only [ofDrift, ite_eq_left_iff, Bool.and_eq_true, List.isEmpty_iff, reduceCtorEq, imp_false, Decidable.not_not,
    and_assoc]

/-- A comparison passes exactly if the snapshot has columns, both sides name the same ones, and every contract type is
satisfied. -/
theorem passes_iff : Passes c s ↔ s.columns ≠ [] ∧
    (∀ col ∈ c.columns, ∃ type, actualType? s col.name = some type ∧ satisfies col.type type = true) ∧
    ∀ col ∈ s.columns, ∃ own ∈ c.columns, own.name = col.name := by
  have hmade : Passes c s ↔ s.columns ≠ [] ∧ (ofDrift c s).status = .pass := by
    unfold Passes compare
    split
    · simp_all
    · simp_all
  rw [hmade, status_ofDrift_eq_pass_iff, missingFrom_eq_nil_iff, extraneousTo_eq_nil_iff, mismatches_eq_nil_iff]
  constructor
  · rintro ⟨hne, hmissing, hextraneous, hmismatches⟩
    refine ⟨hne, fun col hcol => ?_, hextraneous⟩
    obtain ⟨type, htype⟩ := Option.isSome_iff_exists.mp (hmissing col hcol)
    exact ⟨type, htype, hmismatches col hcol type htype⟩
  · rintro ⟨hne, htypes, hextraneous⟩
    refine ⟨hne, fun col hcol => ?_, hextraneous, fun col hcol type htype => ?_⟩
    · obtain ⟨type, htype, -⟩ := htypes col hcol
      exact Option.isSome_iff_exists.mpr ⟨type, htype⟩
    · obtain ⟨type', htype', hsat⟩ := htypes col hcol
      cases htype.symm.trans htype'
      exact hsat

end Report

end SchemaAudit
