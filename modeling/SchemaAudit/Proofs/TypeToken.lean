import Mathlib.Data.Set.Insert
import SchemaAudit.Proofs.Report.Comparison
import SchemaAudit.Proofs.Text.Case

/-! # What a store type satisfies

What satisfies a token starts with one of a few spellings (`satisfies_spelling_iff`), and none of them starts another one,
those of texts and enumerations apart. So a store type never satisfies two unrelated tokens, and whatever is written
behind it takes nothing away (`satisfiedBy_separated_and_kept`).

Parameters are written behind the spelling of the store, before its normal form is taken. They are tolerated for every
spelling but the ones that the normal form replaces: those are known without parameters only
(`satisfies_parametrized_iff`). -/

namespace SchemaAudit

variable {t u : TypeToken} {raw small actual : String}

namespace TypeToken

/-! ### Spellings that satisfy a token -/

/-- What a type that satisfies a token starts with. -/
def starts : TypeToken → List String
  | enumLike => [text.spelling, enumLike.spelling]
  | integer => ["bigint", integer.spelling]
  | t => [t.spelling]

theorem satisfies_spelling_iff : satisfies t.spelling actual = true ↔
    t = unknown ∨ ∃ start ∈ t.starts, startsWith start actual = true := by
  rw [satisfies_iff]
  cases t <;> simp [starts, spelling]

theorem not_mem_starts : ∀ start ∈ t.starts, '(' ∉ start.toList := by
  cases t <;> decide

/-- No start of a token starts one of another token, unless both are kept as texts. -/
theorem eq_or_textual_of_prefix (ht : t ≠ unknown) (hu : u ≠ unknown) :
    ∀ start ∈ t.starts, ∀ other ∈ u.starts, start.toList <+: other.toList →
      t = u ∨ ((t = text ∨ t = enumLike) ∧ (u = text ∨ u = enumLike)) := by
  revert ht hu
  cases t <;> cases u <;> decide

/-! ### Separation -/

/-- The tokens that a store type satisfies, the unknown one apart, which every type satisfies. -/
def satisfiedBy (actual : String) : Set TypeToken := {t | t ≠ unknown ∧ satisfies t.spelling actual = true}

theorem eq_or_textual_of_mem (ht : t ∈ satisfiedBy actual) (hu : u ∈ satisfiedBy actual) :
    t = u ∨ ((t = text ∨ t = enumLike) ∧ (u = text ∨ u = enumLike)) := by
  obtain ⟨start, hstart, hs⟩ := (satisfies_spelling_iff.mp ht.2).resolve_left ht.1
  obtain ⟨other, hother, ho⟩ := (satisfies_spelling_iff.mp hu.2).resolve_left hu.1
  -- Two starts of one type: the shorter one starts the longer one.
  rcases List.prefix_or_prefix_of_prefix (startsWith_iff.mp hs) (startsWith_iff.mp ho) with h | h
  · exact eq_or_textual_of_prefix ht.1 hu.1 start hstart other hother h
  · rcases eq_or_textual_of_prefix hu.1 ht.1 other hother start hstart h with h | ⟨hu, ht⟩
    · exact Or.inl h.symm
    · exact Or.inr ⟨ht, hu⟩

/-- A store type satisfies no token, one, or some of those that are kept as texts; and a type satisfies what it
satisfies with anything written behind it, too. -/
theorem satisfiedBy_separated_and_kept (actual : String) :
    (satisfiedBy actual = ∅ ∨ (∃ t, satisfiedBy actual = {t}) ∨ satisfiedBy actual ⊆ {text, enumLike}) ∧
      ∀ expected suffix, satisfies expected actual = true → satisfies expected (actual ++ suffix) = true := by
  constructor
  · by_cases h : satisfiedBy actual ⊆ {text, enumLike}
    · exact Or.inr (Or.inr h)
    · obtain ⟨t, ht, hother⟩ := Set.not_subset.mp h
      refine Or.inr (Or.inl ⟨t, Set.eq_singleton_iff_unique_mem.mpr ⟨ht, fun u hu => ?_⟩⟩)
      rcases eq_or_textual_of_mem hu ht with heq | ⟨-, htextual⟩
      · exact heq
      · exact absurd htextual hother
  · intro expected suffix h
    refine satisfies_of_startsWith h (startsWith_iff.mpr ?_)
    rw [String.toList_append]
    exact List.prefix_append _ _

/-- A text of the store satisfies texts and enumerations, and still does as a list of texts. -/
theorem satisfiedBy_separated_and_kept_text : satisfies enumLike.spelling "text" = true ∧
    satisfies enumLike.spelling ("text" ++ "[]") = true := by
  have htext : satisfies enumLike.spelling "text" = true := by decide
  exact ⟨htext, (satisfiedBy_separated_and_kept "text").2 _ "[]" htext⟩

end TypeToken

/-! ### Parameters -/

/-- A store type as it is looked up: trimmed and in small letters. -/
def smallType (raw : String) : String := String.ofList (Text.lower (Text.trim raw.toList))

/-- A store type with parameters. -/
def parametrized (raw params : String) : String := String.ofList (Text.trim raw.toList) ++ "(" ++ params ++ ")"

theorem normalizeType_of_no_alias (h : storeAliases.lookup (smallType raw) = none) :
    normalizeType raw = smallType raw := by
  rw [smallType] at h ⊢
  rw [normalizeType, h]

/-- In small letters a type with parameters is that type, a parenthesis, and more: no letter of the parameters has a say
in the ones before the parenthesis. -/
theorem smallType_parametrized (raw params : String) :
    ∃ more, (smallType (parametrized raw params)).toList = (smallType raw).toList ++ '(' :: more := by
  have htext : (parametrized raw params).toList = Text.trim raw.toList ++ '(' :: (params.toList ++ [')']) := by
    simp [parametrized]
  have hfirst : ∀ c ∈ (Text.trim raw.toList ++ '(' :: (params.toList ++ [')'])).head?, Text.isBlank c = false := by
    intro c hc
    cases htrim : (Text.trim raw.toList).head? with
    | none =>
      rw [List.head?_eq_none_iff.mp htrim] at hc
      cases hc
      decide
    | some d =>
      rw [List.head?_append, htrim, Option.some_or] at hc
      cases hc
      exact Text.isBlank_of_mem_head?_trim htrim
  have hlast : ∀ c ∈ (Text.trim raw.toList ++ '(' :: (params.toList ++ [')'])).getLast?, Text.isBlank c = false := by
    intro c hc
    rw [← List.cons_append, ← List.append_assoc, List.getLast?_concat] at hc
    cases hc
    decide
  obtain ⟨more, hmore⟩ := Text.lower_append_cons Text.inert_parenthesis (Text.trim raw.toList) (params.toList ++ [')'])
  refine ⟨more, ?_⟩
  rw [smallType, smallType, String.toList_ofList, String.toList_ofList, htext, Text.trim_of_ends hfirst hlast, hmore]

theorem lookup_of_parenthesis (h : '(' ∈ small.toList) : storeAliases.lookup small = none := by
  rw [List.lookup_eq_none_iff]
  intro known hknown
  have hplain : ∀ known ∈ storeAliases, '(' ∉ known.1.toList := by decide
  refine bne_iff_ne.mpr fun heq => ?_
  rw [heq] at h
  exact hplain known hknown h

theorem normalizeType_parametrized (raw params : String) :
    ∃ more, (normalizeType (parametrized raw params)).toList = (smallType raw).toList ++ '(' :: more := by
  obtain ⟨more, hmore⟩ := smallType_parametrized raw params
  have hopen : '(' ∈ (smallType (parametrized raw params)).toList := by
    rw [hmore]
    exact List.mem_append_right _ List.mem_cons_self
  exact ⟨more, by rw [normalizeType_of_no_alias (lookup_of_parenthesis hopen), hmore]⟩

/-- A prefix that does not have the character that comes next ends before it. -/
theorem prefix_of_not_mem {α : Type} {a : α} {s l more : List α} (h : s <+: l ++ a :: more) (ha : a ∉ s) : s <+: l := by
  rcases List.prefix_or_prefix_of_prefix h (List.prefix_append l (a :: more)) with hs | ⟨rest, rfl⟩
  · exact hs
  · cases rest with
    | nil => simp
    | cons b rest =>
      rw [List.prefix_append_right_inj, List.cons_prefix_cons] at h
      obtain ⟨rfl, -⟩ := h
      exact absurd (List.mem_append_right _ List.mem_cons_self) ha

/-- A spelling that normal forms replace satisfies no token as it stands, whatever its parameters. -/
theorem not_satisfies_of_alias {token : TypeToken} {more : List Char} (h : storeAliases.lookup small = some token)
    (ht : t ≠ .unknown) (hactual : actual.toList = small.toList ++ '(' :: more) :
    satisfies t.spelling actual ≠ true := by
  intro hsat
  obtain ⟨start, hstart, hs⟩ := (TypeToken.satisfies_spelling_iff.mp hsat).resolve_left ht
  have hprefix : start.toList <+: small.toList := by
    rw [startsWith_iff, hactual] at hs
    exact prefix_of_not_mem hs (TypeToken.not_mem_starts start hstart)
  have hnone : ∀ known ∈ storeAliases, ∀ start ∈ t.starts, ¬ start.toList <+: known.1.toList := by
    cases t <;> decide
  exact hnone _ (mem_of_lookup h) start hstart hprefix

/-- Parameters behind a store type that satisfies a token are tolerated, unless its spelling is one that normal forms
replace: with parameters it is not replaced, and then satisfies the unknown token alone. -/
theorem satisfies_parametrized_iff (params : String) (h : satisfies t.spelling (normalizeType raw) = true) :
    satisfies t.spelling (normalizeType (parametrized raw params)) = true ↔
      t = .unknown ∨ storeAliases.lookup (smallType raw) = none := by
  obtain ⟨more, hmore⟩ := normalizeType_parametrized raw params
  constructor
  · intro hsat
    by_contra hneither
    obtain ⟨ht, halias⟩ := not_or.mp hneither
    obtain ⟨token, htoken⟩ := Option.ne_none_iff_exists'.mp halias
    exact not_satisfies_of_alias htoken ht hmore hsat
  · rintro (rfl | hnone)
    · exact satisfies_iff.mpr (Or.inl rfl)
    · refine satisfies_of_startsWith h (startsWith_iff.mpr ?_)
      rw [normalizeType_of_no_alias hnone, hmore]
      exact List.prefix_append _ _

/-- A number with a precision is one, a time stamp with a precision under its short name is none. -/
theorem satisfies_parametrized_iff_precise :
    (satisfies TypeToken.numeric.spelling (normalizeType " Numeric ") = true ∧
      satisfies TypeToken.numeric.spelling (normalizeType (parametrized " Numeric " "10,2")) = true) ∧
    satisfies TypeToken.timestampTz.spelling (normalizeType "timestamptz") = true ∧
      ¬ satisfies TypeToken.timestampTz.spelling (normalizeType (parametrized "timestamptz" "3")) = true := by
  have hnumber : satisfies TypeToken.numeric.spelling (normalizeType " Numeric ") = true := by decide
  have hstamp : satisfies TypeToken.timestampTz.spelling (normalizeType "timestamptz") = true := by decide
  refine ⟨⟨hnumber, (satisfies_parametrized_iff "10,2" hnumber).mpr (Or.inr (by decide))⟩, hstamp, fun hsat => ?_⟩
  rcases (satisfies_parametrized_iff "3" hstamp).mp hsat with ht | hnone
  · cases ht
  · revert hnone
    decide

end SchemaAudit
