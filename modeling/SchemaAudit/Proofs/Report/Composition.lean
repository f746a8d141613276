import SchemaAudit.Proofs.Report.Comparison
import SchemaAudit.Registry.Basic

/-! # Comparisons in a row

A contract that agrees with some columns agrees with every snapshot that those columns, taken as a contract, agree
with. The contract's types have to be tokens, which the contracts of a registry's models are. -/

namespace SchemaAudit

/-- A contract whose types are all spellings of tokens. -/
def Contract.InTokens (c : Contract) : Prop := ∀ col ∈ c.columns, ∃ t : TypeToken, col.type = t.spelling

/-- A registry expects tokens. -/
theorem Registry.contractFor_inTokens [StandIns]
    {r : Registry} {table : String} {c : Contract} (h : r.contractFor table = .ok c) :
    c.InTokens := by
  unfold contractFor at h
  split at h
  · cases h
  · cases h
  · cases h
  · dsimp only at h
    split at h
    · cases h
    · cases h
      intro col hcol
      obtain ⟨f, -, rfl⟩ := List.mem_map.mp hcol
      exact ⟨f.type.classify f.entries, rfl⟩

namespace Report

variable {c : Contract} {table : String} {columns : List Column} {metadata : Metadata} {live : Snapshot}

/-- What passes against some columns passes against all that those columns pass against. -/
theorem passes_trans (tokens : c.InTokens) (h : Passes c ⟨table, columns, metadata⟩)
    (g : Passes ⟨table, columns⟩ live) : Passes c live := by
  obtain ⟨-, htypes, hnames⟩ := passes_iff.mp h
  obtain ⟨hne, gtypes, gnames⟩ := passes_iff.mp g
  refine passes_iff.mpr ⟨hne, fun col hcol => ?_, fun col hcol => ?_⟩
  · obtain ⟨t, ht⟩ := tokens col hcol
    obtain ⟨type, htype, hsat⟩ := htypes col hcol
    -- the last column of that name is the one both comparisons look at
    obtain ⟨middle, hmiddle, hname, rfl⟩ := mem_of_actualType? htype
    obtain ⟨actual, hactual, gsat⟩ := gtypes middle hmiddle
    refine ⟨actual, hname ▸ hactual, ?_⟩
    rw [ht] at hsat ⊢
    exact satisfies_trans hsat gsat
  · obtain ⟨middle, hmiddle, hname⟩ := gnames col hcol
    obtain ⟨own, hown, hname'⟩ := hnames middle hmiddle
    exact ⟨own, hown, hname'.trans hname⟩

/-- An integer that is stored as a big one, and an enumeration that is declared twice and stored as a text. -/
theorem passes_trans_bigint :
    Passes ⟨"t", [⟨"t", "id", "integer"⟩, ⟨"t", "mood", "enum_like"⟩]⟩
      ⟨"t", [⟨"t", "id", "bigint"⟩, ⟨"t", "mood", "text[]"⟩], .none⟩ := by
  have tokens : Contract.InTokens ⟨"t", [⟨"t", "id", "integer"⟩, ⟨"t", "mood", "enum_like"⟩]⟩ := by
    intro col hcol
    simp only [List.mem_cons, List.not_mem_nil, or_false] at hcol
    rcases hcol with rfl | rfl
    · exact ⟨.integer, rfl⟩
    · exact ⟨.enumLike, rfl⟩
  have declared : Passes ⟨"t", [⟨"t", "id", "integer"⟩, ⟨"t", "mood", "enum_like"⟩]⟩
      ⟨"t", [⟨"t", "mood", "te"⟩, ⟨"t", "id", "integer"⟩, ⟨"t", "mood", "text"⟩], .none⟩ := ⟨_, rfl, by decide⟩
  exact passes_trans tokens declared ⟨_, rfl, by decide⟩

end Report

end SchemaAudit
