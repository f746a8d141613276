import Mathlib.Data.List.Basic
import SchemaAudit.Proofs.Json.Lines
import SchemaAudit.Text.Quoted

/-! # Texts in quotes

What stands in a quoted text is a character of the text or one of ASCII (`mem_quoted`). -/

namespace SchemaAudit.Text

theorem ascii_of_mem_hex {width n : Nat} {c : Char} (h : c ∈ hex width n) : c.toNat < 0x80 := by
  induction width generalizing n with
  | zero => cases h
  | succ width ih =>
    rw [hex, List.mem_append, List.mem_singleton] at h
    rcases h with h | rfl
    · exact ih h
    · exact (Json.plain_hexDigit _ (Nat.mod_lt _ (by decide))).2

theorem mem_quotedChar [StandIns] {quote c d : Char} (h : d ∈ quotedChar quote c) : d.toNat < 0x80 ∨ d = c := by
  unfold quotedChar at h
  split at h
  · rcases List.mem_pair.mp h with rfl | rfl
    · exact Or.inl (by decide)
    · exact Or.inr rfl
  split at h
  · rcases List.mem_pair.mp h with rfl | rfl <;> exact Or.inl (by decide)
  split at h
  · rcases List.mem_pair.mp h with rfl | rfl <;> exact Or.inl (by decide)
  split at h
  · rcases List.mem_pair.mp h with rfl | rfl <;> exact Or.inl (by decide)
  split at h
  · exact Or.inr (List.mem_singleton.mp h)
  · refine Or.inl ?_
    unfold codeEscape at h
    dsimp only at h
    have hescape {mark : Char} (hmark : mark.toNat < 0x80) {width : Nat}
        (hd : d ∈ '\\' :: mark :: hex width (codePoint c)) : d.toNat < 0x80 := by
      simp only [List.mem_cons] at hd
      rcases hd with rfl | rfl | hd
      · decide
      · exact hmark
      · exact ascii_of_mem_hex hd
    split at h
    · exact hescape (by decide) h
    · split at h
      · exact hescape (by decide) h
      · exact hescape (by decide) h

/-- A text in quotes has its own characters and some of ASCII. -/
theorem mem_quoted [StandIns] {s : List Char} {c : Char} (h : c ∈ quoted s) : c.toNat < 0x80 ∨ c ∈ s := by
  have hquote : (quoteFor s).toNat < 0x80 := by
    unfold quoteFor
    split <;> decide
  rw [quoted, List.mem_cons, List.mem_append, List.mem_singleton] at h
  rcases h with rfl | h | rfl
  · exact Or.inl hquote
  · obtain ⟨d, hd, hc⟩ := List.mem_flatMap.mp h
    rcases mem_quotedChar hc with hascii | rfl
    · exact Or.inl hascii
    · exact Or.inr hd
  · exact Or.inl hquote

end SchemaAudit.Text
