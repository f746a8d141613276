import SchemaAudit.Artifact.Key
import SchemaAudit.Proofs.File.Path
import SchemaAudit.Proofs.Text.Utf8

/-! # Files named for tables

The percent codes of a key can be undone (`bytes_flatMap_keyChar`), so two tables never share a key; the empty name has a key of
its own, which undone would be that of a percent sign. A key is made of letters, digits and a few marks, none of them a
slash, so the name of a report is one plain name in its directory. -/

namespace SchemaAudit

open Text Percent

/-! ### Codes undone -/

theorem Text.Percent.upperHexDigit : ∀ d < 16, isHexDigit (hexDigit d).toUpper = true ∧
    hexValue (hexDigit d).toUpper = d := by decide

theorem Text.Percent.code_eq (b : UInt8) :
    code b = ['%', (hexDigit (b.toNat / 16 % 16)).toUpper, (hexDigit (b.toNat % 16)).toUpper] := rfl

theorem Text.Percent.bytes_code (b : UInt8) (rest : List Char) : bytes (code b ++ rest) = b :: bytes rest := by
  have hhigh := upperHexDigit (b.toNat / 16 % 16) (Nat.mod_lt _ (by decide))
  have hlow := upperHexDigit (b.toNat % 16) (Nat.mod_lt _ (by decide))
  rw [code_eq]
  simp only [List.cons_append, List.nil_append, bytes, hhigh.1, hlow.1, Bool.and_self, if_true, hhigh.2, hlow.2]
  congr 1
  have hb : b.toNat < 256 := b.toNat_lt
  rw [show 16 * (b.toNat / 16 % 16) + b.toNat % 16 = b.toNat by omega]
  exact UInt8.ofNat_toNat

theorem Text.Percent.bytes_flatMap_code (bs : List UInt8) (rest : List Char) :
    bytes (bs.flatMap code ++ rest) = bs ++ bytes rest := by
  induction bs with
  | nil => rfl
  | cons b bs ih => rw [List.flatMap_cons, List.append_assoc, bytes_code, ih, List.cons_append]

theorem Text.Percent.bytes_cons {c : Char} (h : c ≠ '%') (rest : List Char) :
    bytes (c :: rest) = encodeUtf8 [c] ++ bytes rest := by
  rw [bytes]
  rintro a b rest rfl
  exact absurd rfl h

namespace Artifact

variable {table other : String} {c : Char} {s : List Char}

theorem bytes_keyChar (c : Char) (rest : List Char) :
    bytes (keyChar c ++ rest) = encodeUtf8 [c] ++ bytes rest := by
  unfold keyChar
  split
  · refine bytes_cons ?_ rest
    rintro rfl
    contradiction
  · exact bytes_flatMap_code _ rest

theorem bytes_flatMap_keyChar (s : List Char) : bytes (s.flatMap keyChar) = encodeUtf8 s := by
  induction s with
  | nil => rfl
  | cons c s ih =>
    rw [List.flatMap_cons, bytes_keyChar, ih]
    simp only [encodeUtf8, List.flatMap_cons, List.flatMap_nil, List.append_nil]

theorem encodeUtf8_injective {s t : List Char} (h : encodeUtf8 s = encodeUtf8 t) : s = t := by
  have hs := decodeUtf8_encodeUtf8 s
  rw [h, decodeUtf8_encodeUtf8] at hs
  cases hs
  rfl

/-! ### Keys -/

/-- The key of a table, also of one that is not in UTF-8. -/
def keyOf (table : String) : List Char := if table = "" then ['%'] else table.toList.flatMap keyChar

theorem key_eq [StandIns] (table : String) : key table = match outsideUtf8? table.toList with
    | some outside => .error (.notUtf8 outside)
    | none => .ok (String.ofList (keyOf table)) := by
  unfold key keyOf
  cases outsideUtf8? table.toList with
  | some outside => rfl
  | none =>
    dsimp only
    split <;> rfl

/-- Different tables have different keys. -/
theorem keyOf_injective (h : keyOf table = keyOf other) : table = other := by
  -- undone, a lone percent sign would be the name that has the key "%25"
  have alone {table : String} (h : ['%'] = table.toList.flatMap keyChar) : table = "" := by
    have hbytes : encodeUtf8 ['%'] = encodeUtf8 table.toList := (congrArg bytes h).trans (bytes_flatMap_keyChar _)
    rw [← encodeUtf8_injective hbytes] at h
    exact absurd h (by decide)
  unfold keyOf at h
  split at h
  · split at h
    · simp_all
    · rw [alone h]
      assumption
  · split at h
    · rw [alone h.symm]
      exact Eq.symm ‹_›
    · refine String.toList_inj.mp (encodeUtf8_injective ?_)
      rw [← bytes_flatMap_keyChar, ← bytes_flatMap_keyChar, h]

/-! ### The characters of a key -/

/-- A character that may stand in a key. -/
def InKeys (c : Char) : Prop := isUnreserved c = true ∨ c = '%'

theorem inKeys_upperHexDigit : ∀ d < 16, isUnreserved (hexDigit d).toUpper = true := by decide

theorem inKeys_of_mem_keyChar {d : Char} (h : d ∈ keyChar c) : InKeys d := by
  unfold keyChar at h
  split at h
  · rw [List.mem_singleton.mp h]
    exact Or.inl ‹_›
  · obtain ⟨b, -, hb⟩ := List.mem_flatMap.mp h
    rw [code_eq] at hb
    simp only [List.mem_cons, List.not_mem_nil, or_false] at hb
    rcases hb with rfl | rfl | rfl
    · exact Or.inr rfl
    · exact Or.inl (inKeys_upperHexDigit _ (Nat.mod_lt _ (by decide)))
    · exact Or.inl (inKeys_upperHexDigit _ (Nat.mod_lt _ (by decide)))

theorem inKeys_of_mem_keyOf (h : c ∈ keyOf table) : InKeys c := by
  unfold keyOf at h
  split at h
  · exact Or.inr (List.mem_singleton.mp h)
  · obtain ⟨d, -, hd⟩ := List.mem_flatMap.mp h
    exact inKeys_of_mem_keyChar hd

theorem InKeys.ascii (h : InKeys c) : c.toNat < 0x80 := by
  rcases h with h | rfl
  · simp only [isUnreserved, Bool.or_eq_true, decide_eq_true_eq] at h
    rcases h with (((h | rfl) | rfl) | rfl) | rfl
    · have below {last : UInt32} (hlast : c.val ≤ last) (hl : last.toNat < 0x80) : c.toNat < 0x80 :=
        Nat.lt_of_le_of_lt (UInt32.le_iff_toNat_le.mp hlast) hl
      rcases Bool.or_eq_true_iff.mp h with h | h
      · rcases Bool.or_eq_true_iff.mp h with h | h
        · exact below (of_decide_eq_true h).2 (by decide)
        · exact below (of_decide_eq_true (Bool.and_eq_true_iff.mp h).2) (by decide)
      · exact below (of_decide_eq_true (Bool.and_eq_true_iff.mp h).2) (by decide)
    all_goals decide
  · decide

theorem InKeys.ne {d : Char} (h : InKeys c) (hd : isUnreserved d = false) (hp : d ≠ '%') : c ≠ d := by
  rintro rfl
  rcases h with h | h
  · rw [h] at hd
    cases hd
  · exact hp h

theorem InKeys.sendable [StandIns] (h : InKeys c) :
    Sendable c := sendable_of_ascii h.ascii (h.ne (by decide) (by decide))

/-! ### Names of reports -/

/-- The name of a table's report. -/
def reportFile (table : String) : String := String.ofList (keyOf table ++ "-consistency-report.json".toList)

theorem reportFile_injective (h : reportFile table = reportFile other) : table = other :=
  keyOf_injective (List.append_cancel_right (String.ofList_inj.mp h))

theorem inKeys_of_mem_reportFile (h : c ∈ (reportFile table).toList) : InKeys c := by
  rw [reportFile, String.toList_ofList, List.mem_append] at h
  rcases h with h | h
  · exact inKeys_of_mem_keyOf h
  · have hall : "-consistency-report.json".toList.all isUnreserved = true := by decide
    exact Or.inl (List.all_eq_true.mp hall c h)

theorem length_reportFile (table : String) : 24 ≤ (reportFile table).toList.length := by
  rw [reportFile, String.toList_ofList, List.length_append]
  exact Nat.le_add_left 24 _

theorem isPlain_reportFile (table : String) : Path.IsPlain (reportFile table) := by
  have hne {name : String} (h : name.toList.length < 24) : reportFile table ≠ name := by
    rintro rfl
    exact absurd (length_reportFile table) (Nat.not_le_of_lt h)
  exact ⟨hne (by decide), hne (by decide), hne (by decide),
    fun h => (inKeys_of_mem_reportFile h).ne (by decide) (by decide) rfl⟩

/-- No table's report has the name of the record of a failed run. -/
theorem reportFile_ne_runFailure (table : String) : reportFile table ≠ "_run-failure.json" := by
  intro h
  exact absurd (length_reportFile table) (by rw [h]; decide)

end Artifact

end SchemaAudit
