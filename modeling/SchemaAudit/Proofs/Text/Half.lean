import SchemaAudit.Text.Half
import Mathlib.Data.List.Perm.Subperm

/-! # Halves and their stand-ins

A character that stands in for a half is spelled by the half's number, and read from it again (`unitChar_codePoint`). What
is below the characters for private use stands in for nothing (`isStandIn_of_lt`), under every choice of stand-ins.

No text is left out by the choice: one without halves is spelled where there are no stand-ins, and one with halves where
they are characters that it does not use (`exists_spelling`). -/

namespace SchemaAudit.Text

theorem isHalf_toNat (c : Char) : isHalf c.toNat = false := by
  have hv : c.toNat < 0xd800 ∨ 0xdfff < c.toNat ∧ c.toNat < 0x110000 := c.valid
  rw [← Bool.not_eq_true, isHalf_iff]
  omega

theorem isHighHalf_toNat (c : Char) : isHighHalf c.toNat = false := by
  have h := isHalf_toNat c
  rw [isHalf, Bool.or_eq_false_iff] at h
  exact h.1

section

variable [StandIns] {c : Char}

theorem isStandIn_eq_false_iff : isStandIn c = false ↔ StandIns.half? c = none :=
  Option.isSome_eq_false_iff.trans Option.isNone_iff_eq_none

theorem half?_of_isStandIn (h : isStandIn c = true) : StandIns.half? c = some (codePoint c) := by
  obtain ⟨n, hn⟩ := Option.isSome_iff_exists.mp h
  rw [codePoint, hn]
  rfl

theorem codePoint_of_not_isStandIn (h : isStandIn c = false) : codePoint c = c.toNat := by
  rw [codePoint, isStandIn_eq_false_iff.mp h]
  rfl

theorem isHalf_codePoint (h : isStandIn c = true) : isHalf (codePoint c) = true :=
  StandIns.isHalf_of_half? (half?_of_isStandIn h)

theorem le_toNat_of_isStandIn (h : isStandIn c = true) : 0xf0000 ≤ c.toNat :=
  StandIns.private_of_half? (half?_of_isStandIn h)

theorem isStandIn_of_lt (h : c.toNat < 0xf0000) : isStandIn c = false := by
  cases hs : isStandIn c with
  | false => rfl
  | true => exact absurd (le_toNat_of_isStandIn hs) (Nat.not_le.mpr h)

theorem isStandIn_of_ascii (h : c.toNat < 0x80) : isStandIn c = false :=
  isStandIn_of_lt (Nat.lt_trans h (by decide))

/-- The number of a character is that of a half only if the character stands in for one. -/
theorem isStandIn_of_isHalf (h : isHalf (codePoint c) = true) : isStandIn c = true := by
  cases hs : isStandIn c with
  | true => rfl
  | false =>
    rw [codePoint_of_not_isStandIn hs, isHalf_toNat] at h
    cases h

theorem isHalf_codePoint_eq (c : Char) : isHalf (codePoint c) = isStandIn c :=
  Bool.eq_iff_iff.mpr ⟨isStandIn_of_isHalf, isHalf_codePoint⟩

theorem codePoint_lt_of_isStandIn (h : isStandIn c = true) : codePoint c < 0x10000 := by
  have hhalf := isHalf_iff.mp (isHalf_codePoint h)
  omega

theorem codePoint_le (c : Char) : codePoint c ≤ c.toNat := by
  cases hs : isStandIn c with
  | true =>
    have hlt := codePoint_lt_of_isStandIn hs
    have hle := le_toNat_of_isStandIn hs
    omega
  | false => exact Nat.le_of_eq (codePoint_of_not_isStandIn hs)

theorem unitChar_toNat (c : Char) : unitChar c.toNat = c := by
  rw [unitChar, isHalf_toNat]
  exact Char.ofNat_toNat c

theorem unitChar_codePoint (c : Char) : unitChar (codePoint c) = c := by
  cases hs : isStandIn c with
  | true =>
    rw [unitChar, if_pos (isHalf_codePoint hs), StandIns.standIn?_eq_some_iff.mpr (half?_of_isStandIn hs)]
    rfl
  | false => rw [codePoint_of_not_isStandIn hs, unitChar_toNat]

/-- Two characters that are spelled alike are one, so a text is told by the numbers in it. -/
theorem codePoint_injective : Function.Injective codePoint :=
  Function.LeftInverse.injective unitChar_codePoint

end

/-! ### Every text is spelled -/

/-- Where there are no stand-ins, no character is one. -/
theorem isStandIn_none (c : Char) : @isStandIn .none c = false := rfl

theorem codePoint_unitChar [StandIns] {n : Nat} (hn : n < 0x110000)
    (hhalf : isHalf n = true → ∃ c, StandIns.standIn? n = some c)
    (hchar : isHalf n = false → isStandIn (Char.ofNat n) = false) : codePoint (unitChar n) = n := by
  cases hn' : isHalf n with
  | true =>
    obtain ⟨c, hc⟩ := hhalf hn'
    rw [unitChar, if_pos hn', hc, Option.getD_some, codePoint, StandIns.standIn?_eq_some_iff.mp hc]
    rfl
  | false =>
    have hbounds : ¬ (0xd800 ≤ n ∧ n ≤ 0xdfff) := fun h => Bool.false_ne_true (hn'.symm.trans (isHalf_iff.mpr h))
    rw [unitChar, if_neg (by simp [hn']), codePoint_of_not_isStandIn (hchar hn'), toNat_ofNat (by omega)]

theorem exists_free_block {points : List Nat} (few : (points.filter (0xf0000 ≤ ·)).length < 64) :
    ∃ first, 0xf0000 ≤ first ∧ first ≤ 0x10f800 ∧ ∀ n ∈ points, ¬ (first ≤ n ∧ n < first + 0x800) := by
  by_contra hfull
  push Not at hfull
  have hsub : List.range 64 ⊆ (points.filter (0xf0000 ≤ ·)).map fun n => (n - 0xf0000) / 0x800 := by
    intro k hk
    rw [List.mem_range] at hk
    obtain ⟨n, hn, hfirst, hlast⟩ := hfull (0xf0000 + k * 0x800) (by omega) (by omega)
    exact List.mem_map.mpr ⟨n, List.mem_filter.mpr ⟨hn, decide_eq_true (by omega)⟩, by omega⟩
  have hle := (List.nodup_range.subperm hsub).length_le
  rw [List.length_range, List.length_map] at hle
  omega

/-- Every text is spelled under some choice of stand-ins, unless it has halves and uses characters for private use from all
over their planes. -/
theorem exists_spelling {points : List Nat} (hpoints : ∀ n ∈ points, n < 0x110000)
    (h : (∀ n ∈ points, isHalf n = false) ∨ (points.filter (0xf0000 ≤ ·)).length < 64) :
    ∃ (choice : StandIns) (s : List Char), s.map (@codePoint choice) = points := by
  suffices ∃ choice : StandIns, ∀ n ∈ points, @codePoint choice (@unitChar choice n) = n by
    obtain ⟨choice, hspelled⟩ := this
    refine ⟨choice, points.map (@unitChar choice), ?_⟩
    rw [List.map_map]
    exact (List.map_congr_left hspelled).trans (List.map_id points)
  rcases h with hwhole | few
  · refine ⟨.none, fun n hn => @codePoint_unitChar .none n (hpoints n hn) (fun hhalf => ?_) fun _ => rfl⟩
    cases hhalf.symm.trans (hwhole n hn)
  · obtain ⟨first, low, high, hfree⟩ := exists_free_block few
    refine ⟨.block first low high, fun n hn => @codePoint_unitChar (.block first low high) n (hpoints n hn) ?_ ?_⟩
    · exact fun hhalf => ⟨_, if_pos hhalf⟩
    · intro hchar
      have hbounds : ¬ (0xd800 ≤ n ∧ n ≤ 0xdfff) := fun h => Bool.false_ne_true (hchar.symm.trans (isHalf_iff.mpr h))
      rw [@isStandIn_eq_false_iff (.block first low high)]
      refine if_neg ?_
      rw [toNat_ofNat (by have := hpoints n hn; omega)]
      exact hfree n hn

end SchemaAudit.Text
