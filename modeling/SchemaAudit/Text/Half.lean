/-!
Halves of pairs. Text is a row of numbers below `0x110000`, in which half a pair may stand by itself, and that is no
character. Here text is a row of characters, and one for private use stands in for a half, so that text keeps its
length; the half is shown wherever text is escaped, and it keeps text from being encoded.

Which characters stand in for halves is a parameter of all that reads and writes text. A character cannot stand in for
a half and for itself in one text, so no choice spells every text. But text without halves is spelled under the choice of
no stand-ins, and text with halves where the stand-ins are characters that it does not use; what holds under every
choice holds of every text.
-/

namespace SchemaAudit

namespace Text

/-- Whether a unit of sixteen bits is the first half of a pair. -/
def isHighHalf (n : Nat) : Bool := 0xd800 ≤ n && n ≤ 0xdbff

/-- Whether a unit of sixteen bits is the second half of a pair. -/
def isLowHalf (n : Nat) : Bool := 0xdc00 ≤ n && n ≤ 0xdfff

/-- Whether a unit of sixteen bits is half a pair. -/
def isHalf (n : Nat) : Bool := isHighHalf n || isLowHalf n

theorem isHalf_iff {n : Nat} : isHalf n = true ↔ 0xd800 ≤ n ∧ n ≤ 0xdfff := by
  simp only [isHalf, isHighHalf, isLowHalf, Bool.or_eq_true, Bool.and_eq_true, decide_eq_true_eq]
  omega

theorem toNat_ofNat {n : Nat} (h : n < 0xd800 ∨ 0xdfff < n ∧ n < 0x110000) : (Char.ofNat n).toNat = n := by
  rw [Char.ofNat, dif_pos h]
  rfl

end Text

/-- The characters that stand in for halves of pairs. They are for private use: not printable and no letters,
as halves are. -/
class StandIns where
  /-- The half that a character stands in for. -/
  half? : Char → Option Nat
  /-- The character that stands in for a half. -/
  standIn? : Nat → Option Char
  standIn?_eq_some_iff : ∀ {n : Nat} {c : Char}, standIn? n = some c ↔ half? c = some n
  isHalf_of_half? : ∀ {c : Char} {n : Nat}, half? c = some n → Text.isHalf n = true
  private_of_half? : ∀ {c : Char} {n : Nat}, half? c = some n → 0xf0000 ≤ c.toNat

namespace StandIns

/-- No stand-ins: every character is the one that it is. -/
@[reducible]
def none : StandIns where
  half? _ := .none
  standIn? _ := .none
  standIn?_eq_some_iff := by simp
  isHalf_of_half? := by simp
  private_of_half? := by simp

/-- The halves in their order, from one character for private use on. -/
@[reducible]
def block (first : Nat) (low : 0xf0000 ≤ first) (high : first ≤ 0x10f800) : StandIns where
  half? c := if first ≤ c.toNat ∧ c.toNat < first + 0x800 then some (0xd800 + (c.toNat - first)) else .none
  standIn? n := if Text.isHalf n then some (Char.ofNat (first + (n - 0xd800))) else .none
  standIn?_eq_some_iff {n c} := by
    rw [Option.ite_none_right_eq_some, Option.ite_none_right_eq_some, Text.isHalf_iff, Option.some_inj,
      Option.some_inj]
    constructor
    · rintro ⟨hn, rfl⟩
      rw [Text.toNat_ofNat (by omega)]
      omega
    · rintro ⟨hc, rfl⟩
      refine ⟨by omega, ?_⟩
      rw [show first + (0xd800 + (c.toNat - first) - 0xd800) = c.toNat by omega]
      exact Char.ofNat_toNat c
  isHalf_of_half? h := by
    obtain ⟨hc, hn⟩ := Option.ite_none_right_eq_some.mp h
    obtain rfl := Option.some.inj hn
    exact Text.isHalf_iff.mpr (by omega)
  private_of_half? h := by
    obtain ⟨hc, -⟩ := Option.ite_none_right_eq_some.mp h
    omega

/-- Unless another choice is at hand, halves are shifted into the last plane. Text that uses the last characters of that
plane for themselves takes another one. -/
instance : StandIns := block 0x10d800 (by decide) (by decide)

end StandIns

namespace Text

/-- The character of one unit, the stand-in of a half. A half without one is not spelled under the choice, and is
replaced. -/
def unitChar [StandIns] (n : Nat) : Char :=
  if isHalf n then (StandIns.standIn? n).getD '\uFFFD' else Char.ofNat n

/-- The character of two halves. -/
def pairChar (high low : Nat) : Char :=
  Char.ofNat (0x10000 + (high - 0xd800) * 0x400 + (low - 0xdc00))

/-- Whether a character stands in for half a pair. -/
def isStandIn [StandIns] (c : Char) : Bool := (StandIns.half? c).isSome

/-- The number of a character, or of the half that it stands in for. -/
def codePoint [StandIns] (c : Char) : Nat := (StandIns.half? c).getD c.toNat

end Text

end SchemaAudit
