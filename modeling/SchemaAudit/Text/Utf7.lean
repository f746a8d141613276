import SchemaAudit.Text.Half

/-!
Text in the ASCII of mail. What is not ASCII stands in runs behind a plus sign, in units of two bytes
written with 64 digits; a hyphen may end a run and then counts for nothing. Each fault reads as U+FFFD.
-/

namespace SchemaAudit.Text.Utf7

/-- The value of a digit among 64. -/
def digitValue? (b : UInt8) : Option Nat :=
  let c := Char.ofNat b.toNat
  if c.isUpper then some (b.toNat - 0x41)
  else if c.isLower then some (b.toNat - 0x61 + 26)
  else if c.isDigit then some (b.toNat - 0x30 + 52)
  else if c = '+' then some 62
  else if c = '/' then some 63
  else none

/-- What is known inside a run: the bits that are not part of a unit yet, how many they are, and the first
half of a pair that waits for the second, if there is one. -/
structure Run where
  value : Nat
  bits : Nat
  high? : Option Nat

/-- A run that begins. -/
def Run.new : Run := ⟨0, 0, none⟩

/-- A run after one digit more, and the characters that it completes. -/
def Run.take [StandIns] (r : Run) (digit : Nat) : List Char × Run :=
  let value := r.value * 64 + digit
  let bits := r.bits + 6
  if bits < 16 then ([], ⟨value, bits, r.high?⟩)
  else
    let left := Nat.pow 2 (bits - 16)
    let unit := value / left
    let next (high? : Option Nat) : Run := ⟨value % left, bits - 16, high?⟩
    let alone : List Char := if isHighHalf unit then [] else [unitChar unit]
    let waiting? := if isHighHalf unit then some unit else none
    match r.high? with
    | none => (alone, next waiting?)
    | some high =>
      if isLowHalf unit then ([pairChar high unit], next none)
      else (unitChar high :: alone, next waiting?)

/-- Whether a run may not end as it is: with bits for a digit more, or others than zeros. -/
def Run.isRagged (r : Run) : Bool := 6 ≤ r.bits || (0 < r.bits && r.value ≠ 0)

/-- The half that waits in a run, as a character. -/
def Run.waiting [StandIns] (r : Run) : List Char := (r.high?.map unitChar).toList

/-- The text of some bytes, inside a run or outside. -/
def decode [StandIns] : Option Run → List UInt8 → List Char
  | none, [] => []
  | some r, [] => if r.isRagged || r.high?.isSome then ['\uFFFD'] else []
  | none, b :: rest =>
    if b = 0x2b then
      match rest with
      | 0x2d :: rest => '+' :: decode none rest
      | [] => []
      | d :: more => if (digitValue? d).isNone then '\uFFFD' :: decode none more else decode (some .new) (d :: more)
    else if b < 0x80 then Char.ofNat b.toNat :: decode none rest
    else '\uFFFD' :: decode none rest
  | some r, b :: rest =>
    match digitValue? b with
    | some digit => (r.take digit).1 ++ decode (some (r.take digit).2) rest
    | none =>
      if r.isRagged then '\uFFFD' :: decode none rest
      else
        (if b < 0x80 then r.waiting else []) ++
          (if b = 0x2d then decode none rest
          else if b < 0x80 then Char.ofNat b.toNat :: decode none rest
          else '\uFFFD' :: decode none rest)
  termination_by _ bytes => bytes.length

end SchemaAudit.Text.Utf7
