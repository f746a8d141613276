/-!
Floating-point numbers of 64 bits by their values: `± mantissa · 2 ^ exponent` with a mantissa below
2 ^ 53 that is at least 2 ^ 52 unless the exponent is the least one, -1074. A ratio of naturals is
rounded to the nearest of them, a tie to the even mantissa.
-/

namespace SchemaAudit.Number

/-- A number of 64 bits. -/
inductive Binary64 where
  | finite (negative : Bool) (mantissa : Nat) (exponent : Int)
  | infinite (negative : Bool)
  | nan
  deriving DecidableEq, Repr, Inhabited

/-- The quotient rounded to the nearest natural, a tie to the even one. -/
def roundDiv (num den : Nat) : Nat :=
  let q := num / den
  let r := num % den
  if 2 * r < den then q else if den < 2 * r then q + 1 else q + q % 2

/-- A ratio times two to a power, as a ratio. -/
def scaleTwo (num den : Nat) : Int → Nat × Nat
  | .ofNat k => (num * Nat.pow 2 k, den)
  | .negSucc k => (num, den * Nat.pow 2 (k + 1))

/-- A ratio times ten to a power, as a ratio. -/
def scaleTen (num den : Nat) : Int → Nat × Nat
  | .ofNat k => (num * Nat.pow 10 k, den)
  | .negSucc k => (num, den * Nat.pow 10 (k + 1))

/-- The exponent `e` with `2 ^ e ≤ num / den < 2 ^ (e + 1)`, both naturals positive. -/
def floorLog2 (num den : Nat) : Int :=
  let e : Int := Int.ofNat num.log2 - Int.ofNat den.log2
  let (n, d) := scaleTwo num den (-e)
  if d ≤ n then e else e - 1

namespace Binary64

/-- The number nearest to a ratio; past the largest one it is infinite. -/
def nearest (negative : Bool) (num den : Nat) : Binary64 :=
  if num = 0 then .finite negative 0 (-1074)
  else
    let q := max (floorLog2 num den - 52) (-1074)
    let (n, d) := scaleTwo num den (-q)
    let m := roundDiv n d
    let (m, q) := if m = Nat.pow 2 53 then (Nat.pow 2 52, q + 1) else (m, q)
    if 971 < q then .infinite negative else .finite negative m q

/-- The number nearest to `digits · 10 ^ exponent`. Where the exponent alone decides, no power of ten
is built: the number is then zero or infinite. -/
def ofDecimal (negative : Bool) (digits : Nat) (exponent : Int) : Binary64 :=
  if digits = 0 || exponent + 2 * Int.ofNat digits.log2 < -800 then .finite negative 0 (-1074)
  else if 800 < exponent then .infinite negative
  else
    let (n, d) := scaleTen digits 1 exponent
    nearest negative n d

/-- The number nearest to an integer. -/
def ofInt (n : Int) : Binary64 := nearest (n < 0) n.natAbs 1

/-- A finite number as a ratio. -/
def ratio? : Binary64 → Option (Bool × Nat × Nat)
  | .finite negative m q => some (negative, scaleTwo m 1 q)
  | _ => none

/-- Whether a number is zero of either sign. -/
def isZero : Binary64 → Bool
  | .finite _ m _ => m = 0
  | _ => false

end Binary64

end SchemaAudit.Number
