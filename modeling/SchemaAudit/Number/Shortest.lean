import SchemaAudit.Number.Binary64

/-!
The shortest decimal that reads back as a number of 64 bits. The reals that round to the number form
an interval, its ends included when the mantissa is even. For one digit, two digits and so on, the two
neighbours of the number on that decimal grid are tried: the first grid with one in the interval
wins, and of two the nearer, or the even one if they are as near.
-/

namespace SchemaAudit.Number

/-- How many decimal digits a natural has; zero has one. -/
def digitCount (n : Nat) : Nat := (Nat.toDigits 10 n).length

/-- The exponent `e` with `10 ^ e ≤ num / den < 10 ^ (e + 1)`, both naturals positive. -/
def floorLog10 (num den : Nat) : Int :=
  if den ≤ num then Int.ofNat (digitCount (num / den)) - 1
  else
    let d := digitCount (den / num)
    if den ≤ num * Nat.pow 10 (d - 1) then 1 - Int.ofNat d else - Int.ofNat d

/-- The interval of reals that round to `mantissa · 2 ^ exponent`, as numerators over the denominator
of the result: low end, number, high end, denominator. Below a power of two the step is half. -/
def interval (mantissa : Nat) (exponent : Int) : Nat × Nat × Nat × Nat :=
  let half := if mantissa = Nat.pow 2 52 && -1074 < exponent then 1 else 2
  let (n, d) := scaleTwo mantissa 1 exponent
  let (u, _) := scaleTwo 1 1 exponent
  (4 * n - half * u, 4 * n, 4 * n + 2 * u, 4 * d)

/-- The neighbours of `v / den` on the grid of `10 ^ p` that lie in the interval; the nearer
first, and of two that are as near the even one. -/
def gridHits (even : Bool) (lo v hi den : Nat) (p : Int) : List Nat :=
  let (n, d) := scaleTen v den (-p)
  let c := n / d
  let inside (k : Nat) : Bool :=
    let (x, y) := scaleTen k 1 p
    if even then lo * y ≤ x * den && x * den ≤ hi * y else lo * y < x * den && x * den < hi * y
  let lower := 2 * (n % d) < d || (2 * (n % d) = d && c % 2 = 0)
  let nearFirst := if lower then [c, c + 1] else [c + 1, c]
  nearFirst.filter fun k => k != 0 && inside k

/-- The first grid with a hit, from `k` digits on: the digits and the exponent of the last one. -/
def firstHit (even : Bool) (lo v hi den : Nat) (top : Int) (k : Nat) : Nat → Nat × Int
  | 0 => (0, 0)
  | fuel + 1 =>
    let p := top - Int.ofNat k + 1
    match gridHits even lo v hi den p with
    | c :: _ => (c, p)
    | [] => firstHit even lo v hi den top (k + 1) fuel

/-- The shortest decimal `digits · 10 ^ exponent` that reads back as `mantissa · 2 ^ exponent`; no
number needs more than seventeen digits. -/
def shortest (mantissa : Nat) (exponent : Int) : Nat × Int :=
  if mantissa = 0 then (0, 0)
  else
    let (lo, v, hi, den) := interval mantissa exponent
    firstHit (mantissa % 2 = 0) lo v hi den (floorLog10 v den) 1 18

end SchemaAudit.Number
