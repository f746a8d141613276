import SchemaAudit.Number.Text

/-!
Numbers of 64 bits in decimal notation with a given number of digits: with so many places behind the
point, in powers of ten, or in whichever of the two suits the size of the number. What is cut off is
rounded to nearest, a tie to the even digit.
-/

namespace SchemaAudit.Number

/-- How a number is written. -/
inductive Notation where
  | places
  | powers
  | general
  deriving DecidableEq, Repr

/-- Digits with the point before the last `places` of them; `point` asks for a point without places. -/
def withPlaces (ds : List Char) (places : Nat) (point : Bool) : List Char :=
  let padded := List.replicate (places + 1 - ds.length) '0' ++ ds
  let whole := padded.take (padded.length - places)
  if places = 0 then if point then whole ++ ['.'] else whole
  else whole ++ '.' :: padded.drop (padded.length - places)

/-- A ratio with so many places. -/
def placesText (num den places : Nat) (point : Bool) : List Char :=
  withPlaces (naturalText (roundDiv (num * Nat.pow 10 places) den)) places point

/-- The digits of a ratio before and behind the point in powers of ten, and the power. -/
def powerDigits (num den places : Nat) : List Char × Int :=
  if num = 0 then (List.replicate (places + 1) '0', 0)
  else
    let e := floorLog10 num den
    let (n, d) := scaleTen num den (Int.ofNat places - e)
    let ds := naturalText (roundDiv n d)
    if ds.length = places + 2 then (ds.dropLast, e + 1) else (ds, e)

/-- Digits with the point behind the first. -/
def withPower (ds : List Char) (power : Int) (point : Bool) (mark : Char) : List Char :=
  let mantissa := match ds with
    | [d] => if point then [d, '.'] else [d]
    | d :: rest => d :: '.' :: rest
    | [] => []
  mantissa ++ mark :: exponentText power

/-- A ratio in powers of ten. -/
def powersText (num den places : Nat) (point : Bool) (mark : Char) : List Char :=
  let (ds, power) := powerDigits num den places
  withPower ds power point mark

/-- A ratio with so many digits, in powers of ten where it is small or has more digits than that. -/
def generalText (num den digits : Nat) (point : Bool) (mark : Char) : List Char :=
  let digits := max digits 1
  let (ds, power) := powerDigits num den (digits - 1)
  let kept := if point then ds else
    match dropTrailingZeros ds with
    | [] => ['0']
    | few => few
  if -4 ≤ power && power < Int.ofNat digits then
    match power with
    | .ofNat k =>
      let whole := ds.take (k + 1)
      let fraction := kept.drop (k + 1)
      if fraction.isEmpty then if point then whole ++ ['.'] else whole else whole ++ '.' :: fraction
    | .negSucc k => '0' :: '.' :: (List.replicate k '0' ++ kept)
  else withPower kept power point mark

/-- A number without its sign. -/
def magnitudeText (form : Notation) (digits : Nat) (point : Bool) (mark : Char) : Binary64 → List Char
  | .infinite _ => ['i', 'n', 'f']
  | .nan => ['n', 'a', 'n']
  | x =>
    match x.ratio? with
    | none => []
    | some (_, num, den) =>
      match form with
      | .places => placesText num den digits point
      | .powers => powersText num den digits point mark
      | .general => generalText num den digits point mark

/-- Whether a number has a minus sign. -/
def Binary64.isNegative : Binary64 → Bool
  | .finite negative _ _ => negative
  | .infinite negative => negative
  | .nan => false

end SchemaAudit.Number
