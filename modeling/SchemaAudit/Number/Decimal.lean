import SchemaAudit.Json.Reader
import SchemaAudit.Number.Text
import SchemaAudit.Text.Digit

/-!
Decimal numbers that keep the digits they are written with: a sign, digits without zeros before them,
and the power of ten of the last digit.
-/

namespace SchemaAudit.Number

/-- A decimal number. -/
inductive Decimal where
  | finite (negative : Bool) (digits : Nat) (exponent : Int)
  | infinite (negative : Bool)
  | nan (negative signals : Bool) (digits : Nat)
  deriving DecidableEq, Repr

namespace Decimal

/-- The value without a number that some digits after its name tell apart from others. -/
def ofNan? (negative signals : Bool) (s : List Char) : Option Decimal :=
  if s.all Json.isDigit then some (.nan negative signals (Json.digitsValue s)) else none

/-- The decimal that a text without a sign writes. -/
def ofUnsigned? (negative : Bool) (s : List Char) : Option Decimal :=
  let named := String.ofList (s.map Char.toLower)
  if named = "inf" || named = "infinity" then some (.infinite negative)
  else if named.startsWith "nan" then ofNan? negative false (s.drop 3)
  else if named.startsWith "snan" then ofNan? negative true (s.drop 4)
  else
    let whole := s.takeWhile Json.isDigit
    let (fraction, rest) := match s.dropWhile Json.isDigit with
      | '.' :: rest => (rest.takeWhile Json.isDigit, rest.dropWhile Json.isDigit)
      | rest => ([], rest)
    if whole.isEmpty && fraction.isEmpty then none
    else
      match Json.readExponent rest with
      | (exponent, []) => some (.finite negative (Json.digitsValue (whole ++ fraction))
          (exponent.getD 0 - Int.ofNat fraction.length))
      | _ => none

/-- The decimal that a text writes. Blanks around it and low lines in it do not count, and its digits may
be those of any script. -/
def ofText? (s : List Char) : Option Decimal :=
  match ((Text.trim s).filter (· ≠ '_')).map Text.plainDigit with
  | '-' :: rest => ofUnsigned? true rest
  | '+' :: rest => ofUnsigned? false rest
  | s => ofUnsigned? false s

/-- A power of ten with its sign. -/
def powerText (e : Int) : List Char :=
  'E' :: (if e < 0 then '-' else '+') :: naturalText e.natAbs

/-- A decimal without its sign. It is written with a point and no power as long as the power of its
last digit is not positive and few zeros stand before its first digit. -/
def magnitudeText (digits : Nat) (exponent : Int) : List Char :=
  let ds := naturalText digits
  let left := exponent + Int.ofNat ds.length
  if exponent ≤ 0 && -6 < left then
    if exponent = 0 then ds
    else match left with
      | .ofNat (k + 1) => ds.take (k + 1) ++ '.' :: ds.drop (k + 1)
      | _ => '0' :: '.' :: (List.replicate left.natAbs '0' ++ ds)
  else
    let mantissa := match ds with
      | d :: r@(_ :: _) => d :: '.' :: r
      | short => short
    if left = 1 then mantissa else mantissa ++ powerText (left - 1)

/-- A decimal as text. -/
def text : Decimal → List Char
  | finite negative digits exponent => (if negative then ['-'] else []) ++ magnitudeText digits exponent
  | infinite negative => (if negative then ['-'] else []) ++ "Infinity".toList
  | nan negative signals digits =>
    (if negative then ['-'] else []) ++ (if signals then ['s'] else []) ++ "NaN".toList ++
      (if digits = 0 then [] else naturalText digits)

end Decimal

end SchemaAudit.Number
