import SchemaAudit.Number.Shortest

/-!
Numbers as text: integers in base ten; numbers of 64 bits by their shortest decimal, positional while
the point falls after the fourth zero and before the seventeenth digit, in powers of ten otherwise.
-/

namespace SchemaAudit.Number

/-- A natural in base ten. -/
def naturalText (n : Nat) : List Char := Nat.toDigits 10 n

/-- An integer in base ten. -/
def integerText : Int → List Char
  | .ofNat n => naturalText n
  | .negSucc n => '-' :: naturalText (n + 1)

/-- An exponent with its sign and two digits at least. -/
def exponentText (e : Int) : List Char :=
  let ds := naturalText e.natAbs
  (if e < 0 then '-' else '+') :: (if ds.length < 2 then '0' :: ds else ds)

/-- Digits without the zeros at their end. -/
def dropTrailingZeros (ds : List Char) : List Char := (ds.reverse.dropWhile (· = '0')).reverse

/-- The digits of a decimal whose point stands after `point` of them. -/
def layout (ds : List Char) (point : Int) : List Char :=
  if -4 < point && point ≤ 16 then
    match point with
    | .ofNat 0 => '0' :: '.' :: ds
    | .ofNat k =>
      if ds.length ≤ k then ds ++ List.replicate (k - ds.length) '0' ++ ['.', '0']
      else ds.take k ++ '.' :: ds.drop k
    | .negSucc k => '0' :: '.' :: (List.replicate (k + 1) '0' ++ ds)
  else
    let mantissa := match ds with
      | d :: r@(_ :: _) => d :: '.' :: r
      | short => short
    mantissa ++ 'e' :: exponentText (point - 1)

namespace Binary64

/-- The digits of the shortest decimal, without zeros at the end, and where the point stands. -/
def digits (mantissa : Nat) (exponent : Int) : List Char × Int :=
  let (d, p) := shortest mantissa exponent
  if d = 0 then (['0'], 1)
  else
    let all := naturalText d
    (dropTrailingZeros all, Int.ofNat all.length + p)

/-- A number as text. -/
def text : Binary64 → List Char
  | .finite negative m q =>
    let (ds, point) := digits m q
    (if negative then ['-'] else []) ++ layout ds point
  | .infinite negative => (if negative then ['-'] else []) ++ ['i', 'n', 'f']
  | .nan => ['n', 'a', 'n']

end Binary64

end SchemaAudit.Number
