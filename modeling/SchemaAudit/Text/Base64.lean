/-!
Bytes as letters: three bytes make four digits in base 64. What is missing of three bytes at the end is
shown by equals signs.
-/

namespace SchemaAudit.Text.Base64

/-- The digit of a number below 64. -/
def digit (n : Nat) : Char :=
  if n < 26 then Char.ofNat (0x41 + n)
  else if n < 52 then Char.ofNat (0x61 + (n - 26))
  else if n < 62 then Char.ofNat (0x30 + (n - 52))
  else if n = 62 then '+'
  else '/'

/-- The first `count` digits of three bytes taken as one number, filled up to four characters. -/
def group (count : Nat) (a b c : UInt8) : List Char :=
  let n := (a.toNat * 256 + b.toNat) * 256 + c.toNat
  let digits := [digit (n / 262144), digit (n / 4096 % 64), digit (n / 64 % 64), digit (n % 64)]
  digits.take count ++ List.replicate (4 - count) '='

/-- The letters of some bytes. -/
def encode : List UInt8 → List Char
  | [] => []
  | [a] => group 2 a 0 0
  | [a, b] => group 3 a b 0
  | a :: b :: c :: rest => group 4 a b c ++ encode rest

end SchemaAudit.Text.Base64
