/-!
Codes of bits for symbols, none of which starts another. A code is given by the length of each symbol's
bits alone: shorter ones come first, and among those of one length lower symbols.
-/

namespace SchemaAudit.Packed

/-- What bits lead to, one after another. -/
inductive PrefixCode where
  | nothing
  | symbol (n : Nat)
  | branch (zero one : PrefixCode)
  deriving Repr

/-- What reading a symbol comes to. -/
inductive Symbol where
  | read (n : Nat) (rest : List Bool)
  /-- The bits lead to nothing. -/
  | none
  /-- The bits end before they lead to something. -/
  | cut

namespace PrefixCode

/-- A code with a symbol put where bits lead. -/
def insert (n : Nat) : List Bool → PrefixCode → PrefixCode
  | [], _ => symbol n
  | bit :: bits, code =>
    let (zero, one) := match code with
      | branch zero one => (zero, one)
      | _ => (nothing, nothing)
    if bit then branch zero (insert n bits one) else branch (insert n bits zero) one

/-- The symbol that bits lead to. -/
def read : PrefixCode → List Bool → Symbol
  | symbol n, bits => .read n bits
  | nothing, _ => .none
  | branch _ _, [] => .cut
  | branch zero one, bit :: bits => if bit then one.read bits else zero.read bits

/-- So many bits of a number, the high ones first. -/
def highBits (count n : Nat) : List Bool :=
  (List.range count).map fun i => n / Nat.pow 2 (count - 1 - i) % 2 = 1

/-- The longest code of a symbol. -/
def lengthLimit : Nat := 15

/-- The symbols with a code, in the order of their codes, each with its length. -/
def inOrder (lengths : List Nat) : List (Nat × Nat) :=
  (List.range' 1 lengthLimit).flatMap fun length =>
    lengths.zipIdx.filterMap fun (l, n) => if l = length then some (n, length) else none

/-- The code of some symbols in order, each with its length. `next` is the code after that of the symbol
before, which has `length` bits. -/
def ofOrdered (next length : Nat) : List (Nat × Nat) → PrefixCode
  | [] => branch nothing nothing
  | (n, l) :: symbols =>
    let own := next * Nat.pow 2 (l - length)
    (ofOrdered (own + 1) l symbols).insert n (highBits l own)

/-- The code that lengths give, the length zero to symbols without one. -/
def ofLengths (lengths : List Nat) : PrefixCode := ofOrdered 0 0 (inOrder lengths)

/-- How much of all bits the codes of some lengths lead from, all of them being `2 ^ lengthLimit`. -/
def weight (lengths : List Nat) : Nat :=
  lengths.foldr (fun l w => (if l = 0 then 0 else Nat.pow 2 (lengthLimit - l)) + w) 0

/-- The weight of a code in which all bits lead to something. -/
def fullWeight : Nat := Nat.pow 2 lengthLimit

/-- Whether a code leads from all bits to one symbol, or has no symbol. -/
def isComplete (lengths : List Nat) : Bool := weight lengths = fullWeight || lengths.all (· = 0)

/-- Whether a code is complete, or has but one symbol, of one bit. -/
def isUsable (lengths : List Nat) : Bool :=
  isComplete lengths || (weight lengths < fullWeight && lengths.all (· ≤ 1))

end PrefixCode

end SchemaAudit.Packed
