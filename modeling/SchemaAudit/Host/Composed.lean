import SchemaAudit.Host.ComposedTable

/-!
Composed text. A text is composed if no two of its characters would be written as one, and its marks
stand in the order of their classes. That is so if taking the text apart, ordering its marks and putting
it together again gives it back.
-/

namespace SchemaAudit.Host

/-- The class that orders a mark; what is no mark has the class zero. -/
def markClass (n : Nat) : Nat :=
  ((markClasses.find? fun m => m.first ≤ n && n ≤ m.last).map (·.value)).getD 0

/-- The character that two compose. -/
def composed? (base mark : Nat) : Option Nat :=
  (compositions.find? fun c => c.base = base && c.mark = mark).map (·.whole)

/-- A character and its marks, so many times taken apart. -/
def apart : Nat → Nat → List Nat
  | 0, n => [n]
  | times + 1, n =>
    match compositions.find? (·.whole = n) with
    | some c => apart times c.base ++ [c.mark]
    | none => [n]

/-- No character has to be taken apart more often. -/
def apartLimit : Nat := 4

/-- A text with a character before it, which moves behind the marks of lower classes if it is a mark. -/
def placed (n : Nat) : List Nat → List Nat
  | [] => [n]
  | m :: s => if 0 < markClass m && markClass m < markClass n then m :: placed n s else n :: m :: s

/-- A text with its marks in order. -/
def ordered : List Nat → List Nat
  | [] => []
  | n :: s => placed n (ordered s)

/-- A text put together: a character, the marks behind it that do not compose with it, and the rest. A
mark composes only if no mark of its class or a higher one stands between. -/
def together (base : Nat) (marks : List Nat) : List Nat → List Nat
  | [] => base :: marks
  | n :: s =>
    let near := marks.getLast?.all fun m => markClass m < markClass n
    match if near then composed? base n else none with
    | some whole => together whole marks s
    | none =>
      if markClass n = 0 then base :: (marks ++ together n [] s) else together base (marks ++ [n]) s

/-- Whether a text is composed. -/
def isComposed (s : List Nat) : Bool :=
  match ordered (s.flatMap (apart apartLimit)) with
  | [] => s.isEmpty
  | n :: rest => together n [] rest = s

end SchemaAudit.Host
