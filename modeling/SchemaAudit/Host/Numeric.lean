import SchemaAudit.Json.Reader
import SchemaAudit.Text.Blank
import SchemaAudit.Text.Quoted

/-!
Hosts by number: four numbers with dots between them, or eight groups of digits in base sixteen with
colons between them, of which one run of zeros may be left out.
-/

namespace SchemaAudit.Host

/-! ### Four numbers -/

/-- Whether a text is a number below 256 without needless zeros. -/
def isOctet (s : List Char) : Bool :=
  !s.isEmpty && s.length ≤ 3 && s.all Json.isDigit && (s = ['0'] || s.head? ≠ some '0') &&
    Json.digitsValue s < 256

/-- Whether a text is four numbers. -/
def isFourNumbers (s : List Char) : Bool :=
  let numbers := Text.pieces '.' s
  numbers.length = 4 && numbers.all isOctet

/-- What may follow after one more character of a text that looks like numbers with something between
them: how many separators are still to come, and whether the number at hand has a digit. -/
def afterChar (c : Char) (states : List (Nat × Bool)) : List (Nat × Bool) :=
  (states.flatMap fun (separators, hasDigit) =>
    (if Json.isDigit c then [(separators, true)] else []) ++
      (if hasDigit && 0 < separators then [(separators - 1, false)] else [])).eraseDups

/-- Whether a text looks like four numbers: it has digits, and three times any one character between
digits. Such a text is taken for nothing else. -/
def looksNumeric (s : List Char) : Bool :=
  (s.foldl (fun states c => afterChar c states) [(3, false)]).contains (0, true)

/-! ### Eight groups -/

/-- Whether a text is a group of digits in base sixteen. -/
def isGroup (s : List Char) : Bool := !s.isEmpty && s.length ≤ 4 && s.all Text.isHexDigit

/-- The pieces of a text between colons. Four numbers at the end count for two groups. -/
def groups? (s : List Char) : Option (List (List Char)) :=
  let groups := Text.pieces ':' s
  match groups.getLast? with
  | none => none
  | some last =>
    if groups.length < 3 then none
    else if !last.contains '.' then some groups
    else if isFourNumbers last then some (groups.dropLast ++ [['0'], ['0']])
    else none

/-- The groups on one side of those left out; at the end of a text there may be none. -/
def isSide (side : List (List Char)) : Bool := side = [[]] || side.all isGroup

/-- How many groups a side has. -/
def sideLength (side : List (List Char)) : Nat := if side = [[]] then 0 else side.length

/-- Whether groups make an address. An empty one inside, of which there may be one, stands for at least one
group left out. -/
def isEightGroups (groups : List (List Char)) : Bool :=
  let inner := (groups.drop 1).dropLast
  if inner.any List.isEmpty then
    let left := groups.take (1 + (inner.takeWhile fun g => !g.isEmpty).length)
    let right := groups.drop (left.length + 1)
    isSide left && isSide right && sideLength left + sideLength right < 8
  else groups.length = 8 && groups.all isGroup

/-- Whether a text is an address of groups. A zone may stand behind a percent sign. -/
def isGroupAddress (s : List Char) : Bool :=
  let (address, zone?) := match Text.cutAtChar '%' s with
    | some (address, zone) => (address, some zone)
    | none => (s, none)
  zone?.all (fun zone => !zone.isEmpty && !zone.contains '%') && (groups? address).any isEightGroups

end SchemaAudit.Host
