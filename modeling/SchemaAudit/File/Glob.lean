import SchemaAudit.File.Store

/-!
Patterns for paths. A star stands for any characters of a name, a question mark for one, a class in
brackets for one of a set, and two stars for a directory and all those below it. A name without any
of them is looked up and not matched.
-/

namespace SchemaAudit.Glob

/-! ### Patterns for one name -/

/-- What a pattern for a name is made of. A class has ranges of characters, the ends included. -/
inductive Element where
  | anything
  | one
  | exactly (c : Char)
  | oneOf (negated : Bool) (ranges : List (Char × Char))
  deriving DecidableEq, Repr

/-- Whether an element other than `anything` stands for a character. -/
def Element.admits (c : Char) : Element → Bool
  | anything => true
  | one => true
  | exactly d => c = d
  | oneOf negated ranges => (ranges.any fun (low, high) => low ≤ c && c ≤ high) != negated

/-- Whether a pattern stands for a name. -/
def stands : List Element → List Char → Bool
  | [], name => name.isEmpty
  | .anything :: es, [] => stands es []
  | .anything :: es, c :: cs => stands es (c :: cs) || stands (.anything :: es) cs
  | _ :: _, [] => false
  | e :: es, c :: cs => e.admits c && stands es cs
  termination_by es cs => es.length + cs.length

/-- What stands before the bracket that closes a class, and what follows it. A bracket at the start
of the class does not close it. -/
def cutClass (s : List Char) : Option (List Char × List Char) :=
  let (negation, s) := if s.head? = some '!' then (['!'], s.drop 1) else ([], s)
  let (bracket, s) := if s.head? = some ']' then ([']'], s.drop 1) else ([], s)
  (Text.cutAtChar ']' s).map fun (inside, rest) => (negation ++ bracket ++ inside, rest)

/-- The text of a class cut at the hyphens that make a range. A hyphen makes none in the first `skip`
places. -/
def chunks (skip : Nat) : List Char → List (List Char)
  | [] => [[]]
  | c :: rest =>
    if skip = 0 && c = '-' then [] :: chunks 2 rest
    else match chunks (skip - 1) rest with
      | [] => [[c]]
      | p :: ps => (c :: p) :: ps

/-- The chunks with a hyphen at the end taken for itself. -/
def closeChunks (cs : List (List Char)) : List (List Char) :=
  match cs.reverse with
  | [] :: last :: before => (('-' :: last.reverse).reverse :: before).reverse
  | _ => cs

/-- The chunks with the ranges that hold nothing left out. -/
def dropEmptyRanges : List (List Char) → List (List Char)
  | [] => []
  | c :: cs =>
    match dropEmptyRanges cs with
    | [] => [c]
    | d :: ds =>
      match c.getLast?, d.head? with
      | some low, some high =>
        if high < low then (c.dropLast ++ d.drop 1) :: ds else c :: d :: ds
      | _, _ => c :: d :: ds

/-- The ranges of some chunks: a range across each cut, every other character by itself. -/
def rangesOf : List (List Char) → List (Char × Char)
  | [] => []
  | c :: cs =>
    c.map (fun x => (x, x)) ++
      match c.getLast?, cs.head?.bind List.head? with
      | some low, some high => (low, high) :: rangesOf cs
      | _, _ => rangesOf cs

/-- The element of a class. One that is empty admits nothing, and its negation anything. -/
def classElement (inside : List Char) : Element :=
  let skip := if inside.head? = some '!' then 2 else 1
  let cs := dropEmptyRanges (closeChunks (chunks skip inside))
  match cs with
  | ('!' :: first) :: rest => .oneOf true (rangesOf (first :: rest))
  | cs => .oneOf false (rangesOf cs)

/-- The elements of a pattern of at most some length. -/
def elementsWithin : Nat → List Char → List Element
  | 0, _ => []
  | _, [] => []
  | n + 1, c :: rest =>
    if c = '*' then .anything :: elementsWithin n rest
    else if c = '?' then .one :: elementsWithin n rest
    else if c = '[' then
      match cutClass rest with
      | none => .exactly '[' :: elementsWithin n rest
      | some (inside, rest) => classElement inside :: elementsWithin n rest
    else .exactly c :: elementsWithin n rest

/-- The elements of a pattern. -/
def elements (pattern : String) : List Element := elementsWithin pattern.length pattern.toList

/-- Whether a name has to be matched. -/
def isPattern (name : String) : Bool := name.toList.any fun c => c = '*' || c = '?' || c = '['

/-! ### Patterns for paths -/

/-- Why a pattern picks out no paths. -/
inductive Fault where
  | emptyPattern
  | rooted
  | noNames
  | onlySlash
  | starsInName
  | file (fault : FileFault)
  deriving DecidableEq, Repr

/-- Whether two stars stand side by side in a name. -/
def hasStars (name : String) : Bool := (Text.cutAt ['*', '*'] name.toList).isSome

/-- The names that a pattern is made of. The empty name at the end asks for a directory. -/
def namesOf (pattern : String) : Except Fault (List String) :=
  let p := Path.ofText pattern
  if pattern = "" then .error .emptyPattern
  else if p.root ≠ "" then .error .rooted
  else
    let names := if pattern.toList.getLast? = some '/' then p.parts ++ [""] else p.parts
    if names = [] then .error .noNames
    else if names = [""] then .error .onlySlash
    else if names.any fun n => hasStars n && n ≠ "**" then .error .starsInName
    else .ok names

/-- A directory and all those below it. -/
def directoriesFrom (s : FileStore) (p : Path) (place : Place) : List Path :=
  p :: s.nodes.filterMap fun (q, node) =>
    if node = .directory && place.isPrefixOf q && q ≠ place then
      some { p with parts := p.parts ++ q.drop place.length }
    else none

/-- The paths that some names pick out from a path. -/
def select [StandIns] (s : FileStore) (p : Path) : List String → Except FileFault (List Path)
  | [] => .ok [p]
  | name :: names => do
    if name = "" then return [p]
    let step (n : String) : Path := { p with parts := p.parts ++ [n] }
    if name = "**" then
      let place ← s.place p
      let found ← (directoriesFrom s p place).mapM fun q => select s q names
      return found.flatten.eraseDups
    if isPattern name then
      let place ← s.place p
      let pattern := elements name
      let fitting := (s.namesIn place).filter fun n =>
        stands pattern n.toList && (names.isEmpty || s.node? (place ++ [n]) = some .directory)
      let found ← fitting.mapM fun n => select s (step n) names
      return found.flatten
    let there ← if names.isEmpty then s.isThere (step name) else s.isDirectory (step name)
    if there then select s (step name) names else return []

/-- The paths below a directory that a pattern picks out, in order. -/
def find [StandIns] (s : FileStore) (directory : Path) (pattern : String) : Except Fault (List Path) := do
  let names ← namesOf pattern
  if ← (s.isDirectory directory).mapError .file then
    let found ← (select s directory names).mapError .file
    return found.mergeSort fun p q => !q.before p
  else return []

/-- How a fault is told. -/
def Fault.kindAndMessage [StandIns] : Fault → String × String
  | emptyPattern => ("ValueError", "Unacceptable pattern: ''")
  | rooted => ("NotImplementedError", "Non-relative patterns are unsupported")
  | noNames => ("IndexError", "tuple index out of range")
  | onlySlash => ("AttributeError", "'_TerminatingSelector' object has no attribute 'select_from'")
  | starsInName => ("ValueError", "Invalid pattern: '**' can only be an entire path component")
  | file (.refused refusal path) => (refusal.kind, (FileFault.refused refusal path).message)
  | file (.unsent fault) => (fault.kind, fault.message)

end SchemaAudit.Glob
