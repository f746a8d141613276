import SchemaAudit.Number.Binary64

/-!
JSON values. The members of an object keep their order, and a name occurs once; whole numbers have
any size and differ from numbers with a point or an exponent.
-/

namespace SchemaAudit

/-- A JSON value. -/
inductive Json where
  | null
  | bool (value : Bool)
  | int (value : Int)
  | real (value : Number.Binary64)
  | str (value : String)
  | arr (items : List Json)
  | obj (members : List (String × Json))
  deriving Inhabited, Repr

namespace Json

/-- A list of pairs with the value of one name set: in the place of the name, else at the end. -/
def setMember {α : Type} (name : String) (value : α) : List (String × α) → List (String × α)
  | [] => [(name, value)]
  | (n, v) :: rest => if n = name then (n, value) :: rest else (n, v) :: setMember name value rest

/-- The members given by pairs in which a name may come again: the last value counts, in the first
place. -/
def membersOf {α : Type} (pairs : List (String × α)) : List (String × α) :=
  pairs.foldl (fun ms p => setMember p.1 p.2 ms) []

/-- The value of a member of an object. -/
def get? (name : String) : Json → Option Json
  | obj members => members.lookup name
  | _ => none

/-- The name of the kind of a value, as messages show it. -/
def kindName : Json → String
  | null => "NoneType"
  | bool _ => "bool"
  | int _ => "int"
  | real _ => "float"
  | str _ => "str"
  | arr _ => "list"
  | obj _ => "dict"

/-- A text or null. -/
def ofOption : Option String → Json
  | none => null
  | some s => str s

end Json

end SchemaAudit
