import SchemaAudit.Json.Basic

/-!
Values of a fixed shape read out of JSON. A reading gives the value or everything that is wrong, each
violation with its place; two readings side by side add up what is wrong with both.
-/

namespace SchemaAudit

/-- What is wrong at one place. -/
inductive Violation.Cause where
  /-- A member that must be there is not. -/
  | missing
  /-- No string. -/
  | string
  /-- No list. -/
  | list
  /-- No list, where a fixed sequence is asked for. -/
  | sequence
  /-- No object that could be a record of the given name. -/
  | record (name : String)
  /-- None of the texts of a closed set. -/
  | literal (choices : List String)
  /-- A text that cannot be encoded, where one of a closed set is asked for. -/
  | unencodable
  /-- None of the members of an enumeration. -/
  | choice (choices : List String)
  /-- Nothing that could be a truth value. -/
  | boolean
  /-- A text or number that stands for no truth value. -/
  | booleanWord
  /-- Nothing that could be an integer. -/
  | integer
  /-- A text that is no integer. -/
  | integerText
  /-- An integer of too many digits. -/
  | integerSize
  /-- A number that is not whole. -/
  | fraction
  /-- A number that is not finite. -/
  | infinite
  /-- Nothing that could be a number. -/
  | number
  /-- A text that is no number. -/
  | numberText
  /-- Nothing that could be a path. -/
  | path
  /-- A member that nobody asks for. -/
  | extra
  /-- A value that is refused for a reason of its own. -/
  | refused (reason : String)
  deriving DecidableEq, Repr

/-- Something wrong, and the path to it. -/
structure Violation where
  location : List String
  cause : Violation.Cause
  deriving DecidableEq, Repr

/-- Texts in quotes with commas between them and "or" before the last. -/
def oneOfText (choices : List String) : String :=
  let quoted := choices.map fun c => s!"'{c}'"
  match quoted.reverse with
  | [] => ""
  | [only] => only
  | last :: others => ", ".intercalate others.reverse ++ " or " ++ last

/-- What a violation says. -/
def Violation.Cause.message : Violation.Cause → String
  | missing => "Field required"
  | string => "Input should be a valid string"
  | list => "Input should be a valid list"
  | sequence => "Input should be a valid tuple"
  | record name => s!"Input should be a valid dictionary or instance of {name}"
  | literal choices => s!"Input should be {oneOfText choices}"
  | unencodable => "Input should be a valid string, unable to parse raw data as a unicode string"
  | choice choices => s!"Input should be {oneOfText choices}"
  | boolean => "Input should be a valid boolean"
  | booleanWord => "Input should be a valid boolean, unable to interpret input"
  | integer => "Input should be a valid integer"
  | integerText => "Input should be a valid integer, unable to parse string as an integer"
  | integerSize => "Unable to parse input string as an integer, exceeded maximum size"
  | fraction => "Input should be a valid integer, got a number with a fractional part"
  | infinite => "Input should be a finite number"
  | number => "Input should be a valid number"
  | numberText => "Input should be a valid number, unable to parse string as a number"
  | path => "Input is not a valid path for <class 'pathlib.Path'>"
  | extra => "Extra inputs are not permitted"
  | refused reason => s!"Value error, {reason}"

/-- The code of a violation. -/
def Violation.Cause.code : Violation.Cause → String
  | missing => "missing"
  | string => "string_type"
  | list => "list_type"
  | sequence => "tuple_type"
  | record _ => "model_type"
  | literal _ => "literal_error"
  | unencodable => "string_unicode"
  | choice _ => "enum"
  | boolean => "bool_type"
  | booleanWord => "bool_parsing"
  | integer => "int_type"
  | integerText => "int_parsing"
  | integerSize => "int_parsing_size"
  | fraction => "int_from_float"
  | infinite => "finite_number"
  | number => "float_type"
  | numberText => "float_parsing"
  | path => "path_type"
  | extra => "extra_forbidden"
  | refused _ => "value_error"

/-- A value, or all that is wrong with what it was to be read from. -/
inductive Checked (α : Type) where
  | ok (value : α)
  | bad (violations : List Violation)

namespace Checked

/-- The image of a value. -/
def map {α β : Type} (f : α → β) : Checked α → Checked β
  | ok a => ok (f a)
  | bad vs => bad vs

/-- Two readings side by side; the violations of the first come first. -/
def both {α β : Type} : Checked α → Checked β → Checked (α × β)
  | ok a, ok b => ok (a, b)
  | ok _, bad vs => bad vs
  | bad vs, ok _ => bad vs
  | bad vs, bad ws => bad (vs ++ ws)

/-- A function and its argument read side by side. -/
def app {α β : Type} (f : Checked (α → β)) (a : Checked α) : Checked β :=
  (both f a).map fun (g, x) => g x

instance : Functor Checked := ⟨map, fun a => map fun _ => a⟩

instance : Seq Checked := ⟨fun f a => app f (a ())⟩

/-- What is wrong with a value at one place. -/
def wrong {α : Type} (cause : Violation.Cause) : Checked α := bad [⟨[], cause⟩]

/-- A reading of what stands under a key. -/
def under {α : Type} (key : String) : Checked α → Checked α
  | ok a => ok a
  | bad vs => bad (vs.map fun v => { v with location := key :: v.location })

/-- The number of violations. -/
def violations {α : Type} : Checked α → List Violation
  | ok _ => []
  | bad vs => vs

/-- A string. -/
def string : Json → Checked String
  | .str s => ok s
  | _ => wrong .string

/-- A string or nothing. -/
def optionalString : Json → Checked (Option String)
  | .null => ok none
  | .str s => ok (some s)
  | _ => wrong .string

/-- The items of a list from a position on, each read in the same way. -/
def itemsFrom {α : Type} (read : Json → Checked α) (position : Nat) : List Json → Checked (List α)
  | [] => ok []
  | x :: xs =>
    (both ((read x).under (Nat.repr position)) (itemsFrom read (position + 1) xs)).map
      fun (a, as) => a :: as

/-- A list of things read in one way; `cause` says what is wrong with all else. -/
def items {α : Type} (cause : Violation.Cause) (read : Json → Checked α) : Json → Checked (List α)
  | .arr xs => itemsFrom read 0 xs
  | _ => wrong cause

/-- A record read from the members of an object. -/
def record {α : Type} (name : String) (read : List (String × Json) → Checked α) : Json → Checked α
  | .obj members => read members
  | _ => wrong (.record name)

/-- A member that must be there. -/
def member {α : Type} (key : String) (read : Json → Checked α) (members : List (String × Json)) :
    Checked α :=
  match members.lookup key with
  | some value => (read value).under key
  | none => (wrong .missing).under key

/-- A member that may be missing and then has a value of its own. -/
def memberOr {α : Type} (fallback : α) (key : String) (read : Json → Checked α)
    (members : List (String × Json)) : Checked α :=
  match members.lookup key with
  | some value => (read value).under key
  | none => ok fallback

/-- A member that must be there under one of two keys; the first counts if both are there. -/
def memberEither {α : Type} (key other : String) (read : Json → Checked α)
    (members : List (String × Json)) : Checked α :=
  match members.lookup key, members.lookup other with
  | none, some value => (read value).under other
  | _, _ => member key read members

end Checked

end SchemaAudit
