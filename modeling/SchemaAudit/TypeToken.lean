import SchemaAudit.Text.Case

/-!
The closed vocabulary of column types, the normal form of the type spellings a store reports, and
when a store type satisfies a contract type.
-/

namespace SchemaAudit

/-- The vocabulary that every type of a contract is expressed in. -/
inductive TypeToken where
  | text
  | uuid
  | integer
  | numeric
  | boolean
  | timestampTz
  | jsonb
  | array
  | enumLike
  | unknown
  deriving DecidableEq, Repr, Inhabited

namespace TypeToken

/-- The spelling of a token. -/
def spelling : TypeToken → String
  | text => "text"
  | uuid => "uuid"
  | integer => "integer"
  | numeric => "numeric"
  | boolean => "boolean"
  | timestampTz => "timestamp_tz"
  | jsonb => "jsonb"
  | array => "array"
  | enumLike => "enum_like"
  | unknown => "unknown"

/-- Every token. -/
def all : List TypeToken :=
  [text, uuid, integer, numeric, boolean, timestampTz, jsonb, array, enumLike, unknown]

end TypeToken

/-- Store spellings that name a token: two of the time stamp with a zone and the one under which
enumerations are reported. -/
def storeAliases : List (String × TypeToken) := [
  ("timestamptz", .timestampTz),
  ("timestamp with time zone", .timestampTz),
  ("user-defined", .enumLike)]

/-- The normal form of a store type: trimmed, in small letters, an alias replaced by its token. All
else stays as it is, so that parameters survive. -/
def normalizeType (raw : String) : String :=
  let small := String.ofList (Text.lower (Text.trim raw.toList))
  match storeAliases.lookup small with
  | some token => token.spelling
  | none => small

/-- Whether `text` starts with `start`. -/
def startsWith (start text : String) : Bool := start.toList.isPrefixOf text.toList

/-- Whether a store type satisfies a contract type. The unknown type is satisfied by all, and the
others by what starts with their spelling, so parameters and a trailing `[]` are tolerated; an
enumeration may be stored as text and an integer as a big one. -/
def satisfies (expected actual : String) : Bool :=
  if expected = TypeToken.unknown.spelling then true
  else if expected = TypeToken.enumLike.spelling && startsWith "text" actual then true
  else if expected = TypeToken.integer.spelling && startsWith "bigint" actual then true
  else startsWith expected actual

end SchemaAudit
