import SchemaAudit.Annotation.Basic
import SchemaAudit.TypeToken

/-!
The token of an annotation. A class has the token of the first of its families in a fixed order; a
text is refined by the first format among the metadata collected on the way to it. A union stands for
its sole member besides the absent value, and is unknown when it has more.
-/

namespace SchemaAudit

/-- The order in which families are asked for: an enumeration may also be a text, a truth value is
also an integer, and a mapping or a sequence may be many of the others. -/
def Family.precedence : List Family := [
  .enumeration, .boolean, .integer, .number, .uuid, .moment, .text, .address, .bytes, .model,
  .mapping, .collection]

/-- The family that decides the token of a class. -/
def ClassRef.deciding? (c : ClassRef) : Option Family :=
  Family.precedence.find? fun f => c.families.contains f

/-- The formats that refine a text. -/
def textFormats : List (String × TypeToken) := [("uuid", .uuid), ("date-time", .timestampTz)]

/-- The format that an entry names. Only the options of a field name one, and only as a string. -/
def Entry.format? : Entry → Option String
  | .field _ options =>
    match options.extra? with
    | some (.members ms) =>
      match ms.lookup "format" with
      | some (.str s) => some s
      | _ => none
    | _ => none
  | _ => none

/-- The token that an entry refines a text to. -/
def Entry.refinement? (e : Entry) : Option TypeToken := e.format?.bind fun format => textFormats.lookup format

/-- The token of a text: the first refinement, else plain text. -/
def textToken (entries : List Entry) : TypeToken := (entries.findSome? Entry.refinement?).getD .text

/-- The token of a family. -/
def Family.token (entries : List Entry) : Family → TypeToken
  | .enumeration => .enumLike
  | .boolean => .boolean
  | .integer => .integer
  | .number => .numeric
  | .uuid => .uuid
  | .moment => .timestampTz
  | .text => textToken entries
  | .address => .text
  | .bytes => .unknown
  | .model => .jsonb
  | .mapping => .jsonb
  | .collection => .array

/-- The token of a class. -/
def ClassRef.token (entries : List Entry) (c : ClassRef) : TypeToken :=
  match c.deciding? with
  | some f => f.token entries
  | none => .unknown

/-- The classes that are arrays whatever their arguments. -/
def arrayOrigins : List String := [
  "list", "tuple", "set", "frozenset", "abc.Sequence", "abc.MutableSequence", "abc.Set",
  "abc.MutableSet", "abc.Iterable"]

/-- The classes that are objects whatever their arguments. -/
def objectOrigins : List String := ["dict", "abc.Mapping", "abc.MutableMapping"]

/-- Whether a class is the library class of one of some names. -/
def ClassRef.isOneOf (names : List String) (c : ClassRef) : Bool :=
  c.serial = 0 && names.contains c.name

/-- The token of a class with type arguments. A record model with arguments is a record model again. -/
def ClassRef.appliedToken (entries : List Entry) (c : ClassRef) : TypeToken :=
  if c.families.contains .model then c.token entries
  else if c.isOneOf arrayOrigins then .array
  else if c.isOneOf objectOrigins then .jsonb
  else .unknown

namespace Annotation

/-- Whether an annotation is that of the absent value. -/
def isAbsent : Annotation → Bool
  | ofClass c => c = ClassRef.absent
  | _ => false

mutual

/-- The token of an annotation inside some metadata. -/
def classify : Annotation → List Entry → TypeToken
  | any, _ => .jsonb
  | ofClass c, entries => c.token entries
  | applied _ origin _, entries => origin.appliedToken entries
  | union ms, entries =>
    match memberTokens ms entries with
    | [token] => token
    | _ => .unknown
  | annotated core own, entries => classify core (entries ++ own)
  | literal _, _ => .enumLike
  | qualified _ _, _ => .unknown
  | forward _, _ => .unknown
  | other _ _, _ => .unknown

/-- The tokens of the members of a union other than the absent value. -/
def memberTokens : List Annotation → List Entry → List TypeToken
  | [], _ => []
  | m :: ms, entries =>
    if m.isAbsent then memberTokens ms entries else classify m entries :: memberTokens ms entries

end

end Annotation

end SchemaAudit
