import SchemaAudit.Text.Quoted

/-!
What a template may ask of a value besides its characters: what kind of thing it is, which kinds that kind
belongs to, and which operations there are. All of them can be written out, and asked further.
-/

namespace SchemaAudit.Template

/-- An operation of some kind of things. -/
structure Operation where
  name : String
  /-- The kind of things that it is defined for. -/
  owner : String
  /-- Whether it stands behind a sign or a word of the language rather than under its own name. -/
  isSlot : Bool
  /-- The text that it is an operation of, rather than one of all things of the kind. -/
  text? : Option (List Char)
  deriving DecidableEq, Repr

/-- What can be picked from a value. -/
inductive Facet where
  | text (s : List Char)
  | kind (name : String)
  | kinds (names : List String)
  | nothing
  | operation (o : Operation)
  deriving DecidableEq, Repr

/-! ### Operations -/

/-- The operations behind signs that texts have in a form of their own. -/
def textSlots : List String := [
  "__add__", "__contains__", "__eq__", "__ge__", "__getattribute__", "__getitem__", "__gt__", "__hash__",
  "__iter__", "__le__", "__len__", "__lt__", "__mod__", "__mul__", "__ne__", "__repr__", "__rmod__",
  "__rmul__", "__str__"]

/-- The named operations that texts have in a form of their own. -/
def textMethods : List String := [
  "__format__", "__getnewargs__", "__sizeof__", "capitalize", "casefold", "center", "count", "encode",
  "endswith", "expandtabs", "find", "format", "format_map", "index", "isalnum", "isalpha", "isascii",
  "isdecimal", "isdigit", "isidentifier", "islower", "isnumeric", "isprintable", "isspace", "istitle",
  "isupper", "join", "ljust", "lower", "lstrip", "partition", "removeprefix", "removesuffix", "replace",
  "rfind", "rindex", "rjust", "rpartition", "rsplit", "rstrip", "split", "splitlines", "startswith", "strip",
  "swapcase", "title", "translate", "upper", "zfill"]

/-- The operations behind signs that all things have. -/
def commonSlots : List String := [
  "__delattr__", "__eq__", "__ge__", "__getattribute__", "__gt__", "__hash__", "__init__", "__le__", "__lt__",
  "__ne__", "__repr__", "__setattr__", "__str__"]

/-- The named operations that all things have. -/
def commonMethods : List String := [
  "__dir__", "__format__", "__getstate__", "__reduce__", "__reduce_ex__", "__sizeof__"]

/-- The operations of a kind itself; those of all kinds, and the one of texts. -/
def kindMethods : List String := ["__init_subclass__", "__new__", "__subclasshook__", "maketrans"]

/-- The kind of all things. -/
def commonKind : String := "object"

/-- The kind of texts. -/
def textKind : String := "str"

/-- The operation of a kind under a name, as that of a text if there is one. -/
def operation? (kind name : String) (text? : Option (List Char)) : Option Operation :=
  if kind = textKind && textSlots.contains name then some ⟨name, textKind, true, text?⟩
  else if kind = textKind && textMethods.contains name then some ⟨name, textKind, false, text?⟩
  else if commonSlots.contains name then some ⟨name, commonKind, true, text?⟩
  else if commonMethods.contains name then some ⟨name, commonKind, false, text?⟩
  else if kindMethods.contains name then some ⟨name, kind, false, some []⟩
  else none

/-- Whether an operation is that of one thing. -/
def Operation.isBound (o : Operation) : Bool := o.text?.isSome

/-- The kind of an operation. -/
def Operation.kind (o : Operation) : String :=
  match o.isSlot, o.isBound with
  | true, true => "method-wrapper"
  | true, false => "wrapper_descriptor"
  | false, true => "builtin_function_or_method"
  | false, false => "method_descriptor"

/-- The text of an operation. Where a bound one is kept is not told. -/
def Operation.shown (o : Operation) : String :=
  match o.isSlot, o.isBound with
  | true, true => s!"<method-wrapper '{o.name}' of {textKind} object>"
  | true, false => s!"<slot wrapper '{o.name}' of '{o.owner}' objects>"
  | false, true => s!"<built-in method {o.name} of {textKind} object>"
  | false, false => s!"<method '{o.name}' of '{o.owner}' objects>"

/-! ### Facets -/

/-- The kind of a facet. -/
def Facet.kindName : Facet → String
  | text _ => textKind
  | kind _ => "type"
  | kinds _ => "tuple"
  | nothing => "NoneType"
  | operation o => o.kind

/-- A kind as it is written out. -/
def shownKind (name : String) : String := s!"<class '{name}'>"

/-- A facet as it is written out. -/
def Facet.shown : Facet → List Char
  | text s => s
  | kind name => (shownKind name).toList
  | kinds [name] => s!"({shownKind name},)".toList
  | kinds names => ("(" ++ ", ".intercalate (names.map shownKind) ++ ")").toList
  | nothing => "None".toList
  | operation o => o.shown.toList

/-- A facet as it is written out in quotes, if it is a text. -/
def Facet.quoted [StandIns] : Facet → List Char
  | text s => Text.quoted s
  | f => f.shown

/-- What is said of texts in general. -/
def textPurpose : String :=
  "\n".intercalate [
    "str(object='') -> str",
    "str(bytes_or_buffer[, encoding[, errors]]) -> str",
    "",
    "Create a new string object from the given object. If encoding or",
    "errors is specified, then the object must expose a data buffer",
    "that will be decoded using the given encoding and error handler.",
    "Otherwise, returns the result of object.__str__() (if defined)",
    "or repr(object).",
    "encoding defaults to sys.getdefaultencoding().",
    "errors defaults to 'strict'."]

/-- The kinds that a kind belongs to, itself first. -/
def lineage (name : String) : List String := if name = commonKind then [name] else [name, commonKind]

/-- What a kind is asked for under a name. -/
def kindMember? (kind name : String) : Option Facet :=
  match name with
  | "__name__" | "__qualname__" => some (.text kind.toList)
  | "__module__" => some (.text "builtins".toList)
  | "__mro__" => some (.kinds (lineage kind))
  | "__bases__" => some (.kinds (lineage kind).tail)
  | "__base__" => some (if kind = commonKind then .nothing else .kind commonKind)
  | "__text_signature__" => if kind = textKind then some .nothing else none
  | "__doc__" => if kind = textKind then some (.text textPurpose.toList) else none
  | _ => (operation? kind name none).map .operation

/-- What an operation is asked for under a name. -/
def Operation.member? (o : Operation) (name : String) : Option Facet :=
  match name with
  | "__name__" => some (.text o.name.toList)
  | "__qualname__" =>
    let owner := if o.isBound && !o.isSlot then textKind else o.owner
    some (.text (owner ++ "." ++ o.name).toList)
  | "__self__" =>
    if o.name = "maketrans" then some .nothing
    else if kindMethods.contains o.name then some (.kind o.owner)
    else o.text?.map .text
  | "__objclass__" => if o.isBound && !o.isSlot then none else some (.kind o.owner)
  | "__module__" => if o.isBound && !o.isSlot then some .nothing else none
  | _ => none

/-- What a facet is asked for under a name. -/
def Facet.member? (f : Facet) (name : String) : Option Facet :=
  if name = "__class__" then some (.kind f.kindName)
  else
    match f with
    | text s =>
      if name = "__doc__" then some (.text textPurpose.toList)
      else (operation? textKind name (some s)).map .operation
    | kind k => kindMember? k name
    | operation o => o.member? name
    | kinds _ | nothing => none

end SchemaAudit.Template
