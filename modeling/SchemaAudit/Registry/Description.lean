import SchemaAudit.Registry.Basic

/-!
Annotations, record models and registries described in JSON. An annotation is a name, or an object
whose first member tells its kind; the classes and objects that a description declares are all
distinct, so each takes the next serial number.
-/

namespace SchemaAudit.Description

variable [StandIns]

/-- A description has a kind of annotation that there is not. -/
structure UnknownKind where
  kind : String
  deriving DecidableEq, Repr

/-- A reading that hands out serial numbers. -/
abbrev Reading (α : Type) := StateT Nat (Except UnknownKind) α

/-- The next serial number. -/
def fresh : Reading Nat := do
  let n ← get
  set (n + 1)
  pure (n + 1)

mutual

/-- How deep a value is nested. -/
def depth : Json → Nat
  | .arr xs => depthOfItems xs + 1
  | .obj ms => depthOfMembers ms + 1
  | _ => 0

/-- How deep the deepest of some values is nested. -/
def depthOfItems : List Json → Nat
  | [] => 0
  | x :: xs => max (depth x) (depthOfItems xs)

/-- How deep the deepest value of some members is nested. -/
def depthOfMembers : List (String × Json) → Nat
  | [] => 0
  | (_, x) :: ms => max (depth x) (depthOfMembers ms)

end

/-- The items of a list. -/
def itemsOf : Json → List Json
  | .arr xs => xs
  | _ => []

/-- The members of an object. -/
def membersOf : Json → List (String × Json)
  | .obj ms => ms
  | _ => []

/-- A text, if the value is one. -/
def text? : Json → Option String
  | .str s => some s
  | _ => none

/-- A member of an object, null if there is none. -/
def memberOf (name : String) (j : Json) : Json := (j.get? name).getD .null

/-- The options of a field. -/
def optionsOf (j : Json) : FieldOptions where
  alias? := text? (memberOf "alias" j)
  validationAlias? := text? (memberOf "validation_alias" j)
  serializationAlias? := text? (memberOf "serialization_alias" j)
  extra? :=
    match j.get? "extra", j.get? "extra_callable" with
    | some (.obj ms), _ => some (.members ms)
    | _, some (.bool true) => some .computed
    | _, _ => none
  hasDefault := (j.get? "default").isSome

/-- An entry of metadata. -/
def entryOf (j : Json) : Reading Entry :=
  match j with
  | .str note => pure (.note note)
  | j =>
    match j.get? "field" with
    | some options => return .field (← fresh) (optionsOf options)
    | none => return .object (← fresh)

/-- The style of aliases of a name. -/
def styleOf? (j : Json) : Option Record.AliasStyle :=
  match j with
  | .str "to_camel" => some .camel
  | .str "to_pascal" => some .pascal
  | .str "to_snake" => some .snake
  | .str "upper" => some .capitals
  | _ => none

/-- The families of an annotation that is a class. -/
def familiesOf : Annotation → List Family
  | .ofClass c => c.families
  | .applied _ c _ => c.families
  | _ => []

/-- A class of its own. -/
def newClass (name : String) (families : List Family) : Reading Annotation :=
  return .ofClass ⟨name, ← fresh, families⟩

/-- Something of its own that is no type. -/
def newOther (label : String) : Reading Annotation := return .other label (← fresh)

/-- The name of a described model. -/
def modelName (j : Json) : String := (text? (memberOf "name" j)).getD "M"

mutual

/-- The annotation that a description of at most some depth denotes. -/
def readAnnotation : Nat → Json → Reading Annotation
  | 0, .str name => pure (.named name)
  | 0, _ => pure (.other "" 0)
  | n + 1, j =>
    match j with
    | .str name => pure (.named name)
    | .obj ((kind, value) :: others) =>
      let sub := readAnnotation n
      let whole := Json.obj ((kind, value) :: others)
      match kind with
      | "generic" => return .apply ((text? value).getD "") (← (itemsOf (memberOf "args" whole)).mapM sub)
      | "callable" => do
        let args ← (itemsOf value).mapM sub
        let result ← sub (memberOf "returns" whole)
        pure (.apply "typing.Callable" (args ++ [result]))
      | "optional" => return .optional (← sub value)
      | "union" => return .unionOf (← (itemsOf value).mapM sub)
      | "pipe" => return .unionOf (← (itemsOf value).mapM sub)
      | "annotated" => do
        let core ← sub value
        let entries ← (itemsOf (memberOf "meta" whole)).mapM entryOf
        pure (.annotate core entries)
      | "literal" => pure (.literal (itemsOf value))
      | "enum" => newClass "E" [.enumeration]
      | "model" => do
        discard <| readLayers n value
        newClass (modelName value) [.model]
      | "typeddict" => newClass "TD" [.mapping]
      | "namedtuple" => newClass "NT" [.collection]
      | "dataclass" => newClass "DC" []
      | "class" => do
        let bases ← (itemsOf value).mapM sub
        newClass "C" (bases.flatMap familiesOf)
      | "newtype" => do
        discard <| sub value
        newOther "NewType"
      | "alias_type" => do
        discard <| sub value
        newOther "TypeAliasType"
      | "final" => return .qualified .final (← sub value)
      | "classvar" => return .qualified .classVar (← sub value)
      | "forward" => pure (.forward ((text? value).getD ""))
      | "value" =>
        match value with
        | .null => pure .absent
        | .str name => pure (.forward name)
        | _ => newOther "value"
      | other => throw ⟨other⟩
    | _ => newOther "value"

/-- The layers of a described model, the base first. -/
def readLayers : Nat → Json → Reading (List Record.Layer)
  | 0, _ => pure []
  | n + 1, j => do
    let base ← match j.get? "base" with
      | some b => readLayers n b
      | none => pure []
    let declarations ← (itemsOf (memberOf "fields" j)).mapM fun f => do
      let type ← readAnnotation n (memberOf "type" f)
      pure (⟨(text? (memberOf "name" f)).getD "", type, (f.get? "field").map optionsOf⟩ : Record.Declaration)
    pure (base ++ [⟨modelName j, styleOf? (memberOf "alias_generator" j), declarations⟩])

end

/-- The annotation that a description denotes. -/
def annotation (j : Json) : Reading Annotation := readAnnotation (depth j + 1) j

/-- The record model that a description denotes. -/
def model (j : Json) : Reading Record.Model := return ⟨← readLayers (depth j + 1) j⟩

/-- What a table is registered with when it is registered with an annotation. -/
def registeredAs : Annotation → Registered
  | .any => .stray "type object 'Any'"
  | .ofClass c =>
    if c.families.contains .model then .model ⟨[]⟩ else .stray s!"type object '{c.name}'"
  | .applied _ c _ => .stray s!"type object '{c.name}'"
  | .annotated core _ => registeredAs core
  | _ => .stray "object"

/-- What a description registers a table with. -/
def registered (j : Json) : Reading Registered :=
  match j.get? "json", j.get? "ann" with
  | some .null, _ => pure .nothing
  | some value, _ => pure (.stray s!"'{value.kindName}' object")
  | none, some (.str "None") => pure .nothing
  | none, some a =>
    match a.get? "model", a.get? "value" with
    | some m, _ => return .model (← model m)
    | _, some .null => pure .nothing
    | _, some value => pure (.stray s!"'{value.kindName}' object")
    | none, none => return registeredAs (← annotation a)
  | none, none => return .model (← model j)

/-- The pair of a table and what it is registered with. -/
def pair (j : Json) : Reading (String × Registered) :=
  match itemsOf j with
  | table :: value :: _ => return ((text? table).getD "", ← registered value)
  | _ => return ("", .nothing)

/-- The registry that a list of pairs denotes. -/
def registry (j : Json) : Reading Registry := return .ofPairs (← (itemsOf j).mapM pair)

/-- The result of a reading that starts to count anew. -/
def run {α : Type} (r : Reading α) : Except UnknownKind α := (r.run 0).map (·.1)

end SchemaAudit.Description
