import SchemaAudit.Annotation.Catalogue
import SchemaAudit.Record.AliasStyle

/-!
Record models and their fields. A model is a chain of layers, the base first; each layer declares
fields and may set the style of aliases from there on. A field declared again keeps its place. The
outermost metadata of a field's type becomes the metadata of the field.
-/

namespace SchemaAudit.Record

variable [StandIns]

/-- A field as it is declared: its type, and the options assigned to it. -/
structure Declaration where
  name : String
  type : Annotation
  assigned? : Option FieldOptions

/-- One layer of a model. -/
structure Layer where
  name : String
  style? : Option AliasStyle
  declarations : List Declaration

/-- A record model: its layers, the base first. -/
structure Model where
  layers : List Layer

/-- A field of a model: its type without the outermost metadata, and that metadata. `fixedAlias` says
that some alias was given by hand. -/
structure Field where
  name : String
  alias? : Option String
  fixedAlias : Bool
  type : Annotation
  entries : List Entry

/-! ### Types of fields -/

mutual

/-- An annotation with the names declared elsewhere replaced. -/
def resolve (scope : String → Option Annotation) : Annotation → Annotation
  | .forward name => (scope name).getD (.forward name)
  | .applied spelling c args => .applied spelling c (resolveAll scope args)
  | .union ms => .unionOf (resolveAll scope ms)
  | .annotated core entries => .annotate (resolve scope core) entries
  | .qualified q inner => .qualified q (resolve scope inner)
  | a => a

/-- Annotations with the names declared elsewhere replaced. -/
def resolveAll (scope : String → Option Annotation) : List Annotation → List Annotation
  | [] => []
  | a :: as => resolve scope a :: resolveAll scope as

end

/-- A type without its outermost metadata and qualifiers: the core, the entries, the qualifiers. -/
def peel : Annotation → Annotation × List Entry × List Qualifier
  | .annotated core entries =>
    let (inner, es, qs) := peel core
    (inner, es ++ entries, qs)
  | .qualified q a =>
    let (inner, es, qs) := peel a
    (inner, es, q :: qs)
  | a => (a, [], [])

/-! ### Options -/

/-- What two sets of extra members amount to: the later one counts, member by member if both list
their members. -/
def mergeExtra : Option Extra → Option Extra → Option Extra
  | some (.members a), some (.members b) =>
    some (.members (b.foldl (fun ms p => Json.setMember p.1 p.2 ms) a))
  | a, none => a
  | _, b => b

/-- Options with later ones put over them. -/
def mergeOptions (a b : FieldOptions) : FieldOptions where
  alias? := b.alias?.or a.alias?
  validationAlias? := b.validationAlias?.or a.validationAlias?
  serializationAlias? := b.serializationAlias?.or a.serializationAlias?
  extra? := mergeExtra a.extra? b.extra?
  hasDefault := a.hasDefault || b.hasDefault

/-- The options among some entries. -/
def optionsAmong (entries : List Entry) : List FieldOptions :=
  entries.filterMap fun
    | .field _ o => some o
    | _ => none

/-- The entries that are no options. -/
def notesAmong (entries : List Entry) : List Entry :=
  entries.filter fun
    | .field _ _ => false
    | _ => true

/-! ### Fields -/

/-- The field of a declaration, unless it belongs to the class: what starts with a low line, a class
variable, and a final value. -/
def field? (scope : String → Option Annotation) (d : Declaration) : Option Field :=
  let (type, entries, qualifiers) := peel (resolve scope d.type)
  let options := (optionsAmong entries ++ d.assigned?.toList).foldl mergeOptions .none
  if d.name.toList.head? = some '_' || qualifiers.contains .classVar ||
      (qualifiers.contains .final && options.hasDefault) then none
  else some {
    name := d.name
    alias? := options.alias?
    fixedAlias := options.alias?.isSome || options.validationAlias?.isSome ||
      options.serializationAlias?.isSome
    type := type
    entries := .field 0 options :: notesAmong entries }

/-- Fields with one declared anew: in its place if there was one of its name, else at the end. -/
def declare (scope : String → Option Annotation) (fields : List Field) (d : Declaration) : List Field :=
  match field? scope d with
  | none => fields.filter fun f => f.name ≠ d.name
  | some new =>
    if fields.any fun f => f.name = d.name then
      fields.map fun f => if f.name = d.name then new else f
    else fields ++ [new]

/-- A field with its alias made in a style. An alias given by hand stays; one that was made before is
made anew. -/
def restyle (style : AliasStyle) (f : Field) : Field :=
  if f.fixedAlias && f.alias?.isSome then f
  else { f with alias? := some (style.alias f.name) }

/-- The names that the fields of a layer may refer to: its own, and those of plain classes. -/
def Layer.scope (layer : Layer) (name : String) : Option Annotation :=
  if name = layer.name then some (.ofClass ⟨name, 0, [.model]⟩)
  else if name.toList.contains '.' then none
  else match Annotation.named name with
    | .other _ _ => none
    | a => some a

/-- The fields and the style after one more layer. -/
def addLayer (state : List Field × Option AliasStyle) (layer : Layer) :
    List Field × Option AliasStyle :=
  let fields := layer.declarations.foldl (declare layer.scope) state.1
  match layer.style?.or state.2 with
  | none => (fields, none)
  | some style => (fields.map (restyle style), some style)

/-- The fields of a model in order. -/
def Model.fields (m : Model) : List Field := (m.layers.foldl addLayer ([], none)).1

/-- The name of a field's column: its alias unless that is empty. -/
def Field.columnName (f : Field) : String :=
  match f.alias? with
  | none => f.name
  | some a => if a = "" then f.name else a

end SchemaAudit.Record
