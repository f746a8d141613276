import SchemaAudit.Log.Note
import SchemaAudit.Registry.Description
import SchemaAudit.Text.Quoted

/-!
A library of modules that hold registries under names, and the registry that an import path of the
form `package.module:ATTRIBUTE` picks out of it. A registry is taken only if all of its entries are
record models.
-/

namespace SchemaAudit

variable [StandIns]

/-- What a module holds under a name. -/
inductive Attribute where
  | registry (r : Registry)
  | value (j : Json)

/-- How a module came to be: it was made in memory, or loaded from a file, which may be that of a package. -/
inductive ModuleOrigin where
  | memory
  | file
  | package
  deriving DecidableEq, Repr

/-- A module with the attributes of its own. -/
structure Module where
  origin : ModuleOrigin
  own : List (String × Attribute)

/-- Modules by name. -/
structure Library where
  modules : List (String × Module)

/-- Why an import path picks out no registry. -/
inductive ImportFault where
  | malformed (path : String)
  /-- The module's name starts with a dot, and there is nothing it could be relative to. -/
  | relative (name : String)
  /-- There is no such module; `parent?` is a module that it would have to be in, if that is no package. -/
  | noModule (name sought : String) (parent? : Option String)
  | noAttribute (name wanted : String)
  | notMapping (path : String)
  | notModel (table : String)
  deriving DecidableEq, Repr

/-- What a refused import path says. -/
def ImportFault.message : ImportFault → String
  | malformed path => s!"Registry path '{path}' must look like 'package.module:ATTRIBUTE'."
  | relative name =>
    let shown := Text.inQuotes name
    s!"the 'package' argument is required to perform a relative import for {shown}"
  | noModule name sought parent? =>
    let shown := Text.inQuotes sought
    let reason := match parent? with
      | none => s!"No module named {shown}"
      | some parent =>
        let container := Text.inQuotes parent
        s!"No module named {shown}; {container} is not a package"
    s!"Cannot import registry module '{name}': {reason}"
  | noAttribute name wanted => s!"Module '{name}' has no attribute '{wanted}'."
  | notMapping path => s!"Registry '{path}' is not a mapping."
  | notModel table => s!"Registry entry '{table}' is not a pydantic model class."

/-- What is told of a refused import path. All of it is a matter of configuration, but for a name that
starts with a dot. -/
def ImportFault.failure (f : ImportFault) : Failure :=
  match f with
  | relative _ => .unexpected "TypeError" f.message
  | _ => ⟨.configuration, f.message⟩

namespace ModuleOrigin

/-- The attributes that a module has besides its own and that are no mappings. -/
def attributes (origin : ModuleOrigin) : List String := [
  "__name__", "__doc__", "__package__", "__loader__", "__spec__", "__class__", "__delattr__", "__dir__",
  "__eq__", "__format__", "__ge__", "__getattribute__", "__getstate__", "__gt__", "__hash__", "__init__",
  "__init_subclass__", "__le__", "__lt__", "__ne__", "__new__", "__reduce__", "__reduce_ex__", "__repr__",
  "__setattr__", "__sizeof__", "__str__", "__subclasshook__"] ++
  match origin with
  | memory => []
  | file => ["__file__", "__cached__"]
  | package => ["__file__", "__cached__", "__path__"]

/-- A mapping of names, of which the first is that of what has them. -/
def named : Attribute := .value (.obj [("__name__", .null)])

/-- The mappings that a module has besides its own: of all its names, of the annotations made in it, which are none,
and, if it was loaded, of the names that are there for every module. -/
def mappings (origin : ModuleOrigin) : List (String × Attribute) :=
  [("__dict__", named), ("__annotations__", .value (.obj []))] ++
  match origin with
  | memory => []
  | _ => [("__builtins__", named)]

end ModuleOrigin

namespace Module

/-- The mapping or other value that a module has under a name. -/
def get? (m : Module) (wanted : String) : Option Attribute :=
  (m.own.lookup wanted).or (m.origin.mappings.lookup wanted)

/-- Whether a module can have others in it. -/
def isPackage (m : Module) : Bool := m.origin = .package || m.own.any (·.1 = "__path__")

end Module

namespace Library

/-- The first module on the way to a name that is not there: the name, and the module that was to hold it but is no
package. The names are those of a module and of the modules around it, the innermost first. -/
def firstMissing (l : Library) (name : String) : List String → String × Option String
  | [] => (name, none)
  | parent :: outer =>
    match l.modules.lookup parent with
    | some m => (name, if m.isPackage then none else some parent)
    | none => l.firstMissing parent outer

/-- The names of the modules around a module, the innermost first. -/
def enclosing (name : List Char) : List String :=
  let dots := (List.range name.length).filter fun i => name[i]? = some '.'
  dots.reverse.filterMap fun i =>
    let outer := name.take i
    if outer.isEmpty then none else some (String.ofList outer)

/-- The module of a name. -/
def imported (l : Library) (name : String) : Except ImportFault Module :=
  if name.toList.head? = some '.' then .error (.relative name)
  else
    match l.modules.lookup name with
    | some m => .ok m
    | none =>
      let (sought, parent?) := l.firstMissing name (enclosing name.toList)
      .error (.noModule name sought parent?)

/-- The first table of a registry that is not registered with a record model. -/
def firstStray? (r : Registry) : Option String :=
  (r.entries.find? fun e => match e.2 with
    | .model _ => false
    | _ => true).map (·.1)

/-- The registry that an import path picks out. -/
def load (l : Library) (path : String) : Except ImportFault Registry := do
  match Text.cutAtChar ':' path.toList with
  | none => throw (.malformed path)
  | some (before, after) =>
    let name := String.ofList before
    let wanted := String.ofList after
    if before.isEmpty || after.isEmpty then throw (.malformed path)
    let m ← l.imported name
    match m.get? wanted with
    | some (.registry r) =>
      match firstStray? r with
      | some table => throw (.notModel table)
      | none => pure r
    | some (.value (.obj [])) => pure ⟨[]⟩
    | some (.value (.obj ((table, _) :: _))) => throw (.notModel table)
    | some (.value _) => throw (.notMapping path)
    | none =>
      if m.origin.attributes.contains wanted then throw (.notMapping path)
      else throw (.noAttribute name wanted)

/-- The note taken of a registry. -/
def loadedNote (path : String) (r : Registry) : Note :=
  .plain .debug .registry s!"Loaded schema registry {path} with {r.tables.length} tables"

end Library

namespace Description

/-- What a description denotes as the value of a module's name: a registry, or a plain value. -/
def moduleValue (j : Json) : Reading Attribute :=
  match j.get? "registry" with
  | some r => return .registry (← registry r)
  | none => return .value ((j.get? "json").getD .null)

/-- The attributes that a description of a module denotes. -/
def attributes : Json → Reading (List (String × Attribute))
  | .obj members => members.mapM fun (name, value) => return (name, ← moduleValue value)
  | _ => return []

/-- The library that a description of its modules denotes. -/
def library : Json → Reading Library
  | .obj members => return ⟨← members.mapM fun (name, held) => return (name, ⟨.memory, ← attributes held⟩)⟩
  | _ => return ⟨[]⟩

end Description

end SchemaAudit
