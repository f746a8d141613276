import SchemaAudit.Annotation.Basic

/-!
The type names that an annotation may use, with the families of each class. Names of abstract classes
start with `abc.`, names of generic aliases and special forms with `typing.`, names of validated
types with `pydantic.`.
-/

namespace SchemaAudit.Annotation

/-- The classes and their families. A class without one is still a class. -/
def classFamilies : List (String × List Family) := [
  ("str", [.text, .collection]), ("int", [.integer]), ("float", [.number]),
  ("bool", [.boolean, .integer]), ("complex", []), ("bytes", [.bytes, .collection]),
  ("bytearray", [.bytes, .collection]), ("memoryview", [.collection]), ("range", [.collection]),
  ("slice", []), ("list", [.collection]), ("tuple", [.collection]), ("set", [.collection]),
  ("frozenset", [.collection]), ("dict", [.mapping]), ("type", []), ("object", []),
  ("Exception", []), ("NoneType", []),
  ("OrderedDict", [.mapping]), ("defaultdict", [.mapping]), ("Counter", [.mapping]),
  ("deque", [.collection]), ("ChainMap", [.mapping]), ("UserDict", [.mapping]),
  ("UserList", [.collection]), ("UserString", [.collection]), ("MappingProxyType", [.mapping]),
  ("Decimal", [.number]), ("UUID", [.uuid]), ("Path", []), ("IPv4Address", []),
  ("datetime", [.moment]), ("date", [.moment]), ("time", []), ("timedelta", []), ("tzinfo", []),
  ("Enum", [.enumeration]), ("IntEnum", [.enumeration, .integer]),
  ("StrEnum", [.enumeration, .text, .collection]), ("Flag", [.enumeration]),
  ("IntFlag", [.enumeration, .integer]), ("Hashable", []), ("BaseModel", [.model]),
  ("abc.Awaitable", []), ("abc.Coroutine", []), ("abc.AsyncIterable", []),
  ("abc.AsyncIterator", []), ("abc.AsyncGenerator", []), ("abc.Hashable", []),
  ("abc.Iterable", []), ("abc.Iterator", []), ("abc.Generator", []), ("abc.Reversible", []),
  ("abc.Sized", []), ("abc.Container", []), ("abc.Callable", []), ("abc.Collection", []),
  ("abc.Set", [.collection]), ("abc.MutableSet", [.collection]), ("abc.Mapping", [.mapping]),
  ("abc.MutableMapping", [.mapping]), ("abc.MappingView", []), ("abc.KeysView", [.collection]),
  ("abc.ItemsView", [.collection]), ("abc.ValuesView", []), ("abc.Sequence", [.collection]),
  ("abc.MutableSequence", [.collection]), ("abc.ByteString", [.collection]),
  ("pydantic.BaseModel", [.model]), ("pydantic.RootModel", [.model]),
  ("pydantic.EmailStr", [.address]), ("pydantic.AnyUrl", [.address]),
  ("pydantic.AnyHttpUrl", [.address]), ("pydantic.HttpUrl", [.address]),
  ("pydantic.FileUrl", [.address]), ("pydantic.FtpUrl", [.address]),
  ("pydantic.WebsocketUrl", [.address]), ("pydantic.AnyWebsocketUrl", [.address]),
  ("pydantic.CockroachDsn", [.address]), ("pydantic.AmqpDsn", [.address]),
  ("pydantic.RedisDsn", [.address]), ("pydantic.KafkaDsn", [.address]),
  ("pydantic.MySQLDsn", [.address]), ("pydantic.MariaDBDsn", [.address]),
  ("pydantic.ClickHouseDsn", [.address]), ("pydantic.SnowflakeDsn", [.address]),
  ("pydantic.PostgresDsn", []), ("pydantic.MongoDsn", []), ("pydantic.NatsDsn", []),
  ("pydantic.NameEmail", []), ("pydantic.IPvAnyAddress", []), ("pydantic.IPvAnyInterface", []),
  ("pydantic.IPvAnyNetwork", []), ("pydantic.SecretStr", []), ("pydantic.SecretBytes", []),
  ("pydantic.Secret", []), ("pydantic.Json", []), ("pydantic.ImportString", []),
  ("pydantic.PaymentCardNumber", [.text, .collection]), ("pydantic.ByteSize", [.integer]),
  ("pydantic.AwareDatetime", [.moment]), ("pydantic.NaiveDatetime", [.moment]),
  ("pydantic.PastDatetime", [.moment]), ("pydantic.FutureDatetime", [.moment]),
  ("pydantic.PastDate", [.moment]), ("pydantic.FutureDate", [.moment]),
  ("typing.ForwardRef", []), ("typing.TypeVar", []), ("typing.ParamSpec", []),
  ("typing.Protocol", []), ("typing.NewType", []), ("typing.IO", []), ("typing.TextIO", []),
  ("typing.BinaryIO", []), ("typing.SupportsAbs", []), ("typing.SupportsBytes", []),
  ("typing.SupportsComplex", []), ("typing.SupportsFloat", []), ("typing.SupportsIndex", []),
  ("typing.SupportsInt", []), ("typing.SupportsRound", []), ("Match", []), ("Pattern", []),
  ("ContextManager", []), ("AsyncContextManager", []), ("Generic", [])]

/-- The generic aliases and the classes they stand for. -/
def genericAliases : List (String × String) := [
  ("typing.List", "list"), ("typing.Dict", "dict"), ("typing.Tuple", "tuple"),
  ("typing.Set", "set"), ("typing.FrozenSet", "frozenset"), ("typing.Type", "type"),
  ("typing.Deque", "deque"), ("typing.DefaultDict", "defaultdict"),
  ("typing.OrderedDict", "OrderedDict"), ("typing.Counter", "Counter"),
  ("typing.ChainMap", "ChainMap"), ("typing.Callable", "abc.Callable"),
  ("typing.AbstractSet", "abc.Set"), ("typing.MutableSet", "abc.MutableSet"),
  ("typing.Mapping", "abc.Mapping"), ("typing.MutableMapping", "abc.MutableMapping"),
  ("typing.Sequence", "abc.Sequence"), ("typing.MutableSequence", "abc.MutableSequence"),
  ("typing.Iterable", "abc.Iterable"), ("typing.Iterator", "abc.Iterator"),
  ("typing.Generator", "abc.Generator"), ("typing.Collection", "abc.Collection"),
  ("typing.Container", "abc.Container"), ("typing.Reversible", "abc.Reversible"),
  ("typing.Hashable", "abc.Hashable"), ("typing.Sized", "abc.Sized"),
  ("typing.ByteString", "abc.ByteString"), ("typing.KeysView", "abc.KeysView"),
  ("typing.ItemsView", "abc.ItemsView"), ("typing.ValuesView", "abc.ValuesView"),
  ("typing.MappingView", "abc.MappingView"), ("typing.Awaitable", "abc.Awaitable"),
  ("typing.Coroutine", "abc.Coroutine"), ("typing.AsyncIterable", "abc.AsyncIterable"),
  ("typing.AsyncIterator", "abc.AsyncIterator"), ("typing.AsyncGenerator", "abc.AsyncGenerator"),
  ("typing.Match", "Match"), ("typing.Pattern", "Pattern"),
  ("typing.ContextManager", "ContextManager"),
  ("typing.AsyncContextManager", "AsyncContextManager"), ("typing.Generic", "Generic")]

/-- The validated types that are a class with a constraint around it. -/
def constrainedClasses : List (String × String) := [
  ("pydantic.StrictStr", "str"), ("pydantic.StrictInt", "int"), ("pydantic.StrictFloat", "float"),
  ("pydantic.StrictBool", "bool"), ("pydantic.StrictBytes", "bytes"),
  ("pydantic.PositiveInt", "int"), ("pydantic.NegativeInt", "int"),
  ("pydantic.NonNegativeInt", "int"), ("pydantic.NonPositiveInt", "int"),
  ("pydantic.PositiveFloat", "float"), ("pydantic.NegativeFloat", "float"),
  ("pydantic.NonNegativeFloat", "float"), ("pydantic.NonPositiveFloat", "float"),
  ("pydantic.FiniteFloat", "float"), ("pydantic.UUID1", "UUID"), ("pydantic.UUID3", "UUID"),
  ("pydantic.UUID4", "UUID"), ("pydantic.UUID5", "UUID"), ("pydantic.UUID6", "UUID"),
  ("pydantic.UUID7", "UUID"), ("pydantic.UUID8", "UUID"), ("pydantic.FilePath", "Path"),
  ("pydantic.DirectoryPath", "Path"), ("pydantic.NewPath", "Path"),
  ("pydantic.SocketPath", "Path"), ("pydantic.Base64Str", "str"),
  ("pydantic.Base64UrlStr", "str"), ("pydantic.Base64Bytes", "bytes"),
  ("pydantic.Base64UrlBytes", "bytes"), ("pydantic.conint", "int"), ("pydantic.confloat", "float"),
  ("pydantic.constr", "str"), ("pydantic.conbytes", "bytes"), ("pydantic.condecimal", "Decimal"),
  ("pydantic.condate", "date")]

/-- The validated types that are a container with a constraint around it. -/
def constrainedContainers : List (String × String) := [
  ("pydantic.conlist", "list"), ("pydantic.conset", "set"), ("pydantic.confrozenset", "frozenset")]

/-- The validated types that put a note around what they are applied to. -/
def notingTypes : List String := [
  "pydantic.Json", "pydantic.ImportString", "pydantic.InstanceOf", "pydantic.SkipValidation",
  "pydantic.SerializeAsAny", "pydantic.OnErrorOmit"]

/-- The library class of a name. -/
def class? (name : String) : Option ClassRef := (classFamilies.lookup name).map fun fs => ⟨name, 0, fs⟩

/-- The annotation that a name stands for. A name that is no class and no alias is no type. -/
def named (name : String) : Annotation :=
  if name = "Any" || name = "typing.Any" then .any
  else if name = "None" then absent
  else if name = "typing.Text" then named? "str"
  else
    match class? name, genericAliases.lookup name, constrainedClasses.lookup name,
        constrainedContainers.lookup name with
    | some c, _, _, _ => .ofClass c
    | _, some origin, _, _ => applyTo name origin []
    | _, _, some inner, _ => annotate (named? inner) [.note name]
    | _, _, _, some inner => annotate (applyTo inner inner [named? "int"]) [.note name]
    | _, _, _, _ => .other name 0
where
  /-- A class by its name. -/
  named? (name : String) : Annotation := ((class? name).map .ofClass).getD (.other name 0)
  /-- A class by its name, with arguments. -/
  applyTo (spelling origin : String) (args : List Annotation) : Annotation :=
    ((class? origin).map fun c => .applied spelling c args).getD (.other spelling 0)

/-- A name with type arguments. -/
def apply [StandIns] (name : String) (args : List Annotation) : Annotation :=
  if name = "typing.Optional" then unionOf (args ++ [absent])
  else if name = "typing.Union" then unionOf args
  else if notingTypes.contains name then annotate (args.headD .any) [.note name]
  else
    match named name with
    | .ofClass c => .applied name c args
    | .applied spelling c _ => .applied spelling c args
    | .other label n => .other label n
    | a => a

end SchemaAudit.Annotation
