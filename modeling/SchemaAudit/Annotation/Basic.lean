import SchemaAudit.Json.Printer

/-!
Type annotations of record models. A class is known by the families it belongs to. Unions are kept
flat and without repetition, and an annotated annotation holds all the metadata put around its core,
the inner entries first; the functions `unionOf` and `annotate` build them so.
-/

namespace SchemaAudit

variable [StandIns]

/-- The families of classes that a classification tells apart. -/
inductive Family where
  | enumeration
  | boolean
  | integer
  | number
  | uuid
  | moment
  | text
  | address
  | bytes
  | model
  | mapping
  | collection
  deriving DecidableEq, Repr

/-- A class: its name, the families it belongs to, and a serial number that tells apart classes
declared under one name (a class of a library has zero). -/
structure ClassRef where
  name : String
  serial : Nat
  families : List Family
  deriving DecidableEq, Repr

/-- What a field says about the JSON schema of its column beyond its type. -/
inductive Extra where
  | members (ms : List (String × Json))
  | computed

/-- The options of a field. An empty alias is given, but names nothing. -/
structure FieldOptions where
  alias? : Option String
  validationAlias? : Option String
  serializationAlias? : Option String
  extra? : Option Extra
  hasDefault : Bool

/-- No option. -/
def FieldOptions.none : FieldOptions := ⟨.none, .none, .none, .none, false⟩

/-- An entry of metadata: the options of a field, a plain note, or an object of another kind. Two
objects are the same only if their serial numbers are. -/
inductive Entry where
  | field (serial : Nat) (options : FieldOptions)
  | note (text : String)
  | object (serial : Nat)

/-- Whether two entries are the same. -/
def Entry.same : Entry → Entry → Bool
  | .field a _, .field b _ => a = b
  | .note a, .note b => a = b
  | .object a, .object b => a = b
  | _, _ => false

/-- A qualifier of a field's type. -/
inductive Qualifier where
  | final
  | classVar
  deriving DecidableEq, Repr

/-- A type annotation. -/
inductive Annotation where
  /-- Any value at all. -/
  | any
  /-- A class. -/
  | ofClass (c : ClassRef)
  /-- A class with type arguments; `spelling` is the name under which it was taken. -/
  | applied (spelling : String) (origin : ClassRef) (args : List Annotation)
  /-- One of several annotations. -/
  | union (members : List Annotation)
  /-- An annotation with metadata around it. -/
  | annotated (core : Annotation) (entries : List Entry)
  /-- One of some values. -/
  | literal (values : List Json)
  /-- A qualified annotation. -/
  | qualified (qualifier : Qualifier) (inner : Annotation)
  /-- The name of a type that is declared elsewhere. -/
  | forward (name : String)
  /-- Something that is no type: a special form, an alias under a name of its own, a plain value. -/
  | other (label : String) (serial : Nat)
  deriving Inhabited

/-- The class of the absent value. -/
def ClassRef.absent : ClassRef := ⟨"NoneType", 0, []⟩

namespace Annotation

/-- The annotation of the absent value. -/
def absent : Annotation := .ofClass .absent

/-- Whether two lists have the same entries in the same order. -/
def sameEntries : List Entry → List Entry → Bool
  | [], [] => true
  | a :: as, b :: bs => a.same b && sameEntries as bs
  | _, _ => false

/-- Whether every value of a list is written like one of another. -/
def valuesWithin (xs ys : List Json) : Bool :=
  let written (v : Json) := v.toText ⟨true, false⟩
  xs.all fun x => ys.any fun y => written x = written y

mutual

/-- Whether two annotations are the same, the members of a union in any order. -/
def same : Annotation → Annotation → Bool
  | any, any => true
  | ofClass a, ofClass b => a = b
  | applied s a xs, applied t b ys => s = t && a = b && sameAll xs ys
  | union xs, union ys => within xs ys && xs.length = ys.length
  | annotated a es, annotated b fs => same a b && sameEntries es fs
  | literal xs, literal ys => valuesWithin xs ys && valuesWithin ys xs
  | qualified p a, qualified q b => p = q && same a b
  | forward a, forward b => a = b
  | other a m, other b n => a = b && m = n
  | _, _ => false

/-- Whether two lists hold the same annotations in the same order. -/
def sameAll : List Annotation → List Annotation → Bool
  | [], [] => true
  | a :: as, b :: bs => same a b && sameAll as bs
  | _, _ => false

/-- Whether every annotation of a list is in another. -/
def within : List Annotation → List Annotation → Bool
  | [], _ => true
  | a :: as, bs => isIn a bs && within as bs

/-- Whether an annotation is in a list. -/
def isIn (a : Annotation) : List Annotation → Bool
  | [] => false
  | b :: bs => same a b || isIn a bs

end

/-- The annotations that a member of a union contributes. -/
def parts : Annotation → List Annotation
  | union ms => ms
  | a => [a]

/-- A list without the annotations that stand earlier in it or in `seen`. -/
def distinct (seen : List Annotation) : List Annotation → List Annotation
  | [] => []
  | a :: as => if isIn a seen then distinct seen as else a :: distinct (a :: seen) as

/-- One of several annotations: nested unions flattened, repetitions dropped, a sole member alone. -/
def unionOf (ms : List Annotation) : Annotation :=
  match distinct [] (ms.flatMap parts) with
  | [a] => a
  | as => union as

/-- An annotation or the absent value. -/
def optional (a : Annotation) : Annotation := unionOf [a, absent]

/-- An annotation with entries put around it, behind those it has. -/
def annotate (a : Annotation) (entries : List Entry) : Annotation :=
  match a with
  | annotated core inner => annotated core (inner ++ entries)
  | a => annotated a entries

end Annotation

end SchemaAudit
