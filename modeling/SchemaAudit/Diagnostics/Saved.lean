import SchemaAudit.Diagnostics.Reading
import SchemaAudit.Failure
import SchemaAudit.File.Store
import SchemaAudit.Json.Reader

/-!
Diagnostics documents saved in files. A file holds the document by itself, or an object that has it as
one of its members.
-/

namespace SchemaAudit

/-- The member under which a saved snapshot has its document. -/
def detailsKey : String := "schemaDetails"

/-- Why a file gives no document. -/
inductive SavedFault where
  | unreadable (path : Path) (fault : FileFault)
  | unsent (fault : PathFault)
  | notUtf8 (e : Text.Utf8Error)
  | notJson (path : Path) (e : Json.SyntaxError)
  /-- A whole number in the text has more digits than are ever read. -/
  | hugeNumber (e : Json.SyntaxError)
  /-- The text has values that lie in each other deeper than is ever read. -/
  | tooDeep (e : Json.SyntaxError)
  | shape (e : ShapeError)
  deriving DecidableEq, Repr

/-- What is told of a document of the wrong shape. -/
def ShapeError.failure (e : ShapeError) : Failure := ⟨.shape, e.message⟩

/-- What is told of a fault. -/
def SavedFault.failure [StandIns] : SavedFault → Failure
  | unreadable path fault =>
    ⟨.connectivity, s!"Cannot read diagnostics snapshot {path.text}: {fault.message}"⟩
  | unsent fault => .unexpected fault.kind fault.message
  | notUtf8 e => .unexpected "UnicodeDecodeError" e.message
  | notJson path e => ⟨.shape, s!"Diagnostics snapshot {path.text} is not valid JSON: {e.message}"⟩
  | hugeNumber e => .unexpected "ValueError" e.message
  | tooDeep e => .unexpected "RecursionError" e.message
  | shape e => e.failure

namespace Diagnostics

/-- What a saved value has to say of the store: the value of its details if it has any, else itself. -/
def details (saved : Json) : Json := (saved.get? detailsKey).getD saved

/-- The document in a text. -/
def ofText [StandIns] (path : Path) (text : List Char) : Except SavedFault Diagnostics :=
  match Json.parse text with
  | .ok saved => (Diagnostics.ofJson (details saved)).mapError .shape
  | .error e =>
    match e.refusal with
    | .tooManyDigits _ => .error (.hugeNumber e)
    | .tooDeep _ => .error (.tooDeep e)
    | _ => .error (.notJson path e)

/-- The document in a file. -/
def load [StandIns] (s : FileStore) (path : Path) : Except SavedFault Diagnostics :=
  match s.readText path with
  | .error (.file (.unsent fault)) => .error (.unsent fault)
  | .error (.file fault) => .error (.unreadable path fault)
  | .error (.notUtf8 e) => .error (.notUtf8 e)
  | .ok text => ofText path text

end Diagnostics

end SchemaAudit
