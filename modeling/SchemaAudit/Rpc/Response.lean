import SchemaAudit.Failure
import SchemaAudit.Packed.Coding
import SchemaAudit.Rpc.ContentType
import SchemaAudit.Text.Unencodable

/-!
Responses of the store: a status, headers and a body of bytes, which may be packed. The text of a body
follows the charset that the headers name; its JSON is read in the encoding that its first bytes show.
-/

namespace SchemaAudit

variable [StandIns]

/-- A response. -/
structure Response where
  status : Int
  headers : List (String × String)
  body : List UInt8
  deriving DecidableEq, Repr

/-- Why a body has no text. -/
inductive TextFault where
  | contentType (fault : ContentType.Fault)
  | encoding (fault : Text.DecodeFault)
  deriving DecidableEq, Repr

/-- What is told of a body without text. -/
def TextFault.failure : TextFault → Failure
  | contentType fault => .unexpected fault.kindAndMessage.1 fault.kindAndMessage.2
  | encoding fault => .unexpected fault.kindAndMessage.1 fault.kindAndMessage.2

/-- Why a body is no JSON. -/
inductive JsonFault where
  | notJson
  /-- Its values lie in each other deeper than is ever read. -/
  | tooDeep (e : Json.SyntaxError)
  deriving DecidableEq, Repr

namespace Response

/-- Whether a response tells of success. -/
def isSuccess (r : Response) : Bool := 200 ≤ r.status && r.status ≤ 299

/-- Whether a response tells of another place, if it names one. -/
def isElsewhere (r : Response) : Bool := [301, 302, 303, 307, 308].contains r.status

/-- The value of a header; the case of its name does not count. Several headers of one name have their
values behind each other. -/
def header? (r : Response) (name : String) : Option String :=
  match (r.headers.filter fun h => h.1.toLower = name).map (·.2) with
  | [] => none
  | values => some (", ".intercalate values)

/-- The place that a response names instead of its own. -/
def location? (r : Response) : Option String := if r.isElsewhere then r.header? "location" else none

/-- What of the headers cannot be sent, since they are in ASCII. -/
def unencodable? (r : Response) : Option Text.Unencodable :=
  (r.headers.flatMap fun h => [h.1, h.2]).findSome? fun s => Text.outsideAscii? s.toList

/-- The response with its body unpacked. -/
def unpacked (r : Response) : Except Packed.Fault Response := do
  let codings := (r.header? "content-encoding").getD ""
  pure { r with body := ← Packed.unpack codings.toList r.body }

/-! ### Text -/

/-- The body as text. -/
def text (r : Response) : Except TextFault (List Char) :=
  if r.body.isEmpty then .ok []
  else do
    let contentType := (r.header? "content-type").getD ""
    let encoding ← (ContentType.encoding contentType.toList).mapError .contentType
    (encoding.decode r.body).mapError .encoding

/-! ### JSON -/

/-- Bytes in two-byte units as text, if there are only whole units. -/
def textOfUtf16? (bigEnd : Bool) (bytes : List UInt8) : Option (List Char) :=
  (Text.piecesOfUtf16 bigEnd bytes).mapM (·.passing?)

/-- Bytes in four-byte units as text, if there are only whole units. -/
def textOfUtf32? (bigEnd : Bool) (bytes : List UInt8) : Option (List Char) :=
  (Text.piecesOfUtf32 bigEnd bytes).mapM (·.passing?)

/-- The text of some JSON, if its bytes are in the encoding that they show: by a mark at the start, or by
the zeros beside the first character, which is in ASCII. Halves of pairs may stand by themselves. -/
def jsonText? (bytes : List UInt8) : Option (List Char) :=
  match bytes with
  | 0 :: 0 :: 0xfe :: 0xff :: rest => textOfUtf32? true rest
  | 0xff :: 0xfe :: 0 :: 0 :: rest => textOfUtf32? false rest
  | 0xfe :: 0xff :: rest => textOfUtf16? true rest
  | 0xff :: 0xfe :: rest => textOfUtf16? false rest
  | 0xef :: 0xbb :: 0xbf :: rest => Text.decodePassing? rest
  | [0, _] => textOfUtf16? true bytes
  | [_, 0] => textOfUtf16? false bytes
  | 0 :: 0 :: _ :: _ :: _ => textOfUtf32? true bytes
  | 0 :: _ :: _ :: _ :: _ => textOfUtf16? true bytes
  | _ :: 0 :: 0 :: 0 :: _ => textOfUtf32? false bytes
  | _ :: 0 :: _ :: _ :: _ => textOfUtf16? false bytes
  | _ => Text.decodePassing? bytes

/-- The body as JSON. -/
def json (r : Response) : Except JsonFault Json :=
  match jsonText? r.body with
  | none => .error .notJson
  | some text =>
    (Json.parse text).mapError fun e =>
      match e.refusal with
      | .tooDeep _ => .tooDeep e
      | _ => .notJson

end Response

end SchemaAudit
