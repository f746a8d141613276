import SchemaAudit.Diagnostics.Saved
import SchemaAudit.Log.Note
import SchemaAudit.Rpc.Response
import SchemaAudit.Rpc.Url
import SchemaAudit.Text.Base64

/-!
The client of the store's diagnostics routine. One request brings the whole document; whatever is
wrong with the answer fails the fetch, and nothing is tried twice.
-/

namespace SchemaAudit

variable [StandIns]

/-- A client: where the store is, the key for it, and the routine to call. -/
structure RpcClient where
  baseUrl : String
  key : String
  routine : String
  timeout : Number.Binary64
  deriving Repr

/-- A request. -/
structure Request where
  method : String
  url : Url
  body : String
  headers : List (String × String)
  deriving DecidableEq, Repr

/-- What comes of a request: a response, or the words of what went wrong on the way. -/
inductive Transported where
  | response (r : Response)
  | failed (reason : String)
  deriving DecidableEq, Repr

/-- Why a request cannot be made. -/
inductive RequestFault where
  | url (fault : UrlFault)
  /-- The key, or the zone of the host, holds characters outside ASCII. -/
  | notAscii (u : Text.Unencodable)
  deriving DecidableEq, Repr

/-- What is told of a request that cannot be made. -/
def RequestFault.failure : RequestFault → Failure
  | url fault => .unexpected fault.kind fault.message
  | notAscii u => .unexpected "UnicodeEncodeError" u.asciiMessage

/-- Why a fetch brings no document. -/
inductive FetchFault where
  | request (fault : RequestFault)
  /-- The headers of the response hold characters outside ASCII. -/
  | header (u : Text.Unencodable)
  /-- The address does not say by itself where it leads. -/
  | nowhere (url : String)
  /-- The response names another place, which is none. -/
  | location (fault : UrlFault)
  | badStatus (routine : String) (status : Int) (text : List Char)
  | noText (fault : TextFault)
  | unreachable (baseUrl reason : String)
  | notJson (routine : String)
  | tooDeep (e : Json.SyntaxError)
  | shape (e : ShapeError)
  deriving DecidableEq, Repr

/-- So many characters of a refusal are told. -/
def toldLimit : Nat := 500

/-- What is told of a failed fetch. -/
def FetchFault.failure : FetchFault → Failure
  | request fault => fault.failure
  | header u => .unexpected "UnicodeEncodeError" u.asciiMessage
  | nowhere url => .unexpected "ValueError" ("unknown url type: " ++ Text.inQuotes url)
  | location fault => .unexpected fault.kind fault.message
  | badStatus routine status text =>
    let told := String.ofList (text.take toldLimit)
    ⟨.connectivity, s!"Diagnostics RPC '{routine}' failed with status {status}: {told}"⟩
  | noText fault => fault.failure
  | unreachable baseUrl reason =>
    ⟨.connectivity, s!"Cannot reach diagnostics RPC at {baseUrl}: {reason}"⟩
  | notJson routine => ⟨.shape, s!"Diagnostics RPC '{routine}' returned a non-JSON body."⟩
  | tooDeep e => .unexpected "RecursionError" e.message
  | shape e => e.failure

namespace RpcClient

/-- The routine that is called if no other one is named. -/
def defaultRoutine : String := "get_system_diagnostics"

/-- The address of the store without slashes at its end. -/
def root (c : RpcClient) : String :=
  String.ofList (c.baseUrl.toList.reverse.dropWhile (· = '/')).reverse

/-- The address of the routine. -/
def endpoint (c : RpcClient) : String := s!"{c.root}/rest/v1/rpc/{c.routine}"

/-- The header that shows the key. -/
def authorization (c : RpcClient) : String := "Bearer " ++ c.key

/-- The header that shows who asks: the user that the address names, if it names one, else the key. -/
def authorizationFor (c : RpcClient) (url : Url) : String :=
  match url.credentials with
  | ([], []) => c.authorization
  | (user, password) =>
    "Basic " ++ String.ofList (Text.Base64.encode (Text.encodeUtf8 (user ++ ':' :: password)))

/-- The request of a fetch. -/
def request (c : RpcClient) : Except RequestFault Request := do
  let url := (← (Url.parse c.endpoint).mapError .url).sent
  for sent in [c.key, url.place] do
    if let some u := Text.outsideAscii? sent.toList then throw (.notAscii u)
  return ⟨"POST", url, "\x7b\x7d", [("Content-Type", "application/json"), ("apikey", c.key),
    ("Authorization", c.authorizationFor url)]⟩

/-- Refuses a response that names another place, if there is no such place. It is not gone to. -/
def checkLocation (c : RpcClient) (r : Response) : Except FetchFault Unit :=
  match r.location? with
  | none => pure ()
  | some text => do
    let url ← (Url.parse text).mapError fun fault =>
      .unreachable c.root s!"Invalid URL in location header: {fault.message}."
    if url.scheme ≠ "" && url.host = "" then
      (Url.checkPath url.path.toList false true).mapError .location

/-- The document that a response brings. -/
def documentOf (c : RpcClient) (r : Response) : Except FetchFault Diagnostics := do
  if r.isSuccess then
    match r.json with
    | .ok value => (Diagnostics.ofJson value).mapError .shape
    | .error .notJson => throw (.notJson c.routine)
    | .error (.tooDeep e) => throw (.tooDeep e)
  else throw (.badStatus c.routine r.status (← r.text.mapError .noText))

/-- The document that comes of a request. -/
def received (c : RpcClient) (request : Request) : Transported → Except FetchFault Diagnostics
  | .failed reason => throw (.unreachable c.root reason)
  | .response r => do
    if let some u := r.unencodable? then throw (.header u)
    let r ← r.unpacked.mapError fun fault => .unreachable c.root fault.message
    if !request.url.isAbsolute then throw (.nowhere request.url.text)
    c.checkLocation r
    c.documentOf r

/-- The note taken of a document. -/
def fetchedNote (d : Diagnostics) : Note :=
  ⟨.info, .rpc, "Diagnostics fetched and validated", some (.obj [
    ("event", .str "diagnostics_fetched"), ("columns", .int d.columns.length),
    ("tables", .int d.tableNames.length)])⟩

/-- What is told of a fetch. -/
def told (c : RpcClient) (fetched : Except FetchFault Diagnostics) : Told Diagnostics := do
  Told.note (.plain .info .rpc s!"Invoking diagnostics RPC '{c.routine}'")
  let d ← Told.quiet (fetched.mapError (·.failure))
  Told.note (fetchedNote d)
  pure d

/-- A fetch over a network: the request is made once, and `send` says what comes of it. -/
def fetchOver {m : Type → Type} [Monad m] (c : RpcClient) (send : Request → m Transported) : m (Told Diagnostics) :=
  match c.request with
  | .error fault => return c.told (.error (.request fault))
  | .ok request => return c.told (c.received request (← send request))

/-- A fetch over a network that answers every request as told. -/
def fetch (c : RpcClient) (send : Request → Transported) : Told Diagnostics :=
  c.fetchOver fun request => (pure (send request) : Id Transported)

end RpcClient

end SchemaAudit
