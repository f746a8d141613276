import SchemaAudit.Host.Label
import SchemaAudit.Host.Numeric
import SchemaAudit.Json.Reader
import SchemaAudit.Text.Case
import SchemaAudit.Text.Digit
import SchemaAudit.Text.Percent
import SchemaAudit.Text.Unencodable

/-!
Addresses of the network as a client takes them: the text is cut into its parts, and each part is
brought into its normal form. What a part may not hold is written as percent codes; codes that are
there already stay. The host is a name or a number, and a name outside ASCII is written within it.
-/

namespace SchemaAudit

/-- An address in normal form. A host that is a number of groups stands without brackets. -/
structure Url where
  scheme : String
  userInfo : String
  host : String
  port : Option Int
  path : String
  query : Option String
  fragment : Option String
  deriving DecidableEq, Repr

/-- Why a text is no address. -/
inductive UrlFault where
  | tooLong
  | unprintable (c : Char) (position : Nat)
  | notFourNumbers (host : String)
  | notGroups (host : String)
  | badHostName (host : String)
  | badPort (text : String)
  | pathNeedsSlash
  | pathDoubleSlash
  | pathColon
  /-- The address holds half a pair by itself, which has no percent codes. -/
  | unpaired (c : Char)
  deriving DecidableEq, Repr

/-- The name of the class of a refusal. -/
def UrlFault.kind : UrlFault → String
  | unpaired _ => "UnicodeEncodeError"
  | _ => "InvalidURL"

/-- What a refused address says. -/
def UrlFault.message [StandIns] : UrlFault → String
  | tooLong => "URL too long"
  | unprintable c position =>
    let shown := String.ofList (Text.quoted [c])
    s!"Invalid non-printable ASCII character in URL, {shown} at position {position}."
  | notFourNumbers host => "Invalid IPv4 address: " ++ Text.inQuotes host
  | notGroups host => "Invalid IPv6 address: " ++ Text.inQuotes host
  | badHostName host => "Invalid IDNA hostname: " ++ Text.inQuotes host
  | badPort text => "Invalid port: " ++ Text.inQuotes text
  | pathNeedsSlash => "For absolute URLs, path must be empty or begin with '/'"
  | pathDoubleSlash => "Relative URLs cannot have a path starting with '//'"
  | pathColon => "Relative URLs cannot have a path starting with ':'"
  | unpaired c => Text.Unencodable.utf8Message ⟨0, [c]⟩

namespace Url

/-! ### Characters of the parts -/

/-- Whether a character is a printable ASCII character outside some others. -/
def isPrintableOutside (others : List Char) (c : Char) : Bool :=
  ' ' < c && c ≤ '~' && !others.contains c

/-- The characters that a path holds as they are. -/
def inPath : Char → Bool := isPrintableOutside ['"', '#', '<', '>', '?', '`', '\x7b', '\x7d']

/-- The characters that a query holds as they are. -/
def inQuery : Char → Bool := isPrintableOutside ['"', '#', '<', '>']

/-- The characters that a fragment holds as they are. -/
def inFragment : Char → Bool := isPrintableOutside ['"', '<', '>', '`']

/-- The characters that the name of a user holds as they are. -/
def inUserInfo : Char → Bool := isPrintableOutside
  ['"', '#', '<', '>', '?', '`', '\x7b', '\x7d', '/', ';', '=', '@', '[', '\\', ']', '^', '|']

/-- The characters that the name of a host holds as they are. -/
def inHost (c : Char) : Bool := "!$&'()*+,;=\"`\x7b\x7d%|\\".toList.contains c

/-! ### Parts -/

/-- Whether a character may follow the first one of a scheme. -/
def inScheme (c : Char) : Bool := c.isAlphanum || c = '+' || c = '.' || c = '-'

/-- The scheme, and what follows it. -/
def cutScheme (s : List Char) : List Char × List Char :=
  match s.takeWhile inScheme, s.dropWhile inScheme with
  | c :: name, ':' :: rest => if c.isAlpha then (c :: name, rest) else ([], s)
  | [], ':' :: rest => ([], rest)
  | _, _ => ([], s)

/-- The authority, if there is one, and what follows it. -/
def cutAuthority : List Char → List Char × List Char
  | '/' :: '/' :: rest =>
    let inside (c : Char) : Bool := c ≠ '/' && c ≠ '?' && c ≠ '#'
    (rest.takeWhile inside, rest.dropWhile inside)
  | s => ([], s)

/-- The user, the host and the text of the port in an authority. -/
def cutHost (authority : List Char) : List Char × List Char × List Char :=
  let (user, rest) := match Text.cutAtLastChar '@' authority with
    | some (user, rest) => (user, rest)
    | none => ([], authority)
  let bracketed := if rest.head? = some '[' then Text.cutAtLastChar ']' rest else none
  let (host, rest) := match bracketed with
    | some (inside, rest) => (inside ++ [']'], rest)
    | none => (rest.takeWhile fun c => c ≠ ':' && c ≠ '@', rest.dropWhile fun c => c ≠ ':' && c ≠ '@')
  (user, host, if rest.head? = some ':' then rest.drop 1 else rest)

/-- The host that a text names. -/
def readHost (host : List Char) : Except UrlFault String :=
  let shown := String.ofList host
  if host.isEmpty then .ok ""
  else if Host.looksNumeric host then
    if Host.isFourNumbers host then .ok shown else .error (.notFourNumbers shown)
  else if host.head? = some '[' && host.getLast? = some ']' then
    let inside := (host.drop 1).dropLast
    if Host.isGroupAddress inside then .ok (String.ofList inside) else .error (.notGroups shown)
  else if host.all fun c => c.toNat < 0x80 then
    .ok (String.ofList (Text.Percent.quoteOutside inHost (host.map Char.toLower)))
  else
    match Host.asciiName? (Text.lower host) with
    | some name => .ok (String.ofList name)
    | none => .error (.badHostName shown)

/-- The number that a text is: blanks around it do not count, a sign may stand first, low lines may stand
between two digits, and the digits may be of any script. -/
def readInteger? (text : List Char) : Option Int :=
  let (negative, s) := match Text.trim text with
    | '-' :: s => (true, s)
    | '+' :: s => (false, s)
    | s => (false, s)
  let groups := Text.pieces '_' s
  let digits := groups.flatten
  if groups.any List.isEmpty || Json.digitLimit < digits.length then none
  else
    (digits.mapM Text.digitValue?).map fun values =>
      let n := Int.ofNat (values.foldl (fun n d => n * 10 + d) 0)
      if negative then -n else n

/-- The port that a scheme has anyway. -/
def defaultPort? (scheme : String) : Option Int :=
  [("ftp", 21), ("http", 80), ("https", 443), ("ws", 80), ("wss", 443)].lookup scheme

/-- The port of a text; the one that the scheme has anyway is left out. -/
def readPort (scheme : String) (text : List Char) : Except UrlFault (Option Int) :=
  if text.isEmpty then .ok none
  else
    match readInteger? text with
    | some n => .ok (if defaultPort? scheme = some n then none else some n)
    | none => .error (.badPort (String.ofList text))

/-- The names of a path without single dots, each double dot undoing the name before it. -/
def dropDots (output : List (List Char)) : List (List Char) → List (List Char)
  | [] => output
  | ['.'] :: rest => dropDots output rest
  | ['.', '.'] :: rest => dropDots (if output = [[]] then output else output.dropLast) rest
  | name :: rest => dropDots (output ++ [name]) rest

/-- A path without dots. -/
def normalPath (path : List Char) : List Char :=
  ['/'].intercalate (dropDots [] (Text.pieces '/' path))

/-- A part with percent codes for what is outside a class. -/
def quotePart [StandIns] (safe : Char → Bool) (s : List Char) : Except UrlFault String :=
  match s.find? Text.isStandIn with
  | some c => .error (.unpaired c)
  | none => .ok (String.ofList (Text.Percent.quoteOutside safe s))

/-- The longest address that is taken. -/
def lengthLimit : Nat := 65536

/-- The first character that no address may hold, with its position. -/
def firstUnprintable? (s : List Char) : Option (Char × Nat) :=
  s.zipIdx.find? fun (c, _) => c.toNat < 0x20 || c.toNat = 0x7f

/-- Whether a path may follow what stands before it. -/
def checkPath (path : List Char) (hasScheme hasAuthority : Bool) : Except UrlFault Unit :=
  if hasAuthority then
    if path.isEmpty || path.head? = some '/' then .ok () else .error .pathNeedsSlash
  else if hasScheme then .ok ()
  else if ['/', '/'].isPrefixOf path then .error .pathDoubleSlash
  else if path.head? = some ':' then .error .pathColon
  else .ok ()

/-- The address that a text is. -/
def parse [StandIns] (text : String) : Except UrlFault Url := do
  let s := text.toList
  if lengthLimit < s.length then throw .tooLong
  if let some (c, position) := firstUnprintable? s then throw (.unprintable c position)
  let (scheme, rest) := cutScheme s
  let (authority, rest) := cutAuthority rest
  let path := rest.takeWhile fun c => c ≠ '?' && c ≠ '#'
  let rest := rest.dropWhile fun c => c ≠ '?' && c ≠ '#'
  let (query, rest) := match rest with
    | '?' :: rest => (some (rest.takeWhile (· ≠ '#')), rest.dropWhile (· ≠ '#'))
    | rest => (none, rest)
  let fragment := match rest with
    | '#' :: rest => some rest
    | _ => none
  let (user, host, portText) := cutHost authority
  let userInfo ← quotePart inUserInfo user
  let host ← readHost host
  let port ← readPort (String.ofList scheme) portText
  let hasAuthority := !user.isEmpty || host ≠ "" || port.isSome
  let hasScheme := !scheme.isEmpty
  checkPath path hasScheme hasAuthority
  let path := if hasScheme || hasAuthority then normalPath path else path
  return {
    scheme := String.ofList (scheme.map Char.toLower)
    userInfo := userInfo
    host := host
    port := port
    path := ← quotePart inPath path
    query := ← query.mapM (quotePart inQuery)
    fragment := ← fragment.mapM (quotePart inFragment) }

/-- The host and the port of an address. Brackets keep the colons of groups from that of the port. -/
def place (u : Url) : String :=
  let host := if u.host.toList.contains ':' then "[" ++ u.host ++ "]" else u.host
  let port := match u.port with
    | some n => ":" ++ Int.repr n
    | none => ""
  host ++ port

/-- The text of an address. -/
def text (u : Url) : String :=
  let user := if u.userInfo = "" then "" else u.userInfo ++ "@"
  let authority := user ++ u.place
  (if u.scheme = "" then "" else u.scheme ++ ":") ++
    (if authority = "" then "" else "//" ++ authority) ++ u.path ++
    (u.query.map ("?" ++ ·)).getD "" ++ (u.fragment.map ("#" ++ ·)).getD ""

/-- The user of an address and the password, without percent codes. -/
def credentials (u : Url) : List Char × List Char :=
  let plain (s : List Char) : List Char := Text.decodeUtf8Lossy (Text.Percent.bytes s)
  let (user, password) := (Text.cutAtChar ':' u.userInfo.toList).getD (u.userInfo.toList, [])
  (plain user, plain password)

/-- Whether an address says by itself where it leads. -/
def isAbsolute (u : Url) : Bool := u.scheme ≠ "" && u.host ≠ ""

/-- The address as it is sent: one that does not say where it leads is taken as a path. -/
def sent (u : Url) : Url :=
  if u.isAbsolute then u
  else
    let path := String.ofList ('/' :: u.path.toList.dropWhile (· = '/'))
    { scheme := "", userInfo := "", host := "", port := none, path := path, query := u.query,
      fragment := none }

end Url

end SchemaAudit
