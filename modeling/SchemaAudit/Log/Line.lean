import SchemaAudit.File.Path
import SchemaAudit.Json.Printer
import SchemaAudit.Log.Moment
import SchemaAudit.Log.Note
import SchemaAudit.Log.Raised
import SchemaAudit.Number.Decimal
import SchemaAudit.Text.Case

/-!
Lines of a log: a record on one line, as plain text or as a JSON object. The payload of a record may
hold a few kinds of values that JSON does not have; those are written as text. A record has no line
as an object if its time is none of the calendar, or if its payload is nested deeper than the
interpreter's stack has room for.
-/

namespace SchemaAudit

variable [StandIns]

/-- What a record may hold besides its message. -/
inductive Payload where
  | null
  | bool (value : Bool)
  | int (value : Int)
  | real (value : Number.Binary64)
  | str (value : String)
  | arr (items : List Payload)
  | obj (members : List (String × Payload))
  | path (value : Path)
  | decimal (value : Number.Decimal)
  | uuid (value : Nat)
  | moment (value : Moment)
  deriving Inhabited

namespace Payload

/-- An identifier of 128 bits as text. -/
def uuidText (n : Nat) : String :=
  let ds := Text.hex 32 n
  String.ofList (ds.take 8 ++ '-' :: (ds.drop 8).take 4 ++ '-' :: (ds.drop 12).take 4 ++
    '-' :: (ds.drop 16).take 4 ++ '-' :: ds.drop 20)

mutual

/-- A payload as JSON. -/
def toJson : Payload → Json
  | null => .null
  | bool b => .bool b
  | int n => .int n
  | real x => .real x
  | str s => .str s
  | arr xs => .arr (itemsToJson xs)
  | obj ms => .obj (membersToJson ms)
  | path p => .str p.text
  | decimal d => .str (String.ofList d.text)
  | uuid n => .str (uuidText n)
  | moment m => .str (m.text " ")

/-- Payloads as JSON. -/
def itemsToJson : List Payload → List Json
  | [] => []
  | x :: xs => toJson x :: itemsToJson xs

/-- The members of a payload as JSON. -/
def membersToJson : List (String × Payload) → List (String × Json)
  | [] => []
  | (name, x) :: ms => (name, toJson x) :: membersToJson ms

end

mutual

/-- A JSON value as a payload. -/
def ofJson : Json → Payload
  | .null => null
  | .bool b => bool b
  | .int n => int n
  | .real x => real x
  | .str s => str s
  | .arr xs => arr (itemsOfJson xs)
  | .obj ms => obj (membersOfJson ms)

/-- JSON values as payloads. -/
def itemsOfJson : List Json → List Payload
  | [] => []
  | x :: xs => ofJson x :: itemsOfJson xs

/-- The members of an object as payloads. -/
def membersOfJson : List (String × Json) → List (String × Payload)
  | [] => []
  | (name, x) :: ms => (name, ofJson x) :: membersOfJson ms

end

end Payload

/-- Why a record has no line as an object. -/
inductive LogFault where
  | time (fault : Moment.EpochFault)
  | tooDeep
  | tooManyDigits
  deriving DecidableEq, Repr

/-- The name of the class of a fault. -/
def LogFault.kind : LogFault → String
  | time fault => fault.kind
  | tooDeep => "RecursionError"
  | tooManyDigits => "ValueError"

/-- The room that the stack leaves to the encoder of a record: how many levels it may go down, and how many of them are
taken by the text of a value that JSON does not have. -/
structure Room where
  levels : Nat
  forText : Payload → Nat

namespace Payload

/-- The text of a value that JSON does not have, if there is room for making it. -/
def foreign (forText : Payload → Nat) (levels : Nat) (p : Payload) (text : String) : Except LogFault Json :=
  if forText p ≤ levels then .ok (.str text) else .error .tooDeep

mutual

/-- A payload as JSON, with so many levels left. -/
def encode (forText : Payload → Nat) (levels : Nat) : Payload → Except LogFault Json
  | null => .ok .null
  | bool b => .ok (.bool b)
  | int n => if Json.digitLimit < (Number.naturalText n.natAbs).length then .error .tooManyDigits else .ok (.int n)
  | real x => .ok (.real x)
  | str s => .ok (.str s)
  | arr xs =>
    match levels with
    | 0 => .error .tooDeep
    | levels + 1 => (encodeItems forText levels xs).map .arr
  | obj ms =>
    match levels with
    | 0 => .error .tooDeep
    | levels + 1 => (encodeMembers forText levels ms).map .obj
  | path p => foreign forText levels (path p) p.text
  | decimal d => foreign forText levels (decimal d) (String.ofList d.text)
  | uuid n => foreign forText levels (uuid n) (uuidText n)
  | moment m => foreign forText levels (moment m) (m.text " ")

/-- Payloads as JSON, one after another. -/
def encodeItems (forText : Payload → Nat) (levels : Nat) : List Payload → Except LogFault (List Json)
  | [] => .ok []
  | x :: xs => do
    let value ← encode forText levels x
    let values ← encodeItems forText levels xs
    return value :: values

/-- The members of a payload as JSON, one after another. -/
def encodeMembers (forText : Payload → Nat) (levels : Nat) :
    List (String × Payload) → Except LogFault (List (String × Json))
  | [] => .ok []
  | (name, x) :: ms => do
    let value ← encode forText levels x
    let members ← encodeMembers forText levels ms
    return (name, value) :: members

end

end Payload

/-- A record of a log. A payload that is null counts as none. -/
structure LogRecord where
  level : Int
  logger : String
  message : String
  payload : Payload
  raised : Option Raised

/-- The record of a note. -/
def Note.record (n : Note) : LogRecord :=
  ⟨n.level.number, n.component.logger, n.message, (n.event.map Payload.ofJson).getD .null, none⟩

/-- The name of a level by its number. -/
def levelName (n : Int) : String :=
  if n = 50 then "CRITICAL"
  else if n = 40 then "ERROR"
  else if n = 30 then "WARNING"
  else if n = 20 then "INFO"
  else if n = 10 then "DEBUG"
  else if n = 0 then "NOTSET"
  else s!"Level {n}"

namespace LogRecord

/-- The members of a record's line, whose payload is written as some JSON. -/
def membersWith (time : String) (r : LogRecord) (audit : Json) : List (String × Json) :=
  [("timestamp", .str time), ("level", .str (levelName r.level)), ("logger", .str r.logger),
    ("message", .str r.message)] ++
    (match r.payload with
      | .null => []
      | _ => [("audit", audit)]) ++
    (match r.raised with
      | none => []
      | some e => [("exc_info", .str e.text)])

/-- The members of a record's line. -/
def members (time : String) (r : LogRecord) : List (String × Json) := r.membersWith time r.payload.toJson

/-- A record as a JSON object on one line, as it is written where there is room for it. -/
def jsonLine (time : String) (r : LogRecord) : String :=
  (Json.obj (r.members time)).toText ⟨false, false⟩

/-- The line of a record that was made at some time, as a JSON object. The object itself takes one level. -/
def format (room : Room) (created : Moment.Seconds) (r : LogRecord) : Except LogFault String := do
  let moment ← created.moment.mapError .time
  match room.levels with
  | 0 => .error .tooDeep
  | levels + 1 => do
    let audit ← r.payload.encode room.forText levels
    return (Json.obj (r.membersWith (moment.text "T") audit)).toText ⟨false, false⟩

/-- A text filled up with blanks. -/
def padRight (width : Nat) (s : String) : String :=
  s ++ String.ofList (List.replicate (width - s.length) ' ')

/-- A record as plain text. -/
def textLine (time : String) (r : LogRecord) : String :=
  time ++ "  " ++ padRight 8 (levelName r.level) ++ "  " ++ r.logger ++ "  " ++ r.message

end LogRecord

/-! ### Logs -/

/-- The levels by name. -/
def levelNames : List (String × Nat) := [
  ("CRITICAL", 50), ("FATAL", 50), ("ERROR", 40), ("WARN", 30), ("WARNING", 30), ("INFO", 20),
  ("DEBUG", 10), ("NOTSET", 0)]

/-- How a log is kept: from which level on, and in which form. -/
structure LogStyle where
  least : Nat
  structured : Bool
  deriving DecidableEq, Repr

/-- There is no level of a name. -/
structure UnknownLevel where
  name : String
  deriving DecidableEq, Repr

/-- What that refusal says. -/
def UnknownLevel.message (e : UnknownLevel) : String :=
  let shown := Text.inQuotes e.name
  s!"Unknown level: {shown}"

namespace LogStyle

/-- The style with a level by its name, in any case. -/
def ofLevel (level : String) (structured : Bool) : Except UnknownLevel LogStyle :=
  let name := String.ofList (Text.upper level.toList)
  match levelNames.lookup name with
  | some n => .ok ⟨n, structured⟩
  | none => .error ⟨name⟩

/-- Whether a record is kept. A level that is not positive never is. -/
def keeps (s : LogStyle) (r : LogRecord) : Bool := 0 < r.level && Int.ofNat s.least ≤ r.level

/-- The line of a record. -/
def line (s : LogStyle) (time : String) (r : LogRecord) : String :=
  if s.structured then r.jsonLine time else r.textLine time

/-- The text of a log: the lines of the records kept. -/
def text (s : LogStyle) (time : String) (rs : List LogRecord) : String :=
  String.join ((rs.filter s.keeps).map fun r => s.line time r ++ "\n")

end LogStyle

end SchemaAudit
