import SchemaAudit.Number.Text
import SchemaAudit.Json.Reader

/-!
Moments of the calendar: a day, a time of day to the microsecond, and commonly the offset of the zone.
A moment is written in the form of ISO 8601; microseconds are left out when there are none.
-/

namespace SchemaAudit

/-- A moment. The offset is in seconds, positive to the east. -/
structure Moment where
  year : Int
  month : Nat
  day : Nat
  hour : Nat
  minute : Nat
  second : Nat
  micro : Nat
  offset : Option Int
  deriving DecidableEq, Repr

namespace Moment

/-! ### Text -/

/-- A natural with so many digits at least. -/
def padded (width n : Nat) : String :=
  let ds := Number.naturalText n
  String.ofList (List.replicate (width - ds.length) '0' ++ ds)

/-- An offset: its sign, hours and minutes, and seconds if there are any. -/
def offsetText (offset : Int) : String :=
  let n := offset.natAbs
  (if offset < 0 then "-" else "+") ++ padded 2 (n / 3600) ++ ":" ++ padded 2 (n / 60 % 60) ++
    (if n % 60 = 0 then "" else ":" ++ padded 2 (n % 60))

/-- A moment as text, with a character between day and time. -/
def text (between : String) (m : Moment) : String :=
  padded 4 m.year.toNat ++ "-" ++ padded 2 m.month ++ "-" ++ padded 2 m.day ++ between ++
    padded 2 m.hour ++ ":" ++ padded 2 m.minute ++ ":" ++ padded 2 m.second ++
    (if m.micro = 0 then "" else "." ++ padded 6 m.micro) ++ ((m.offset.map offsetText).getD "")

/-! ### Seconds since the start of 1970 -/

/-- The day that is so many days after the first of January 1970: year, month, day. The calendar is
counted from the first of March, so that the leap day ends a year; 400 years have 146097 days. -/
def ofDays (days : Int) : Int × Nat × Nat :=
  let z := days + 719468
  let era := z.fdiv 146097
  let dayOfEra := (z - era * 146097).toNat
  let yearOfEra := (dayOfEra - dayOfEra / 1460 + dayOfEra / 36524 - dayOfEra / 146096) / 365
  let dayOfYear := dayOfEra - (365 * yearOfEra + yearOfEra / 4 - yearOfEra / 100)
  let shifted := (5 * dayOfYear + 2) / 153
  let day := dayOfYear - (153 * shifted + 2) / 5 + 1
  let month := if shifted < 10 then shifted + 3 else shifted - 9
  (Int.ofNat yearOfEra + era * 400 + (if month ≤ 2 then 1 else 0), month, day)

/-- Why there is no moment for a number of seconds. -/
inductive EpochFault where
  | notNumber
  | yearRange (year : Int)
  | tooLarge
  | outOfRange
  deriving DecidableEq, Repr

/-- The name of the class of a fault. -/
def EpochFault.kind : EpochFault → String
  | notNumber | yearRange _ => "ValueError"
  | tooLarge => "OSError"
  | outOfRange => "OverflowError"

/-- What a fault says. -/
def EpochFault.message : EpochFault → String
  | notNumber => "Invalid value NaN (not a number)"
  | yearRange year => s!"year {year} is out of range"
  | tooLarge => "[Errno 75] Value too large for defined data type"
  | outOfRange => "timestamp out of range for platform time_t"

/-- The bound of the seconds that are counted. -/
def secondsLimit : Int := Int.ofNat (Nat.pow 2 63)

/-- The moment so many seconds and microseconds after the start of 1970, without an offset. -/
def ofSeconds (seconds : Int) (micro : Nat) : Except EpochFault Moment :=
  if seconds < -secondsLimit || secondsLimit ≤ seconds then .error .outOfRange
  else
    let (year, month, day) := ofDays (seconds.fdiv 86400)
    let time := (seconds - seconds.fdiv 86400 * 86400).toNat
    if year < -2147481748 || 2147485547 < year then .error .tooLarge
    else if year < 1 || 9999 < year then .error (.yearRange year)
    else .ok ⟨year, month, day, time / 3600, time / 60 % 60, time % 60, micro, some 0⟩

/-- Seconds and microseconds of a number, which is rounded to the nearest microsecond. -/
def secondsOf (x : Number.Binary64) : Option (Int × Nat) :=
  x.ratio?.map fun (negative, num, den) =>
    let whole := Int.ofNat (num / den)
    let micros := match (Number.Binary64.nearest false (num % den * 1000000) den).ratio? with
      | some (_, n, d) => Number.roundDiv n d
      | none => 0
    if negative then
      if micros = 0 then (-whole, 0)
      else if micros = 1000000 then (-whole - 1, 0)
      else (-whole - 1, 1000000 - micros)
    else if micros = 1000000 then (whole + 1, 0)
    else (whole, micros)

/-- Seconds since the start of 1970, as a clock counts them. -/
inductive Seconds where
  | whole (n : Int)
  | real (x : Number.Binary64)

/-- The moment that a number of seconds is. -/
def Seconds.moment : Seconds → Except EpochFault Moment
  | whole n => ofSeconds n 0
  | real .nan => .error .notNumber
  | real x =>
    match secondsOf x with
    | some (seconds, micro) => ofSeconds seconds micro
    | none => .error .outOfRange

/-- The moment that a number is in JSON. Any other value is the start of 1970. -/
def ofEpoch : Json → Except EpochFault Moment
  | .int n => Seconds.moment (.whole n)
  | .real x => Seconds.moment (.real x)
  | _ => Seconds.moment (.whole 0)

/-! ### Reading -/

/-- Two digits that stand next, and what follows them. -/
def readTwo : List Char → Option (Nat × List Char)
  | a :: b :: rest =>
    if Json.isDigit a && Json.isDigit b then some (Json.digitsValue [a, b], rest) else none
  | _ => none

/-- A part of a time behind its colon, if there is one. -/
def readPart : List Char → Option (Option Nat × List Char)
  | ':' :: rest => (readTwo rest).map fun (n, rest) => (some n, rest)
  | rest => some (none, rest)

/-- A fraction of a second in three or six digits, if there is one. -/
def readMicros : List Char → Option (Nat × List Char)
  | '.' :: rest =>
    let ds := rest.takeWhile Json.isDigit
    let after := rest.dropWhile Json.isDigit
    if ds.isEmpty then none
    else
      let six := (ds ++ List.replicate (6 - ds.length) '0').take 6
      some (Json.digitsValue six, after)
  | rest => some (0, rest)

/-- An offset, if there is one, to the end of the text. -/
def readOffset : List Char → Option (Option Int)
  | [] => some none
  | ['Z'] => some (some 0)
  | sign :: rest =>
    if sign = '+' || sign = '-' then do
      let (hours, rest) ← readTwo rest
      let (minutes, rest) ← readPart rest
      let (seconds, rest) ← readPart rest
      if rest.isEmpty then
        let n := Int.ofNat (hours * 3600 + minutes.getD 0 * 60 + seconds.getD 0)
        some (some (if sign = '-' then -n else n))
      else none
    else none

/-- The moment that a text is. -/
def ofText? (s : List Char) : Option Moment := do
  let (century, s) ← readTwo s
  let (year, s) ← readTwo s
  let (month, s) ← readTwo (← if s.head? = some '-' then some (s.drop 1) else none)
  let (day, s) ← readTwo (← if s.head? = some '-' then some (s.drop 1) else none)
  let date : Moment := ⟨Int.ofNat (century * 100 + year), month, day, 0, 0, 0, 0, none⟩
  match s with
  | [] => some date
  | _ :: s => do
    let (hour, s) ← readTwo s
    let (minute, s) ← readPart s
    let (second, s) ← readPart s
    let (micro, s) ← readMicros s
    let offset ← readOffset s
    some { date with
      hour := hour, minute := minute.getD 0, second := second.getD 0, micro := micro, offset := offset }

end Moment

end SchemaAudit
