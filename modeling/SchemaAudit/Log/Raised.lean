/-!
What a log tells of an exception: the way it took from where it was raised to where it was caught, its name and its
message, the notes added to it, and the exceptions that it came of. Groups of exceptions are not covered.
-/

namespace SchemaAudit

/-- A place on the way of an exception: a line of a function in a file, and what is shown of the line. -/
structure Frame where
  file : String
  line : Nat
  function : String
  shown : List String
  deriving DecidableEq, Repr

namespace Frame

/-- A frame as it is told. -/
def text (f : Frame) : String :=
  s!"  File \"{f.file}\", line {f.line}, in {f.function}\n" ++ String.join (f.shown.map fun line => s!"    {line}\n")

/-- Whether two frames are of one line. -/
def isAt (f g : Frame) : Bool := f.file = g.file && f.line = g.line && f.function = g.function

/-- How often a line is told that comes again and again. -/
def tellings : Nat := 3

/-- What is told of a line that has come so often: nothing, unless it was left out. -/
def repeated (count : Nat) : String :=
  if count ≤ tellings then ""
  else
    let more := count - tellings
    s!"  [Previous line repeated {more} more time" ++ (if more = 1 then "" else "s") ++ "]\n"

/-- The frames behind one that has come so often. -/
def textAfter (last : Frame) (count : Nat) : List Frame → String
  | [] => repeated count
  | f :: fs =>
    if f.isAt last then (if count < tellings then f.text else "") ++ textAfter f (count + 1) fs
    else repeated count ++ f.text ++ textAfter f 1 fs

/-- The way of an exception, the outermost frame first. An exception that was never raised has none. -/
def way : List Frame → String
  | [] => ""
  | f :: fs => "Traceback (most recent call last):\n" ++ f.text ++ textAfter f 1 fs

end Frame

/-- What is told of an exception around its name: its message, the lines above its name (where the syntax of a text is
wrong), the notes below and the way that it took. -/
structure Telling where
  message : String
  above : List String
  notes : List String
  frames : List Frame
  deriving DecidableEq, Repr

/-- An exception of some name as it is told. -/
def Telling.text (name : String) (t : Telling) : String :=
  Frame.way t.frames ++ String.join (t.above.map (· ++ "\n")) ++
    (if t.message = "" then name ++ "\n" else name ++ ": " ++ t.message ++ "\n") ++
    String.join (t.notes.map (· ++ "\n"))

/-- How an exception came of another one: it was raised from it, or while it was handled. -/
inductive Origin where
  | cause
  | context
  deriving DecidableEq, Repr

/-- What is told between the two. -/
def Origin.text : Origin → String
  | cause => "\nThe above exception was the direct cause of the following exception:\n\n"
  | context => "\nDuring handling of the above exception, another exception occurred:\n\n"

/-- An exception that another one came of. -/
structure Earlier where
  name : String
  telling : Telling
  origin : Origin
  deriving DecidableEq, Repr

/-- What is told of an exception besides its name, and of those that it came of, the first one first. -/
structure Account extends Telling where
  earlier : List Earlier
  deriving DecidableEq, Repr

/-- An exception that was never raised has its message only. -/
instance : Coe String Account := ⟨fun message => ⟨⟨message, [], [], []⟩, []⟩⟩

/-- An exception that is logged. -/
structure Raised where
  name : String
  account : Account
  deriving DecidableEq, Repr

/-- An exception as a record shows it. -/
def Raised.text (r : Raised) : String :=
  String.join (r.account.earlier.map fun e => e.telling.text e.name ++ e.origin.text) ++
    r.account.toTelling.text r.name

end SchemaAudit
