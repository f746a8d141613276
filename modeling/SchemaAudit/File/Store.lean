import SchemaAudit.File.Path
import SchemaAudit.Text.Unencodable
import SchemaAudit.Text.Utf8

/-!
A store of files and directories, with one directory that paths without a root start at. Every
operation gives the answer that the operating system would give, refusals with their numbers.
-/

namespace SchemaAudit

variable [StandIns]

/-- Why the operating system refuses an operation. -/
inductive SystemRefusal where
  | noEntry
  | inputOutput
  | accessDenied
  | fileExists
  | notDirectory
  | isDirectory
  | fileTooLarge
  | noSpace
  | nameTooLong
  deriving DecidableEq, Repr

/-- The number and the words of a refusal. -/
def SystemRefusal.words : SystemRefusal → Nat × String
  | noEntry => (2, "No such file or directory")
  | inputOutput => (5, "Input/output error")
  | accessDenied => (13, "Permission denied")
  | fileExists => (17, "File exists")
  | notDirectory => (20, "Not a directory")
  | isDirectory => (21, "Is a directory")
  | fileTooLarge => (27, "File too large")
  | noSpace => (28, "No space left on device")
  | nameTooLong => (36, "File name too long")

/-- What a refusal says. -/
def SystemRefusal.message (refusal : SystemRefusal) : String :=
  let (number, words) := refusal.words
  s!"[Errno {number}] {words}"

/-- The name of the class of a refusal. -/
def SystemRefusal.kind : SystemRefusal → String
  | noEntry => "FileNotFoundError"
  | accessDenied => "PermissionError"
  | fileExists => "FileExistsError"
  | notDirectory => "NotADirectoryError"
  | isDirectory => "IsADirectoryError"
  | inputOutput | fileTooLarge | noSpace | nameTooLong => "OSError"

/-- Why a path cannot be handed to the operating system. -/
inductive PathFault where
  | nul
  | outsideNames (outside : Text.Unencodable)
  deriving DecidableEq, Repr

/-- The name of the class of a path's fault. -/
def PathFault.kind : PathFault → String
  | nul => "ValueError"
  | outsideNames _ => "UnicodeEncodeError"

/-- What is told of a path's fault. -/
def PathFault.message : PathFault → String
  | nul => "embedded null byte"
  | outsideNames outside => outside.utf8Message

/-- The fault of a path with some text. -/
def PathFault.ofText? (s : List Char) : Option PathFault :=
  match Text.outsideNames? s with
  | some outside => some (.outsideNames outside)
  | none => if s.contains '\x00' then some .nul else none

/-- Why an operation on a file fails: the system refuses it, or it never hears of it. -/
inductive FileFault where
  | refused (refusal : SystemRefusal) (path : Path)
  | unsent (fault : PathFault)
  deriving DecidableEq, Repr

/-- What a failed operation says. -/
def FileFault.message : FileFault → String
  | refused refusal path => refusal.message ++ ": " ++ Text.inQuotes path.text
  | unsent fault => fault.message

/-- Why a text file cannot be read. -/
inductive ReadFault where
  | file (fault : FileFault)
  | notUtf8 (error : Text.Utf8Error)
  deriving DecidableEq, Repr

/-- Why a text file cannot be written: for its path, because its name or its text is not in UTF-8, or because the
device stops taking its bytes. -/
inductive WriteFault where
  | file (fault : FileFault)
  | notUtf8 (outside : Text.Unencodable)
  | stopped (refusal : SystemRefusal)
  deriving DecidableEq, Repr

/-- What a store holds at one place. -/
inductive Node where
  | file (bytes : List UInt8)
  | directory
  deriving DecidableEq, Repr

/-- The way from the root to a place. -/
abbrev Place := List String

/-- What a device does with the bytes that are written to the file at a place: why it stops, if it does, and how many of
them it takes before. -/
abbrev Device := Place → List UInt8 → Option (SystemRefusal × Nat)

/-- Files and directories by place, and the current directory. The root is always a directory. -/
structure FileStore where
  nodes : List (Place × Node)
  here : Place
  /-- Whether the file at a place may be neither read nor written. -/
  locked : Place → Bool := fun _ => false
  stops : Device := fun _ _ => none

namespace FileStore

/-- A store without a file, with the current directory at a place below the root. -/
def empty (name : String) : FileStore where
  nodes := [([name], .directory)]
  here := [name]

/-- The longest name and the longest path that the system takes, in bytes. -/
def nameLimit : Nat := 255

/-- The longest path that the system takes, in bytes. -/
def pathLimit : Nat := 4095

/-- What is at a place. -/
def node? (s : FileStore) (place : Place) : Option Node :=
  if place.isEmpty then some .directory else s.nodes.lookup place

/-- The place that some names lead to from a place. The last one need not be there. -/
def walk (s : FileStore) (place : Place) : List String → Except SystemRefusal Place
  | [] => .ok place
  | name :: names =>
    match s.node? place with
    | none => .error .noEntry
    | some (.file _) => .error .notDirectory
    | some .directory =>
      if nameLimit < name.utf8ByteSize then .error .nameTooLong
      else s.walk (if name = ".." then place.dropLast else place ++ [name]) names

/-- The place of a path. -/
def place (s : FileStore) (p : Path) : Except FileFault Place :=
  match PathFault.ofText? p.text.toList with
  | some fault => .error (.unsent fault)
  | none =>
    if pathLimit < p.text.utf8ByteSize then .error (.refused .nameTooLong p)
    else (s.walk (if p.root = "" then s.here else []) p.parts).mapError (.refused · p)

/-- A store with a node put at a place. -/
def put (s : FileStore) (place : Place) (node : Node) : FileStore :=
  { s with nodes := (place, node) :: s.nodes.filter (·.1 ≠ place) }

/-- The bytes of a file. -/
def readBytes (s : FileStore) (p : Path) : Except FileFault (List UInt8) := do
  let place ← s.place p
  match s.node? place with
  | none => throw (.refused .noEntry p)
  | some .directory => throw (.refused .isDirectory p)
  | some (.file bytes) => if s.locked place then throw (.refused .accessDenied p) else pure bytes

/-- The text of a file: UTF-8, with every line end as the line feed. -/
def readText (s : FileStore) (p : Path) : Except ReadFault (List Char) :=
  match s.readBytes p with
  | .error fault => .error (.file fault)
  | .ok bytes =>
    match Text.decodeUtf8 bytes with
    | .error e => .error (.notUtf8 e)
    | .ok text => .ok (Text.universalNewlines text)

/-- The place of a file to be written. The directory must be there. -/
def placeToWrite (s : FileStore) (p : Path) : Except FileFault Place := do
  let place ← s.place p
  match s.node? place with
  | some .directory => throw (.refused .isDirectory p)
  | _ => if s.locked place then throw (.refused .accessDenied p) else pure place

/-- The bytes that are at a place after some were written there: all of them, unless the device stopped. -/
def taken (s : FileStore) (place : Place) (bytes : List UInt8) : List UInt8 :=
  match s.stops place bytes with
  | some (_, n) => bytes.take n
  | none => bytes

/-- What comes of writing some bytes to a place. -/
def taking (s : FileStore) (place : Place) (bytes : List UInt8) : Except WriteFault Unit :=
  match s.stops place bytes with
  | some (refusal, _) => .error (.stopped refusal)
  | none => .ok ()

/-- A store after a file was written. The file is emptied before its text is encoded and its bytes are written, so what
it had before is lost even if the text cannot be encoded or the device stops. -/
def writeText (s : FileStore) (p : Path) (text : List Char) : FileStore × Except WriteFault Unit :=
  match s.placeToWrite p, Text.outsideUtf8? text with
  | .error fault, _ => (s, .error (.file fault))
  | .ok place, some outside => (s.put place (.file []), .error (.notUtf8 outside))
  | .ok place, none =>
    let bytes := Text.encodeUtf8 text
    (s.put place (.file (s.taken place bytes)), s.taking place bytes)

/-- Whether a path names a directory. Only a name that is too long is refused. -/
def isDirectory (s : FileStore) (p : Path) : Except FileFault Bool :=
  match s.place p with
  | .ok place => .ok (s.node? place = some .directory)
  | .error (.refused .nameTooLong q) => .error (.refused .nameTooLong q)
  | .error _ => .ok false

/-- Whether there is something at a path. Only a name that is too long is refused. -/
def isThere (s : FileStore) (p : Path) : Except FileFault Bool :=
  match s.place p with
  | .ok place => .ok (s.node? place).isSome
  | .error (.refused .nameTooLong q) => .error (.refused .nameTooLong q)
  | .error _ => .ok false

/-- A store with one directory made. -/
def makeDirectory (s : FileStore) (p : Path) : Except FileFault FileStore := do
  let place ← s.place p
  match s.node? place with
  | some _ => throw (.refused .fileExists p)
  | none => pure (s.put place .directory)

/-- A store in which a directory is there: it is made, unless what is there is one. -/
def ensureDirectory (s : FileStore) (p : Path) : Except FileFault FileStore :=
  match s.makeDirectory p with
  | .ok s => .ok s
  | .error fault =>
    match fault with
    | .unsent _ => .error fault
    | .refused .noEntry _ => .error fault
    | .refused _ _ => do
      if ← s.isDirectory p then pure s else throw fault

/-- A store after a directory and all those above it were made as far as they could be. -/
def ensureDirectories (s : FileStore) (p : Path) : FileStore × Except FileFault Unit :=
  match s.ensureDirectory p with
  | .ok s => (s, .ok ())
  | .error (.refused .noEntry q) =>
    if _h : p.parts = [] then (s, .error (.refused .noEntry q))
    else
      match s.ensureDirectories p.parent with
      | (s, .error fault) => (s, .error fault)
      | (s, .ok ()) =>
        match s.ensureDirectory p with
        | .ok s => (s, .ok ())
        | .error fault => (s, .error fault)
  | .error fault => (s, .error fault)
  termination_by p.parts.length
  decreasing_by
    have := List.length_pos_iff.2 _h
    simp only [Path.parent, List.length_dropLast]
    omega

/-- A store after a file was written into a directory that is made if need be. -/
def save (s : FileStore) (p : Path) (text : List Char) : FileStore × Except WriteFault Unit :=
  match s.ensureDirectories p.parent with
  | (s, .error fault) => (s, .error (.file fault))
  | (s, .ok ()) => s.writeText p text

/-- A store without what is at a place and below it. -/
def remove (s : FileStore) (place : Place) : FileStore :=
  { s with nodes := s.nodes.filter fun n => !place.isPrefixOf n.1 }

/-- The names in a directory. -/
def namesIn (s : FileStore) (place : Place) : List String :=
  s.nodes.filterMap fun (q, _) => if q.dropLast = place then q.getLast? else none

/-- The files below a place, each by the way that leads to it from there. -/
def filesBelow (s : FileStore) (place : Place) : List (Place × List UInt8) :=
  s.nodes.filterMap fun (q, node) =>
    match node with
    | .file bytes => if place.isPrefixOf q then some (q.drop place.length, bytes) else none
    | .directory => none

end FileStore

end SchemaAudit
