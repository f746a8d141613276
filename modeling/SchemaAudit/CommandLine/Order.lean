import SchemaAudit.CommandLine.Words
import SchemaAudit.File.Store
import SchemaAudit.Settings.Lenient

/-!
What a command line asks for. The options of the whole program come first, then the name of a command and
its own options and operands; the two parts are read one after the other, since the program sets itself up
between them.
-/

namespace SchemaAudit.CommandLine

variable [StandIns]

/-- Why words ask for nothing that could be done. -/
inductive Refusal where
  /-- Help is asked for, and nothing else. -/
  | help
  | misuse
  deriving DecidableEq, Repr

/-! ### The program -/

/-- The options of the whole program. -/
structure Globals where
  json : Bool
  logLevel : Option String
  deriving DecidableEq, Repr

/-- The commands. -/
inductive Command where
  | audit
  | snapshot
  | inspect
  deriving DecidableEq, Repr

/-- The name of a command. -/
def Command.name : Command → String
  | audit => "audit"
  | snapshot => "snapshot"
  | inspect => "inspect"

/-- The command of a name. -/
def Command.ofName? (name : String) : Option Command :=
  ([.audit, .snapshot, .inspect] : List Command).find? (·.name = name)

/-- Whether an option of the program takes a value. -/
def programOption? (name : String) : Option Bool :=
  [("--json", false), ("--no-json", false), ("--log-level", true), ("--help", false)].lookup name

/-- The last value that an option is given. -/
def lastValue? (options : List (String × Option String)) (name : String) : Option String :=
  (options.reverse.lookup name).join

/-- The options of the program out of all that are given. -/
def Globals.ofOptions (options : List (String × Option String)) : Globals where
  json := (options.reverse.find? fun o => o.1 = "--json" || o.1 = "--no-json").any (·.1 = "--json")
  logLevel := lastValue? options "--log-level"

/-- A whole command line up to its command: the options of the program, the command, and the words that
belong to it. -/
structure Opening where
  globals : Globals
  command : Command
  words : List String
  deriving DecidableEq, Repr

/-- The refusal of words among which no command is found: they may still ask for help. -/
def withoutCommand (words : List String) : Refusal :=
  match Words.read? programOption? false words with
  | some w => if w.options.any (·.1 = "--help") then .help else .misuse
  | none => .misuse

/-- The opening of a command line. -/
def Opening.ofWords (words : List String) : Except Refusal Opening :=
  match Words.read? programOption? false words with
  | none => .error .misuse
  | some w =>
    if w.options.any (·.1 = "--help") then .error .help
    else match w.operands with
      | [] => .error .misuse
      | name :: rest =>
        match Command.ofName? name with
        | some command => .ok ⟨.ofOptions w.options, command, rest⟩
        | none => .error (withoutCommand w.operands)

/-! ### The commands -/

/-- Where the schema comes from that counts. -/
inductive SchemaKind where
  | live
  | manifest
  deriving DecidableEq, Repr

/-- Where the contracts come from. -/
inductive ContractKind where
  | registry
  | manifest
  deriving DecidableEq, Repr

/-- What an audit is asked for. -/
structure AuditOrder where
  table : Option String
  source : SchemaKind
  contracts : ContractKind
  registry : Option String
  snapshotFile : Option Path
  manifestDir : Option Path
  reportDir : Option Path
  workers : Option Int
  deriving DecidableEq, Repr

/-- What a snapshot is asked for. -/
structure SnapshotOrder where
  snapshotFile : Option Path
  reportDir : Option Path
  deriving DecidableEq, Repr

/-- What an inspection is asked for. -/
structure InspectOrder where
  table : String
  snapshotFile : Option Path
  reportDir : Option Path
  deriving DecidableEq, Repr

/-- The kinds of values that options take. -/
inductive ValueKind where
  | text
  | path
  | choice (words : List String)
  /-- A number that is at least one. -/
  | count
  deriving DecidableEq, Repr

/-- The number that a value is; it is read as leniently as a setting. -/
def count? (value : String) : Option Int :=
  match Lenient.integerOfText value.toList with
  | .ok n => some n
  | .bad _ => none

/-- What is wrong with a value of a kind, if anything is. A path that holds a NUL cannot be handed to the
system. -/
def ValueKind.refusal? (kind : ValueKind) (value : String) : Option Refusal :=
  match kind with
  | text => none
  | path => (PathFault.ofText? value.toList).map fun _ => .misuse
  | choice words => if words.contains value then none else some .misuse
  | count => if (count? value).any (1 ≤ ·) then none else some .misuse

/-- The options of a command that take a value. All commands know `--help` besides. -/
def Command.options : Command → List (String × ValueKind)
  | audit => [
    ("--source", .choice ["live", "manifest"]), ("--contracts", .choice ["registry", "manifest"]),
    ("--registry", .text), ("--snapshot-file", .path), ("--manifest-dir", .path),
    ("--report-dir", .path), ("--workers", .count)]
  | snapshot => [("--snapshot-file", .path), ("--report-dir", .path)]
  | inspect => [("--snapshot-file", .path), ("--report-dir", .path)]

/-- Whether an option of a command takes a value. -/
def Command.takesValue? (c : Command) (name : String) : Option Bool :=
  if name = "--help" then some false else (c.options.lookup name).map fun _ => true

/-- How many operands a command needs, and how many it takes. -/
def Command.arity : Command → Nat × Nat
  | audit => (0, 1)
  | snapshot => (0, 0)
  | inspect => (1, 1)

/-- The first refusal of the values given. Of an option that is given more than once the last value counts,
in the place of the first. -/
def Command.refusal? (c : Command) (options : List (String × Option String)) : Option Refusal :=
  (Json.membersOf options).findSome? fun (name, value) => do
    let kind ← c.options.lookup name
    kind.refusal? (← value)

/-- The words of a command told apart, all that can be wrong with them being seen to. -/
def Command.read (c : Command) (words : List String) : Except Refusal Words :=
  match Words.read? c.takesValue? true words with
  | none => .error .misuse
  | some w =>
    if w.options.any (·.1 = "--help") then .error .help
    else match c.refusal? w.options with
      | some refusal => .error refusal
      | none =>
        let (least, most) := c.arity
        if w.operands.length < least || most < w.operands.length then .error .misuse else .ok w

namespace Words

/-- The path that an option is given. -/
def path? (w : Words) (name : String) : Option Path := (lastValue? w.options name).map .ofText

end Words

/-- The order of an audit. -/
def AuditOrder.ofWords (words : List String) : Except Refusal AuditOrder :=
  (Command.audit.read words).map fun w => {
    table := w.operands.head?
    source := if lastValue? w.options "--source" = some "manifest" then .manifest else .live
    contracts := if lastValue? w.options "--contracts" = some "manifest" then .manifest else .registry
    registry := lastValue? w.options "--registry"
    snapshotFile := w.path? "--snapshot-file"
    manifestDir := w.path? "--manifest-dir"
    reportDir := w.path? "--report-dir"
    workers := (lastValue? w.options "--workers").bind count? }

/-- The order of a snapshot. -/
def SnapshotOrder.ofWords (words : List String) : Except Refusal SnapshotOrder :=
  (Command.snapshot.read words).map fun w =>
    ⟨w.path? "--snapshot-file", w.path? "--report-dir"⟩

/-- The order of an inspection. -/
def InspectOrder.ofWords (words : List String) : Except Refusal InspectOrder :=
  (Command.inspect.read words).map fun w =>
    ⟨(w.operands.head?).getD "", w.path? "--snapshot-file", w.path? "--report-dir"⟩

end SchemaAudit.CommandLine
