import SchemaAudit.Diagnostics.Inspection
import SchemaAudit.Log.Note

/-!
A feed: a source that fetches one diagnostics document and then serves snapshots from it. Once it
holds a document it never fetches again.
-/

namespace SchemaAudit

/-- The document that a feed holds, and how often it has fetched. -/
structure Feed where
  held : Option Diagnostics
  fetches : Nat
  deriving DecidableEq, Repr

namespace Feed

/-- A feed that has not fetched yet. -/
def new : Feed := ⟨none, 0⟩

/-- A feed that is given its document. -/
def holding (d : Diagnostics) : Feed := ⟨some d, 0⟩

/-- The note taken when the document is there. -/
def readyNote (d : Diagnostics) : Note :=
  .plain .info .feed
    s!"Authoritative snapshot ready: {d.tableNames.length} tables, {d.columns.length} columns"

/-- A feed made ready. `outcome` is what a fetch would come to; it counts only if the feed has to fetch. -/
def prepare (outcome : Told Diagnostics) (f : Feed) : Feed × Told Unit :=
  match f.held with
  | some _ => (f, pure ())
  | none =>
    match outcome.result with
    | .error e => (⟨none, f.fetches + 1⟩, ⟨outcome.notes, .error e⟩)
    | .ok d => (⟨some d, f.fetches + 1⟩, ⟨outcome.notes ++ [readyNote d], .ok ()⟩)

/-- What is told when a snapshot is asked for too early. -/
def notReady : Failure :=
  .unexpected "RuntimeError" "LiveSchemaSource.prepare() must run before snapshots are requested."

/-- The snapshot of a table. -/
def snapshotFor (f : Feed) (table : String) : Except Failure Snapshot :=
  match f.held with
  | some d => .ok (d.snapshot table)
  | none => .error notReady

end Feed

end SchemaAudit
