import SchemaAudit.Diagnostics.Saved
import SchemaAudit.Feed
import SchemaAudit.Manifest.Reader
import SchemaAudit.Registry.Basic

/-!
The two sides of an audit. A contract source knows tables and what is expected of them; a schema source
is made ready once and then tells what the tables are like. Both may read files, and both may fail.
-/

namespace SchemaAudit

/-- A source of contracts. -/
structure ContractSource where
  name : String
  tables : FileStore → Told (List String)
  contractFor : FileStore → String → Told Contract

/-- A source of snapshots, with what it remembers between calls. -/
structure SchemaSource (σ : Type) where
  name : String
  prepare : FileStore → σ → σ × Told Unit
  snapshotFor : FileStore → σ → String → Told Snapshot

/-- What is told of the lack of a contract. -/
def ContractFault.failure (f : ContractFault) : Failure :=
  match f with
  | missing _ => ⟨.missingContract, f.message⟩
  | empty _ => ⟨.emptyContract, f.message⟩
  | noFields _ => .unexpected "AttributeError" f.message

namespace ContractSource

/-- The contracts of a registry. -/
def ofRegistry [StandIns] (r : Registry) : ContractSource where
  name := "registry"
  tables _ := pure r.tables
  contractFor _ table := Told.quiet ((r.contractFor table).mapError (·.failure))

/-- The contracts in manifests. -/
def ofManifests [StandIns] (m : Manifests) : ContractSource where
  name := "manifest"
  tables s := m.discover s
  contractFor s table := m.tellContract s table

end ContractSource

namespace SchemaSource

/-- The snapshots in manifests, which remember nothing. -/
def ofManifests [StandIns] {σ : Type} (m : Manifests) : SchemaSource σ where
  name := "manifest"
  prepare _ state := (state, Told.note m.preparationNote)
  snapshotFor s _ table := m.tellSnapshot s table

/-- The snapshots of a feed. -/
def ofFeed (name : String) (fetch : FileStore → Told Diagnostics) : SchemaSource Feed where
  name := name
  prepare s f := f.prepare (fetch s)
  snapshotFor _ f table := Told.quiet (f.snapshotFor table)

/-- The snapshots of a document that is there already. -/
def ofDocument (d : Diagnostics) : SchemaSource Feed := ofFeed "live" fun _ => pure d

/-- The snapshots of a document saved in a file. -/
def ofSaved [StandIns] (path : Path) : SchemaSource Feed :=
  ofFeed s!"snapshot:{path.text}" fun s => Told.quiet ((Diagnostics.load s path).mapError (·.failure))

/-- The snapshots of the store itself, whose document some activity fetches. -/
def ofStore (fetch : Told Diagnostics) : SchemaSource Feed := ofFeed "live" fun _ => fetch

end SchemaSource

end SchemaAudit
