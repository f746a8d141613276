import SchemaAudit.Proofs.Audit.Abort
import SchemaAudit.Proofs.Audit.Verdict
import SchemaAudit.Proofs.CommandLine.Answer
import SchemaAudit.Proofs.Manifest.Discovery
import SchemaAudit.Proofs.Registry.Loading

/-! # The two sides of an order

The contracts of an order come from a registry of the library or from manifests (`Session.Offers`), and its schema from
manifests, a saved document or the store (`Session.Consults`). No table of an order is audited twice, and an order whose
sides are not there is told so as a matter of configuration, but for a registry whose path starts with a dot. -/

namespace SchemaAudit

/-! ### Registries of a library -/

/-- A library in whose registries no table comes twice, as is so in every mapping. -/
def Library.Distinct (l : Library) : Prop :=
  ∀ m ∈ l.modules, ∀ held ∈ m.2.own, ∀ r, held.2 = .registry r → r.tables.Nodup

namespace Library

variable {l : Library} {path : String} {r : Registry}

theorem lookup_mappings (origin : ModuleOrigin) (wanted : String) (r : Registry) :
    origin.mappings.lookup wanted ≠ some (.registry r) := by
  intro h
  have hmem := mem_of_lookup h
  cases origin <;> simp [ModuleOrigin.mappings, ModuleOrigin.named] at hmem

/-- A registry that is picked out is one that the library holds, or has no tables. -/
theorem Distinct.nodup_of_load (distinct : l.Distinct) (h : l.load path = .ok r) : r.tables.Nodup := by
  obtain ⟨name, wanted, a, -, -, ⟨m, hm, hown⟩, hmaps⟩ := load_eq_ok_iff.mp h
  cases hmaps with
  | registry models =>
    rcases Option.or_eq_some_iff.mp hown with hown | ⟨-, hown⟩
    · exact distinct _ (mem_of_lookup hm) _ (mem_of_lookup hown) _ rfl
    · exact absurd hown (lookup_mappings _ _ _)
  | nothing => exact List.nodup_nil

end Library

/-! ### Tables of manifests -/

theorem Manifests.nodup_discover [StandIns] {m : Manifests} {s : FileStore} {tables : List String}
    (h : (m.discover s).result = .ok tables) : tables.Nodup := by
  obtain ⟨files, -, -, rfl⟩ := Manifests.discover_eq_ok_iff.mp h
  exact (Manifests.pairwise_sortedNames _).imp And.right

theorem named_ofManifests [StandIns] (m : Manifests) : (ContractSource.ofManifests m).Named := by
  intro s table contract h
  change (m.contractFor s table).mapError _ = _ at h
  rw [FileStore.mapError_eq_ok_iff, Manifests.contractFor] at h
  cases hcolumns : m.columns s table with
  | error fault =>
    rw [hcolumns] at h
    cases h
  | ok columns =>
    rw [hcolumns] at h
    change (if columns.isEmpty then _ else _) = _ at h
    split at h
    · cases h
    · cases h
      rfl

namespace CommandLine.Session

variable {se : Session} {o : AuditOrder} {m : Manifests} {contracts : ContractSource} {schemas : SchemaSource Feed}
  {f : Failure}

/-! ### Sides -/

/-- The manifests that an order is about. -/
def manifests (se : Session) (o : AuditOrder) : Manifests :=
  ⟨o.manifestDir.getD se.settings.manifestDir, se.settings.manifestTemplate⟩

/-- The two sides of an order are those of its manifests. -/
theorem sides_eq_ok [StandIns] (h : (se.sides o).result = .ok (contracts, schemas)) :
    (se.contractSource o (se.manifests o)).result = .ok contracts ∧ se.schemaSource o (se.manifests o) = .ok schemas := by
  unfold sides at h
  split at h
  · cases h
  · simp only [Told.result_bind, Told.result_pure, Except.bind] at h
    split at h
    · cases h
    · rename_i own hcontracts
      split at h
      · cases h
      · rename_i own' hschemas
        cases h
        exact ⟨hcontracts, hschemas⟩

theorem sides_eq_error [StandIns] (h : (se.sides o).result = .error f) :
    f = sameSides ∨ (se.contractSource o (se.manifests o)).result = .error f ∨
      se.schemaSource o (se.manifests o) = .error f := by
  unfold sides at h
  split at h
  · cases h
    exact Or.inl rfl
  · simp only [Told.result_bind, Told.result_pure, Except.bind] at h
    split at h
    · rename_i own hcontracts
      cases h
      exact Or.inr (Or.inl hcontracts)
    · split at h
      · rename_i own hschemas
        cases h
        exact Or.inr (Or.inr hschemas)
      · cases h

/-- The contracts of an order: those of a registry of the library, or those of manifests. -/
inductive Offers [StandIns] (se : Session) : ContractSource → Prop
  | registry {path : String} {r : Registry} (loaded : se.around.library.load path = .ok r) : Offers se (.ofRegistry r)
  | manifests (m : Manifests) : Offers se (.ofManifests m)

theorem Offers.named [StandIns] (h : se.Offers contracts) : contracts.Named := by
  cases h with
  | registry loaded => exact Audit.named_ofRegistry _
  | manifests m => exact named_ofManifests m

theorem offers_of_contractSource [StandIns] (h : (se.contractSource o m).result = .ok contracts) :
    se.Offers contracts := by
  rw [contractSource] at h
  split at h
  · cases h
    exact .manifests m
  · split at h
    · cases h
    · rename_i path _
      rw [Told.result_bind] at h
      cases hload : se.around.library.load path with
      | error fault =>
        rw [hload] at h
        cases h
      | ok r =>
        rw [hload] at h
        cases h
        exact .registry hload

/-- The schema of an order: manifests, a saved document or the store. -/
inductive Consults [StandIns] (se : Session) (o : AuditOrder) : SchemaSource Feed → Prop
  | manifests (m : Manifests) : Consults se o (.ofManifests m)
  | saved {path : Path} (live : o.source = .live) (file : o.snapshotFile = some path) : Consults se o (.ofSaved path)
  | store {client : RpcClient} (live : o.source = .live) (unsaved : o.snapshotFile = none)
    (configured : se.settings.client = .ok client) : Consults se o (.ofStore (se.around.fetch client))

theorem consults_of_schemaSource [StandIns] (h : se.schemaSource o m = .ok schemas) : se.Consults o schemas := by
  rw [schemaSource] at h
  split at h
  · cases h
    exact .manifests m
  · rename_i path live file
    cases h
    exact .saved live file
  · rename_i live unsaved
    cases hclient : se.settings.client with
    | error f =>
      rw [hclient] at h
      cases h
    | ok client =>
      rw [hclient] at h
      cases h
      exact .store live unsaved hclient

/-- No table is audited twice. -/
theorem Audits.nodup [StandIns] {a : Audit Feed} {tables : List String} (h : se.Audits o a)
    (distinct : se.around.library.Distinct)
    (htarget : (a.target se.around.store (targets o)).result = .ok tables) : tables.Nodup := by
  unfold targets Audit.target at htarget
  cases hword : firstWord o.table none with
  | some table =>
    rw [hword] at htarget
    cases htarget
    exact List.nodup_singleton table
  | none =>
    rw [hword] at htarget
    change (a.contracts.tables _).result = _ at htarget
    have offers := offers_of_contractSource (sides_eq_ok h.sides).1
    generalize a.contracts = contracts at offers htarget
    cases offers with
    | registry loaded =>
      cases htarget
      exact distinct.nodup_of_load loaded
    | manifests m => exact Manifests.nodup_discover htarget

/-! ### Sides that are not there -/

theorem isConfiguration_of_client [StandIns] (h : se.settings.client = .error f) : f.kind.isConfiguration = true := by
  unfold Settings.client at h
  split at h
  · cases h
  · cases h
    rfl

theorem isConfiguration_of_contractSource [StandIns] (h : (se.contractSource o m).result = .error f)
    (absolute : ∀ path, firstWord o.registry se.settings.registry = some path → path.toList.head? ≠ some '.') :
    f.kind.isConfiguration = true := by
  rw [contractSource] at h
  split at h
  · cases h
  · split at h
    · cases h
      rfl
    · rename_i path hpath
      rw [Told.result_bind] at h
      cases hload : se.around.library.load path with
      | ok r =>
        rw [hload] at h
        cases h
      | error fault =>
        rw [hload] at h
        cases h
        rcases Library.failure_of_load hload with ⟨-, hfailure⟩ | ⟨hrelative, -⟩
        · exact congrArg (·.kind.isConfiguration) hfailure
        · exact absurd hrelative.head (absolute path hpath)

/-- An order whose sides are not there is told so as a matter of configuration. -/
theorem isConfiguration_of_sides [StandIns] (h : (se.sides o).result = .error f)
    (absolute : ∀ path, firstWord o.registry se.settings.registry = some path → path.toList.head? ≠ some '.') :
    f.kind.isConfiguration = true := by
  rcases sides_eq_error h with rfl | hcontracts | hschemas
  · rfl
  · exact isConfiguration_of_contractSource hcontracts absolute
  · rw [schemaSource] at hschemas
    split at hschemas
    · cases hschemas
    · cases hschemas
    · cases hclient : se.settings.client with
      | ok client =>
        rw [hclient] at hschemas
        cases hschemas
      | error own =>
        rw [hclient] at hschemas
        cases hschemas
        exact isConfiguration_of_client hclient

end CommandLine.Session

end SchemaAudit
