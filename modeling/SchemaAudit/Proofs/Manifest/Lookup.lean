import SchemaAudit.Audit.Source
import SchemaAudit.Proofs.Manifest.Discovery
import SchemaAudit.Proofs.Manifest.Naming

/-! # Listing tables and looking them up

A table is listed for the statement in a manifest, and looked up by the name of a file. The two agree for a table whose
manifest is named after it, which is to say that its name is the template's text with the name of the table in the
fields (`lookup_of_listed`). A table that only a manifest of another name tells of is listed all the same, and its lookup
goes to a file that is missing or is another table's (`lookup_of_misnamed`). -/

namespace SchemaAudit.Manifests

open FileStore
open Template (Part)

variable {m : Manifests} {s s' : FileStore} {p path file : Path} {table other : String} {ddl : List Char}
  {files : List Path} {d : Place} {parts : List Part}

/-- Whether the first table that the statement in a manifest creates is the one named. -/
def Tells [StandIns] (s : FileStore) (path : Path) (table : String) : Prop :=
  ∃ ddl, statement s path = .ok ddl ∧ Ddl.tableName? ddl = some table.toList

theorem look_eq_table_iff [StandIns] : look s path = .table table ↔ Tells s path table := by
  unfold look Tells
  cases statement s path with
  | error fault =>
    dsimp only
    split <;> simp
  | ok ddl =>
    simp only [Except.ok.injEq, exists_eq_left']
    cases Ddl.tableName? ddl with
    | none => simp
    | some name => simp [← String.toList_inj]

theorem look_of_text [StandIns] {text : List Char} (h : s.readText path = .ok text) (f : Failure) :
    look s path ≠ .failed f := by
  unfold look statement
  rw [h]
  cases hblock : Ddl.block? text with
  | none => simp [hblock, ManifestFault.isSkipped]
  | some ddl =>
    simp only [hblock]
    split <;> exact nofun

theorem look_of_hasDirectory [StandIns] (h : s.HasDirectory path d) (f : Failure) : look s path ≠ .failed f := by
  have hread : s.readText path = .error (.file (.refused .isDirectory path)) := by
    rw [readText, readBytes_of_place h.1, h.2]
  unfold look statement
  rw [hread]
  simp [ManifestFault.isSkipped]

/-! ### Lookup -/

/-- The contract that a statement gives for a table. -/
def contractOf (table : String) (ddl : List Char) : Except ManifestFault Contract :=
  ((Ddl.columns ddl).mapError .badLine).bind fun declared =>
    if declared.isEmpty then .error (.noColumns table) else .ok ⟨table, declared.map fun c => ⟨table, c.name, c.type⟩⟩

theorem contractFor_of_statement [StandIns] (hpath : m.path table = .ok path) (hddl : statement s path = .ok ddl) :
    m.contractFor s table = contractOf table ddl := by
  unfold contractFor columns declared contractOf
  simp only [bind, hpath, Except.bind, hddl]
  cases (Ddl.columns ddl).mapError ManifestFault.badLine with
  | error fault => rfl
  | ok declared => cases declared <;> rfl

theorem contractFor_of_error [StandIns] {fault : ManifestFault} (hpath : m.path table = .ok path)
    (h : statement s path = .error fault) : m.contractFor s table = .error fault := by
  unfold contractFor columns declared
  simp only [bind, hpath, Except.bind, h]
  rfl

/-- A lookup reads the file at the table's path and no other. -/
theorem contractFor_congr [StandIns] (h : ∀ path, m.path table = .ok path → s'.readText path = s.readText path) :
    m.contractFor s' table = m.contractFor s table := by
  unfold contractFor columns declared
  cases hpath : m.path table with
  | error fault => rfl
  | ok path =>
    simp only [bind, Except.bind, statement_congr (h path hpath)]

/-! ### Names of manifests -/

/-- A manifest that is named after a table: its name is the text of the template, with the name of the table in the
fields for it, and its capitals in the others. Where there are only fields for capitals, the name may be spelled with
other capitals. -/
def NamedAfter (m : Manifests) (parts : List Part) (file : Path) (table : String) : Prop :=
  ∃ spelled : String, Text.upper spelled.toList = Text.upper table.toList ∧ (.table ∈ parts → spelled = table) ∧
    file = m.directory.child (String.ofList (parts.flatMap (Part.filled spelled.toList (Text.upper spelled.toList))))

theorem filled_congr {name capitals spelled : List Char} (h : .table ∈ parts → spelled = name) :
    parts.flatMap (Part.filled spelled capitals) = parts.flatMap (Part.filled name capitals) := by
  refine List.flatMap_congr fun part hpart => ?_
  cases part with
  | char c => rfl
  | table => exact h hpart
  | capitals => rfl

/-- A table is looked up in the manifest that is named after it. -/
theorem namedAfter_iff [StandIns] (hm : m.template = Template.written parts) :
    NamedAfter m parts file table ↔ m.path table = .ok file := by
  rw [path_eq hm, Except.ok.injEq, eq_comm]
  constructor
  · rintro ⟨spelled, hupper, hspelled, rfl⟩
    rw [hupper, filled_congr fun h => congrArg String.toList (hspelled h)]
  · exact fun h => ⟨table, rfl, fun _ => rfl, h⟩

/-- Names that differ in case only have the same manifest, unless the template has a field for the name as it is. -/
theorem NamedAfter.of_upper (h : NamedAfter m parts file table) (hfields : .table ∉ parts)
    (hupper : Text.upper other.toList = Text.upper table.toList) : NamedAfter m parts file other := by
  obtain ⟨spelled, hspelled, -, hfile⟩ := h
  exact ⟨spelled, hspelled.trans hupper.symm, fun htable => absurd htable hfields, hfile⟩

theorem Tells.eq [StandIns] (h : Tells s file table) (h' : Tells s file other) : table = other := by
  obtain ⟨ddl, hddl, hname⟩ := h
  obtain ⟨ddl', hddl', hname'⟩ := h'
  cases hddl.symm.trans hddl'
  exact String.toList_inj.mp (Option.some.inj (hname.symm.trans hname'))

/-! ### Tables that are listed -/

open ContractSource

/-- Files that can be read as texts, among which there may be directories. -/
def AllReadable [StandIns] (s : FileStore) (files : List Path) : Prop :=
  ∀ file ∈ files, (∃ text, s.readText file = .ok text) ∨ ∃ d, s.HasDirectory file d

theorem exists_discover [StandIns] (hfiles : m.candidates s = .ok files) (readable : AllReadable s files) :
    ∃ names, (m.discover s).result = .ok names := by
  refine ⟨_, discover_eq_ok_iff.mpr ⟨files, hfiles, fun file hfile f => ?_, rfl⟩⟩
  rcases readable file hfile with ⟨text, htext⟩ | ⟨d, hd⟩
  · exact look_of_text htext f
  · exact look_of_hasDirectory hd f

/-- The tables that are listed are those that manifests tell of. One whose manifest is named after it is looked up in
that manifest, and gets what the statement there declares; there is no more than one such table among names that differ
in case only, if the template has only fields for capitals. A lookup never depends on another file than the one named
after the table. -/
theorem lookup_of_listed [StandIns] (hm : m.template = Template.written parts) (hfiles : m.candidates s = .ok files)
    (readable : AllReadable s files) :
    ∃ names, ((ofManifests m).tables s).result = .ok names ∧
      (∀ table, table ∈ names ↔ ∃ file ∈ files, Tells s file table) ∧
      (∀ table ∈ names, ∀ file ∈ files, Tells s file table → NamedAfter m parts file table →
        (∃ ddl, m.path table = .ok file ∧ statement s file = .ok ddl ∧ Ddl.tableName? ddl = some table.toList ∧
          ((ofManifests m).contractFor s table).result = (contractOf table ddl).mapError (·.failure)) ∧
        ∀ other ∈ names, ∀ file' ∈ files, Tells s file' other → NamedAfter m parts file' other → .table ∉ parts →
          Text.upper other.toList = Text.upper table.toList → other = table) ∧
      ∀ table ∈ names, ∀ s', (∀ path, NamedAfter m parts path table → s'.readText path = s.readText path) →
        ((ofManifests m).contractFor s' table).result = ((ofManifests m).contractFor s table).result := by
  obtain ⟨names, hnames⟩ := exists_discover hfiles readable
  refine ⟨names, hnames, fun table => ?_, fun table _ file _ htells hnamed => ⟨?_, ?_⟩, fun table _ s' hsame => ?_⟩
  · simp only [mem_of_discover hnames hfiles, look_eq_table_iff]
  · obtain ⟨ddl, hddl, hname⟩ := htells
    have hpath := (namedAfter_iff hm).mp hnamed
    refine ⟨ddl, hpath, hddl, hname, ?_⟩
    change (m.contractFor s table).mapError (·.failure) = _
    rw [contractFor_of_statement hpath hddl]
  · intro other _ file' _ htells' hnamed' hfields hupper
    -- both names make the same file, and a file tells of one table
    have hother := (namedAfter_iff hm).mp (hnamed.of_upper hfields hupper)
    cases hother.symm.trans ((namedAfter_iff hm).mp hnamed')
    exact htells'.eq htells
  · change (m.contractFor s' table).mapError (·.failure) = (m.contractFor s table).mapError (·.failure)
    rw [contractFor_congr fun path hpath => hsame path ((namedAfter_iff hm).mpr hpath)]

/-- The default template in parts. -/
def defaultParts : List Part :=
  "001_MANIFEST_TABLE_".toList.map .char ++ .capitals :: ".md".toList.map .char

/-- In the directory with one manifest, its table is listed and looked up there. -/
theorem lookup_of_listed_onShelf : ((ofManifests onShelf).tables shelf).result = .ok ["a"] ∧
    ((ofManifests onShelf).contractFor shelf "a").result = .ok ⟨"a", [⟨"a", "id", "uuid"⟩]⟩ := by
  have hfiles : onShelf.candidates shelf = .ok [⟨"", ["m", "001_MANIFEST_TABLE_A.md"]⟩] := by decide +kernel
  have readable : AllReadable shelf [⟨"", ["m", "001_MANIFEST_TABLE_A.md"]⟩] :=
    List.forall_mem_singleton.mpr (Or.inl ⟨_, readText_of_decoded rfl (Text.decodeUtf8_encodeUtf8 _)⟩)
  have written : onShelf.template = Template.written defaultParts := by decide +kernel
  have hpath : onShelf.path "a" = .ok ⟨"", ["m", "001_MANIFEST_TABLE_A.md"]⟩ := by decide +kernel
  have hnamed : NamedAfter onShelf defaultParts ⟨"", ["m", "001_MANIFEST_TABLE_A.md"]⟩ "a" :=
    (namedAfter_iff written).mpr hpath
  have hddl : statement shelf ⟨"", ["m", "001_MANIFEST_TABLE_A.md"]⟩ = .ok "CREATE TABLE a (id uuid)".toList := by
    decide +kernel
  have hname : Ddl.tableName? "CREATE TABLE a (id uuid)".toList = some "a".toList := by decide +kernel
  obtain ⟨names, hnames, -, hlookup, -⟩ := lookup_of_listed written hfiles readable
  have found : (onShelf.discover shelf).result = .ok ["a"] := by decide +kernel
  cases hnames.symm.trans found
  obtain ⟨⟨ddl, -, hddl', -, hcontract⟩, -⟩ := hlookup "a" (.head _) _ (.head _) ⟨_, hddl, hname⟩ hnamed
  cases hddl.symm.trans hddl'
  exact ⟨hnames, hcontract.trans (by decide +kernel)⟩

/-- A directory in which the manifest of one table has the name of another's. -/
def misnamedShelf : FileStore where
  nodes := [(["m"], .directory), (["m", "001_MANIFEST_TABLE_USERS.md"], manifestOf "CREATE TABLE accounts (id uuid)")]
  here := []

/-- The table is listed, and its lookup goes to a file that is not there. -/
theorem lookup_of_misnamed :
    (∃ files, onShelf.candidates misnamedShelf = .ok files ∧ AllReadable misnamedShelf files) ∧
    ((ofManifests onShelf).tables misnamedShelf).result = .ok ["accounts"] ∧
    (¬ ∃ path, onShelf.path "accounts" = .ok path ∧ Tells misnamedShelf path "accounts") ∧
    ((ofManifests onShelf).contractFor misnamedShelf "accounts").result = .error (ManifestFault.unreadable
      ⟨"", ["m", "001_MANIFEST_TABLE_ACCOUNTS.md"]⟩
      (.refused .noEntry ⟨"", ["m", "001_MANIFEST_TABLE_ACCOUNTS.md"]⟩)).failure := by
  have hpath : onShelf.path "accounts" = .ok ⟨"", ["m", "001_MANIFEST_TABLE_ACCOUNTS.md"]⟩ := by decide +kernel
  have hstatement : statement misnamedShelf ⟨"", ["m", "001_MANIFEST_TABLE_ACCOUNTS.md"]⟩ = .error
      (.unreadable ⟨"", ["m", "001_MANIFEST_TABLE_ACCOUNTS.md"]⟩
        (.refused .noEntry ⟨"", ["m", "001_MANIFEST_TABLE_ACCOUNTS.md"]⟩)) := rfl
  refine ⟨⟨[⟨"", ["m", "001_MANIFEST_TABLE_USERS.md"]⟩], by decide +kernel, ?_⟩, by decide +kernel, ?_, ?_⟩
  · exact List.forall_mem_singleton.mpr (Or.inl ⟨_, readText_of_decoded rfl (Text.decodeUtf8_encodeUtf8 _)⟩)
  · rintro ⟨path, hpath', ddl, hddl, -⟩
    cases hpath.symm.trans hpath'
    cases hstatement.symm.trans hddl
  · exact congrArg (·.mapError (·.failure)) (contractFor_of_error hpath hstatement)

end SchemaAudit.Manifests
