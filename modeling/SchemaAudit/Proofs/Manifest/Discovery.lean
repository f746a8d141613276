import Mathlib.Data.List.Perm.Basic
import Mathlib.Order.Lattice
import SchemaAudit.Manifest.Reader
import SchemaAudit.Proofs.Audit.Tables
import SchemaAudit.Proofs.File.Glob

/-! # Discovery of tables

Discovery gives the tables that the candidates name, in order and each once, unless one of the candidates ends it
(`discover_eq_ok_iff`). A manifest that cannot be used adds nothing to them (`discover_of_unusable`), but it ends the
discovery if it is a file that is no text: a file's bytes are the one thing that is not passed over. -/

namespace SchemaAudit

/-- What is no manifest: a directory, or a file whose bytes are no text, whose text has no block, or whose block creates
no table. -/
def Node.IsUnusable : Node → Prop
  | .directory => True
  | .file bytes => ∀ text, Text.decodeUtf8 bytes = .ok text →
    ∀ ddl, Ddl.block? (Text.universalNewlines text) = some ddl → Ddl.tableName? ddl = none

/-- Why the bytes of a file are no text. -/
def Node.utf8Error? : Node → Option Text.Utf8Error
  | .directory => none
  | .file bytes =>
    match Text.decodeUtf8 bytes with
    | .error e => some e
    | .ok _ => none

namespace Manifests

open FileStore

variable {m : Manifests} {s s' : FileStore} {path p : Path} {q d : Place} {node : Node} {table name : String}
  {names xs ys : List String} {finds : List Find} {files files' : List Path}

/-! ### Names in order -/

theorem mem_sortedNames : name ∈ sortedNames names ↔ name ∈ names := by
  rw [sortedNames, List.mem_eraseDups, List.mem_mergeSort]

theorem pairwise_eraseDups {R : String → String → Prop} (h : names.Pairwise R) :
    names.eraseDups.Pairwise fun a b => R a b ∧ a ≠ b := by
  induction hn : names.length using Nat.strong_induction_on generalizing names with
  | h n ih =>
    cases names with
    | nil => exact .nil
    | cons name names =>
      rw [List.pairwise_cons] at h
      rw [List.eraseDups_cons, List.pairwise_cons]
      have hshort := List.length_filter_le (fun b => !b == name) names
      rw [List.length_cons] at hn
      refine ⟨fun other hother => ?_, ih _ (by omega) (h.2.filter _) rfl⟩
      rw [List.mem_eraseDups, List.mem_filter] at hother
      exact ⟨h.1 other hother.1, Ne.symm (by simpa using hother.2)⟩

theorem pairwise_sortedNames (names : List String) : (sortedNames names).Pairwise fun a b => a ≤ b ∧ a ≠ b := by
  have hle (a b : String) : (!decide (b < a)) = true ↔ a ≤ b := by
    rw [Bool.not_eq_true', decide_eq_false_iff_not, String.not_lt]
  have hsorted : (names.mergeSort fun a b => !(b < a)).Pairwise fun a b => (!decide (b < a)) = true := by
    refine List.pairwise_mergeSort (fun a b c hab hbc => ?_) (fun a b => ?_) names
    · rw [hle] at hab hbc ⊢
      exact String.le_trans hab hbc
    · rw [Bool.or_eq_true, hle, hle]
      exact String.le_total a b
  exact pairwise_eraseDups (hsorted.imp fun hab => (hle _ _).mp hab)

/-- Names in order depend only on which names there are. -/
theorem sortedNames_congr (h : ∀ name, name ∈ xs ↔ name ∈ ys) : sortedNames xs = sortedNames ys := by
  have hnodup (names : List String) : (sortedNames names).Nodup := (pairwise_sortedNames names).imp And.right
  have hperm : (sortedNames xs).Perm (sortedNames ys) := by
    refine (List.perm_ext_iff_of_nodup (hnodup xs) (hnodup ys)).mpr fun name => ?_
    rw [mem_sortedNames, mem_sortedNames, h]
  exact hperm.eq_of_pairwise (fun a b _ _ hab hba => String.le_antisymm hab.1 hba.1) (pairwise_sortedNames xs)
    (pairwise_sortedNames ys)

/-! ### Finds -/

/-- The table that a find names. -/
def Find.name? : Find → Option String
  | .table name => some name
  | _ => none

theorem gather_eq_ok_iff :
    (gather finds).result = .ok names ↔ (∀ f, .failed f ∉ finds) ∧ names = finds.filterMap Find.name? := by
  induction finds generalizing names with
  | nil => simp [gather, Told.result_pure, eq_comm]
  | cons find finds ih =>
    cases find with
    | failed f => exact ⟨(nomatch ·), fun h => absurd List.mem_cons_self (h.1 f)⟩
    | skipped path reason =>
      have hname : (Find.skipped path reason :: finds).filterMap Find.name? = finds.filterMap Find.name? := rfl
      rw [gather, Told.result_bind, hname]
      simp [Told.note, Except.bind, ih]
    | table name =>
      have hname : (Find.table name :: finds).filterMap Find.name? = name :: finds.filterMap Find.name? := rfl
      rw [gather, Told.result_bind, hname]
      cases hrest : (gather finds).result with
      | error f =>
        refine ⟨(nomatch ·), fun ⟨hfree, _⟩ => ?_⟩
        have hok := ih.mpr ⟨fun f hf => hfree f (List.mem_cons_of_mem _ hf), rfl⟩
        cases hrest.symm.trans hok
      | ok rest =>
        obtain ⟨hfree, rfl⟩ := ih.mp hrest
        simp [Except.bind, Told.result_pure, hfree, eq_comm]

/-- Files that all fail alike, if they fail, end discovery with their failure. -/
theorem gather_eq_error {f : Failure} (hf : .failed f ∈ finds) (hall : ∀ f', .failed f' ∈ finds → f' = f) :
    (gather finds).result = .error f := by
  induction finds with
  | nil => cases hf
  | cons find finds ih =>
    have hrest := fun f' hf' => hall f' (List.mem_cons_of_mem find hf')
    cases find with
    | failed f' =>
      cases hall f' List.mem_cons_self
      rfl
    | skipped path reason =>
      rw [gather, Told.result_bind]
      exact ih ((List.mem_cons.mp hf).resolve_left nofun) hrest
    | table name =>
      rw [gather, Told.result_bind, ih ((List.mem_cons.mp hf).resolve_left nofun) hrest]
      rfl

/-! ### Discovery -/

theorem discover_result [StandIns] (m : Manifests) (s : FileStore) : (m.discover s).result =
    ((m.candidates s).mapError (·.failure)).bind fun files =>
      (gather (files.map (look s))).result.map sortedNames := by
  unfold discover
  rw [Told.result_bind]
  change ((m.candidates s).mapError (·.failure)).bind _ = _
  congr 1
  funext files
  rw [Told.result_bind]
  cases (gather (files.map (look s))).result <;> rfl

/-- The tables that some files name. -/
def named [StandIns] (s : FileStore) (files : List Path) : List String := (files.map (look s)).filterMap Find.name?

theorem mem_named [StandIns] : name ∈ named s files ↔ ∃ file ∈ files, look s file = .table name := by
  have hname (find : Find) : find.name? = some name ↔ find = .table name := by
    cases find <;> simp [Find.name?]
  simp only [named, List.mem_filterMap, List.mem_map, hname]
  constructor
  · rintro ⟨find, ⟨file, hfile, rfl⟩, hlook⟩
    exact ⟨file, hfile, hlook⟩
  · rintro ⟨file, hfile, hlook⟩
    exact ⟨_, ⟨file, hfile, rfl⟩, hlook⟩

/-- Discovery succeeds if there are candidates and none of them fails. -/
theorem discover_eq_ok_iff [StandIns] : (m.discover s).result = .ok names ↔ ∃ files, m.candidates s = .ok files ∧
    (∀ file ∈ files, ∀ f, look s file ≠ .failed f) ∧ names = sortedNames (named s files) := by
  rw [discover_result]
  cases m.candidates s with
  | error fault =>
    refine ⟨(nomatch ·), ?_⟩
    rintro ⟨files, ⟨⟩, -⟩
  | ok files =>
    change (gather (files.map (look s))).result.map sortedNames = .ok names ↔ _
    simp only [map_eq_ok_iff, gather_eq_ok_iff, Except.ok.injEq, exists_eq_left', List.mem_map, not_exists, not_and]
    constructor
    · rintro ⟨found, ⟨hfree, rfl⟩, hnames⟩
      exact ⟨fun file hfile f => hfree f file hfile, hnames⟩
    · rintro ⟨hfree, hnames⟩
      exact ⟨_, ⟨fun f file hfile => hfree file hfile f, rfl⟩, hnames⟩

theorem mem_of_discover [StandIns] (h : (m.discover s).result = .ok names) (hfiles : m.candidates s = .ok files) :
    name ∈ names ↔ ∃ file ∈ files, look s file = .table name := by
  obtain ⟨files', hfiles', -, rfl⟩ := discover_eq_ok_iff.mp h
  cases hfiles.symm.trans hfiles'
  rw [mem_sortedNames, mem_named]

/-! ### Manifests that cannot be used -/

theorem statement_congr [StandIns] (h : s'.readText p = s.readText p) : statement s' p = statement s p := by
  unfold statement
  rw [h]

theorem look_congr [StandIns] (h : s'.readText p = s.readText p) : look s' p = look s p := by
  unfold look
  rw [statement_congr h]

/-- What is told of a file whose bytes are no text. -/
def undecoded (e : Text.Utf8Error) : Failure := .unexpected "UnicodeDecodeError" e.message

theorem look_of_notUtf8 [StandIns] {e : Text.Utf8Error} (h : s.readText p = .error (.notUtf8 e)) :
    look s p = .failed (undecoded e) := by
  unfold look statement
  rw [h]
  rfl

theorem readText_of_utf8Error? [StandIns] {e : Text.Utf8Error} (hp : s.place p = .ok q) (hnode : s.node? q = some node)
    (unlocked : s.locked q = false) (he : node.utf8Error? = some e) : s.readText p = .error (.notUtf8 e) := by
  cases node with
  | directory => cases he
  | file bytes =>
    have hbytes : s.readBytes p = .ok bytes := by
      rw [readBytes_of_place hp, hnode]
      dsimp only
      rw [unlocked]
      rfl
    unfold Node.utf8Error? at he
    unfold readText
    rw [hbytes]
    dsimp only at he ⊢
    split at he
    · cases he
      simp only [*]
    · cases he

/-- A path to what is no manifest, or may not be read, is passed over, unless it is a file that may be read and is no
text. -/
theorem look_of_leads [StandIns] (leads : Leads s q p) (hnode : s.node? q = some node)
    (unusable : s.locked q = true ∨ node.IsUnusable) :
    (∃ path reason, look s p = .skipped path reason) ∨
    ∃ e, node.utf8Error? = some e ∧ s.locked q = false ∧ s.place p = .ok q ∧ look s p = .failed (undecoded e) := by
  rcases leads.readText with ⟨refusal, named, hread⟩ | ⟨hp, unlocked, bytes, hfile, hbytes⟩
  · refine Or.inl ⟨p, ?_⟩
    unfold look statement
    rw [hread]
    exact ⟨_, rfl⟩
  · cases hnode.symm.trans hfile
    replace unusable := unusable.resolve_left (by rw [unlocked]; exact Bool.false_ne_true)
    cases hdecode : Text.decodeUtf8 bytes with
    | error e =>
      have he : (Node.file bytes).utf8Error? = some e := by
        simp only [Node.utf8Error?, hdecode]
      exact Or.inr ⟨e, he, unlocked, hp, look_of_notUtf8 (readText_of_utf8Error? hp hnode unlocked he)⟩
    | ok text =>
      refine Or.inl ⟨p, ?_⟩
      unfold look statement
      rw [readText_of_decoded hbytes hdecode]
      dsimp only
      cases hblock : Ddl.block? (Text.universalNewlines text) with
      | none => exact ⟨_, rfl⟩
      | some ddl =>
        dsimp only
        rw [unusable text hdecode ddl hblock]
        exact ⟨_, rfl⟩

/-! ### One more entry -/

theorem candidates_eq_ok_iff [StandIns] : m.candidates s = .ok files ↔
    ∃ pattern, m.fileName "*" "*" = .ok pattern ∧ Glob.find s m.directory pattern = .ok files := by
  unfold candidates
  cases m.fileName "*" "*" with
  | error fault => simp [bind, Except.bind]
  | ok pattern => simp [bind, Except.bind, mapError_eq_ok_iff]

/-- The pattern that manifests are looked for with goes up at its start only. -/
def Descends [StandIns] (m : Manifests) : Prop := ∀ pattern, m.fileName "*" "*" = .ok pattern → Glob.Descends pattern

/-- Whether the entry at a place is one of the candidates. -/
def Considers [StandIns] (m : Manifests) (s : FileStore) (q : Place) : Prop :=
  ∃ files, m.candidates s = .ok files ∧ ∃ file ∈ files, s.place file = .ok q

theorem candidates_put [StandIns] (tree : s.IsTree) (vacant : s.Vacant q) (hd : s.HasDirectory m.directory d)
    (down : node = .directory → m.Descends) (hfiles' : m.candidates (s.put q node) = .ok files') :
    ∃ files, m.candidates s = .ok files ∧ (∀ file ∈ files, file ∈ files' ∧ Apart s q node file) ∧
      ∀ file ∈ files', file ∈ files ∨ Leads (s.put q node) q file := by
  obtain ⟨pattern, hpattern, hfind'⟩ := candidates_eq_ok_iff.mp hfiles'
  obtain ⟨files, hfind, hold, hnew⟩ := Glob.find_put tree vacant hd (fun hnode => down hnode pattern hpattern) hfind'
  exact ⟨files, candidates_eq_ok_iff.mpr ⟨pattern, hpattern, hfind⟩, hold, hnew⟩

theorem exists_candidates_putFile_iff [StandIns] {bytes : List UInt8} (tree : s.IsTree) (vacant : s.Vacant q)
    (hd : s.HasDirectory m.directory d) :
    (∃ files, m.candidates (s.put q (.file bytes)) = .ok files) ↔ ∃ files, m.candidates s = .ok files := by
  simp only [candidates_eq_ok_iff]
  rw [exists_comm, exists_comm (α := List Path)]
  refine exists_congr fun pattern => ?_
  rw [exists_and_left, exists_and_left, Glob.exists_find_putFile_iff tree vacant hd]

/-- What discovery makes of the candidates when there is one more entry that is no manifest or may not be read: of the old
ones what it made of them, and of the entry nothing, or the failure that tells why it is no text. -/
structure LooksOn [StandIns] (s : FileStore) (files : List Path) (q : Place) (node : Node) (files' : List Path) :
    Prop where
  old : ∀ file ∈ files, file ∈ files' ∧ look (s.put q node) file = look s file
  new : ∀ file ∈ files', file ∈ files ∨ (∃ path reason, look (s.put q node) file = .skipped path reason) ∨
    ∃ e, node.utf8Error? = some e ∧ s.locked q = false ∧ (s.put q node).place file = .ok q ∧
      look (s.put q node) file = .failed (undecoded e)

theorem looksOn_put [StandIns] (tree : s.IsTree) (vacant : s.Vacant q) (hd : s.HasDirectory m.directory d)
    (down : node = .directory → m.Descends) (unusable : s.locked q = true ∨ node.IsUnusable)
    (hfiles' : m.candidates (s.put q node) = .ok files') :
    ∃ files, m.candidates s = .ok files ∧ LooksOn s files q node files' := by
  obtain ⟨files, hfiles, hold, hnew⟩ := candidates_put tree vacant hd down hfiles'
  refine ⟨files, hfiles, fun file hfile => ?_, fun file hfile => ?_⟩
  · obtain ⟨hfile', apart⟩ := hold file hfile
    exact ⟨hfile', look_congr apart.readText⟩
  · exact (hnew file hfile).imp_right fun leads => look_of_leads leads (node?_put_self vacant.ne_root) unusable

/-- The entry adds nothing to the tables and takes nothing from them. -/
theorem LooksOn.named [StandIns] (h : LooksOn s files q node files') :
    sortedNames (named (s.put q node) files') = sortedNames (named s files) := by
  refine sortedNames_congr fun name => ?_
  rw [mem_named, mem_named]
  constructor
  · rintro ⟨file, hfile', hlook⟩
    rcases h.new file hfile' with hfile | ⟨path, reason, hskipped⟩ | ⟨e, -, -, -, hfailed⟩
    · exact ⟨file, hfile, (h.old file hfile).2.symm.trans hlook⟩
    · cases hlook.symm.trans hskipped
    · cases hlook.symm.trans hfailed
  · rintro ⟨file, hfile, hlook⟩
    obtain ⟨hfile', hsame⟩ := h.old file hfile
    exact ⟨file, hfile', hsame.trans hlook⟩

theorem LooksOn.discover [StandIns] (h : LooksOn s files q node files') (hfiles : m.candidates s = .ok files)
    (hfiles' : m.candidates (s.put q node) = .ok files') : (m.discover (s.put q node)).result = .ok names ↔
      (m.discover s).result = .ok names ∧ ∀ file ∈ files', ∀ f, look (s.put q node) file ≠ .failed f := by
  rw [discover_eq_ok_iff, discover_eq_ok_iff]
  simp only [hfiles, hfiles', Except.ok.injEq, exists_eq_left', h.named]
  constructor
  · rintro ⟨hfree, hnames⟩
    refine ⟨⟨fun file hfile f hlook => ?_, hnames⟩, hfree⟩
    obtain ⟨hfile', hsame⟩ := h.old file hfile
    exact hfree file hfile' f (hsame.trans hlook)
  · rintro ⟨⟨-, hnames⟩, hfree⟩
    exact ⟨hfree, hnames⟩

theorem look_of_considers [StandIns] {e : Text.Utf8Error} (vacant : s.Vacant q) (unlocked : s.locked q = false)
    (he : node.utf8Error? = some e)
    (hfiles' : m.candidates (s.put q node) = .ok files') (h : m.Considers (s.put q node) q) :
    ∃ file ∈ files', look (s.put q node) file = .failed (undecoded e) := by
  obtain ⟨files'', hfiles'', file, hfile, hplace⟩ := h
  cases hfiles'.symm.trans hfiles''
  exact ⟨file, hfile, look_of_notUtf8 (readText_of_utf8Error? hplace (node?_put_self vacant.ne_root) unlocked he)⟩

/-- If none of the old candidates fails, the entry is all that may. -/
theorem LooksOn.failed [StandIns] (h : LooksOn s files q node files') (hfiles : m.candidates s = .ok files)
    (hdiscover : (m.discover s).result = .ok names) {file : Path} (hfile' : file ∈ files') {f : Failure}
    (hlook : look (s.put q node) file = .failed f) :
    ∃ e, node.utf8Error? = some e ∧ s.locked q = false ∧ (s.put q node).place file = .ok q ∧ f = undecoded e := by
  obtain ⟨_, hsame, hfree, -⟩ := discover_eq_ok_iff.mp hdiscover
  cases hfiles.symm.trans hsame
  rcases h.new file hfile' with hfile | ⟨path, reason, hskipped⟩ | ⟨e, he, unlocked, hplace, hfailed⟩
  · exact absurd ((h.old file hfile).2.symm.trans hlook) (hfree file hfile f)
  · cases hlook.symm.trans hskipped
  · cases hlook.symm.trans hfailed
    exact ⟨e, he, unlocked, hplace, rfl⟩

/-- What is no manifest, or may not be read, adds nothing to the tables that are found and takes nothing from them. But a
file that may be read and is no text ends the discovery that finds it, and a new directory may take the search to a path
that is too long. -/
theorem discover_of_unusable [StandIns] (tree : s.IsTree) (vacant : s.Vacant q) (hd : s.HasDirectory m.directory d)
    (down : node = .directory → m.Descends) (unusable : s.locked q = true ∨ node.IsUnusable) :
    (∀ names, (m.discover (s.put q node)).result = .ok names ↔ (m.discover s).result = .ok names ∧
      (∃ files, m.candidates (s.put q node) = .ok files) ∧
      (s.locked q = false → ∀ e, node.utf8Error? = some e → ¬ m.Considers (s.put q node) q)) ∧
    (node ≠ .directory →
      ((∃ files, m.candidates (s.put q node) = .ok files) ↔ ∃ files, m.candidates s = .ok files)) ∧
    ∀ names e, (m.discover s).result = .ok names → s.locked q = false → node.utf8Error? = some e →
      m.Considers (s.put q node) q → (m.discover (s.put q node)).result = .error (undecoded e) := by
  refine ⟨fun names => ⟨fun h => ?_, ?_⟩, fun hfile => ?_,
    fun names e h unlocked he hconsiders => ?_⟩
  · obtain ⟨files', hfiles', -⟩ := discover_eq_ok_iff.mp h
    obtain ⟨files, hfiles, looks⟩ := looksOn_put tree vacant hd down unusable hfiles'
    obtain ⟨hold, hfree⟩ := (looks.discover hfiles hfiles').mp h
    refine ⟨hold, ⟨files', hfiles'⟩, fun unlocked e he hconsiders => ?_⟩
    obtain ⟨file, hfile', hlook⟩ := look_of_considers vacant unlocked he hfiles' hconsiders
    exact hfree file hfile' _ hlook
  · rintro ⟨h, ⟨files', hfiles'⟩, hnot⟩
    obtain ⟨files, hfiles, looks⟩ := looksOn_put tree vacant hd down unusable hfiles'
    refine (looks.discover hfiles hfiles').mpr ⟨h, fun file hfile' f hlook => ?_⟩
    obtain ⟨e, he, unlocked, hplace, -⟩ := looks.failed hfiles h hfile' hlook
    exact hnot unlocked e he ⟨files', hfiles', file, hfile', hplace⟩
  · cases node with
    | directory => exact absurd rfl hfile
    | file bytes => exact exists_candidates_putFile_iff tree vacant hd
  · obtain ⟨files', hfiles', -⟩ := id hconsiders
    obtain ⟨files, hfiles, looks⟩ := looksOn_put tree vacant hd down unusable hfiles'
    obtain ⟨file, hfile', hlook⟩ := look_of_considers vacant unlocked he hfiles' hconsiders
    -- the entry may be found by several paths; all of them fail alike, so it does not matter which comes first
    rw [discover_result, hfiles']
    change (gather (files'.map (look (s.put q node)))).result.map sortedNames = .error (undecoded e)
    rw [gather_eq_error (List.mem_map.mpr ⟨file, hfile', hlook⟩) fun f' hf' => ?_]
    · rfl
    · obtain ⟨other, hother, hfailed⟩ := List.mem_map.mp hf'
      obtain ⟨e', he', -, -, rfl⟩ := looks.failed hfiles h hother hfailed
      cases he.symm.trans he'
      rfl

/-! ### A directory with one manifest -/

/-- A manifest with a statement in its block. -/
def manifestOf (statement : String) : Node :=
  .file (Text.encodeUtf8 (Ddl.openingFence ++ '\n' :: statement.toList ++ '\n' :: Ddl.closingFence))

/-- A directory with the manifest of one table. -/
def shelf : FileStore where
  nodes := [(["m"], .directory), (["m", "001_MANIFEST_TABLE_A.md"], manifestOf "CREATE TABLE a (id uuid)")]
  here := []

/-- The manifests in the directory, named by the default template. -/
def onShelf : Manifests := ⟨⟨"", ["m"]⟩, defaultTemplate⟩

/-- A place in the directory that fits the pattern of the template. -/
def besideManifest : Place := ["m", "001_MANIFEST_TABLE_X.md"]

theorem isTree_shelf : shelf.IsTree := by
  constructor
  · simp only [shelf, List.forall_mem_cons]
    exact ⟨⟨⟨by decide, by decide, by decide, by decide⟩, nofun⟩, ⟨⟨by decide, by decide, by decide, by decide⟩,
      ⟨by decide, by decide, by decide, by decide⟩, nofun⟩, nofun⟩
  · simp only [shelf, List.forall_mem_cons]
    exact ⟨rfl, rfl, nofun⟩

theorem vacant_besideManifest : shelf.Vacant besideManifest := by
  have ascii : besideManifest.all (·.toList.all fun c => c.toNat < 0x80 && c ≠ '\x00') = true := by decide
  simp only [List.all_eq_true, Bool.and_eq_true, decide_eq_true_eq] at ascii
  constructor
  · exact List.cons_ne_nil _ _
  · simp only [besideManifest, List.forall_mem_cons]
    exact ⟨⟨by decide, by decide, by decide, by decide⟩, ⟨by decide, by decide, by decide, by decide⟩, nofun⟩
  · exact fun name hname c hc => sendable_of_ascii (ascii name hname c hc).1 (ascii name hname c hc).2
  · simp only [shelf, List.forall_mem_cons]
    exact ⟨by decide, by decide, nofun⟩

theorem pattern_onShelf : onShelf.fileName "*" "*" = .ok "001_MANIFEST_TABLE_*.md" := by decide +kernel

theorem namesOf_pattern_onShelf : Glob.namesOf "001_MANIFEST_TABLE_*.md" = .ok ["001_MANIFEST_TABLE_*.md"] := by
  decide +kernel

theorem descends_onShelf : onShelf.Descends := by
  intro pattern hpattern names hnames
  cases pattern_onShelf.symm.trans hpattern
  cases namesOf_pattern_onShelf.symm.trans hnames
  unfold Glob.GoesDown
  decide

theorem select_beside (node : Node) :
    Glob.select (shelf.put besideManifest node) onShelf.directory ["001_MANIFEST_TABLE_*.md"] =
      .ok [⟨"", besideManifest⟩, ⟨"", ["m", "001_MANIFEST_TABLE_A.md"]⟩] := by
  have hplace : (shelf.put besideManifest node).place onShelf.directory = .ok ["m"] := rfl
  have hfits : ["001_MANIFEST_TABLE_X.md", "001_MANIFEST_TABLE_A.md"].filter
      (Glob.Fits (shelf.put besideManifest node) "001_MANIFEST_TABLE_*.md" [] ["m"]) =
        ["001_MANIFEST_TABLE_X.md", "001_MANIFEST_TABLE_A.md"] := by
    refine List.filter_eq_self.mpr fun name hname => ?_
    have hstands : ∀ name ∈ ["001_MANIFEST_TABLE_X.md", "001_MANIFEST_TABLE_A.md"],
        Glob.stands (Glob.elements "001_MANIFEST_TABLE_*.md") name.toList = true := by decide +kernel
    rw [Glob.Fits, hstands name hname]
    rfl
  have hnexts : Glob.nexts (shelf.put besideManifest node) onShelf.directory "001_MANIFEST_TABLE_*.md" [] =
      .ok [⟨"", besideManifest⟩, ⟨"", ["m", "001_MANIFEST_TABLE_A.md"]⟩] := by
    rw [Glob.nexts, hplace, if_neg (by decide), if_pos (by decide)]
    exact congrArg (fun names => Except.ok (names.map fun name => onShelf.directory.below [name])) hfits
  rw [Glob.select_cons _ _ (by decide), hnexts]
  rfl

/-- The pattern picks out what is beside the manifest. -/
theorem candidates_beside (node : Node) : ∃ files, onShelf.candidates (shelf.put besideManifest node) = .ok files ∧
    ⟨"", besideManifest⟩ ∈ files := by
  have hd : (shelf.put besideManifest node).HasDirectory onShelf.directory ["m"] :=
    HasDirectory.put ⟨rfl, rfl⟩ vacant_besideManifest node
  have hfind := (Glob.find_eq_ok_iff hd).mpr ⟨_, _, namesOf_pattern_onShelf, select_beside node, rfl⟩
  exact ⟨_, candidates_eq_ok_iff.mpr ⟨_, pattern_onShelf, hfind⟩, List.mem_mergeSort.mpr List.mem_cons_self⟩

/-- Beside a manifest a text without a block and a directory are passed over, and a byte that is no text is not. -/
theorem discover_of_unusable_beside :
    (onShelf.discover (shelf.put besideManifest (.file (Text.encodeUtf8 "# Notes".toList)))).result = .ok ["a"] ∧
    (onShelf.discover (shelf.put besideManifest .directory)).result = .ok ["a"] ∧
    (onShelf.discover (shelf.put besideManifest (.file [0xff]))).result =
      .error (undecoded ⟨.invalidStart, 0xff, 0, 0⟩) := by
  have found : (onShelf.discover shelf).result = .ok ["a"] := by decide +kernel
  have added (node : Node) (unusable : node.IsUnusable) :=
    discover_of_unusable isTree_shelf vacant_besideManifest (m := onShelf) ⟨rfl, rfl⟩ (fun _ => descends_onShelf)
      (Or.inr unusable)
  have searched (node : Node) : ∃ files, onShelf.candidates (shelf.put besideManifest node) = .ok files :=
    (candidates_beside node).imp fun _ h => h.1
  refine ⟨?_, ?_, ?_⟩
  · have decoded := Text.decodeUtf8_encodeUtf8 "# Notes".toList
    have hblock : Ddl.block? (Text.universalNewlines "# Notes".toList) = none := by decide +kernel
    have unusable : (Node.file (Text.encodeUtf8 "# Notes".toList)).IsUnusable := by
      intro text htext ddl hddl
      cases decoded.symm.trans htext
      cases hblock.symm.trans hddl
    refine ((added _ unusable).1 ["a"]).mpr ⟨found, searched _, fun _ e he => ?_⟩
    rw [Node.utf8Error?, decoded] at he
    cases he
  · exact ((added .directory trivial).1 ["a"]).mpr ⟨found, searched _, fun _ _ he => nomatch he⟩
  · have undecodable : Text.decodeUtf8 [0xff] = .error ⟨.invalidStart, 0xff, 0, 0⟩ := by decide +kernel
    have unusable : (Node.file [0xff]).IsUnusable := by
      intro text htext
      cases undecodable.symm.trans htext
    obtain ⟨files, hfiles, hmem⟩ := candidates_beside (.file [0xff])
    refine (added _ unusable).2.2 ["a"] _ found rfl ?_ ⟨files, hfiles, _, hmem, rfl⟩
    rw [Node.utf8Error?, undecodable]

end Manifests

end SchemaAudit
