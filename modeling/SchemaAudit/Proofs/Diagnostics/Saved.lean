import Mathlib.Data.Nat.Digits.Defs
import SchemaAudit.Audit.Source
import SchemaAudit.Proofs.Artifact.Encoding
import SchemaAudit.Proofs.Diagnostics.Reading

/-! # Snapshots saved and loaded

A snapshot of the store that was saved gives back its document, and so does every file that holds the document by
itself, with whatever stands beside its members. An audit against the file therefore sees the tables as one against the
document does: `Diagnostics.load_of_saved`. -/

namespace SchemaAudit

open Json

variable {depth : Nat} {s s' : FileStore} {path : Path} {stamp : String} {d : Diagnostics}

/-! ### How many rows there are -/

/-- The number of rows of a document. -/
def Diagnostics.rows (d : Diagnostics) : Nat :=
  d.columns.length + d.constraints.length + d.indexes.length + d.policies.length + d.triggers.length +
    d.routines.length

theorem length_firsts_le {α : Type} [DecidableEq α] (as : List α) : (firsts as).length ≤ as.length := by
  induction as with
  | nil => exact Nat.le_refl 0
  | cons a as ih => exact Nat.succ_le_succ ((List.length_filter_le _ _).trans ih)

theorem fewDigits_of_lt {n : Nat} (h : n < 10 ^ digitLimit) : FewDigits n :=
  Nat.toDigits_length 10 n digitLimit (by decide) h

/-! ### The text of a document -/

/-- A document whose strings are all in UTF-8. -/
def Diagnostics.InUtf8 [StandIns] (d : Diagnostics) : Prop := d.toJson.InUtf8

theorem ColumnRow.readable_toJson [StandIns] (r : ColumnRow) : Readable false (depth + 1) r.toJson :=
  readable_texts ["table", "column", "type"] rfl (by decide) (by simp)

theorem ConstraintRow.readable_toJson [StandIns] (r : ConstraintRow) : Readable false (depth + 1) r.toJson :=
  readable_texts ["table", "constraint_name", "type"] rfl (by decide) (by simp)

theorem IndexRow.readable_toJson [StandIns] (r : IndexRow) : Readable false (depth + 1) r.toJson :=
  readable_texts ["table", "index_name"] rfl (by decide) (by simp)

theorem PolicyRow.readable_toJson [StandIns] (r : PolicyRow) : Readable false (depth + 1) r.toJson := by
  refine readable_obj ["table", "policy_name", "command", "definition"] rfl (by decide) ?_
  simp only [List.forall_mem_cons]
  exact ⟨readable_str _, readable_str _, readable_str _, readable_ofOption _, nofun⟩

theorem TriggerRow.readable_toJson [StandIns] (r : TriggerRow) : Readable false (depth + 1) r.toJson :=
  readable_texts ["trigger_name", "table", "timing", "event"] rfl (by decide) (by simp)

theorem RoutineRow.readable_toJson [StandIns] (r : RoutineRow) : Readable false (depth + 1) r.toJson :=
  readable_texts ["name", "type"] rfl (by decide) (by simp)

theorem Diagnostics.readable_toJson [StandIns] (d : Diagnostics) : Readable false (depth + 3) d.toJson := by
  refine readable_obj ["schema_columns", "table_constraints", "indexes", "rls_policies", "triggers",
    "functions_and_procedures"] rfl (by decide) ?_
  simp only [List.forall_mem_cons]
  exact ⟨readable_records ColumnRow.readable_toJson _, readable_records ConstraintRow.readable_toJson _,
    readable_records IndexRow.readable_toJson _, readable_records PolicyRow.readable_toJson _,
    readable_records TriggerRow.readable_toJson _, readable_records RoutineRow.readable_toJson _, nofun⟩

theorem Diagnostics.readable_counts [StandIns] (few : d.rows < 10 ^ digitLimit) :
    Readable false (depth + 1) d.counts.toJson := by
  have count {n : Nat} (h : n ≤ d.rows) : Readable false depth (.int n) :=
    Readable.int (fewDigits_of_lt (Nat.lt_of_le_of_lt h few))
  have tables : d.tableNames.length ≤ d.columns.length :=
    (length_firsts_le _).trans (Nat.le_of_eq (List.length_map _))
  have routines (kind : RoutineKind) : d.routines.countP (·.kind = kind) ≤ d.routines.length := List.countP_le_length
  refine readable_obj ["tables", "columns", "constraints", "indexes", "rls_policies", "triggers", "functions",
    "procedures"] rfl (by decide) ?_
  simp only [List.forall_mem_cons, counts]
  refine ⟨count ?_, count ?_, count ?_, count ?_, count ?_, count ?_, count ?_, count ?_, nofun⟩
  all_goals unfold rows
  · omega
  · omega
  · omega
  · omega
  · omega
  · omega
  · have := routines .function
    omega
  · have := routines .procedure
    omega

theorem Artifact.readable_snapshot [StandIns] (few : d.rows < 10 ^ digitLimit) :
    Readable false (depth + 4) (snapshot stamp (some d) (some d.counts) none) := by
  refine readable_obj ["reportMetadata", "instructionsForAI", "auditStatus", "schemaDetails", "counts", "summary"] rfl
    (by decide) ?_
  simp only [List.forall_mem_cons]
  exact ⟨readable_texts ["tool", "purpose", "generatedAt"] rfl (by decide) (by simp), readable_strings _,
    readable_str _, d.readable_toJson, Diagnostics.readable_counts few, readable_str _, nofun⟩

set_option maxRecDepth 2000 in
theorem Artifact.inUtf8_snapshotInstructions [StandIns] : ∀ line ∈ snapshotInstructions, SchemaAudit.InUtf8 line := by
  intro line hline
  simp only [snapshotInstructions, List.mem_cons, List.not_mem_nil, or_false] at hline
  rcases hline with rfl | rfl | rfl | rfl
  all_goals exact inUtf8_of_ascii (by decide)

theorem Counts.inUtf8_toJson [StandIns] (c : Counts) : c.toJson.InUtf8 := by
  refine inUtf8_obj ?_
  simp only [List.forall_mem_cons]
  refine ⟨⟨?_, .int _⟩, ⟨?_, .int _⟩, ⟨?_, .int _⟩, ⟨?_, .int _⟩, ⟨?_, .int _⟩, ⟨?_, .int _⟩, ⟨?_, .int _⟩,
    ⟨?_, .int _⟩, nofun⟩
  all_goals exact inUtf8_of_ascii (by decide)

/-- A snapshot has only the texts of its document, and the time stamp, besides its own. -/
theorem Artifact.inUtf8_snapshot [StandIns] (hstamp : SchemaAudit.InUtf8 stamp) (hd : d.InUtf8) :
    (snapshot stamp (some d) (some d.counts) none).InUtf8 := by
  have htool : SchemaAudit.InUtf8 tool := inUtf8_of_ascii (by decide)
  have hsummary : SchemaAudit.InUtf8 s!"Schema diagnostic completed: {d.counts.tables} tables captured." := by
    simp only [inUtf8_append]
    exact ⟨⟨inUtf8_of_ascii (by decide), inUtf8_repr _⟩, inUtf8_of_ascii (by decide)⟩
  refine inUtf8_obj ?_
  simp only [List.forall_mem_cons]
  refine ⟨⟨inUtf8_of_ascii (by decide), inUtf8_obj ?_⟩,
    ⟨inUtf8_of_ascii (by decide), inUtf8_records fun line hl => inUtf8_str (inUtf8_snapshotInstructions line hl)⟩,
    ⟨inUtf8_of_ascii (by decide), inUtf8_str (inUtf8_of_ascii (by decide))⟩, ⟨inUtf8_of_ascii (by decide), hd⟩,
    ⟨inUtf8_of_ascii (by decide), d.counts.inUtf8_toJson⟩, ⟨inUtf8_of_ascii (by decide), inUtf8_str hsummary⟩, nofun⟩
  simp only [List.append_nil, List.forall_mem_cons]
  exact ⟨⟨inUtf8_of_ascii (by decide), inUtf8_str htool⟩,
    ⟨inUtf8_of_ascii (by decide), inUtf8_str (inUtf8_of_ascii (by decide))⟩,
    ⟨inUtf8_of_ascii (by decide), inUtf8_str hstamp⟩, nofun⟩

/-! ### Files that hold JSON -/

/-- The value that a file holds as JSON. -/
def FileStore.json? [StandIns] (s : FileStore) (path : Path) : Option Json :=
  match s.readText path with
  | .error _ => none
  | .ok text => (Json.parse text).toOption

/-- A member of the object that a file holds as JSON. -/
def FileStore.member? [StandIns] (s : FileStore) (path : Path) (name : String) : Option Json :=
  (s.json? path).bind (Json.get? name)

theorem FileStore.json?_eq_some_iff [StandIns] {v : Json} :
    s.json? path = some v ↔ ∃ text, s.readText path = .ok text ∧ Json.parse text = .ok v := by
  unfold json?
  cases s.readText path with
  | error fault => simp
  | ok text =>
    dsimp only
    cases hparse : Json.parse text <;> simp [Except.toOption, hparse]

theorem Json.Readable.of_inUtf8 [StandIns] {asciiOnly : Bool} {v : Json} (h : Readable false depth v) (hv : v.InUtf8) :
    Readable asciiOnly depth v := by
  induction h with
  | null => exact .null
  | bool b => exact .bool b
  | int few => exact .int few
  | str whole =>
    cases hv with
    | str chars => exact .str fun _ => chars
  | arr _ ih =>
    cases hv with
    | arr spelled => exact .arr fun x hx => ih x hx (spelled x hx)
  | obj names _ _ ih =>
    cases hv with
    | obj hnames spelled => exact .obj names (fun _ => hnames) fun m hm => ih m hm (spelled m hm)

/-- A file that holds a value as it is printed in any style holds that value. -/
theorem FileStore.json?_of_printed [StandIns]
    {v : Json} (style : Style) (h : Readable false depthLimit v) (hv : v.InUtf8)
    (hbytes : s.readBytes path = .ok (Text.encodeUtf8 (v.toText style).toList)) : s.json? path = some v := by
  refine json?_eq_some_iff.mpr ⟨_, readText_of_readBytes hbytes fun hc => ?_, ?_⟩
  · rw [Json.toText, String.toList_ofList] at hc
    exact (h.spelled.written 0 _ hc).ne_carriageReturn rfl
  · have readable : Readable style.asciiOnly depthLimit v := h.of_inUtf8 hv
    have hparse := readable.parse_toText (List.forall_mem_nil _)
    rwa [List.append_nil] at hparse

/-! ### Documents in files -/

namespace Diagnostics

/-- A document is loaded from a file that holds it by itself or as the details of a snapshot. -/
theorem load_of_json? [StandIns] {v : Json} (h : s.json? path = some v) (hd : d.toJson.Within (details v)) :
    load s path = .ok d := by
  obtain ⟨text, htext, hparse⟩ := FileStore.json?_eq_some_iff.mp h
  rw [load, htext]
  dsimp only
  rw [ofText, hparse]
  dsimp only
  rw [ofJson_of_within d hd]
  rfl

theorem within_toJson (d : Diagnostics) : d.toJson.Within d.toJson := by
  have readable : Readable false 3 d.toJson := d.readable_toJson
  exact readable.within_self

end Diagnostics

namespace Artifacts

variable {a : Artifacts}

theorem isPlain_snapshot : Path.IsPlain "schema-all.json" := ⟨by decide, by decide, by decide, by decide⟩

theorem isSendable_snapshotPath_iff [StandIns] : a.snapshotPath.IsSendable ↔ a.directory.IsSendable := by
  rw [snapshotPath, Path.isSendable_child_of_ascii_iff isPlain_snapshot (by decide), schema,
    Path.isSendable_child_of_ascii_iff ⟨by decide, by decide, by decide, by decide⟩ (by decide)]

/-- A document that was kept under a plain name is what its file holds. -/
theorem json?_of_keep [StandIns] {p : Path} {name : String} {document : Json} (hn : Path.IsPlain name)
    (readable : Readable false depthLimit document) (h : keep s (.ok (p.child name)) document = (s', .ok path)) :
    path = p.child name ∧ s'.json? path = some document := by
  obtain ⟨saved, hsaved, ends⟩ := keep_saves hn s document (p := p)
  rw [h] at hsaved ends
  cases saved with
  | error fault => cases hsaved
  | ok =>
    cases hsaved
    have htext := FileStore.readText_of_readBytes ends.readBytes_self (Artifact.carriageReturn_not_mem_text readable)
    exact ⟨rfl, FileStore.json?_eq_some_iff.mpr ⟨_, htext, Artifact.parse_text readable⟩⟩

/-- The file of a snapshot holds it. -/
theorem json?_of_writeSnapshot [StandIns] (few : d.rows < 10 ^ digitLimit)
    (h : a.writeSnapshot s (some d) (some d.counts) none = (s', .ok path)) :
    s'.json? path = some (Artifact.snapshot a.stamp (some d) (some d.counts) none) :=
  (json?_of_keep isPlain_snapshot (Artifact.readable_snapshot few) h).2

theorem load_of_writeSnapshot [StandIns] (few : d.rows < 10 ^ digitLimit)
    (h : a.writeSnapshot s (some d) (some d.counts) none = (s', .ok path)) : Diagnostics.load s' path = .ok d :=
  Diagnostics.load_of_json? (json?_of_writeSnapshot few h) d.within_toJson

theorem member?_of_writeSnapshot [StandIns] (few : d.rows < 10 ^ digitLimit)
    (h : a.writeSnapshot s (some d) (some d.counts) none = (s', .ok path)) :
    s'.member? path detailsKey = some d.toJson ∧ s'.member? path "counts" = some d.counts.toJson := by
  unfold FileStore.member?
  rw [json?_of_writeSnapshot few h]
  exact ⟨rfl, rfl⟩

end Artifacts

/-! ### Sources -/

namespace SchemaSource

/-- What a source tells of a table once it is made ready. -/
def tells {σ : Type} (source : SchemaSource σ) (s : FileStore) (memory : σ) (table : String) :
    Except Failure Snapshot :=
  match (source.prepare s memory).2.result with
  | .error f => .error f
  | .ok () => (source.snapshotFor s (source.prepare s memory).1 table).result

theorem tells_ofFeed {name table : String} {fetch : FileStore → Told Diagnostics} (h : (fetch s).result = .ok d) :
    (ofFeed name fetch).tells s .new table = .ok (d.snapshot table) := by
  simp only [tells, ofFeed, Feed.prepare, Feed.new, h]
  rfl

theorem tells_ofSaved [StandIns] {table : String} (h : Diagnostics.load s path = .ok d) :
    (ofSaved path).tells s .new table = .ok (d.snapshot table) := by
  refine tells_ofFeed ?_
  rw [h]
  rfl

end SchemaSource

/-! ### Saved and loaded -/

/-- What becomes of a document in files. It comes back out of the file of its snapshot, as long as its counts have no
more digits than are ever read, and out of a file that holds it by itself, with further members beside its own but no
details among them; what is saved of the loaded document has the same details and counts. A source for the file and one
for the store then tell the same of every table. -/
structure Diagnostics.ComesBack [StandIns] (d : Diagnostics) : Prop where
  saved : d.rows < 10 ^ digitLimit → ∀ (a : Artifacts) s s' path,
    a.writeSnapshot s (some d) (some d.counts) none = (s', .ok path) →
    load s' path = .ok d ∧
    (s'.member? path detailsKey = some d.toJson ∧ s'.member? path "counts" = some d.counts.toJson) ∧
    ∀ (a' : Artifacts) t t' path' d', load s' path = .ok d' →
      a'.writeSnapshot t (some d') (some d'.counts) none = (t', .ok path') →
      ∀ name ∈ [detailsKey, "counts"], t'.member? path' name = s'.member? path name
  bare : ∀ (s : FileStore) path v, s.json? path = some v → d.toJson.Within v → v.get? detailsKey = none →
    load s path = .ok d
  offline : ∀ s t path fetch, load s path = .ok d → fetch.result = .ok d → ∀ table,
    (SchemaSource.ofSaved path).tells s .new table = .ok (d.snapshot table) ∧
    (SchemaSource.ofStore fetch).tells t .new table = .ok (d.snapshot table) ∧
    (SchemaSource.ofDocument d).tells t (.holding d) table = .ok (d.snapshot table)

/-- A document that goes into files: its snapshot is written or refused by the system, unless the directory or the stamp
is at fault, and it is read again where it is printed by itself, in any style. -/
structure Diagnostics.GoesIn [StandIns] (d : Diagnostics) : Prop where
  saved : ∀ (a : Artifacts) s, SchemaAudit.InUtf8 a.stamp → a.directory.IsSendable →
    WrittenOrRefused (a.writeSnapshot s (some d) (some d.counts) none).2
  printed : ∀ (s : FileStore) path style, s.readBytes path = .ok (Text.encodeUtf8 (d.toJson.toText style).toList) →
    s.json? path = some d.toJson ∧ load s path = .ok d

theorem Diagnostics.comesBack [StandIns] (d : Diagnostics) : d.ComesBack where
  saved few a s s' path h := by
    refine ⟨a.load_of_writeSnapshot few h, a.member?_of_writeSnapshot few h, ?_⟩
    intro a' t t' path' d' hload h' name hname
    -- The loaded document is the one that was saved, so both snapshots are of one document.
    cases (a.load_of_writeSnapshot few h).symm.trans hload
    obtain ⟨hdetails, hcounts⟩ := a.member?_of_writeSnapshot few h
    obtain ⟨hdetails', hcounts'⟩ := a'.member?_of_writeSnapshot few h'
    simp only [List.mem_cons, List.not_mem_nil, or_false] at hname
    rcases hname with rfl | rfl
    · exact hdetails'.trans hdetails.symm
    · exact hcounts'.trans hcounts.symm
  bare s path v h hd hnone := by
    refine load_of_json? h ?_
    rw [details, hnone]
    exact hd
  offline s t path fetch hload hfetch table :=
    ⟨SchemaSource.tells_ofSaved hload, SchemaSource.tells_ofFeed hfetch, rfl⟩

theorem Diagnostics.goesIn [StandIns] {d : Diagnostics} (hd : d.InUtf8) : d.GoesIn where
  saved a s hstamp hs := Artifacts.keep_writtenOrRefused Artifacts.isPlain_snapshot
    (Artifacts.isSendable_snapshotPath_iff.mpr hs) (Artifact.inUtf8_snapshot hstamp hd) s
  printed s path style hbytes := by
    have hjson := FileStore.json?_of_printed style d.readable_toJson hd hbytes
    exact ⟨hjson, d.comesBack.bare s path _ hjson d.within_toJson rfl⟩

/-- Where no character stands in for a half, every document is in UTF-8. -/
theorem Diagnostics.inUtf8_of_none_standIn [StandIns] (d : Diagnostics) (h : ∀ c, Text.isStandIn c = false) :
    d.InUtf8 := by
  have readable : Readable false 3 d.toJson := d.readable_toJson
  exact readable.spelled.imp fun c _ => h c

/-- A document comes back out of files, whatever its strings are. It goes into files if its strings are in UTF-8, which
strings of characters always are: that is the choice of no stand-ins. -/
theorem Diagnostics.load_of_saved (d : Diagnostics) :
    (∀ [StandIns], d.ComesBack ∧ (d.InUtf8 → d.GoesIn)) ∧ @ComesBack .none d ∧ @GoesIn .none d := by
  have inUtf8 : @Diagnostics.InUtf8 .none d := @inUtf8_of_none_standIn .none d Text.isStandIn_none
  exact ⟨fun {_} => ⟨d.comesBack, goesIn⟩, @comesBack .none d, @goesIn .none d inUtf8⟩

/-- A document with quotes, backslashes, line ends and separators in its names. -/
def Diagnostics.awkward : Diagnostics :=
  ⟨[⟨"a\"b\\", "c\r\n\u2028", "\x01"⟩], [], [], [⟨"a\"b\\", "p", "ALL", none⟩], [], []⟩

theorem Diagnostics.inUtf8_awkward : awkward.InUtf8 := by
  have whole {chars : List Char} (h : chars.all (fun c => !Text.isStandIn c) = true) :
      SchemaAudit.InUtf8 (String.ofList chars) := by
    intro c hc
    rw [String.toList_ofList] at hc
    exact Bool.not_eq_true' _ ▸ List.all_eq_true.mp h c hc
  have name {chars : List Char} (h : chars.all (·.toNat < 0x80) = true) : SchemaAudit.InUtf8 (String.ofList chars) :=
    inUtf8_of_ascii h
  refine inUtf8_obj ?_
  simp only [List.forall_mem_cons]
  refine ⟨⟨name (by decide), inUtf8_records fun r hr => ?_⟩, ⟨name (by decide), inUtf8_records nofun⟩,
    ⟨name (by decide), inUtf8_records nofun⟩, ⟨name (by decide), inUtf8_records fun r hr => ?_⟩,
    ⟨name (by decide), inUtf8_records nofun⟩, ⟨name (by decide), inUtf8_records nofun⟩, nofun⟩
  · cases List.mem_singleton.mp hr
    refine inUtf8_obj ?_
    simp only [List.forall_mem_cons]
    exact ⟨⟨name (by decide), inUtf8_str (whole (by decide))⟩, ⟨name (by decide), inUtf8_str (whole (by decide))⟩,
      ⟨name (by decide), inUtf8_str (whole (by decide))⟩, nofun⟩
  · cases List.mem_singleton.mp hr
    refine inUtf8_obj ?_
    simp only [List.forall_mem_cons]
    exact ⟨⟨name (by decide), inUtf8_str (whole (by decide))⟩, ⟨name (by decide), inUtf8_str (whole (by decide))⟩,
      ⟨name (by decide), inUtf8_str (whole (by decide))⟩, ⟨name (by decide), .null⟩, nofun⟩

/-- That document, saved as a snapshot in a directory that is made for it, and printed to a file by itself. -/
theorem Diagnostics.load_of_saved_awkward : ∃ s',
    Artifacts.nearby.writeSnapshot Artifacts.nearbyStore (some awkward) (some awkward.counts) none =
      (s', .ok Artifacts.nearby.snapshotPath) ∧ load s' Artifacts.nearby.snapshotPath = .ok awkward ∧
    load { nodes := [(["w"], .directory), (["w", "d.json"], .file (Text.encodeUtf8
      (awkward.toJson.toText ⟨true, false⟩).toList))], here := ["w"] } ⟨"", ["d.json"]⟩ = .ok awkward := by
  have few : awkward.rows < 10 ^ digitLimit :=
    Nat.lt_of_lt_of_le (by decide : awkward.rows < 10 ^ 1) (Nat.pow_le_pow_right (by decide) (by decide))
  obtain ⟨comesBack, goesIn⟩ := (load_of_saved awkward).1
  have made : Artifacts.nearbyStore.ensureDirectories Artifacts.nearby.schema = (_, .ok ()) :=
    FileStore.ensureDirectories_made rfl
  have hstamp : SchemaAudit.InUtf8 Artifacts.nearby.stamp := inUtf8_of_ascii (by decide)
  have written := Artifacts.keep_of_made Artifacts.isPlain_snapshot made
    (q := ["w", "out", "schema", "schema-all.json"]) rfl rfl (Artifact.inUtf8_snapshot hstamp inUtf8_awkward)
  obtain ⟨hload, -⟩ := comesBack.saved few Artifacts.nearby _ _ _ written
  have printed := (goesIn inUtf8_awkward).printed
  exact ⟨_, written, hload, (printed _ _ _ (FileStore.readBytes_eq_ok_iff.mpr ⟨_, rfl, rfl, rfl⟩)).2⟩

end SchemaAudit
