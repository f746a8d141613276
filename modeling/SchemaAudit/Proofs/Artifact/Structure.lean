import SchemaAudit.Proofs.Diagnostics.Saved

/-! # The directory of snapshots and inspections

Snapshots and inspections are written one after another into one directory. The files for two tables are different ones
(`inspectionFile_injective`), and the file of a snapshot is that for a table named "all" and for no other table. So the
inspections of all other tables keep their files, whatever else is written, while a snapshot and the inspection of that
one table replace each other: `readBytes_of_structureWrites`. -/

namespace SchemaAudit

/-! ### Names of inspections -/

namespace Artifact

variable {table other : String} {c : Char}

/-- The name of a table's inspection. -/
def inspectionFile (table : String) : String :=
  String.ofList (['s', 'c', 'h', 'e', 'm', 'a', '-'] ++ keyOf table ++ ['.', 'j', 's', 'o', 'n'])

theorem inspectionFile_injective (h : inspectionFile table = inspectionFile other) : table = other := by
  have hchars := String.ofList_inj.mp h
  rw [List.append_left_inj, List.append_right_inj] at hchars
  exact keyOf_injective hchars

theorem inKeys_of_mem_inspectionFile (h : c ∈ (inspectionFile table).toList) : InKeys c := by
  have unreserved {text : List Char} (hall : text.all Text.Percent.isUnreserved = true) (hc : c ∈ text) : InKeys c :=
    Or.inl (List.all_eq_true.mp hall c hc)
  rw [inspectionFile, String.toList_ofList, List.mem_append, List.mem_append] at h
  rcases h with (h | h) | h
  · exact unreserved (by decide) h
  · exact inKeys_of_mem_keyOf h
  · exact unreserved (by decide) h

theorem isPlain_inspectionFile (table : String) : Path.IsPlain (inspectionFile table) := by
  have hlength : 12 ≤ (inspectionFile table).toList.length := by
    rw [inspectionFile, String.toList_ofList, List.length_append, List.length_append]
    exact Nat.add_le_add (Nat.le_add_right 7 _) (Nat.le_refl 5)
  have hne {name : String} (h : name.toList.length < 12) : inspectionFile table ≠ name := by
    rintro rfl
    exact absurd hlength (Nat.not_le_of_lt h)
  exact ⟨hne (by decide), hne (by decide), hne (by decide),
    fun h => (inKeys_of_mem_inspectionFile h).ne (by decide) (by decide) rfl⟩

/-- The file of a snapshot is the one for the inspection of a table named "all". -/
theorem inspectionFile_all : inspectionFile "all" = "schema-all.json" := by decide

end Artifact

/-! ### Calls that write them -/

/-- A call that writes a snapshot or an inspection, with the time stamp that it finds. -/
inductive StructureWrite where
  | snapshot (stamp : String) (d : Option Diagnostics) (counts : Option Counts) (error : Option String)
  | inspection (stamp table : String) (i : Option Inspection) (error : Option String)

namespace StructureWrite

/-- A store after a call, and what the call came to. -/
def apply [StandIns] (a : Artifacts) (s : FileStore) : StructureWrite → FileStore × Except WriteFault Path
  | snapshot stamp d counts error => { a with stamp := stamp }.writeSnapshot s d counts error
  | inspection stamp table i error => { a with stamp := stamp }.writeInspection s table i error

/-- The document that a call writes. -/
def document : StructureWrite → Json
  | snapshot stamp d counts error => Artifact.snapshot stamp d counts error
  | inspection stamp table i error => Artifact.inspection stamp table i error

/-- The path that a call writes to. -/
def path [StandIns] (a : Artifacts) : StructureWrite → Except WriteFault Path
  | snapshot _ _ _ _ => .ok a.snapshotPath
  | inspection _ table _ _ => a.inspectionPath table

/-- Whether a call writes a snapshot. -/
def isSnapshot : StructureWrite → Bool
  | snapshot _ _ _ _ => true
  | inspection _ _ _ _ => false

/-- Whether a call writes the inspection of a table. -/
def isInspectionOf (table : String) : StructureWrite → Bool
  | snapshot _ _ _ _ => false
  | inspection _ inspected _ _ => inspected = table

/-- The bytes of the document that a call writes. -/
def bytes [StandIns] (w : StructureWrite) : List UInt8 := Text.encodeUtf8 (Artifact.text w.document)

/-- A store after some calls. -/
def afterAll [StandIns] (a : Artifacts) (s : FileStore) : List StructureWrite → FileStore
  | [] => s
  | w :: ws => afterAll a (w.apply a s).1 ws

/-- Calls each of which writes its file. -/
def AllWritten [StandIns] (a : Artifacts) (s : FileStore) : List StructureWrite → Prop
  | [] => True
  | w :: ws => (∃ path, (w.apply a s).2 = .ok path) ∧ AllWritten a (w.apply a s).1 ws

/-- The last of some calls that is of a kind. -/
def last? (kind : StructureWrite → Bool) (ws : List StructureWrite) : Option StructureWrite := ws.reverse.find? kind

/-- The table whose inspection has the file that a call writes. -/
def subject : StructureWrite → String
  | snapshot _ _ _ _ => "all"
  | inspection _ table _ _ => table

/-- Calls of one kind and, for inspections, of one table; or a snapshot and the inspection of the table named "all". -/
def SharesFile : StructureWrite → StructureWrite → Prop
  | snapshot _ _ _ _, snapshot _ _ _ _ => True
  | snapshot _ _ _ _, inspection _ table _ _ => table = "all"
  | inspection _ table _ _, snapshot _ _ _ _ => table = "all"
  | inspection _ table _ _, inspection _ other _ _ => table = other

variable {a : Artifacts} {s : FileStore} {w w' : StructureWrite} {ws : List StructureWrite} {table : String}
  {kind : StructureWrite → Bool}

theorem sharesFile_iff : SharesFile w w' ↔ w.subject = w'.subject := by
  cases w <;> cases w' <;> simp [SharesFile, subject, eq_comm]

/-! ### One call -/

/-- Where the inspection of a table goes. -/
def fileOf (a : Artifacts) (table : String) : Path := a.schema.child (Artifact.inspectionFile table)

theorem snapshotPath_eq (a : Artifacts) : a.snapshotPath = fileOf a "all" := by
  rw [Artifacts.snapshotPath, fileOf, Artifact.inspectionFile_all]

theorem inspectionPath_eq [StandIns] (a : Artifacts) (table : String) : a.inspectionPath table =
    match Text.outsideUtf8? table.toList with
    | some outside => .error (.notUtf8 outside)
    | none => .ok (fileOf a table) := by
  rw [Artifacts.inspectionPath, Artifact.key_eq]
  cases Text.outsideUtf8? table.toList with
  | some outside => rfl
  | none =>
    refine congrArg Except.ok (congrArg a.schema.child ?_)
    rw [Artifact.inspectionFile, String.ofList_append, String.ofList_append]
    rfl

theorem eq_of_inspectionPath [StandIns] {path : Path} (h : a.inspectionPath table = .ok path) :
    path = fileOf a table := by
  rw [inspectionPath_eq] at h
  split at h
  · cases h
  · cases h
    rfl

theorem eq_of_path [StandIns] {path : Path} (h : w.path a = .ok path) : path = fileOf a w.subject := by
  cases w with
  | snapshot stamp d counts error =>
    cases h
    exact snapshotPath_eq a
  | inspection stamp table i error => exact eq_of_inspectionPath h

theorem fileOf_injective {other : String} (h : fileOf a table = fileOf a other) : table = other := by
  have hplain := Artifact.isPlain_inspectionFile
  rw [fileOf, fileOf, Path.child_of_plain _ (hplain table), Path.child_of_plain _ (hplain other), Path.mk.injEq,
    List.append_cancel_left_eq, List.cons.injEq] at h
  exact Artifact.inspectionFile_injective h.2.1

theorem apply_eq_keep [StandIns] (w : StructureWrite) (a : Artifacts) (s : FileStore) :
    w.apply a s = Artifacts.keep s (w.path a) w.document := by
  cases w <;> rfl

/-- A call saves its document in the file for its subject, or writes nothing if its table has no key. -/
theorem apply_cases [StandIns] (w : StructureWrite) (a : Artifacts) (s : FileStore) :
    (∃ fault, w.apply a s = (s, .error fault)) ∨
    ∃ saved, (w.apply a s).2 = saved.map (fun _ => fileOf a w.subject) ∧
      FileStore.SaveEnds s a.schema (Artifact.inspectionFile w.subject) (Artifact.text w.document)
        (w.apply a s).1 saved := by
  rw [apply_eq_keep]
  cases hpath : w.path a with
  | error fault => exact Or.inl ⟨fault, rfl⟩
  | ok path =>
    rw [eq_of_path hpath]
    exact Or.inr (Artifacts.keep_saves (Artifact.isPlain_inspectionFile _) s w.document)

theorem kept_apply [StandIns] (w : StructureWrite) (a : Artifacts) (s : FileStore) :
    FileStore.Kept (fun q => (w.apply a s).1.place (fileOf a w.subject) = .ok q) s (w.apply a s).1 := by
  rcases w.apply_cases a s with ⟨fault, hw⟩ | ⟨saved, -, ends⟩
  · rw [hw]
    exact FileStore.Kept.refl s
  · exact ends.kept

theorem readBytes_of_apply [StandIns] {path : Path} (h : (w.apply a s).2 = .ok path) :
    (w.apply a s).1.readBytes (fileOf a w.subject) = .ok w.bytes := by
  rcases w.apply_cases a s with ⟨fault, hw⟩ | ⟨saved, hsaved, ends⟩
  · rw [hw] at h
    cases h
  · cases saved with
    | error fault => cases hsaved.symm.trans h
    | ok => exact ends.readBytes_self

/-! ### Calls one after another -/

/-- Calls leave everything as it was but for the files of their subjects. -/
theorem kept_afterAll [StandIns] (a : Artifacts) (s : FileStore) (ws : List StructureWrite) :
    FileStore.Kept (fun q => ∃ w ∈ ws, (afterAll a s ws).place (fileOf a w.subject) = .ok q) s (afterAll a s ws) := by
  induction ws generalizing s with
  | nil => exact FileStore.Kept.refl s
  | cons w ws ih =>
    have rest := ih (w.apply a s).1
    have first : FileStore.Kept (fun q => ∃ x ∈ w :: ws, (afterAll a s (w :: ws)).place (fileOf a x.subject) = .ok q)
        s (w.apply a s).1 :=
      (w.kept_apply a s).mono fun q hq => ⟨w, List.mem_cons_self, rest.place hq⟩
    exact first.trans (rest.mono fun q ⟨x, hx, hq⟩ => ⟨x, List.mem_cons_of_mem w hx, hq⟩)

/-- Calls do not touch the file of a table that is the subject of none of them. -/
theorem untouched_afterAll [StandIns] (h : ∀ w ∈ ws, w.subject ≠ table) :
    FileStore.Untouched (fileOf a table) s (afterAll a s ws) := by
  have kept := kept_afterAll a s ws
  refine ⟨fun q hq => kept.place hq, kept.locked, fun q hq => kept.file q fun ⟨w, hw, hown⟩ => ?_⟩
  have hne : Artifact.inspectionFile w.subject ≠ Artifact.inspectionFile table :=
    fun heq => h w hw (Artifact.inspectionFile_injective heq)
  exact FileStore.place_child_ne (Artifact.isPlain_inspectionFile _) (Artifact.isPlain_inspectionFile _) hne hown hq rfl

theorem afterAll_append [StandIns] (a : Artifacts) (s : FileStore) (ws ws' : List StructureWrite) :
    afterAll a s (ws ++ ws') = afterAll a (afterAll a s ws) ws' := by
  induction ws generalizing s with
  | nil => rfl
  | cons w ws ih => exact ih _

theorem AllWritten.of_append [StandIns] {ws' : List StructureWrite} (h : AllWritten a s (ws ++ ws')) :
    AllWritten a (afterAll a s ws) ws' := by
  induction ws generalizing s with
  | nil => exact h
  | cons w ws ih => exact ih h.2

theorem exists_of_last? (h : last? kind ws = some w) :
    kind w = true ∧ ∃ earlier later, ws = earlier ++ w :: later ∧ ∀ x ∈ later, kind x = false := by
  obtain ⟨hkind, later, earlier, hws, hlater⟩ := List.find?_eq_some_iff_append.mp h
  refine ⟨hkind, earlier.reverse, later.reverse, ?_, fun x hx => ?_⟩
  · rw [← List.reverse_reverse ws, hws, List.reverse_append, List.reverse_cons, List.append_assoc,
      List.singleton_append]
  · simpa using hlater x (List.mem_reverse.mp hx)

theorem kind_of_last?_eq_none (h : last? kind ws = none) : ∀ w ∈ ws, kind w = false := by
  intro w hw
  simpa using List.find?_eq_none.mp h w (List.mem_reverse.mpr hw)

/-- A kind of calls that are those with one subject. -/
def Picks (kind : StructureWrite → Bool) (table : String) : Prop := ∀ w, kind w = true ↔ w.subject = table

/-- The file of a subject holds the document of the last call that has the subject. -/
theorem readBytes_afterAll [StandIns]
    (hkind : Picks kind table) (written : AllWritten a s ws) (h : last? kind ws = some w) :
    (afterAll a s ws).readBytes (fileOf a table) = .ok w.bytes := by
  obtain ⟨hw, earlier, later, rfl, hlater⟩ := exists_of_last? h
  obtain rfl := (hkind w).mp hw
  obtain ⟨⟨path, hpath⟩, -⟩ := written.of_append
  have hfresh : ∀ x ∈ later, x.subject ≠ w.subject := by
    intro x hx heq
    have hno := hlater x hx
    rw [(hkind x).mpr heq] at hno
    cases hno
  rw [afterAll_append, afterAll]
  exact (untouched_afterAll hfresh).readBytes (readBytes_of_apply hpath)

theorem untouched_of_last? [StandIns] (hkind : Picks kind table) (h : last? kind ws = none) :
    FileStore.Untouched (fileOf a table) s (afterAll a s ws) := by
  refine untouched_afterAll fun w hw heq => ?_
  have hno := kind_of_last?_eq_none h w hw
  rw [(hkind w).mpr heq] at hno
  cases hno

/-- Calls write their documents where their directory is there, their files can be opened and the device takes
everything. -/
theorem allWritten_of_free [StandIns]
    {d : Place} (hd : s.HasDirectory a.schema d) (takes : ∀ q bytes, s.stops q bytes = none)
    (h : ∀ w ∈ ws, w.document.InUtf8 ∧ w.path a = .ok (fileOf a w.subject) ∧
      ∃ q, s.placeToWrite (fileOf a w.subject) = .ok q) : AllWritten a s ws := by
  induction ws generalizing s with
  | nil => trivial
  | cons w ws ih =>
    rw [List.forall_mem_cons] at h
    obtain ⟨⟨hdoc, hpath, q, hq⟩, hrest⟩ := h
    obtain ⟨-, free, -⟩ := FileStore.placeToWrite_eq_ok_iff.mp hq
    have happly : w.apply a s = (s.put q (.file w.bytes), .ok (fileOf a w.subject)) := by
      rw [apply_eq_keep, hpath]
      exact Artifacts.keep_of_made (Artifact.isPlain_inspectionFile _) (FileStore.ensureDirectories_of_hasDirectory hd)
        hq (takes _ _) hdoc
    have kept : FileStore.Kept (fun r => r = q) s (s.put q (.file w.bytes)) := FileStore.kept_putFile free
    rw [AllWritten, happly]
    refine ⟨⟨_, rfl⟩, ih (kept.hasDirectory hd) takes fun x hx => ?_⟩
    obtain ⟨hdoc', hpath', r, hr⟩ := hrest x hx
    obtain ⟨place', free', unlocked'⟩ := FileStore.placeToWrite_eq_ok_iff.mp hr
    refine ⟨hdoc', hpath', r, FileStore.placeToWrite_eq_ok_iff.mpr ⟨kept.place place', ?_, unlocked'⟩⟩
    by_cases hrq : r = q
    · rw [hrq, FileStore.node?_put_self (FileStore.ne_root_of_node?_ne free)]
      exact nofun
    · rwa [FileStore.node?_put_of_ne hrq]

theorem picks_snapshotOrAll : Picks (fun w => w.isSnapshot || w.isInspectionOf "all") "all" := by
  intro w
  cases w <;> simp [isSnapshot, isInspectionOf, subject]

theorem picks_inspectionOf (h : table ≠ "all") : Picks (isInspectionOf table) table := by
  intro w
  cases w <;> simp [isInspectionOf, subject, h.symm]

end StructureWrite

open StructureWrite

/-- After any calls that each wrote their file, the file of the snapshot holds the document of the last call that wrote
a snapshot or the inspection of a table named "all", and is not touched if there was none; the file of any other table
holds the document of the last inspection of that table, and is not touched if there was none. Two calls write to one
path exactly if they are of one kind and, for inspections, of one table, or are a snapshot and an inspection of
"all". -/
theorem Artifacts.readBytes_of_structureWrites [StandIns] (a : Artifacts) (s : FileStore) (ws : List StructureWrite)
    (written : AllWritten a s ws) :
    (∀ w, last? (fun w => w.isSnapshot || w.isInspectionOf "all") ws = some w →
      (afterAll a s ws).readBytes a.snapshotPath = .ok w.bytes) ∧
    (last? (fun w => w.isSnapshot || w.isInspectionOf "all") ws = none →
      FileStore.Untouched a.snapshotPath s (afterAll a s ws)) ∧
    (∀ table path, table ≠ "all" → a.inspectionPath table = .ok path →
      (∀ w, last? (isInspectionOf table) ws = some w → (afterAll a s ws).readBytes path = .ok w.bytes) ∧
      (last? (isInspectionOf table) ws = none → FileStore.Untouched path s (afterAll a s ws))) ∧
    ∀ (w w' : StructureWrite) (path path' : Path), w.path a = .ok path → w'.path a = .ok path' →
      (path = path' ↔ w.SharesFile w') := by
  refine ⟨fun w h => ?_, fun h => ?_, fun table path hne hpath => ?_, fun w w' path path' h h' => ?_⟩
  · rw [snapshotPath_eq]
    exact readBytes_afterAll picks_snapshotOrAll written h
  · rw [snapshotPath_eq]
    exact untouched_of_last? picks_snapshotOrAll h
  · rw [eq_of_inspectionPath hpath]
    exact ⟨fun w h => readBytes_afterAll (picks_inspectionOf hne) written h,
      fun h => untouched_of_last? (picks_inspectionOf hne) h⟩
  · rw [eq_of_path h, eq_of_path h', sharesFile_iff]
    exact ⟨fileOf_injective, fun heq => by rw [heq]⟩

set_option maxRecDepth 2000 in
theorem Artifact.inUtf8_inspectionInstructions [StandIns] : ∀ line ∈ inspectionInstructions, InUtf8 line := by
  intro line hline
  simp only [inspectionInstructions, List.mem_cons, List.not_mem_nil, or_false] at hline
  rcases hline with rfl | rfl | rfl
  all_goals exact inUtf8_of_ascii (by decide)

/-- The document of an inspection that failed has only the texts that it is given besides its own. -/
theorem Artifact.inUtf8_failedInspection [StandIns]
    {stamp table error : String} (hstamp : InUtf8 stamp) (htable : InUtf8 table)
    (herror : InUtf8 error) : (inspection stamp table none (some error)).InUtf8 := by
  have hpurpose : InUtf8 s!"Structural diagnostic of table '{table}'." := by
    simp only [inUtf8_append]
    exact ⟨⟨inUtf8_of_ascii (by decide), htable⟩, inUtf8_of_ascii (by decide)⟩
  have hsummary : InUtf8 s!"Schema inspection of '{table}' failed: {errorWords (some error)}" := by
    simp only [inUtf8_append]
    exact ⟨⟨⟨inUtf8_of_ascii (by decide), htable⟩, inUtf8_of_ascii (by decide)⟩, herror⟩
  refine Json.inUtf8_obj ?_
  simp only [List.forall_mem_cons]
  refine ⟨⟨inUtf8_of_ascii (by decide), Json.inUtf8_obj ?_⟩, ⟨inUtf8_of_ascii (by decide),
      Json.inUtf8_records fun line hl => Json.inUtf8_str (inUtf8_inspectionInstructions line hl)⟩,
    ⟨inUtf8_of_ascii (by decide), Json.inUtf8_str (inUtf8_of_ascii (by decide))⟩, ⟨inUtf8_of_ascii (by decide), .null⟩,
    ⟨inUtf8_of_ascii (by decide), Json.inUtf8_str hsummary⟩, nofun⟩
  simp only [List.cons_append, List.nil_append, List.forall_mem_cons]
  exact ⟨⟨inUtf8_of_ascii (by decide), Json.inUtf8_str (inUtf8_of_ascii (by decide))⟩,
    ⟨inUtf8_of_ascii (by decide), Json.inUtf8_str hpurpose⟩, ⟨inUtf8_of_ascii (by decide), Json.inUtf8_str hstamp⟩,
    ⟨inUtf8_of_ascii (by decide), Json.inUtf8_str htable⟩, nofun⟩

/-- A store that has the directory of snapshots and inspections, with nothing in it yet. -/
def Artifacts.emptySchemaStore : FileStore where
  nodes := [(["w"], .directory), (["w", "out"], .directory), (["w", "out", "schema"], .directory)]
  here := ["w"]

/-- The snapshot of an empty document, and failed inspections of two tables. -/
def StructureWrite.calls : List StructureWrite := [
  .snapshot "now" (some ⟨[], [], [], [], [], []⟩) (some (Diagnostics.counts ⟨[], [], [], [], [], []⟩)) none,
  .inspection "now" "a/b" none (some "gone"),
  .inspection "later" "all" none (some "gone")]

/-- The snapshot is written over by the inspection of the table named "all", the inspection of the other one is not. -/
theorem Artifacts.readBytes_of_inspectedAll :
    AllWritten nearby emptySchemaStore calls ∧
    (afterAll nearby emptySchemaStore calls).readBytes nearby.snapshotPath =
      .ok (StructureWrite.inspection "later" "all" none (some "gone")).bytes ∧
    (afterAll nearby emptySchemaStore calls).readBytes (nearby.schema.child "schema-a%2Fb.json") =
      .ok (StructureWrite.inspection "now" "a/b" none (some "gone")).bytes := by
  have ascii {chars : List Char} (h : chars.all (·.toNat < 0x80) = true) : InUtf8 (String.ofList chars) :=
    inUtf8_of_ascii h
  have written : AllWritten nearby emptySchemaStore calls := by
    refine allWritten_of_free (d := ["w", "out", "schema"]) ⟨rfl, rfl⟩ (fun _ _ => rfl) ?_
    have empty : Json.InUtf8 (Diagnostics.toJson ⟨[], [], [], [], [], []⟩) := by
      refine Json.inUtf8_obj ?_
      simp only [List.forall_mem_cons]
      exact ⟨⟨ascii (by decide), Json.inUtf8_records nofun⟩, ⟨ascii (by decide), Json.inUtf8_records nofun⟩,
        ⟨ascii (by decide), Json.inUtf8_records nofun⟩, ⟨ascii (by decide), Json.inUtf8_records nofun⟩,
        ⟨ascii (by decide), Json.inUtf8_records nofun⟩, ⟨ascii (by decide), Json.inUtf8_records nofun⟩, nofun⟩
    rw [calls]
    simp only [List.forall_mem_cons]
    refine ⟨⟨Artifact.inUtf8_snapshot (ascii (by decide)) empty, congrArg Except.ok (snapshotPath_eq nearby),
        ["w", "out", "schema", "schema-all.json"], rfl⟩,
      ⟨Artifact.inUtf8_failedInspection (ascii (by decide)) (ascii (by decide)) (ascii (by decide)), rfl,
        ["w", "out", "schema", "schema-a%2Fb.json"], rfl⟩,
      ⟨Artifact.inUtf8_failedInspection (ascii (by decide)) (ascii (by decide)) (ascii (by decide)), rfl,
        ["w", "out", "schema", "schema-all.json"], rfl⟩, nofun⟩
  obtain ⟨snapshot, -, inspections, -⟩ := readBytes_of_structureWrites nearby emptySchemaStore calls written
  exact ⟨written, snapshot _ rfl, (inspections "a/b" _ (by decide) rfl).1 _ rfl⟩

end SchemaAudit
