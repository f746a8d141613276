import SchemaAudit.Proofs.Artifact.Writer
import SchemaAudit.Proofs.Text.Quoted

/-! # Reports in UTF-8

A report whose texts are all in UTF-8 is written or refused by the system, in every store, as long as the path of the
directory can be handed to the system at all: `Artifacts.writtenOrRefused`. A path that cannot be is the other way
round told of whatever the report is. -/

namespace SchemaAudit

/-- A text that UTF-8 has bytes for. -/
def InUtf8 [StandIns] (s : String) : Prop := ∀ c ∈ s.toList, Text.isStandIn c = false

theorem inUtf8_iff [StandIns] {s : String} :
    InUtf8 s ↔ Text.outsideUtf8? s.toList = none := Text.outsideUtf8?_eq_none_iff.symm

/-- What is outside UTF-8 are halves of pairs, and nothing else. -/
theorem inUtf8_iff_codePoint [StandIns] {s : String} :
    InUtf8 s ↔ ∀ c ∈ s.toList, Text.isHalf (Text.codePoint c) = false := by
  refine forall₂_congr fun c _ => ?_
  rw [Text.isHalf_codePoint_eq]

/-- Where no character stands in for a half, every text is in UTF-8. -/
theorem inUtf8_none (s : String) : @InUtf8 .none s := fun c _ => Text.isStandIn_none c

theorem inUtf8_append [StandIns] {s t : String} : InUtf8 (s ++ t) ↔ InUtf8 s ∧ InUtf8 t := by
  simp only [InUtf8, String.toList_append, List.forall_mem_append]

/-- A text of ASCII. Literals are given by their characters here, which is how they are cheap to look through. -/
theorem inUtf8_of_ascii [StandIns] {chars : List Char} (h : chars.all (·.toNat < 0x80) = true) :
    InUtf8 (String.ofList chars) := by
  simp only [List.all_eq_true, decide_eq_true_eq] at h
  intro c hc
  rw [String.toList_ofList] at hc
  exact Text.isStandIn_of_ascii (h c hc)

theorem inUtf8_repr [StandIns] (n : Nat) : InUtf8 (Nat.repr n) := by
  intro c hc
  refine Text.isStandIn_of_ascii ?_
  rw [Nat.toList_repr] at hc
  have hdigit := Nat.isDigit_of_mem_toDigits (by decide) (by decide) hc
  simp only [Char.isDigit, Bool.and_eq_true, decide_eq_true_eq] at hdigit
  exact Nat.lt_of_le_of_lt (UInt32.le_iff_toNat_le.mp hdigit.2) (by decide)

theorem inUtf8_intercalate [StandIns] {separator : String} (hseparator : InUtf8 separator) {texts : List String}
    (h : ∀ text ∈ texts, InUtf8 text) : InUtf8 (separator.intercalate texts) := by
  induction texts with
  | nil => exact inUtf8_of_ascii (by decide)
  | cons text texts ih =>
    rw [List.forall_mem_cons] at h
    by_cases hnil : texts = []
    · subst hnil
      rw [String.intercalate_singleton]
      exact h.1
    · rw [String.intercalate_cons_of_ne_nil hnil]
      exact inUtf8_append.mpr ⟨inUtf8_append.mpr ⟨h.1, hseparator⟩, ih h.2⟩

theorem inUtf8_inQuotes [StandIns] {text : String} (h : InUtf8 text) : InUtf8 (Text.inQuotes text) := by
  intro c hc
  rw [Text.inQuotes, String.toList_ofList] at hc
  rcases Text.mem_quoted hc with hascii | hmem
  · exact Text.isStandIn_of_ascii hascii
  · exact h c hmem

/-- A report whose texts are all in UTF-8. -/
structure Report.InUtf8 [StandIns] (r : Report) : Prop where
  table : SchemaAudit.InUtf8 r.table
  columns : ∀ col ∈ r.missing ++ r.extraneous,
    SchemaAudit.InUtf8 col.table ∧ SchemaAudit.InUtf8 col.name ∧ SchemaAudit.InUtf8 col.type
  mismatched : ∀ m ∈ r.mismatched,
    SchemaAudit.InUtf8 m.column ∧ SchemaAudit.InUtf8 m.expected ∧ SchemaAudit.InUtf8 m.actual
  error : ∀ e, r.error = some e → SchemaAudit.InUtf8 e

theorem Report.inUtf8_summaryLine [StandIns] {r : Report} (h : r.InUtf8) : SchemaAudit.InUtf8 r.summaryLine := by
  unfold summaryLine
  split
  · rename_i _ e he
    simp only [inUtf8_append]
    exact ⟨⟨⟨h.table, inUtf8_of_ascii (by decide)⟩, h.error e he⟩, inUtf8_of_ascii (by decide)⟩
  · simp only [inUtf8_append]
    exact ⟨h.table, inUtf8_of_ascii (by decide)⟩
  · simp only [inUtf8_append]
    exact ⟨h.table, inUtf8_of_ascii (by decide)⟩
  · simp only [inUtf8_append]
    exact ⟨⟨⟨⟨⟨⟨⟨h.table, inUtf8_of_ascii (by decide)⟩, inUtf8_repr _⟩, inUtf8_of_ascii (by decide)⟩, inUtf8_repr _⟩,
      inUtf8_of_ascii (by decide)⟩, inUtf8_repr _⟩, inUtf8_of_ascii (by decide)⟩

/-! ### Documents -/

/-- A value whose strings are all in UTF-8. -/
def Json.InUtf8 [StandIns] (v : Json) : Prop := Json.Spelled (fun c => Text.isStandIn c = false) v

theorem Json.inUtf8_obj [StandIns] {ms : List (String × Json)} (h : ∀ m ∈ ms, SchemaAudit.InUtf8 m.1 ∧ m.2.InUtf8) :
    (Json.obj ms).InUtf8 := Json.Spelled.obj (fun m hm => (h m hm).1) fun m hm => (h m hm).2

theorem Json.inUtf8_records [StandIns] {α : Type} {toJson : α → Json} {as : List α} (h : ∀ a ∈ as, (toJson a).InUtf8) :
    (Json.arr (as.map toJson)).InUtf8 := by
  refine Json.Spelled.arr fun x hx => ?_
  obtain ⟨a, ha, rfl⟩ := List.mem_map.mp hx
  exact h a ha

theorem Json.inUtf8_str [StandIns] {s : String} (h : SchemaAudit.InUtf8 s) : (Json.str s).InUtf8 := Json.Spelled.str h

namespace Artifact

open Json (Spelled)

variable {stamp contractSource schemaSource : String} {r : Report}

set_option maxRecDepth 2000 in
theorem inUtf8_instructions [StandIns] : ∀ line ∈ reportInstructions, InUtf8 line := by
  intro line hline
  simp only [reportInstructions, List.mem_cons, List.not_mem_nil, or_false] at hline
  rcases hline with rfl | rfl | rfl | rfl
  all_goals exact inUtf8_of_ascii (by decide)

/-- The document of a report has only the texts of the report, and the sources' names, besides its own. -/
theorem inUtf8_report [StandIns]
    (hstamp : InUtf8 stamp) (hcontract : InUtf8 contractSource) (hschema : InUtf8 schemaSource)
    (h : r.InUtf8) : (report stamp r contractSource schemaSource).InUtf8 := by
  have column (col : Column) (hcol : col ∈ r.missing ++ r.extraneous) : col.toJson.InUtf8 := by
    obtain ⟨htable, hname, htype⟩ := h.columns col hcol
    refine Json.inUtf8_obj ?_
    simp only [List.forall_mem_cons]
    exact ⟨⟨inUtf8_of_ascii (by decide), Json.inUtf8_str htable⟩, ⟨inUtf8_of_ascii (by decide), Json.inUtf8_str hname⟩,
      ⟨inUtf8_of_ascii (by decide), Json.inUtf8_str htype⟩, nofun⟩
  have mismatch (m : Mismatch) (hm : m ∈ r.mismatched) : m.toJson.InUtf8 := by
    obtain ⟨hcolumn, hexpected, hactual⟩ := h.mismatched m hm
    refine Json.inUtf8_obj ?_
    simp only [List.forall_mem_cons]
    exact ⟨⟨inUtf8_of_ascii (by decide), Json.inUtf8_str hcolumn⟩,
      ⟨inUtf8_of_ascii (by decide), Json.inUtf8_str hexpected⟩,
      ⟨inUtf8_of_ascii (by decide), Json.inUtf8_str hactual⟩, nofun⟩
  refine Json.inUtf8_obj fun m hm => ?_
  simp only [Report.members, List.mem_append, List.mem_cons, List.not_mem_nil, or_false] at hm
  rcases hm with ((rfl | rfl) | rfl | rfl | rfl | rfl | rfl | rfl) | rfl
  all_goals refine ⟨inUtf8_of_ascii (by decide), ?_⟩
  · have hpurpose : InUtf8 s!"Consistency audit between the contract and the authoritative schema of '{r.table}'." := by
      simp only [inUtf8_append]
      exact ⟨⟨inUtf8_of_ascii (by decide), h.table⟩, inUtf8_of_ascii (by decide)⟩
    refine Json.inUtf8_obj ?_
    simp only [List.cons_append, List.nil_append, List.forall_mem_cons]
    exact ⟨⟨inUtf8_of_ascii (by decide), Json.inUtf8_str (inUtf8_of_ascii (by decide))⟩,
      ⟨inUtf8_of_ascii (by decide), Json.inUtf8_str hpurpose⟩,
      ⟨inUtf8_of_ascii (by decide), Json.inUtf8_str hstamp⟩,
      ⟨inUtf8_of_ascii (by decide), Json.inUtf8_str hcontract⟩,
      ⟨inUtf8_of_ascii (by decide), Json.inUtf8_str hschema⟩, nofun⟩
  · exact Json.inUtf8_records fun line hl => Json.inUtf8_str (inUtf8_instructions line hl)
  · exact Json.inUtf8_str h.table
  · exact Json.inUtf8_records fun col hcol => column col (List.mem_append_left _ hcol)
  · exact Json.inUtf8_records fun col hcol => column col (List.mem_append_right _ hcol)
  · exact Json.inUtf8_records mismatch
  · cases r.status <;> exact Json.inUtf8_str (inUtf8_of_ascii (by decide))
  · cases he : r.error with
    | none => exact Spelled.null
    | some e => exact Json.inUtf8_str (h.error e he)
  · exact Json.inUtf8_str (Report.inUtf8_summaryLine h)

end Artifact

/-! ### Writing -/

namespace Artifacts

variable {a : Artifacts} {s : FileStore} {r : Report} {table contractSource schemaSource : String}

theorem isSendable_consistency_iff [StandIns] : a.consistency.IsSendable ↔ a.directory.IsSendable :=
  Path.isSendable_child_of_ascii_iff ⟨by decide, by decide, by decide, by decide⟩ (by decide)

theorem isSendable_report [StandIns] (h : a.directory.IsSendable) :
    (a.consistency.child (Artifact.reportFile table)).IsSendable :=
  (Path.isSendable_child_iff (Artifact.isPlain_reportFile table)).mpr
    ⟨isSendable_consistency_iff.mpr h, fun _ hc => (Artifact.inKeys_of_mem_reportFile hc).sendable⟩

/-- A document in UTF-8 is written or refused by the system, if the path can be handed to it. -/
theorem keep_writtenOrRefused [StandIns] {p : Path} {name : String} {document : Json} (hn : Path.IsPlain name)
    (hs : (p.child name).IsSendable) (hdoc : document.InUtf8) (s : FileStore) :
    WrittenOrRefused (keep s (.ok (p.child name)) document).2 := by
  intro fault hfault
  obtain ⟨saved, hsaved, ends⟩ := keep_saves hn s document
  rw [hsaved] at hfault
  generalize (keep s (.ok (p.child name)) document).1 = s' at ends
  cases ends with
  | refused fault reason =>
    cases hfault
    cases fault with
    | refused refusal q => rfl
    | unsent cause => exact absurd hs (reason cause rfl)
  | spoilt made below place unencodable =>
    rw [Artifact.outsideUtf8?_text hdoc] at unencodable
    cases unencodable
  | stopped made below place encodable stops =>
    cases hfault
    rfl
  | written made below place encodable takes => cases hfault

/-- Where its directory can be made and its file can be opened, a document in UTF-8 comes to what the device makes of it. -/
theorem keep_of_opened [StandIns]
    {s' : FileStore} {p : Path} {q : Place} {name : String} {document : Json} (hn : Path.IsPlain name)
    (made : s.ensureDirectories p = (s', .ok ())) (hq : s'.placeToWrite (p.child name) = .ok q)
    (hdoc : document.InUtf8) : keep s (.ok (p.child name)) document =
      (s'.put q (.file (s'.taken q (Text.encodeUtf8 (Artifact.text document)))),
        (s'.taking q (Text.encodeUtf8 (Artifact.text document))).map fun _ => p.child name) := by
  rw [keep_ok, FileStore.save_of_made hn made, FileStore.writeText_of_placeToWrite hq (Artifact.outsideUtf8?_text hdoc)]

/-- It is written if the device takes it. -/
theorem keep_of_made [StandIns]
    {s' : FileStore} {p : Path} {q : Place} {name : String} {document : Json} (hn : Path.IsPlain name)
    (made : s.ensureDirectories p = (s', .ok ())) (hq : s'.placeToWrite (p.child name) = .ok q)
    (takes : s'.stops q (Text.encodeUtf8 (Artifact.text document)) = none) (hdoc : document.InUtf8) :
    keep s (.ok (p.child name)) document =
      (s'.put q (.file (Text.encodeUtf8 (Artifact.text document))), .ok (p.child name)) := by
  rw [keep_of_opened hn made hq hdoc, FileStore.taken_of_stops takes, FileStore.taking_of_stops takes]
  rfl

/-- A report in UTF-8 is written or refused by the system. -/
theorem writtenOrRefused [StandIns]
    (hd : a.directory.IsSendable) (hstamp : InUtf8 a.stamp) (hcontract : InUtf8 contractSource)
    (hschema : InUtf8 schemaSource) (hr : r.InUtf8) (s : FileStore) :
    WrittenOrRefused (a.writeReport s r contractSource schemaSource).2 := by
  rw [writeReport, reportPath_eq, inUtf8_iff.mp hr.table]
  exact keep_writtenOrRefused (Artifact.isPlain_reportFile _) (isSendable_report hd)
    (Artifact.inUtf8_report hstamp hcontract hschema hr) s

/-- Where the directory of reports is there and its file can be opened, a report in UTF-8 comes to what the device makes
of it. -/
theorem writeReport_of_opened [StandIns] {d q : Place} (hd : s.HasDirectory a.consistency d)
    (hq : s.placeToWrite (a.consistency.child (Artifact.reportFile r.table)) = .ok q)
    (hstamp : InUtf8 a.stamp) (hcontract : InUtf8 contractSource) (hschema : InUtf8 schemaSource) (hr : r.InUtf8) :
    a.writeReport s r contractSource schemaSource =
      (s.put q (.file (s.taken q (Text.encodeUtf8
        (Artifact.text (Artifact.report a.stamp r contractSource schemaSource))))),
      (s.taking q (Text.encodeUtf8 (Artifact.text (Artifact.report a.stamp r contractSource schemaSource)))).map
        fun _ => a.consistency.child (Artifact.reportFile r.table)) := by
  rw [writeReport, reportPath_eq, inUtf8_iff.mp hr.table]
  exact keep_of_opened (Artifact.isPlain_reportFile _) (FileStore.ensureDirectories_of_hasDirectory hd) hq
    (Artifact.inUtf8_report hstamp hcontract hschema hr)

/-- A directory for documents below the current one. -/
def nearby : Artifacts := ⟨⟨"", ["out"]⟩, "2024-01-01T00:00:00+00:00"⟩

/-- A store that has it, with nothing in it yet but the directory of reports. -/
def nearbyStore : FileStore where
  nodes := [(["w"], .directory), (["w", "out"], .directory), (["w", "out", "consistency"], .directory)]
  here := ["w"]

theorem nearby_hasDirectory : nearbyStore.HasDirectory nearby.consistency ["w", "out", "consistency"] := ⟨rfl, rfl⟩

/-- A report of a table that has no key, or for a directory that the system cannot be told of, is neither written nor
refused. -/
theorem not_writtenOrRefused [StandIns] (h : ¬ (InUtf8 r.table ∧ a.directory.IsSendable)) (s : FileStore) :
    ∃ fault, (a.writeReport s r contractSource schemaSource).2 = .error fault ∧ fault.isRefusal = false := by
  cases hu : Text.outsideUtf8? r.table.toList with
  | some outside =>
    refine ⟨.notUtf8 outside, ?_, rfl⟩
    rw [writeReport, reportPath_eq, hu]
    rfl
  | none =>
    have hd : ¬ a.consistency.IsSendable := by
      rw [isSendable_consistency_iff]
      exact fun hd => h ⟨inUtf8_iff.mpr hu, hd⟩
    obtain ⟨cause, hsave⟩ := FileStore.save_of_not_isSendable (Artifact.isPlain_reportFile r.table) hd s
      (Artifact.text (Artifact.report a.stamp r contractSource schemaSource))
    refine ⟨.file (.unsent cause), ?_, rfl⟩
    rw [writeReport, reportPath_eq, hu]
    dsimp only
    rw [keep_ok, hsave]
    rfl

end Artifacts

end SchemaAudit
