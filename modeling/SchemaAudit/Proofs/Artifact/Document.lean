import SchemaAudit.Artifact.Document
import SchemaAudit.Proofs.Json.Lines
import SchemaAudit.Proofs.Report.RoundTrip
import SchemaAudit.Proofs.Text.Unencodable

/-! # Documents read back

The text of a report's document is read as that document: `parse_text` for `readable_report`. Nothing is asked of
the texts in the report. -/

namespace SchemaAudit

open Json

variable [StandIns]

variable {depth : Nat}

theorem Json.readable_str (s : String) : Readable false depth (.str s) := Readable.str fun h => nomatch h

theorem Json.readable_ofOption (s : Option String) : Readable false depth (.ofOption s) := by
  cases s with
  | none => exact Readable.null
  | some s => exact readable_str s

theorem Json.readable_strings (ss : List String) : Readable false (depth + 1) (.arr (ss.map .str)) := by
  refine Readable.arr fun x hx => ?_
  obtain ⟨s, -, rfl⟩ := List.mem_map.mp hx
  exact readable_str s

theorem Json.readable_records {α : Type} {toJson : α → Json} (h : ∀ a, Readable false depth (toJson a)) (as : List α) :
    Readable false (depth + 1) (.arr (as.map toJson)) := by
  refine Readable.arr fun x hx => ?_
  obtain ⟨a, -, rfl⟩ := List.mem_map.mp hx
  exact h a

theorem Json.readable_obj {ms : List (String × Json)} (names : List String) (hnames : ms.map (·.1) = names)
    (distinct : names.Nodup) (h : ∀ m ∈ ms, Readable false depth m.2) : Readable false (depth + 1) (.obj ms) :=
  Readable.obj (hnames ▸ distinct) (fun h => nomatch h) h

theorem Json.readable_texts {ms : List (String × Json)} (names : List String) (hnames : ms.map (·.1) = names)
    (distinct : names.Nodup) (h : ∀ m ∈ ms, ∃ s, m.2 = .str s) : Readable false (depth + 1) (.obj ms) := by
  refine readable_obj names hnames distinct fun m hm => ?_
  obtain ⟨s, hs⟩ := h m hm
  rw [hs]
  exact readable_str s

theorem Column.readable_toJson (c : Column) : Readable false (depth + 1) c.toJson :=
  readable_texts ["table", "column", "canonicalType"] rfl (by decide) (by simp)

theorem Mismatch.readable_toJson (m : Mismatch) : Readable false (depth + 1) m.toJson :=
  readable_texts ["column", "expected", "actual"] rfl (by decide) (by simp)

namespace Artifact

variable {stamp contractSource schemaSource : String} {r : Report}

theorem readable_report (stamp : String) (r : Report) (contractSource schemaSource : String) :
    Readable false (depth + 3) (report stamp r contractSource schemaSource) := by
  refine readable_obj ["reportMetadata", "instructionsForAI", "tableName", "missing", "extraneous", "mismatched",
    "status", "error", "summary"] rfl (by decide) fun m hm => ?_
  simp only [Report.members, List.mem_append, List.mem_cons, List.not_mem_nil, or_false] at hm
  rcases hm with ((rfl | rfl) | rfl | rfl | rfl | rfl | rfl | rfl) | rfl
  · exact readable_texts ["tool", "purpose", "generatedAt", "contractSource", "schemaSource"] rfl (by decide) (by simp)
  · exact readable_strings _
  · exact readable_str _
  · exact readable_records Column.readable_toJson _
  · exact readable_records Column.readable_toJson _
  · exact readable_records Mismatch.readable_toJson _
  · exact readable_str _
  · exact readable_ofOption _
  · exact readable_str _

/-- The text of a readable document is read as that document. -/
theorem parse_text {document : Json} (h : Readable false depthLimit document) :
    parse (text document) = .ok document := by
  have hstyle : Readable (Style.mk false true).asciiOnly depthLimit document := h
  exact hstyle.parse_toText (List.forall_mem_singleton.mpr rfl)

theorem written_of_mem_text {P : Char → Prop} {document : Json} (h : Spelled P document) {c : Char}
    (hc : c ∈ text document) : Written ⟨false, true⟩ P c := by
  rcases List.mem_append.mp hc with hc | hc
  · rw [Json.toText, String.toList_ofList] at hc
    exact h.written 0 c hc
  · exact Or.inr (Or.inr ⟨rfl, List.mem_singleton.mp hc⟩)

theorem carriageReturn_not_mem_text {document : Json} (h : Readable false depthLimit document) :
    '\r' ∉ text document := fun hc => (written_of_mem_text h.spelled hc).ne_carriageReturn rfl

theorem outsideUtf8?_text {document : Json} (h : Spelled (fun c => Text.isStandIn c = false) document) :
    Text.outsideUtf8? (text document) = none :=
  Text.outsideUtf8?_eq_none_iff.mpr fun _ hc =>
    (written_of_mem_text h hc).of_ascii fun _ => Text.isStandIn_of_ascii

end Artifact

end SchemaAudit
