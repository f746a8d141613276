import SchemaAudit.Diagnostics.Reading
import SchemaAudit.Proofs.Json.Within
import SchemaAudit.Proofs.Report.RoundTrip

/-! # Diagnostics documents, written and read

A diagnostics document is read out of every value that it is within (`Diagnostics.ofJson_of_within`): whatever stands
beside its members, in the document itself or in a row, is passed over. -/

namespace SchemaAudit

open Json Checked

variable {α : Type} {ms : List (String × Json)} {w : Json}

/-! ### Parts of a document -/

theorem Checked.string_of_within (s : String) (h : (Json.str s).Within w) : string w = ok s := by
  rw [within_str_iff.mp h]
  rfl

theorem Checked.optionalString_of_within (s : Option String) (h : (Json.ofOption s).Within w) :
    optionalString w = ok s := by
  cases s with
  | none =>
    rw [within_null_iff.mp h]
    rfl
  | some s =>
    rw [within_str_iff.mp h]
    rfl

theorem Checked.itemsFrom_of_forall₂ {read : Json → Checked α} {write : α → Json}
    (h : ∀ a w, (write a).Within w → read w = ok a) (position : Nat) (as : List α) {ws : List Json}
    (hw : List.Forall₂ Within (as.map write) ws) : itemsFrom read position ws = ok as := by
  induction as generalizing position ws with
  | nil =>
    cases hw
    rfl
  | cons a as ih =>
    cases hw with
    | cons hhead htail =>
      rw [itemsFrom, h a _ hhead, ih (position + 1) htail]
      rfl

theorem Checked.member_of_within {key : String} {read : Json → Checked α} {own : List (String × Json)} {value : Json}
    {a : α} (h : (Json.obj own).Within (.obj ms)) (hm : (key, value) ∈ own)
    (hr : ∀ w, value.Within w → read w = ok a) : member key read ms = ok a := by
  obtain ⟨w, hl, hw⟩ := h.lookup hm
  exact member_of_lookup hl (hr w hw)

theorem category_of_within {key row : String} {read : List (String × Json) → Checked α} {write : α → Json}
    {own : List (String × Json)} (as : List α) (h : (Json.obj own).Within (.obj ms))
    (hr : ∀ a ms, (write a).Within (.obj ms) → read ms = ok a) (object : ∀ a, ∃ ms, write a = .obj ms)
    (hm : (key, .arr (as.map write)) ∈ own) : category key row read ms = ok as := by
  refine member_of_within h hm fun w hw => ?_
  obtain ⟨ws, rfl, hws⟩ := within_arr_iff.mp hw
  refine itemsFrom_of_forall₂ (fun a w hw => ?_) 0 as hws
  obtain ⟨own, hown⟩ := object a
  obtain ⟨ms, rfl⟩ := (hown ▸ hw).exists_obj
  exact hr a ms hw

/-! ### Rows -/

theorem ColumnRow.ofMembers_of_within (r : ColumnRow) (h : r.toJson.Within (.obj ms)) : ofMembers ms = ok r := by
  rw [ofMembers, member_of_within h (by simp) fun _ => string_of_within r.table,
    member_of_within h (by simp) fun _ => string_of_within r.column,
    member_of_within h (by simp) fun _ => string_of_within r.type]
  rfl

theorem ConstraintRow.ofMembers_of_within (r : ConstraintRow) (h : r.toJson.Within (.obj ms)) :
    ofMembers ms = ok r := by
  rw [ofMembers, member_of_within h (by simp) fun _ => string_of_within r.table,
    member_of_within h (by simp) fun _ => string_of_within r.name,
    member_of_within h (by simp) fun _ => string_of_within r.type]
  rfl

theorem IndexRow.ofMembers_of_within (r : IndexRow) (h : r.toJson.Within (.obj ms)) : ofMembers ms = ok r := by
  rw [ofMembers, member_of_within h (by simp) fun _ => string_of_within r.table,
    member_of_within h (by simp) fun _ => string_of_within r.name]
  rfl

theorem PolicyRow.ofMembers_of_within (r : PolicyRow) (h : r.toJson.Within (.obj ms)) : ofMembers ms = ok r := by
  rw [ofMembers, member_of_within h (by simp) fun _ => string_of_within r.table,
    member_of_within h (by simp) fun _ => string_of_within r.name,
    member_of_within h (by simp) fun _ => string_of_within r.command,
    member_of_within h (by simp) fun _ => optionalString_of_within r.definition]
  rfl

theorem TriggerRow.ofMembers_of_within (r : TriggerRow) (h : r.toJson.Within (.obj ms)) : ofMembers ms = ok r := by
  rw [ofMembers, member_of_within h (by simp) fun _ => string_of_within r.name,
    member_of_within h (by simp) fun _ => string_of_within r.table,
    member_of_within h (by simp) fun _ => string_of_within r.timing,
    member_of_within h (by simp) fun _ => string_of_within r.event]
  rfl

theorem RoutineKind.ofJson_of_within [StandIns] (k : RoutineKind) (h : (Json.str k.word).Within w) :
    ofJson w = ok k := by
  rw [within_str_iff.mp h]
  cases k <;> rfl

theorem RoutineRow.ofMembers_of_within [StandIns] (r : RoutineRow) (h : r.toJson.Within (.obj ms)) :
    ofMembers ms = ok r := by
  rw [ofMembers, member_of_within h (by simp) fun _ => string_of_within r.name,
    member_of_within h (by simp) fun _ => RoutineKind.ofJson_of_within r.kind]
  rfl

/-! ### Documents -/

/-- A document is read out of every value that it is within. -/
theorem Diagnostics.ofJson_of_within [StandIns] (d : Diagnostics) (h : d.toJson.Within w) : ofJson w = .ok d := by
  obtain ⟨ms, rfl⟩ := h.exists_obj
  rw [ofJson_obj, ofMembers,
    category_of_within d.columns h (fun r _ => r.ofMembers_of_within) (fun _ => ⟨_, rfl⟩) (by simp),
    category_of_within d.constraints h (fun r _ => r.ofMembers_of_within) (fun _ => ⟨_, rfl⟩) (by simp),
    category_of_within d.indexes h (fun r _ => r.ofMembers_of_within) (fun _ => ⟨_, rfl⟩) (by simp),
    category_of_within d.policies h (fun r _ => r.ofMembers_of_within) (fun _ => ⟨_, rfl⟩) (by simp),
    category_of_within d.triggers h (fun r _ => r.ofMembers_of_within) (fun _ => ⟨_, rfl⟩) (by simp),
    category_of_within d.routines h (fun r _ => r.ofMembers_of_within) (fun _ => ⟨_, rfl⟩) (by simp)]
  rfl

end SchemaAudit
