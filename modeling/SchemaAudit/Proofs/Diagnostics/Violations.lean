import SchemaAudit.Diagnostics.Saved

/-! # What is wrong with a document

The shape of a diagnostics document as data: six categories, for each the record of its rows, for each record its keys
and what may stand under them. Of a value this gives everything that is wrong with it, category by category, row by row
and key by key (`wrongIn`). A document is read exactly if that is nothing, and else the refusal counts all of it and
tells the first five (`Diagnostics.ofJson_tells`). The reading goes part by part, and each part tells just what is wrong
with it (`Checked.Tells`). -/

namespace SchemaAudit

/-! ### The shape of a document -/

/-- A violation in the value of a key. -/
def Violation.inside (key : String) (v : Violation) : Violation := ⟨key :: v.location, v.cause⟩

/-- A key that must be there, and what is wrong with each value under it. -/
structure Demand where
  key : String
  wrong : Json → List Violation

namespace Demand

/-- What is wrong with the members of an object under one key. -/
def violations (d : Demand) (ms : List (String × Json)) : List Violation :=
  match ms.lookup d.key with
  | none => [⟨[d.key], .missing⟩]
  | some value => (d.wrong value).map (·.inside d.key)

def string (key : String) : Demand where
  key := key
  wrong
    | .str _ => []
    | _ => [⟨[], .string⟩]

def stringOrNull (key : String) : Demand where
  key := key
  wrong
    | .str _ => []
    | .null => []
    | _ => [⟨[], .string⟩]

def routineKind [StandIns] (key : String) : Demand where
  key := key
  wrong
    | .str s =>
      if s ∈ ["FUNCTION", "PROCEDURE"] then []
      else if (Text.outsideUtf8? s.toList).isSome then [⟨[], .unencodable⟩]
      else [⟨[], .literal ["FUNCTION", "PROCEDURE"]⟩]
    | _ => [⟨[], .literal ["FUNCTION", "PROCEDURE"]⟩]

/-- What is wrong with one row of a category. -/
def wrongInRow (record : String) (keys : List Demand) : Json → List Violation
  | .obj ms => keys.flatMap (·.violations ms)
  | _ => [⟨[], .record record⟩]

/-- A list of rows of one record. -/
def rows (key record : String) (keys : List Demand) : Demand where
  key := key
  wrong
    | .arr values => values.zipIdx.flatMap fun row => (wrongInRow record keys row.1).map (·.inside (Nat.repr row.2))
    | _ => [⟨[], .list⟩]

end Demand

/-- The six categories of a document and the keys of their rows, as they are declared. -/
def Diagnostics.demands [StandIns] : List Demand := [
  .rows "schema_columns" "ColumnRow" [.string "table", .string "column", .string "type"],
  .rows "table_constraints" "ConstraintRow" [.string "table", .string "constraint_name", .string "type"],
  .rows "indexes" "IndexRow" [.string "table", .string "index_name"],
  .rows "rls_policies" "RlsPolicyRow"
    [.string "table", .string "policy_name", .string "command", .stringOrNull "definition"],
  .rows "triggers" "TriggerRow" [.string "trigger_name", .string "table", .string "timing", .string "event"],
  .rows "functions_and_procedures" "RoutineRow" [.string "name", .routineKind "type"]]

/-- Everything that is wrong with the members of an object as a document. -/
def Diagnostics.wrongIn [StandIns] (ms : List (String × Json)) : List Violation := demands.flatMap (·.violations ms)

/-! ### Readings that tell what is wrong -/

namespace Checked

variable {α β : Type} {r : Checked α} {vs ws : List Violation} {ms : List (String × Json)}

/-- A reading that gives a value if nothing is wrong, and else tells everything that is. -/
inductive Tells : Checked α → List Violation → Prop
  | ok (a : α) : Tells (.ok a) []
  | bad {vs : List Violation} (some_wrong : vs ≠ []) : Tells (.bad vs) vs

theorem Tells.cases (h : Tells r vs) : (vs = [] ∧ ∃ a, r = .ok a) ∨ (vs ≠ [] ∧ r = .bad vs) := by
  cases h with
  | ok a => exact Or.inl ⟨rfl, a, rfl⟩
  | bad some_wrong => exact Or.inr ⟨some_wrong, rfl⟩

theorem tells_wrong (cause : Violation.Cause) : Tells (wrong cause : Checked α) [⟨[], cause⟩] :=
  .bad (List.cons_ne_nil _ _)

theorem Tells.map (h : Tells r vs) (f : α → β) : Tells (r.map f) vs := by
  cases h with
  | ok a => exact .ok (f a)
  | bad some_wrong => exact .bad some_wrong

theorem Tells.both {q : Checked β} (h : Tells r vs) (g : Tells q ws) : Tells (r.both q) (vs ++ ws) := by
  cases h with
  | ok a =>
    cases g with
    | ok b => exact .ok (a, b)
    | bad some_wrong => exact .bad some_wrong
  | bad some_wrong =>
    cases g with
    | ok b =>
      rw [List.append_nil]
      exact .bad some_wrong
    | bad _ => exact .bad (List.append_ne_nil_of_left_ne_nil some_wrong _)

theorem Tells.under (h : Tells r vs) (key : String) : Tells (r.under key) (vs.map (·.inside key)) := by
  cases h with
  | ok a => exact .ok a
  | bad some_wrong => exact .bad (mt List.map_eq_nil_iff.mp some_wrong)

/-! ### One key -/

/-- A reading of values that tells what a demand finds wrong with them. -/
def Meets (read : Json → Checked α) (d : Demand) : Prop := ∀ value, Tells (read value) (d.wrong value)

theorem Meets.member {read : Json → Checked α} {d : Demand} (h : Meets read d) (ms : List (String × Json)) :
    Tells (member d.key read ms) (d.violations ms) := by
  unfold Checked.member Demand.violations
  cases ms.lookup d.key with
  | none => exact (tells_wrong .missing).under d.key
  | some value => exact (h value).under d.key

theorem meets_string (key : String) : Meets string (.string key) := by
  intro value
  cases value with
  | str s => exact .ok s
  | null | bool | int | real | arr | obj => exact tells_wrong .string

theorem meets_optionalString (key : String) : Meets optionalString (.stringOrNull key) := by
  intro value
  cases value with
  | str s => exact .ok (some s)
  | null => exact .ok none
  | bool | int | real | arr | obj => exact tells_wrong .string

theorem meets_routineKind [StandIns] (key : String) : Meets RoutineKind.ofJson (.routineKind key) := by
  intro value
  cases value with
  | str s =>
    by_cases hfunction : s = RoutineKind.function.word
    · subst hfunction
      exact Tells.ok RoutineKind.function
    by_cases hprocedure : s = RoutineKind.procedure.word
    · subst hprocedure
      exact Tells.ok RoutineKind.procedure
    have hnot : s ∉ ["FUNCTION", "PROCEDURE"] := by
      simp only [List.mem_cons, List.not_mem_nil, or_false, not_or]
      exact ⟨hfunction, hprocedure⟩
    simp only [RoutineKind.ofJson, Demand.routineKind, if_neg hfunction, if_neg hprocedure, if_neg hnot]
    split
    · exact tells_wrong .unencodable
    · exact tells_wrong _
  | null | bool | int | real | arr | obj => exact tells_wrong _

/-! ### Records -/

/-- A reading of the members of an object that tells what is wrong under some keys, one after another. -/
def Reads (read : List (String × Json) → Checked α) (keys : List Demand) : Prop :=
  ∀ ms, Tells (read ms) (keys.flatMap (·.violations ms))

theorem Meets.reads {read : Json → Checked α} {d : Demand} (h : Meets read d) (f : α → β) :
    Reads (fun ms => f <$> Checked.member d.key read ms) [d] := by
  intro ms
  rw [List.flatMap_singleton]
  exact (h.member ms).map f

/-- One more key, read behind the others. -/
theorem Reads.then {first : List (String × Json) → Checked (α → β)} {keys : List Demand} {read : Json → Checked α}
    {d : Demand} (h : Reads first keys) (g : Meets read d) :
    Reads (fun ms => first ms <*> Checked.member d.key read ms) (keys ++ [d]) := by
  intro ms
  rw [List.flatMap_append, List.flatMap_singleton]
  exact ((h ms).both (g.member ms)).map _

theorem tells_itemsFrom {read : Json → Checked α} {wrongWith : Json → List Violation}
    (h : ∀ value, Tells (read value) (wrongWith value)) (position : Nat) (values : List Json) :
    Tells (itemsFrom read position values) ((values.zipIdx position).flatMap fun row =>
      (wrongWith row.1).map (·.inside (Nat.repr row.2))) := by
  induction values generalizing position with
  | nil => exact .ok []
  | cons value values ih =>
    rw [List.zipIdx_cons, List.flatMap_cons]
    exact (((h value).under _).both (ih (position + 1))).map _

theorem Reads.rows {read : List (String × Json) → Checked α} {keys : List Demand} (h : Reads read keys)
    (key row : String) : Meets (items .list (record row read)) (.rows key row keys) := by
  have rowTells (value : Json) : Tells (record row read value) (Demand.wrongInRow row keys value) := by
    cases value with
    | obj ms => exact h ms
    | null | bool | int | real | str | arr => exact tells_wrong (.record row)
  intro value
  cases value with
  | arr values => exact tells_itemsFrom rowTells 0 values
  | null | bool | int | real | str | obj => exact tells_wrong .list

end Checked

/-! ### Documents -/

open Checked

theorem ColumnRow.reads_ofMembers : Reads ofMembers [.string "table", .string "column", .string "type"] :=
  (((meets_string "table").reads mk).then (meets_string "column")).then (meets_string "type")

theorem ConstraintRow.reads_ofMembers :
    Reads ofMembers [.string "table", .string "constraint_name", .string "type"] :=
  (((meets_string "table").reads mk).then (meets_string "constraint_name")).then (meets_string "type")

theorem IndexRow.reads_ofMembers : Reads ofMembers [.string "table", .string "index_name"] :=
  ((meets_string "table").reads mk).then (meets_string "index_name")

theorem PolicyRow.reads_ofMembers :
    Reads ofMembers [.string "table", .string "policy_name", .string "command", .stringOrNull "definition"] :=
  ((((meets_string "table").reads mk).then (meets_string "policy_name")).then (meets_string "command")).then
    (meets_optionalString "definition")

theorem TriggerRow.reads_ofMembers :
    Reads ofMembers [.string "trigger_name", .string "table", .string "timing", .string "event"] :=
  ((((meets_string "trigger_name").reads mk).then (meets_string "table")).then (meets_string "timing")).then
    (meets_string "event")

theorem RoutineRow.reads_ofMembers [StandIns] : Reads ofMembers [.string "name", .routineKind "type"] :=
  ((meets_string "name").reads mk).then (meets_routineKind "type")

namespace Diagnostics

theorem reads_ofMembers [StandIns] : Reads ofMembers demands :=
  ((((((ColumnRow.reads_ofMembers.rows "schema_columns" "ColumnRow").reads mk).then
    (ConstraintRow.reads_ofMembers.rows "table_constraints" "ConstraintRow")).then
    (IndexRow.reads_ofMembers.rows "indexes" "IndexRow")).then
    (PolicyRow.reads_ofMembers.rows "rls_policies" "RlsPolicyRow")).then
    (TriggerRow.reads_ofMembers.rows "triggers" "TriggerRow")).then
    (RoutineRow.reads_ofMembers.rows "functions_and_procedures" "RoutineRow")

theorem ofJson_obj_cases [StandIns] (ms : List (String × Json)) :
    (wrongIn ms = [] ∧ ∃ d, ofJson (.obj ms) = .ok d) ∨
      (wrongIn ms ≠ [] ∧ ofJson (.obj ms) = .error (.violations (wrongIn ms))) := by
  rcases (reads_ofMembers ms).cases with ⟨hnone, d, hd⟩ | ⟨hsome, hbad⟩
  · exact Or.inl ⟨hnone, d, by rw [ofJson_obj, hd]⟩
  · exact Or.inr ⟨hsome, by rw [ofJson_obj, hbad]; rfl⟩

theorem ofJson_of_not_obj [StandIns] {value : Json} (h : ∀ ms, value ≠ .obj ms) :
    ofJson value = .error (.notObject value.kindName) := by
  cases value with
  | obj ms => exact absurd rfl (h ms)
  | null | bool | int | real | str | arr => rfl

theorem ofJson_eq_ok_iff [StandIns] {value : Json} :
    (∃ d, ofJson value = .ok d) ↔ ∃ ms, value = .obj ms ∧ wrongIn ms = [] := by
  constructor
  · rintro ⟨d, hd⟩
    by_cases hobj : ∃ ms, value = .obj ms
    · obtain ⟨ms, rfl⟩ := hobj
      rcases ofJson_obj_cases ms with ⟨hnone, -⟩ | ⟨-, herror⟩
      · exact ⟨ms, rfl, hnone⟩
      · cases hd.symm.trans herror
    · cases hd.symm.trans (ofJson_of_not_obj (not_exists.mp hobj))
  · rintro ⟨ms, rfl, hnone⟩
    rcases ofJson_obj_cases ms with ⟨-, hread⟩ | ⟨hsome, -⟩
    · exact hread
    · exact absurd hnone hsome

/-- A value is read as a document exactly if it is an object with nothing wrong in it. If something is wrong, the
refusal says how much, and tells the first five things of it with their places; what is no object is refused, too. -/
theorem ofJson_tells [StandIns] (value : Json) :
    ((∃ d, ofJson value = .ok d) ↔ ∃ ms, value = .obj ms ∧ wrongIn ms = []) ∧
    (∀ ms, value = .obj ms → wrongIn ms ≠ [] → ∃ e, ofJson value = .error e ∧ e.failure = ⟨.shape,
      "Diagnostics document does not match the expected shape (" ++ Nat.repr (wrongIn ms).length ++ " errors): " ++
        "; ".intercalate (((wrongIn ms).take 5).map (·.line))⟩) ∧
    ((∀ ms, value ≠ .obj ms) → ∃ e, ofJson value = .error e ∧ e.failure.kind = .shape) := by
  refine ⟨ofJson_eq_ok_iff, ?_, fun h => ⟨_, ofJson_of_not_obj h, rfl⟩⟩
  rintro ms rfl hsome
  rcases ofJson_obj_cases ms with ⟨hnone, -⟩ | ⟨-, herror⟩
  · exact absurd hnone hsome
  · exact ⟨_, herror, rfl⟩

/-- A document with six things wrong in it. -/
def sixWrong : List (String × Json) := [
  ("schema_columns", .arr [.obj [("table", .str "t"), ("column", .int 5)], .null]), ("table_constraints", .null),
  ("rls_policies", .arr [.obj [("table", .str "t"), ("policy_name", .str "p"), ("command", .str "ALL"),
    ("definition", .null), ("roles", .arr [])]]),
  ("triggers", .arr []), ("functions_and_procedures", .arr [.obj [("name", .str "f"), ("type", .str "VIEW")]])]

/-- Five of them are told. The null definition of the policy and its further member are none of them. -/
theorem ofJson_tells_five_of_six : ∃ e, ofJson (.obj sixWrong) = .error e ∧ e.failure = ⟨.shape,
    "Diagnostics document does not match the expected shape (6 errors): " ++ "; ".intercalate [
      "schema_columns.0.column: Input should be a valid string", "schema_columns.0.type: Field required",
      "schema_columns.1: Input should be a valid dictionary or instance of ColumnRow",
      "table_constraints: Input should be a valid list", "indexes: Field required"]⟩ := by
  have hwrong : wrongIn sixWrong = [⟨["schema_columns", "0", "column"], .string⟩,
      ⟨["schema_columns", "0", "type"], .missing⟩, ⟨["schema_columns", "1"], .record "ColumnRow"⟩,
      ⟨["table_constraints"], .list⟩, ⟨["indexes"], .missing⟩,
      ⟨["functions_and_procedures", "0", "type"], .literal ["FUNCTION", "PROCEDURE"]⟩] := by
    decide
  obtain ⟨-, refused, -⟩ := ofJson_tells (.obj sixWrong)
  obtain ⟨e, he, hfailure⟩ := refused sixWrong rfl (hwrong ▸ List.cons_ne_nil _ _)
  rw [hwrong] at hfailure
  exact ⟨e, he, hfailure⟩

end Diagnostics

end SchemaAudit
