import SchemaAudit.Proofs.Diagnostics.Loading

/-! # What is told of a file that cannot be loaded

The words in which loading a file answers are its own, and the name of the file. They are in UTF-8 if the name is
(`Diagnostics.inUtf8_failure`), whatever the file holds: of a value in it only the kind is told, and of a row only where
it stands. -/

namespace SchemaAudit

/-! ### Violations -/

structure Violation.InUtf8 [StandIns] (v : Violation) : Prop where
  location : ∀ key ∈ v.location, SchemaAudit.InUtf8 key
  message : SchemaAudit.InUtf8 v.cause.message

theorem Violation.InUtf8.line [StandIns] {v : Violation} (h : v.InUtf8) : SchemaAudit.InUtf8 v.line := by
  simp only [Violation.line, inUtf8_append]
  exact ⟨⟨inUtf8_intercalate (inUtf8_of_ascii (by decide)) h.location, inUtf8_of_ascii (by decide)⟩, h.message⟩

theorem Violation.InUtf8.inside [StandIns]
    {v : Violation} (h : v.InUtf8) {key : String} (hkey : SchemaAudit.InUtf8 key) :
    (v.inside key).InUtf8 := ⟨List.forall_mem_cons.mpr ⟨hkey, h.location⟩, h.message⟩

/-- A demand that tells in UTF-8 of all that is wrong. -/
structure Demand.InUtf8 [StandIns] (d : Demand) : Prop where
  key : SchemaAudit.InUtf8 d.key
  wrong : ∀ value, ∀ v ∈ d.wrong value, v.InUtf8

namespace Demand

variable {key record : List Char} {keys : List Demand}

theorem InUtf8.violations [StandIns] {d : Demand} (h : d.InUtf8) (ms : List (String × Json)) :
    ∀ v ∈ d.violations ms, v.InUtf8 := by
  intro v hv
  unfold Demand.violations at hv
  split at hv
  · cases List.mem_singleton.mp hv
    exact ⟨List.forall_mem_singleton.mpr h.key, inUtf8_of_ascii (by decide)⟩
  · obtain ⟨u, hu, rfl⟩ := List.mem_map.mp hv
    exact (h.wrong _ u hu).inside h.key

theorem inUtf8_string [StandIns] (hkey : key.all (·.toNat < 0x80) = true) : (string (String.ofList key)).InUtf8 := by
  refine ⟨inUtf8_of_ascii hkey, fun value v hv => ?_⟩
  cases value with
  | str s => cases hv
  | null | bool | int | real | arr | obj =>
    cases List.mem_singleton.mp hv
    exact ⟨nofun, inUtf8_of_ascii (by decide)⟩

theorem inUtf8_stringOrNull [StandIns] (hkey : key.all (·.toNat < 0x80) = true) :
    (stringOrNull (String.ofList key)).InUtf8 := by
  refine ⟨inUtf8_of_ascii hkey, fun value v hv => ?_⟩
  cases value with
  | str s => cases hv
  | null => cases hv
  | bool | int | real | arr | obj =>
    cases List.mem_singleton.mp hv
    exact ⟨nofun, inUtf8_of_ascii (by decide)⟩

theorem inUtf8_routineKind [StandIns] (hkey : key.all (·.toNat < 0x80) = true) :
    (routineKind (String.ofList key)).InUtf8 := by
  have hliteral : SchemaAudit.InUtf8 (Violation.Cause.literal ["FUNCTION", "PROCEDURE"]).message := by
    rw [show (Violation.Cause.literal ["FUNCTION", "PROCEDURE"]).message =
      "Input should be 'FUNCTION' or 'PROCEDURE'" by decide]
    exact inUtf8_of_ascii (by decide)
  refine ⟨inUtf8_of_ascii hkey, fun value v hv => ?_⟩
  cases value with
  | str s =>
    dsimp only [routineKind] at hv
    split at hv
    · cases hv
    · split at hv
      · cases List.mem_singleton.mp hv
        exact ⟨nofun, inUtf8_of_ascii (by decide)⟩
      · cases List.mem_singleton.mp hv
        exact ⟨nofun, hliteral⟩
  | null | bool | int | real | arr | obj =>
    cases List.mem_singleton.mp hv
    exact ⟨nofun, hliteral⟩

theorem inUtf8_rows [StandIns] (hkey : key.all (·.toNat < 0x80) = true) (hrecord : record.all (·.toNat < 0x80) = true)
    (hkeys : ∀ d ∈ keys, d.InUtf8) : (rows (String.ofList key) (String.ofList record) keys).InUtf8 := by
  have hrow (value : Json) : ∀ v ∈ wrongInRow (String.ofList record) keys value, v.InUtf8 := by
    intro v hv
    unfold wrongInRow at hv
    split at hv
    · obtain ⟨d, hd, hv⟩ := List.mem_flatMap.mp hv
      exact (hkeys d hd).violations _ v hv
    · cases List.mem_singleton.mp hv
      exact ⟨nofun, inUtf8_append.mpr ⟨inUtf8_of_ascii (by decide), inUtf8_of_ascii hrecord⟩⟩
  refine ⟨inUtf8_of_ascii hkey, fun value v hv => ?_⟩
  cases value with
  | arr values =>
    obtain ⟨row, -, hv⟩ := List.mem_flatMap.mp hv
    obtain ⟨u, hu, rfl⟩ := List.mem_map.mp hv
    exact (hrow row.1 u hu).inside (inUtf8_repr row.2)
  | null | bool | int | real | str | obj =>
    cases List.mem_singleton.mp hv
    exact ⟨nofun, inUtf8_of_ascii (by decide)⟩

end Demand

namespace Diagnostics

variable {s : FileStore} {path : Path} {fault : SavedFault}

open Demand in
theorem inUtf8_of_mem_demands [StandIns] : ∀ d ∈ demands, d.InUtf8 := by
  simp only [demands, List.forall_mem_cons]
  refine ⟨inUtf8_rows (by decide) (by decide) ?_, inUtf8_rows (by decide) (by decide) ?_,
    inUtf8_rows (by decide) (by decide) ?_, inUtf8_rows (by decide) (by decide) ?_,
    inUtf8_rows (by decide) (by decide) ?_, inUtf8_rows (by decide) (by decide) ?_, nofun⟩
  all_goals simp only [List.forall_mem_cons]
  · exact ⟨inUtf8_string (by decide), inUtf8_string (by decide), inUtf8_string (by decide), nofun⟩
  · exact ⟨inUtf8_string (by decide), inUtf8_string (by decide), inUtf8_string (by decide), nofun⟩
  · exact ⟨inUtf8_string (by decide), inUtf8_string (by decide), nofun⟩
  · exact ⟨inUtf8_string (by decide), inUtf8_string (by decide), inUtf8_string (by decide),
      inUtf8_stringOrNull (by decide), nofun⟩
  · exact ⟨inUtf8_string (by decide), inUtf8_string (by decide), inUtf8_string (by decide), inUtf8_string (by decide),
      nofun⟩
  · exact ⟨inUtf8_string (by decide), inUtf8_routineKind (by decide), nofun⟩

/-! ### Refusals of a document -/

theorem message_notObject (kind : String) : (ShapeError.notObject kind).message =
    "Diagnostics document must be a JSON object, got " ++ kind ++ "." := rfl

theorem message_violations (vs : List Violation) : (ShapeError.violations vs).message =
    "Diagnostics document does not match the expected shape (" ++ Nat.repr vs.length ++ " errors): " ++
      "; ".intercalate ((vs.take violationsTold).map (·.line)) := rfl

theorem inUtf8_shapeError [StandIns] {value : Json} {e : ShapeError} (h : ofJson value = .error e) :
    SchemaAudit.InUtf8 e.message := by
  by_cases hobj : ∃ ms, value = .obj ms
  · obtain ⟨ms, rfl⟩ := hobj
    rcases ofJson_obj_cases ms with ⟨-, d, hd⟩ | ⟨-, herror⟩
    · cases h.symm.trans hd
    cases h.symm.trans herror
    have hlines : ∀ line ∈ ((wrongIn ms).take violationsTold).map (·.line), SchemaAudit.InUtf8 line := by
      intro line hline
      obtain ⟨v, hv, rfl⟩ := List.mem_map.mp hline
      obtain ⟨d, hd, hv⟩ := List.mem_flatMap.mp (List.mem_of_mem_take hv)
      exact ((inUtf8_of_mem_demands d hd).violations ms v hv).line
    rw [message_violations]
    simp only [inUtf8_append]
    exact ⟨⟨⟨inUtf8_of_ascii (by decide), inUtf8_repr _⟩, inUtf8_of_ascii (by decide)⟩,
      inUtf8_intercalate (inUtf8_of_ascii (by decide)) hlines⟩
  · cases h.symm.trans (ofJson_of_not_obj (not_exists.mp hobj))
    have hkind : SchemaAudit.InUtf8 value.kindName := by
      cases value <;> exact inUtf8_of_ascii (by decide)
    rw [message_notObject]
    simp only [inUtf8_append]
    exact ⟨⟨inUtf8_of_ascii (by decide), hkind⟩, inUtf8_of_ascii (by decide)⟩

/-! ### Refusals of a text and of a file -/

theorem inUtf8_refusal [StandIns] {refusal : Json.Refusal} (h : ¬ refusal.IsLimit) :
    SchemaAudit.InUtf8 refusal.message := by
  cases refusal with
  | tooManyDigits count => exact absurd trivial h
  | tooDeep container => exact absurd trivial h
  | _ => exact inUtf8_of_ascii (by decide)

theorem message_syntaxError {e : Json.SyntaxError} (h : ¬ e.refusal.IsLimit) : e.message =
    e.refusal.message ++ ": line " ++ Nat.repr e.position.line ++ " column " ++ Nat.repr e.position.column ++
      " (char " ++ Nat.repr e.position.offset ++ ")" := by
  obtain ⟨refusal, position⟩ := e
  cases refusal with
  | tooManyDigits count => exact absurd trivial h
  | tooDeep container => exact absurd trivial h
  | _ => rfl

theorem inUtf8_fileFault [StandIns] (refusal : SystemRefusal) (hpath : SchemaAudit.InUtf8 path.text) :
    SchemaAudit.InUtf8 (FileFault.refused refusal path).message := by
  change SchemaAudit.InUtf8 ("[Errno " ++ Nat.repr refusal.words.1 ++ "] " ++ refusal.words.2 ++ ": " ++
    Text.inQuotes path.text)
  have hwords : SchemaAudit.InUtf8 refusal.words.2 := by
    cases refusal <;> exact inUtf8_of_ascii (by decide)
  simp only [inUtf8_append]
  exact ⟨⟨⟨⟨⟨inUtf8_of_ascii (by decide), inUtf8_repr _⟩, inUtf8_of_ascii (by decide)⟩, hwords⟩,
    inUtf8_of_ascii (by decide)⟩, inUtf8_inQuotes hpath⟩

/-- What is told of a file that loading has an answer for is in UTF-8, if the name of the file is. -/
theorem inUtf8_failure [StandIns] (answers : s.Answers path) (hload : load s path = .error fault)
    (hpath : SchemaAudit.InUtf8 path.text) : SchemaAudit.InUtf8 fault.failure.message := by
  obtain ⟨e, he⟩ := exists_isOf s path
  have htells := tells_of_isOf he
  cases e with
  | document =>
    obtain ⟨d, hd⟩ := htells
    cases hload.symm.trans hd
  | refused =>
    obtain ⟨refusal, hrefused⟩ := he
    cases hload.symm.trans (load_of_refused hrefused)
    change SchemaAudit.InUtf8 ("Cannot read diagnostics snapshot " ++ path.text ++ ": " ++
      (FileFault.refused refusal path).message)
    simp only [inUtf8_append]
    exact ⟨⟨⟨inUtf8_of_ascii (by decide), hpath⟩, inUtf8_of_ascii (by decide)⟩, inUtf8_fileFault refusal hpath⟩
  | misshapen =>
    obtain ⟨-, text, hread, hdoc⟩ := he
    rw [load_of_readText hread] at hload
    rcases ofText_of_not_holdsDocument path hdoc fun e => answers.limits text e hread with
      ⟨e, hnotJson, hlimit⟩ | ⟨v, e, hwrong, hshape⟩
    · cases hload.symm.trans hnotJson
      change SchemaAudit.InUtf8 ("Diagnostics snapshot " ++ path.text ++ " is not valid JSON: " ++ e.message)
      rw [message_syntaxError hlimit]
      simp only [inUtf8_append]
      exact ⟨⟨⟨inUtf8_of_ascii (by decide), hpath⟩, inUtf8_of_ascii (by decide)⟩,
        ⟨⟨⟨⟨⟨⟨inUtf8_refusal hlimit, inUtf8_of_ascii (by decide)⟩, inUtf8_repr _⟩, inUtf8_of_ascii (by decide)⟩,
          inUtf8_repr _⟩, inUtf8_of_ascii (by decide)⟩, inUtf8_repr _⟩, inUtf8_of_ascii (by decide)⟩
    · cases hload.symm.trans hshape
      exact inUtf8_shapeError hwrong
  | unforeseen => exact absurd answers he

end Diagnostics

end SchemaAudit
