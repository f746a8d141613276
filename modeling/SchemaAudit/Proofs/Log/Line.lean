import Mathlib.Data.List.Forall2
import SchemaAudit.Log.Line
import SchemaAudit.Proofs.Json.Lines
import SchemaAudit.Proofs.Lookup
import SchemaAudit.Registry.Description

/-! # Lines of a structured log

A record whose time is one of the calendar and whose payload fits into the room of the encoder is written on one line, and
nothing of it is lost: the line has no control character, and it is read as an object with the members of the record. Any
other record has no line at all (`LogRecord.format_reads`). The payload comes back as it was, with the text of each value
that JSON does not have in the place of that value (`Payload.Shows`). -/

namespace SchemaAudit

open Json (FewDigits Readable readWithin)

variable {limit : Nat} {p : Payload} {r : LogRecord}

namespace Payload

/-! ### Payloads -/

/-- A payload of texts, whole numbers of few enough digits, truth values, paths, decimals, identifiers and moments,
nested in lists and in objects whose names differ. -/
inductive Loggable : Payload → Prop
  | null : Loggable .null
  | bool (b : Bool) : Loggable (.bool b)
  | int {n : Int} (few : FewDigits n) : Loggable (.int n)
  | str (s : String) : Loggable (.str s)
  | arr {items : List Payload} (loggable : ∀ x ∈ items, Loggable x) : Loggable (.arr items)
  | obj {members : List (String × Payload)} (names : (members.map (·.1)).Nodup)
    (loggable : ∀ m ∈ members, Loggable m.2) : Loggable (.obj members)
  | path (value : Path) : Loggable (.path value)
  | decimal (value : Number.Decimal) : Loggable (.decimal value)
  | uuid (value : Nat) : Loggable (.uuid value)
  | moment (value : Moment) : Loggable (.moment value)

/-- A JSON value that shows a payload: the same value, with a text in the place of each value that JSON does not have. -/
inductive Shows : Payload → Json → Prop
  | null : Shows .null .null
  | bool (b : Bool) : Shows (.bool b) (.bool b)
  | int (n : Int) : Shows (.int n) (.int n)
  | str (s : String) : Shows (.str s) (.str s)
  | arr {items : List Payload} {values : List Json} (shown : List.Forall₂ Shows items values) :
    Shows (.arr items) (.arr values)
  | obj {members : List (String × Payload)} {values : List (String × Json)}
    (names : values.map (·.1) = members.map (·.1))
    (shown : List.Forall₂ Shows (members.map (·.2)) (values.map (·.2))) : Shows (.obj members) (.obj values)
  | path (value : Path) : Shows (.path value) (.str value.text)
  | decimal (value : Number.Decimal) : Shows (.decimal value) (.str (String.ofList value.text))
  | uuid (value : Nat) : Shows (.uuid value) (.str (uuidText value))
  | moment (value : Moment) : Shows (.moment value) (.str (value.text " "))

theorem itemsToJson_eq (items : List Payload) : itemsToJson items = items.map toJson := by
  induction items with
  | nil => rfl
  | cons x items ih => rw [itemsToJson, ih, List.map_cons]

theorem membersToJson_eq (members : List (String × Payload)) :
    membersToJson members = members.map fun m => (m.1, m.2.toJson) := by
  induction members with
  | nil => rfl
  | cons m members ih =>
    obtain ⟨name, value⟩ := m
    rw [membersToJson, ih, List.map_cons]

theorem Loggable.shows_toJson (h : p.Loggable) : p.Shows p.toJson := by
  induction h with
  | null => exact .null
  | bool b => exact .bool b
  | int few => exact .int _
  | str s => exact .str s
  | arr _ ih =>
    rw [toJson, itemsToJson_eq]
    exact .arr (List.forall₂_map_right_iff.mpr (List.forall₂_same.mpr ih))
  | obj _ _ ih =>
    rw [toJson, membersToJson_eq]
    refine .obj ?_ ?_
    · rw [List.map_map]
      rfl
    · rw [List.map_map, List.forall₂_map_left_iff, List.forall₂_map_right_iff]
      exact List.forall₂_same.mpr ih
  | path value => exact .path value
  | decimal value => exact .decimal value
  | uuid value => exact .uuid value
  | moment value => exact .moment value

/-! ### Room -/

/-- A payload that fits into so many levels. A list or an object takes one of them for itself, a value that JSON does not
have as many as making its text takes. -/
inductive Fits (forText : Payload → Nat) : Nat → Payload → Prop
  | null {levels : Nat} : Fits forText levels .null
  | bool {levels : Nat} (b : Bool) : Fits forText levels (.bool b)
  | int {levels : Nat} (n : Int) : Fits forText levels (.int n)
  | real {levels : Nat} (x : Number.Binary64) : Fits forText levels (.real x)
  | str {levels : Nat} (s : String) : Fits forText levels (.str s)
  | arr {levels : Nat} {items : List Payload} (fits : ∀ x ∈ items, Fits forText levels x) :
    Fits forText (levels + 1) (.arr items)
  | obj {levels : Nat} {members : List (String × Payload)} (fits : ∀ m ∈ members, Fits forText levels m.2) :
    Fits forText (levels + 1) (.obj members)
  | path {levels : Nat} {value : Path} (fits : forText (.path value) ≤ levels) : Fits forText levels (.path value)
  | decimal {levels : Nat} {value : Number.Decimal} (fits : forText (.decimal value) ≤ levels) :
    Fits forText levels (.decimal value)
  | uuid {levels : Nat} {value : Nat} (fits : forText (.uuid value) ≤ levels) : Fits forText levels (.uuid value)
  | moment {levels : Nat} {value : Moment} (fits : forText (.moment value) ≤ levels) :
    Fits forText levels (.moment value)

variable {forText : Payload → Nat} {levels : Nat} {items : List Payload} {members : List (String × Payload)}

/-- What the encoder makes of a payload: it writes it if it fits, and fails if it does not. -/
def Ends (forText : Payload → Nat) (levels : Nat) (p : Payload) : Prop :=
  (Fits forText levels p → encode forText levels p = .ok p.toJson) ∧
  (¬ Fits forText levels p → encode forText levels p = .error .tooDeep)

theorem encodeItems_ends (h : ∀ x ∈ items, Ends forText levels x) :
    ((∀ x ∈ items, Fits forText levels x) → encodeItems forText levels items = .ok (itemsToJson items)) ∧
    ((¬ ∀ x ∈ items, Fits forText levels x) → encodeItems forText levels items = .error .tooDeep) := by
  induction items with
  | nil => exact ⟨fun _ => rfl, fun hno => absurd nofun hno⟩
  | cons x items ih =>
    rw [List.forall_mem_cons] at h
    obtain ⟨⟨fits, unfit⟩, hrest⟩ := h
    obtain ⟨fitsRest, unfitRest⟩ := ih hrest
    rw [encodeItems, itemsToJson, List.forall_mem_cons]
    refine ⟨fun ⟨hx, hitems⟩ => ?_, fun hno => ?_⟩
    · rw [fits hx, fitsRest hitems]
      rfl
    · by_cases hx : Fits forText levels x
      · rw [fits hx, unfitRest fun hitems => hno ⟨hx, hitems⟩]
        rfl
      · rw [unfit hx]
        rfl

theorem encodeMembers_ends (h : ∀ m ∈ members, Ends forText levels m.2) :
    ((∀ m ∈ members, Fits forText levels m.2) → encodeMembers forText levels members = .ok (membersToJson members)) ∧
    ((¬ ∀ m ∈ members, Fits forText levels m.2) → encodeMembers forText levels members = .error .tooDeep) := by
  induction members with
  | nil => exact ⟨fun _ => rfl, fun hno => absurd nofun hno⟩
  | cons m members ih =>
    rw [List.forall_mem_cons] at h
    obtain ⟨⟨fits, unfit⟩, hrest⟩ := h
    obtain ⟨fitsRest, unfitRest⟩ := ih hrest
    obtain ⟨name, x⟩ := m
    rw [encodeMembers, membersToJson, List.forall_mem_cons]
    refine ⟨fun ⟨hx, hmembers⟩ => ?_, fun hno => ?_⟩
    · rw [fits hx, fitsRest hmembers]
      rfl
    · by_cases hx : Fits forText levels x
      · rw [fits hx, unfitRest fun hmembers => hno ⟨hx, hmembers⟩]
        rfl
      · rw [unfit hx]
        rfl

/-- What is in a list has one level less, hence any number of levels. -/
theorem ends_arr (h : ∀ levels, ∀ x ∈ items, Ends forText levels x) : Ends forText levels (.arr items) := by
  cases levels with
  | zero => exact ⟨nofun, fun _ => by rw [encode]⟩
  | succ levels =>
    obtain ⟨fits, unfit⟩ := encodeItems_ends (h levels)
    rw [Ends, encode, toJson]
    refine ⟨fun h => ?_, fun hno => ?_⟩
    · cases h with
      | arr hitems =>
        rw [fits hitems]
        rfl
    · rw [unfit fun hitems => hno (.arr hitems)]
      rfl

theorem ends_obj (h : ∀ levels, ∀ m ∈ members, Ends forText levels m.2) : Ends forText levels (.obj members) := by
  cases levels with
  | zero => exact ⟨nofun, fun _ => by rw [encode]⟩
  | succ levels =>
    obtain ⟨fits, unfit⟩ := encodeMembers_ends (h levels)
    rw [Ends, encode, toJson]
    refine ⟨fun h => ?_, fun hno => ?_⟩
    · cases h with
      | obj hmembers =>
        rw [fits hmembers]
        rfl
    · rw [unfit fun hmembers => hno (.obj hmembers)]
      rfl

/-- A value that JSON does not have is written as its text exactly if there is room for making it. -/
theorem ends_foreign {text : String} (hencode : encode forText levels p = foreign forText levels p text)
    (htext : p.toJson = .str text) (hfits : Fits forText levels p ↔ forText p ≤ levels) : Ends forText levels p := by
  rw [Ends, hencode, htext, hfits]
  exact ⟨fun h => if_pos h, fun h => if_neg h⟩

/-- A payload that can be logged is written exactly if it fits. -/
theorem Loggable.ends (h : p.Loggable) : Ends forText levels p := by
  induction h generalizing levels with
  | null => exact ⟨fun _ => rfl, fun hno => absurd .null hno⟩
  | bool b => exact ⟨fun _ => rfl, fun hno => absurd (.bool b) hno⟩
  | int few => exact ⟨fun _ => if_neg (Nat.not_lt.mpr few), fun hno => absurd (.int _) hno⟩
  | str s => exact ⟨fun _ => rfl, fun hno => absurd (.str s) hno⟩
  | arr _ ih => exact ends_arr fun levels x hx => ih x hx
  | obj _ _ ih => exact ends_obj fun levels m hm => ih m hm
  | path value => exact ends_foreign (by rw [encode]) rfl ⟨fun | .path h => h, .path⟩
  | decimal value => exact ends_foreign (by rw [encode]) rfl ⟨fun | .decimal h => h, .decimal⟩
  | uuid value => exact ends_foreign (by rw [encode]) rfl ⟨fun | .uuid h => h, .uuid⟩
  | moment value => exact ends_foreign (by rw [encode]) rfl ⟨fun | .moment h => h, .moment⟩

end Payload

/-! ### Depth -/

theorem Description.depth_le_of_mem_items {x : Json} {items : List Json} (h : x ∈ items) :
    depth x ≤ depthOfItems items := by
  induction items with
  | nil => cases h
  | cons y items ih =>
    rw [depthOfItems]
    rcases List.mem_cons.mp h with rfl | h
    · exact Nat.le_max_left _ _
    · exact Nat.le_trans (ih h) (Nat.le_max_right _ _)

theorem Description.depth_le_of_mem_members {m : String × Json} {members : List (String × Json)} (h : m ∈ members) :
    depth m.2 ≤ depthOfMembers members := by
  induction members with
  | nil => cases h
  | cons n members ih =>
    obtain ⟨name, value⟩ := n
    rw [depthOfMembers]
    rcases List.mem_cons.mp h with rfl | h
    · exact Nat.le_max_left _ _
    · exact Nat.le_trans (ih h) (Nat.le_max_right _ _)

open Description (depth depth_le_of_mem_items depth_le_of_mem_members)

/-- A payload is read back by every reader that goes as deep as it is nested. -/
theorem Payload.Loggable.readable_toJson [StandIns] (h : p.Loggable) (deep : depth p.toJson ≤ limit) :
    Readable false limit p.toJson := by
  -- The containers are read one level deeper than what they hold, hence any limit.
  induction h generalizing limit with
  | null => exact .null
  | bool b => exact .bool b
  | int few => exact .int few
  | str | path | decimal | uuid | moment => exact .str nofun
  | @arr items _ ih =>
    rw [toJson, depth] at deep
    obtain ⟨limit, rfl⟩ : ∃ n, limit = n + 1 := ⟨limit - 1, by omega⟩
    refine .arr fun y hy => ?_
    have hdepth := depth_le_of_mem_items hy
    rw [itemsToJson_eq] at hy
    obtain ⟨x, hx, rfl⟩ := List.mem_map.mp hy
    exact ih x hx (by omega)
  | @obj members names _ ih =>
    rw [toJson, depth] at deep
    obtain ⟨limit, rfl⟩ : ∃ n, limit = n + 1 := ⟨limit - 1, by omega⟩
    have hnames : ((membersToJson members).map (·.1)).Nodup := by
      rw [membersToJson_eq, List.map_map]
      exact names
    refine .obj hnames nofun fun y hy => ?_
    have hdepth := depth_le_of_mem_members hy
    rw [membersToJson_eq] at hy
    obtain ⟨m, hm, rfl⟩ := List.mem_map.mp hy
    exact ih m hm (Nat.le_trans hdepth (Nat.le_of_succ_le_succ deep))

namespace LogRecord

/-! ### Records -/

/-- The members that every record has. -/
def commonMembers (time : String) (r : LogRecord) : List (String × Json) :=
  [("timestamp", .str time), ("level", .str (levelName r.level)), ("logger", .str r.logger),
    ("message", .str r.message)]

/-- The member for the payload of a record. -/
def auditMembers (r : LogRecord) : List (String × Json) :=
  match r.payload with
  | .null => []
  | _ => [("audit", r.payload.toJson)]

/-- The member for what was raised. -/
def raisedMembers (r : LogRecord) : List (String × Json) :=
  match r.raised with
  | none => []
  | some e => [("exc_info", .str e.text)]

theorem members_eq (time : String) (r : LogRecord) :
    r.members time = r.commonMembers time ++ r.auditMembers ++ r.raisedMembers := rfl

theorem auditMembers_of_null (h : r.payload = .null) : r.auditMembers = [] := by
  rw [auditMembers, h]

theorem auditMembers_of_payload (h : r.payload ≠ .null) : r.auditMembers = [("audit", r.payload.toJson)] := by
  unfold auditMembers
  split
  · rename_i hnull
    exact absurd hnull h
  · rfl

/-- A record has the common members, one for its payload unless that is null, and one for what was raised if something
was. -/
theorem names_members (time : String) (r : LogRecord) :
    (r.members time).map (·.1) = ["timestamp", "level", "logger", "message"] ++
      r.auditMembers.map (·.1) ++ r.raisedMembers.map (·.1) := by
  rw [members_eq, List.map_append, List.map_append]
  rfl

theorem mem_names_iff (time : String) (r : LogRecord) (name : String) : name ∈ (r.members time).map (·.1) ↔
    name ∈ ["timestamp", "level", "logger", "message"] ∨ (name = "audit" ∧ r.payload ≠ .null) ∨
      (name = "exc_info" ∧ r.raised ≠ none) := by
  rw [names_members, List.mem_append, List.mem_append, or_assoc]
  refine or_congr_right (or_congr ?_ ?_)
  · by_cases h : r.payload = .null
    · simp [auditMembers_of_null h, h]
    · simp [auditMembers_of_payload h, h]
  · cases h : r.raised with
    | none => simp [raisedMembers, h]
    | some e => simp [raisedMembers, h]

-- A payload and an exception may each be there or not, which makes four lists of names.
theorem nodup_names (time : String) (r : LogRecord) : ((r.members time).map (·.1)).Nodup := by
  rw [names_members]
  by_cases h : r.payload = .null
  · rw [auditMembers_of_null h]
    cases hraised : r.raised with
    | none => simp [raisedMembers, hraised]
    | some e => simp [raisedMembers, hraised]
  · rw [auditMembers_of_payload h]
    cases hraised : r.raised with
    | none => simp [raisedMembers, hraised]
    | some e => simp [raisedMembers, hraised]

theorem readable_members [StandIns] (time : String) (h : r.payload.Loggable) (deep : depth r.payload.toJson ≤ limit) :
    Readable false (limit + 1) (.obj (r.members time)) := by
  refine .obj (nodup_names time r) nofun ?_
  rw [members_eq, List.forall_mem_append, List.forall_mem_append]
  refine ⟨⟨?_, ?_⟩, ?_⟩
  · simp only [commonMembers, List.forall_mem_cons]
    exact ⟨.str nofun, .str nofun, .str nofun, .str nofun, nofun⟩
  · by_cases hnull : r.payload = .null
    · rw [auditMembers_of_null hnull]
      exact nofun
    · rw [auditMembers_of_payload hnull, List.forall_mem_singleton]
      exact h.readable_toJson deep
  · unfold raisedMembers
    split
    · exact nofun
    · rw [List.forall_mem_singleton]
      exact .str nofun

/-- A record is written on one line without a control character, from which all of it is read: its message, its logger,
its payload and what was raised, each under its own name and only if there is such a thing. What is told of an exception
may itself run over any number of lines. -/
theorem jsonLine_reads [StandIns] (time : String) (r : LogRecord) (h : r.payload.Loggable) :
    (∀ c ∈ (r.jsonLine time).toList, 0x20 ≤ c.toNat) ∧
    ∃ members, (∀ limit, depth r.payload.toJson < limit →
        readWithin limit (r.jsonLine time).toList = .ok (.obj members)) ∧
      (members.map (·.1)).Nodup ∧
      (∀ name, name ∈ members.map (·.1) ↔ name ∈ ["timestamp", "level", "logger", "message"] ∨
        (name = "audit" ∧ r.payload ≠ .null) ∨ (name = "exc_info" ∧ r.raised ≠ none)) ∧
      members.lookup "timestamp" = some (.str time) ∧
      members.lookup "level" = some (.str (levelName r.level)) ∧
      members.lookup "logger" = some (.str r.logger) ∧
      members.lookup "message" = some (.str r.message) ∧
      (r.payload ≠ .null → ∃ v, members.lookup "audit" = some v ∧ r.payload.Shows v) ∧
      (∀ e, r.raised = some e → members.lookup "exc_info" = some (.str e.text)) := by
  have hreadable {limit : Nat} (deep : depth r.payload.toJson < limit) : Readable false limit (.obj (r.members time)) := by
    obtain ⟨limit, rfl⟩ : ∃ n, limit = n + 1 := ⟨limit - 1, by omega⟩
    exact readable_members time h (Nat.le_of_lt_succ deep)
  refine ⟨(hreadable (Nat.lt_succ_self _)).visible_toText rfl, r.members time, fun limit deep => ?_,
    nodup_names time r, mem_names_iff time r, rfl, rfl, rfl, rfl, fun hpayload => ?_, fun e he => ?_⟩
  · have hstyle : Readable (Json.Style.mk false false).asciiOnly limit (.obj (r.members time)) := hreadable deep
    exact hstyle.readWithin_toText
  · have hmem : ("audit", r.payload.toJson) ∈ r.members time := by
      rw [members_eq, auditMembers_of_payload hpayload]
      exact List.mem_append_left _ (List.mem_append_right _ List.mem_cons_self)
    exact ⟨_, lookup_of_mem (nodup_names time r) hmem, h.shows_toJson⟩
  · have hmem : ("exc_info", Json.str e.text) ∈ r.members time := by
      rw [members_eq, raisedMembers, he]
      exact List.mem_append_right _ List.mem_cons_self
    exact lookup_of_mem (nodup_names time r) hmem

/-! ### Room and time -/

/-- A record that the encoder has the room for. The object of the record takes one level itself. -/
def Fits (room : Room) (r : LogRecord) : Prop :=
  ∃ levels, room.levels = levels + 1 ∧ Payload.Fits room.forText levels r.payload

variable {room : Room} {created : Moment.Seconds} {moment : Moment}

theorem format_of_fits [StandIns]
    (h : r.payload.Loggable) (hmoment : created.moment = .ok moment) (fits : r.Fits room) :
    r.format room created = .ok (r.jsonLine (moment.text "T")) := by
  obtain ⟨levels, hlevels, hpayload⟩ := fits
  unfold format
  rw [hmoment, hlevels]
  change (r.payload.encode room.forText levels >>= _) = _
  rw [h.ends.1 hpayload]
  rfl

theorem format_of_not_fits [StandIns]
    (h : r.payload.Loggable) (hmoment : created.moment = .ok moment) (unfit : ¬ r.Fits room) :
    r.format room created = .error .tooDeep := by
  unfold format
  rw [hmoment]
  cases hlevels : room.levels with
  | zero => rfl
  | succ levels =>
    change (r.payload.encode room.forText levels >>= _) = _
    rw [h.ends.2 fun hpayload => unfit ⟨levels, hlevels, hpayload⟩]
    rfl

/-- A record has a line exactly if its time is one of the calendar and the encoder has the room for it. The line has no
control character, and all of the record is read from it: its time, its message, its logger, its payload and what was
raised, each under its own name and only if there is such a thing. -/
theorem format_reads [StandIns] (room : Room) (created : Moment.Seconds) (r : LogRecord) (h : r.payload.Loggable) :
    (∀ fault, created.moment = .error fault → r.format room created = .error (.time fault)) ∧
    ∀ moment, created.moment = .ok moment →
      (¬ r.Fits room → r.format room created = .error .tooDeep) ∧
      (r.Fits room → ∃ line, r.format room created = .ok line ∧ (∀ c ∈ line.toList, 0x20 ≤ c.toNat) ∧
        ∃ members, (∀ limit, depth r.payload.toJson < limit → readWithin limit line.toList = .ok (.obj members)) ∧
          (members.map (·.1)).Nodup ∧
          (∀ name, name ∈ members.map (·.1) ↔ name ∈ ["timestamp", "level", "logger", "message"] ∨
            (name = "audit" ∧ r.payload ≠ .null) ∨ (name = "exc_info" ∧ r.raised ≠ none)) ∧
          members.lookup "timestamp" = some (.str (moment.text "T")) ∧
          members.lookup "level" = some (.str (levelName r.level)) ∧
          members.lookup "logger" = some (.str r.logger) ∧
          members.lookup "message" = some (.str r.message) ∧
          (r.payload ≠ .null → ∃ v, members.lookup "audit" = some v ∧ r.payload.Shows v) ∧
          (∀ e, r.raised = some e → members.lookup "exc_info" = some (.str e.text))) := by
  refine ⟨fun fault hfault => ?_, fun moment hmoment => ⟨format_of_not_fits h hmoment, fun fits => ?_⟩⟩
  · rw [format, hfault]
    rfl
  · exact ⟨_, format_of_fits h hmoment fits, jsonLine_reads _ r h⟩

/-- An exception that was raised while another one was handled, with a note. -/
def someRaised : Raised := ⟨"E", ⟨⟨"x\ny", [], ["seen"], [⟨"a.py", 3, "f", ["g()"]⟩]⟩,
  [⟨"KeyError", ⟨"'k'", [], [], []⟩, .context⟩]⟩⟩

/-- A payload with a path beside a text. -/
def somePayload : Payload := .obj [("files", .arr [.path ⟨"/", ["a\n"]⟩, .str "\r"]), ("n", .int (-3))]

theorem loggable_somePayload : somePayload.Loggable := by
  refine .obj (by decide) ?_
  simp only [List.forall_mem_cons]
  refine ⟨.arr ?_, .int (by decide), nofun⟩
  simp only [List.forall_mem_cons]
  exact ⟨.path _, .str _, nofun⟩

theorem fits_somePayload : Payload.Fits (fun _ => 5) 7 somePayload := by
  refine .obj ?_
  simp only [List.forall_mem_cons]
  refine ⟨.arr ?_, .int _, nofun⟩
  simp only [List.forall_mem_cons]
  exact ⟨.path (by decide), .str _, nofun⟩

/-- A record with line ends and a quote in its texts, an exception, and a path beside a text in its payload. -/
theorem format_reads_nested : ∃ line members,
    LogRecord.format ⟨8, fun _ => 5⟩ (.whole 0) ⟨20, "a\"b", "one\ntwo", somePayload, some someRaised⟩ = .ok line ∧
    readWithin Json.depthLimit line.toList = .ok (.obj members) ∧
    members.lookup "timestamp" = some (.str "1970-01-01T00:00:00+00:00") ∧
    members.lookup "logger" = some (.str "a\"b") ∧ members.lookup "message" = some (.str "one\ntwo") ∧
    members.lookup "exc_info" = some (.str someRaised.text) := by
  obtain ⟨-, hline⟩ := format_reads ⟨8, fun _ => 5⟩ (.whole 0)
    ⟨20, "a\"b", "one\ntwo", somePayload, some someRaised⟩ loggable_somePayload
  obtain ⟨-, hfits⟩ := hline ⟨1970, 1, 1, 0, 0, 0, 0, some 0⟩ (by rfl)
  obtain ⟨line, hformat, -, members, hread, -, -, htime, -, hlogger, hmessage, -, hraised⟩ :=
    hfits ⟨7, rfl, fits_somePayload⟩
  exact ⟨line, members, hformat, hread Json.depthLimit (by decide), htime, hlogger, hmessage, hraised _ rfl⟩

/-- The account of an exception is written as the interpreter prints it. -/
example : someRaised.text = "KeyError: 'k'\n\nDuring handling of the above exception, another exception occurred:\n\n" ++
    "Traceback (most recent call last):\n  File \"a.py\", line 3, in f\n    g()\nE: x\ny\nseen\n" := by decide +kernel

/-- A list in a list, and so on. -/
def nested : Nat → Payload
  | 0 => .null
  | n + 1 => .arr [nested n]

theorem loggable_nested (n : Nat) : (nested n).Loggable := by
  induction n with
  | zero => exact .null
  | succ n ih => exact .arr (List.forall_mem_singleton.mpr ih)

theorem le_of_fits_nested {forText : Payload → Nat} {levels n : Nat} (h : Payload.Fits forText levels (nested n)) :
    n ≤ levels := by
  induction n generalizing levels with
  | zero => exact Nat.zero_le _
  | succ n ih =>
    cases h with
    | arr fits => exact Nat.succ_le_succ (ih (fits _ List.mem_cons_self))

/-- A record of a time behind the calendar has no line, nor has one with a thousand lists in one another where the encoder
may go down 994 levels. -/
theorem format_of_late_and_deep :
    LogRecord.format ⟨994, fun _ => 5⟩ (.whole 253402300800) ⟨20, "t", "m", .null, none⟩ =
      .error (.time (.yearRange 10000)) ∧
    (nested 1000).Loggable ∧
    LogRecord.format ⟨994, fun _ => 5⟩ (.whole 0) ⟨20, "t", "m", nested 1000, none⟩ = .error .tooDeep := by
  refine ⟨rfl, loggable_nested 1000, ?_⟩
  have hmoment : (Moment.Seconds.whole 0).moment = .ok ⟨1970, 1, 1, 0, 0, 0, 0, some 0⟩ := rfl
  refine format_of_not_fits (loggable_nested 1000) hmoment fun ⟨levels, hlevels, fits⟩ => ?_
  have hle := le_of_fits_nested fits
  cases hlevels
  omega

end LogRecord

end SchemaAudit
