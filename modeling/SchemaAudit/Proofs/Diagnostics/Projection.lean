import Mathlib.Data.List.Nodup
import SchemaAudit.Proofs.Diagnostics.Saved

/-! # Reading a document as a projection

A document that is read is the value it is read from, restricted to what a document declares: the six categories, and in
each row its own keys (`Diagnostics.restrict`). Nothing is changed on the way, dropped, moved or made up, and of what is
passed over nothing matters: a value is read as its restriction is (`Diagnostics.ofJson_restrict`), whether it is
accepted or refused. -/

namespace SchemaAudit

open Json Checked

variable {α β : Type} {ms ms' : List (String × Json)} {v : Json} {key : String}

/-! ### Restriction -/

namespace Json

/-- The members under some keys, in the order of the keys, each with its value cut down. -/
def pickMembers (parts : List (String × (Json → Json))) (ms : List (String × Json)) : List (String × Json) :=
  parts.filterMap fun part => (ms.lookup part.1).map fun value => (part.1, part.2 value)

/-- An object cut down to the members under some keys. -/
def pick (parts : List (String × (Json → Json))) : Json → Json
  | .obj ms => .obj (pickMembers parts ms)
  | v => v

/-- A list of objects, each cut down to the members under some keys. -/
def pickRows (keys : List String) : Json → Json
  | .arr items => .arr (items.map (pick (keys.map (·, id))))
  | v => v

theorem pickMembers_congr {parts : List (String × (Json → Json))}
    (h : ∀ part ∈ parts, (ms'.lookup part.1).map part.2 = (ms.lookup part.1).map part.2) :
    pickMembers parts ms' = pickMembers parts ms := by
  refine List.filterMap_congr fun part hpart => ?_
  have hvalues := congrArg (Option.map (part.1, ·)) (h part hpart)
  rwa [Option.map_map, Option.map_map] at hvalues

theorem pickMembers_cons {parts : List (String × (Json → Json))} {f : Json → Json} {w : Json}
    (h : (ms.lookup key).map f = some w) : pickMembers ((key, f) :: parts) ms = (key, w) :: pickMembers parts ms := by
  obtain ⟨value, hvalue, rfl⟩ := Option.map_eq_some_iff.mp h
  rw [pickMembers, List.filterMap_cons_some (b := (key, f value)) (by rw [hvalue, Option.map_some])]
  rfl

theorem lookup_pickMembers {parts : List (String × (Json → Json))} {f : Json → Json}
    (names : (parts.map (·.1)).Nodup) (h : (key, f) ∈ parts) (ms : List (String × Json)) :
    (pickMembers parts ms).lookup key = (ms.lookup key).map f := by
  cases hv : ms.lookup key with
  | none =>
    refine List.lookup_eq_none_iff.mpr fun m hm => ?_
    obtain ⟨part, -, hpart⟩ := List.mem_filterMap.mp hm
    obtain ⟨value, hvalue, rfl⟩ := Option.map_eq_some_iff.mp hpart
    have hne : key ≠ part.1 := by
      rintro rfl
      cases hv.symm.trans hvalue
    simpa using hne
  | some value =>
    have hnames : ((pickMembers parts ms).map (·.1)).Nodup := by
      refine List.pairwise_map.mpr ((List.pairwise_map.mp names).filterMap _ fun part part' hne m hm m' hm' => ?_)
      obtain ⟨_, -, rfl⟩ := Option.map_eq_some_iff.mp hm
      obtain ⟨_, -, rfl⟩ := Option.map_eq_some_iff.mp hm'
      exact hne
    refine lookup_of_mem hnames (List.mem_filterMap.mpr ⟨(key, f), h, ?_⟩)
    dsimp only
    rw [hv, Option.map_some]

theorem lookup_pickMembers_of_mem {keys : List String} (names : keys.Nodup) (h : key ∈ keys)
    (ms : List (String × Json)) : (pickMembers (keys.map (·, id)) ms).lookup key = ms.lookup key := by
  have hnames : ((keys.map (·, (id : Json → Json))).map (·.1)).Nodup := by
    rwa [List.map_map, show ((·.1) ∘ (·, (id : Json → Json)) : String → String) = id from rfl, List.map_id]
  rw [lookup_pickMembers hnames (List.mem_map.mpr ⟨key, h, rfl⟩), Option.map_id_fun, id_eq]

end Json

namespace Diagnostics

/-- The categories of a document and the keys of their rows, as they are declared. -/
def declared : List (String × List String) := [
  ("schema_columns", ["table", "column", "type"]),
  ("table_constraints", ["table", "constraint_name", "type"]),
  ("indexes", ["table", "index_name"]),
  ("rls_policies", ["table", "policy_name", "command", "definition"]),
  ("triggers", ["trigger_name", "table", "timing", "event"]),
  ("functions_and_procedures", ["name", "type"])]

/-- A value without what a document does not declare. -/
def restrict : Json → Json := pick (declared.map fun category => (category.1, pickRows category.2))

end Diagnostics

/-! ### What is read is what is there -/

namespace Checked

theorem map_eq_ok_iff {f : α → β} {r : Checked α} {b : β} : f <$> r = ok b ↔ ∃ a, r = ok a ∧ f a = b := by
  change map f r = ok b ↔ _
  cases r with
  | ok a => simp [map]
  | bad vs => simp [map]

theorem both_eq_ok_iff {r : Checked α} {q : Checked β} {a : α} {b : β} :
    both r q = ok (a, b) ↔ r = ok a ∧ q = ok b := by
  cases r with
  | ok a' =>
    cases q with
    | ok b' => simp [both]
    | bad ws => simp [both]
  | bad vs =>
    cases q with
    | ok b' => simp [both]
    | bad ws => simp [both]

theorem seq_eq_ok_iff {f : Checked (α → β)} {r : Checked α} {b : β} :
    f <*> r = ok b ↔ ∃ g a, f = ok g ∧ r = ok a ∧ g a = b := by
  change (fun p : (α → β) × α => p.1 p.2) <$> both f r = ok b ↔ _
  simp only [map_eq_ok_iff, Prod.exists, both_eq_ok_iff, and_assoc]

theorem under_eq_ok_iff {r : Checked α} {a : α} : r.under key = ok a ↔ r = ok a := by
  cases r with
  | ok b => rfl
  | bad vs => simp [under]

theorem member_eq_ok_iff {read : Json → Checked α} {a : α} :
    member key read ms = ok a ↔ ∃ value, ms.lookup key = some value ∧ read value = ok a := by
  unfold member
  cases ms.lookup key with
  | none => simp [under_eq_ok_iff, wrong]
  | some value => simp [under_eq_ok_iff]

/-- A reading that takes only what a writing gives. -/
def Exact (read : Json → Checked α) (write : α → Json) : Prop := ∀ v a, read v = ok a ↔ v = write a

theorem Exact.member {read : Json → Checked α} {write : α → Json} (h : Exact read write) {a : α} :
    member key read ms = ok a ↔ ms.lookup key = some (write a) := by
  rw [member_eq_ok_iff]
  constructor
  · rintro ⟨value, hl, hr⟩
    rw [hl, (h value a).mp hr]
  · exact fun hl => ⟨_, hl, (h _ a).mpr rfl⟩

theorem exact_string : Exact string .str := by
  intro v s
  cases v with
  | str s' => simp [string]
  | null | bool | int | real | arr | obj => simp [string, wrong]

theorem exact_optionalString : Exact optionalString .ofOption := by
  intro v s
  cases s with
  | none =>
    cases v with
    | null => simp [optionalString, Json.ofOption]
    | str | bool | int | real | arr | obj => simp [optionalString, Json.ofOption, wrong]
  | some s =>
    cases v with
    | str s' => simp [optionalString, Json.ofOption]
    | null | bool | int | real | arr | obj => simp [optionalString, Json.ofOption, wrong]

theorem exact_routineKind [StandIns] : Exact RoutineKind.ofJson fun kind => .str kind.word := by
  intro v kind
  constructor
  · intro h
    cases v with
    | str s =>
      by_cases hfunction : s = RoutineKind.function.word
      · subst hfunction
        cases h
        rfl
      by_cases hprocedure : s = RoutineKind.procedure.word
      · subst hprocedure
        cases h
        rfl
      simp only [RoutineKind.ofJson, if_neg hfunction, if_neg hprocedure] at h
      split at h
      · cases h
      · cases h
    | null | bool | int | real | arr | obj => cases h
  · rintro rfl
    cases kind <;> rfl

/-- A reading of rows that gives what their restriction tells. -/
def Keeps (read : List (String × Json) → Checked α) (keys : List String) (write : α → Json) : Prop :=
  ∀ ms a, read ms = ok a → .obj (pickMembers (keys.map (·, id)) ms) = write a

theorem map_of_itemsFrom {read : Json → Checked α} {write : α → Json} {cut : Json → Json}
    (h : ∀ v a, read v = ok a → cut v = write a) (position : Nat) (vs : List Json) {as : List α}
    (hr : itemsFrom read position vs = ok as) : vs.map cut = as.map write := by
  induction vs generalizing position as with
  | nil =>
    cases hr
    rfl
  | cons v vs ih =>
    obtain ⟨⟨a, rest⟩, hboth, rfl⟩ := map_eq_ok_iff.mp hr
    obtain ⟨ha, hrest⟩ := both_eq_ok_iff.mp hboth
    rw [List.map_cons, List.map_cons, h v a (under_eq_ok_iff.mp ha), ih (position + 1) hrest]

theorem Keeps.category {read : List (String × Json) → Checked α} {keys : List String} {write : α → Json}
    (h : Keeps read keys write) {row : String} {as : List α} (hr : category key row read ms = ok as) :
    (ms.lookup key).map (pickRows keys) = some (.arr (as.map write)) := by
  obtain ⟨value, hl, hitems⟩ := member_eq_ok_iff.mp hr
  rw [hl]
  cases value with
  | arr vs =>
    have hrow (v : Json) (a : α) (hv : record row read v = ok a) : pick (keys.map (·, id)) v = write a := by
      cases v with
      | obj ms => exact h ms a hv
      | null | bool | int | real | str | arr => cases hv
    rw [Option.map_some, pickRows, map_of_itemsFrom hrow 0 vs hitems]
  | null | bool | int | real | str | obj => cases hitems

end Checked

/-! ### Rows -/

theorem ColumnRow.keeps_ofMembers : Keeps ofMembers ["table", "column", "type"] toJson := by
  intro ms r h
  simp only [ofMembers, seq_eq_ok_iff, Checked.map_eq_ok_iff, exact_string.member] at h
  obtain ⟨_, type, ⟨_, column, ⟨table, htable, rfl⟩, hcolumn, rfl⟩, htype, rfl⟩ := h
  simp [pickMembers, htable, hcolumn, htype, toJson]

theorem ConstraintRow.keeps_ofMembers : Keeps ofMembers ["table", "constraint_name", "type"] toJson := by
  intro ms r h
  simp only [ofMembers, seq_eq_ok_iff, Checked.map_eq_ok_iff, exact_string.member] at h
  obtain ⟨_, type, ⟨_, name, ⟨table, htable, rfl⟩, hname, rfl⟩, htype, rfl⟩ := h
  simp [pickMembers, htable, hname, htype, toJson]

theorem IndexRow.keeps_ofMembers : Keeps ofMembers ["table", "index_name"] toJson := by
  intro ms r h
  simp only [ofMembers, seq_eq_ok_iff, Checked.map_eq_ok_iff, exact_string.member] at h
  obtain ⟨_, name, ⟨table, htable, rfl⟩, hname, rfl⟩ := h
  simp [pickMembers, htable, hname, toJson]

theorem PolicyRow.keeps_ofMembers : Keeps ofMembers ["table", "policy_name", "command", "definition"] toJson := by
  intro ms r h
  simp only [ofMembers, seq_eq_ok_iff, Checked.map_eq_ok_iff, exact_string.member, exact_optionalString.member] at h
  obtain ⟨_, definition, ⟨_, command, ⟨_, name, ⟨table, htable, rfl⟩, hname, rfl⟩, hcommand, rfl⟩, hdefinition,
    rfl⟩ := h
  simp [pickMembers, htable, hname, hcommand, hdefinition, toJson]

theorem TriggerRow.keeps_ofMembers : Keeps ofMembers ["trigger_name", "table", "timing", "event"] toJson := by
  intro ms r h
  simp only [ofMembers, seq_eq_ok_iff, Checked.map_eq_ok_iff, exact_string.member] at h
  obtain ⟨_, event, ⟨_, timing, ⟨_, table, ⟨name, hname, rfl⟩, htable, rfl⟩, htiming, rfl⟩, hevent, rfl⟩ := h
  simp [pickMembers, htable, hname, htiming, hevent, toJson]

theorem RoutineRow.keeps_ofMembers [StandIns] : Keeps ofMembers ["name", "type"] toJson := by
  intro ms r h
  simp only [ofMembers, seq_eq_ok_iff, Checked.map_eq_ok_iff, exact_string.member, exact_routineKind.member] at h
  obtain ⟨_, kind, ⟨name, hname, rfl⟩, hkind, rfl⟩ := h
  simp [pickMembers, hname, hkind, toJson]

namespace Diagnostics

/-! ### Documents -/

/-- A document that is read is what it is read from without what it does not declare. -/
theorem restrict_of_ofMembers [StandIns] {d : Diagnostics} (h : ofMembers ms = ok d) :
    restrict (.obj ms) = d.toJson := by
  simp only [ofMembers, seq_eq_ok_iff, Checked.map_eq_ok_iff] at h
  obtain ⟨_, routines, ⟨_, triggers, ⟨_, policies, ⟨_, indexes, ⟨_, constraints, ⟨columns, hcolumns, rfl⟩, hconstraints,
    rfl⟩, hindexes, rfl⟩, hpolicies, rfl⟩, htriggers, rfl⟩, hroutines, rfl⟩ := h
  have hcolumns := ColumnRow.keeps_ofMembers.category hcolumns
  have hconstraints := ConstraintRow.keeps_ofMembers.category hconstraints
  have hindexes := IndexRow.keeps_ofMembers.category hindexes
  have hpolicies := PolicyRow.keeps_ofMembers.category hpolicies
  have htriggers := TriggerRow.keeps_ofMembers.category htriggers
  have hroutines := RoutineRow.keeps_ofMembers.category hroutines
  rw [restrict, pick, declared]
  simp only [List.map_cons, List.map_nil]
  rw [pickMembers_cons hcolumns, pickMembers_cons hconstraints, pickMembers_cons hindexes, pickMembers_cons hpolicies,
    pickMembers_cons htriggers, pickMembers_cons hroutines]
  rfl

end Diagnostics

/-! ### What is not declared -/

namespace Checked

/-- A reading that looks at some keys only. -/
def LooksAt (read : List (String × Json) → Checked α) (keys : List String) : Prop :=
  ∀ ms ms', (∀ key ∈ keys, ms'.lookup key = ms.lookup key) → read ms' = read ms

theorem itemsFrom_map_of_cut {read : Json → Checked α} {cut : Json → Json} (h : ∀ v, read (cut v) = read v)
    (position : Nat) (vs : List Json) : itemsFrom read position (vs.map cut) = itemsFrom read position vs := by
  induction vs generalizing position with
  | nil => rfl
  | cons v vs ih => rw [List.map_cons, itemsFrom, itemsFrom, h, ih]

/-- A category is read as the declared part of its rows is. -/
theorem LooksAt.category {read : List (String × Json) → Checked α} {keys : List String} (h : LooksAt read keys)
    (names : keys.Nodup) {row : String} (hl : ms'.lookup key = (ms.lookup key).map (pickRows keys)) :
    category key row read ms' = category key row read ms := by
  have hrow (v : Json) : record row read (pick (keys.map (·, id)) v) = record row read v := by
    cases v with
    | obj ms => exact h ms _ fun key hkey => lookup_pickMembers_of_mem names hkey ms
    | null | bool | int | real | str | arr => rfl
  unfold SchemaAudit.category member
  rw [hl]
  cases ms.lookup key with
  | none => rfl
  | some v =>
    cases v with
    | arr vs => exact congrArg (·.under key) (itemsFrom_map_of_cut hrow 0 vs)
    | null | bool | int | real | str | obj => rfl

end Checked

theorem ColumnRow.looksAt_ofMembers : LooksAt ofMembers ["table", "column", "type"] := by
  intro ms ms' h
  simp only [List.forall_mem_cons] at h
  simp only [ofMembers, member, h]

theorem ConstraintRow.looksAt_ofMembers : LooksAt ofMembers ["table", "constraint_name", "type"] := by
  intro ms ms' h
  simp only [List.forall_mem_cons] at h
  simp only [ofMembers, member, h]

theorem IndexRow.looksAt_ofMembers : LooksAt ofMembers ["table", "index_name"] := by
  intro ms ms' h
  simp only [List.forall_mem_cons] at h
  simp only [ofMembers, member, h]

theorem PolicyRow.looksAt_ofMembers : LooksAt ofMembers ["table", "policy_name", "command", "definition"] := by
  intro ms ms' h
  simp only [List.forall_mem_cons] at h
  simp only [ofMembers, member, h]

theorem TriggerRow.looksAt_ofMembers : LooksAt ofMembers ["trigger_name", "table", "timing", "event"] := by
  intro ms ms' h
  simp only [List.forall_mem_cons] at h
  simp only [ofMembers, member, h]

theorem RoutineRow.looksAt_ofMembers [StandIns] : LooksAt ofMembers ["name", "type"] := by
  intro ms ms' h
  simp only [List.forall_mem_cons] at h
  simp only [ofMembers, member, h]

namespace Diagnostics

theorem ofMembers_restrict [StandIns] (ms : List (String × Json)) :
    ofMembers (pickMembers (declared.map fun category => (category.1, pickRows category.2)) ms) = ofMembers ms := by
  have names : ((declared.map fun category => (category.1, pickRows category.2)).map (·.1)).Nodup := by
    rw [List.map_map]
    decide
  have rows {category : String} {keys : List String} (h : (category, keys) ∈ declared) :
      (pickMembers (declared.map fun category => (category.1, pickRows category.2)) ms).lookup category =
        (ms.lookup category).map (pickRows keys) :=
    lookup_pickMembers names (List.mem_map.mpr ⟨_, h, rfl⟩) ms
  rw [ofMembers, ColumnRow.looksAt_ofMembers.category (by decide) (rows (by decide)),
    ConstraintRow.looksAt_ofMembers.category (by decide) (rows (by decide)),
    IndexRow.looksAt_ofMembers.category (by decide) (rows (by decide)),
    PolicyRow.looksAt_ofMembers.category (by decide) (rows (by decide)),
    TriggerRow.looksAt_ofMembers.category (by decide) (rows (by decide)),
    RoutineRow.looksAt_ofMembers.category (by decide) (rows (by decide))]
  rfl

/-- A value is read as its restriction is, accepted or refused. -/
theorem ofJson_restrict [StandIns] (v : Json) : ofJson (restrict v) = ofJson v := by
  cases v with
  | obj ms => rw [restrict, pick, ofJson_obj, ofJson_obj, ofMembers_restrict]
  | null | bool | int | real | str | arr => rfl

theorem ofJson_eq_ok_iff_restrict [StandIns] {d : Diagnostics} : ofJson v = .ok d ↔ restrict v = d.toJson := by
  constructor
  · intro h
    cases v with
    | obj ms =>
      rw [ofJson_obj] at h
      cases hread : ofMembers ms with
      | ok own =>
        rw [hread] at h
        cases h
        exact restrict_of_ofMembers hread
      | bad vs =>
        rw [hread] at h
        cases h
    | null | bool | int | real | str | arr => cases h
  · intro h
    rw [← ofJson_restrict, h]
    exact ofJson_of_within d d.within_toJson

end Diagnostics

/-! ### Changes to what is not declared -/

/-- A change to the members of an object: a value is put under a name, in its place or at the end, or taken away. -/
inductive Json.Edit where
  | put (name : String) (value : Json)
  | drop (name : String)

namespace Json

/-- The name that a change is about. -/
def Edit.name : Edit → String
  | put name _ => name
  | drop name => name

def Edit.apply : Edit → List (String × Json) → List (String × Json)
  | put name value, ms => setMember name value ms
  | drop name, ms => ms.filter (·.1 ≠ name)

/-- A change to an object. -/
def atObject (f : List (String × Json) → List (String × Json)) : Json → Json
  | .obj ms => .obj (f ms)
  | v => v

/-- A change to the item at a position of a list. -/
def atItem (position : Nat) (f : Json → Json) : Json → Json
  | .arr items => .arr (items.modify position f)
  | v => v

/-- A change to what stands under a name of an object. -/
def atMember (name : String) (f : Json → Json) : Json → Json :=
  atObject fun ms => ms.map fun m => (m.1, if m.1 = name then f m.2 else m.2)

theorem lookup_setMember_of_ne {name : String} {value : Json} (h : key ≠ name) (ms : List (String × Json)) :
    (setMember name value ms).lookup key = ms.lookup key := by
  induction ms with
  | nil => rw [setMember, List.lookup_cons, beq_false_of_ne h]
  | cons m ms ih =>
    obtain ⟨n, w⟩ := m
    rw [setMember]
    split
    · rename_i hn
      rw [List.lookup_cons, List.lookup_cons, hn, beq_false_of_ne h]
    · rw [List.lookup_cons, List.lookup_cons, ih]

/-- A change is about its name only. -/
theorem Edit.lookup_apply (e : Edit) (h : key ≠ e.name) (ms : List (String × Json)) :
    (e.apply ms).lookup key = ms.lookup key := by
  cases e with
  | put name value => exact lookup_setMember_of_ne h ms
  | drop name => exact lookup_filter (fun _ => decide_eq_true h) ms

theorem lookup_atMember {name : String} (f : Json → Json) (ms : List (String × Json)) :
    (ms.map fun m => (m.1, if m.1 = name then f m.2 else m.2)).lookup key =
      (ms.lookup key).map fun value => if key = name then f value else value := by
  induction ms with
  | nil => rfl
  | cons m ms ih =>
    rw [List.map_cons, List.lookup_cons, List.lookup_cons]
    cases hkey : key == m.1 with
    | true => rw [Option.map_some, eq_of_beq hkey]
    | false => exact ih

end Json

namespace Diagnostics

/-- A change to the members of a document, or to those of one row of a category. -/
inductive Change where
  | document (edit : Edit)
  | row (category : String) (position : Nat) (edit : Edit)

namespace Change

def apply : Change → Json → Json
  | document edit => atObject edit.apply
  | row category position edit => atMember category (atItem position (atObject edit.apply))

/-- A change under a name that is not declared where the change is made. -/
def IsForeign : Change → Prop
  | document edit => edit.name ∉ declared.map (·.1)
  | row category _ edit => ∀ rows ∈ declared, rows.1 = category → edit.name ∉ rows.2

instance : (change : Change) → Decidable change.IsForeign
  | document edit => inferInstanceAs (Decidable (edit.name ∉ declared.map (·.1)))
  | row category _ edit => inferInstanceAs (Decidable (∀ rows ∈ declared, rows.1 = category → edit.name ∉ rows.2))

end Change

theorem pickRows_atItem {keys : List String} {edit : Edit} (foreign : edit.name ∉ keys) (position : Nat) (v : Json) :
    pickRows keys (atItem position (atObject edit.apply) v) = pickRows keys v := by
  have hrow (v : Json) : pick (keys.map (·, id)) (atObject edit.apply v) = pick (keys.map (·, id)) v := by
    cases v with
    | obj ms =>
      refine congrArg Json.obj (pickMembers_congr fun part hpart => ?_)
      obtain ⟨key, hkey, rfl⟩ := List.mem_map.mp hpart
      rw [edit.lookup_apply fun heq => foreign (heq ▸ hkey)]
    | null | bool | int | real | str | arr => rfl
  cases v with
  | arr vs =>
    refine congrArg Json.arr ?_
    induction vs generalizing position with
    | nil => rw [List.modify_nil]
    | cons v vs ih =>
      cases position with
      | zero => rw [List.modify_zero_cons, List.map_cons, List.map_cons, hrow]
      | succ position => rw [List.modify_succ_cons, List.map_cons, List.map_cons, ih]
  | null | bool | int | real | str | obj => rfl

/-- A change to what is not declared is none to the restriction. -/
theorem restrict_apply {change : Change} (foreign : change.IsForeign) (v : Json) :
    restrict (change.apply v) = restrict v := by
  cases v with
  | obj ms =>
    cases change with
    | document edit =>
      refine congrArg Json.obj (pickMembers_congr fun part hpart => ?_)
      obtain ⟨category, hcategory, rfl⟩ := List.mem_map.mp hpart
      rw [edit.lookup_apply fun heq => foreign (heq ▸ List.mem_map.mpr ⟨category, hcategory, rfl⟩)]
    | row category position edit =>
      refine congrArg Json.obj (pickMembers_congr fun part hpart => ?_)
      obtain ⟨⟨key, keys⟩, hkeys, rfl⟩ := List.mem_map.mp hpart
      rw [lookup_atMember, Option.map_map]
      refine congrArg (Option.map · _) (funext fun value => ?_)
      dsimp only [Function.comp_apply]
      split
      · rename_i heq
        exact pickRows_atItem (foreign (key, keys) hkeys heq) position value
      · rfl
  | null | bool | int | real | str | arr => cases change <;> rfl

/-- A value is read as a document exactly if its restriction is that document written as JSON, and a document that was
written is read back. Changes to what is not declared, in the document or in its rows, change no reading. -/
theorem ofJson_projects [StandIns] :
    (∀ v d, ofJson v = .ok d ↔ restrict v = d.toJson) ∧ (∀ d, ofJson (toJson d) = .ok d) ∧
    ∀ v (changes : List Change), (∀ change ∈ changes, change.IsForeign) →
      ofJson (changes.foldl (fun v change => change.apply v) v) = ofJson v := by
  refine ⟨fun v d => ofJson_eq_ok_iff_restrict, fun d => ofJson_of_within d d.within_toJson, fun v changes foreign => ?_⟩
  induction changes generalizing v with
  | nil => rfl
  | cons change changes ih =>
    rw [List.foldl_cons, ih _ fun other hother => foreign other (List.mem_cons_of_mem _ hother), ← ofJson_restrict,
      restrict_apply (foreign change List.mem_cons_self), ofJson_restrict]

/-- A store that reports more: the version of its report, whether a column may be null, and the roles of a policy. -/
theorem ofJson_projects_reporting_more :
    ofJson (.obj [
      ("schema_columns", .arr [.obj [("table", .str "t"), ("column", .str "id"), ("type", .str "uuid"),
        ("nullable", .bool false)]]),
      ("table_constraints", .arr []), ("indexes", .arr []),
      ("rls_policies", .arr [.obj [("table", .str "t"), ("policy_name", .str "p"), ("command", .str "ALL"),
        ("definition", .null), ("roles", .arr [.null])]]),
      ("triggers", .arr []), ("functions_and_procedures", .arr []), ("version", .int 2)]) =
    .ok ⟨[⟨"t", "id", "uuid"⟩], [], [], [⟨"t", "p", "ALL", none⟩], [], []⟩ := by
  obtain ⟨-, written, changed⟩ := ofJson_projects
  have hread := changed (toJson ⟨[⟨"t", "id", "uuid"⟩], [], [], [⟨"t", "p", "ALL", none⟩], [], []⟩)
    [.document (.put "version" (.int 2)), .row "schema_columns" 0 (.put "nullable" (.bool false)),
      .row "rls_policies" 0 (.put "roles" (.arr [.null]))] (by decide)
  rw [written] at hread
  exact hread

end Diagnostics

end SchemaAudit
