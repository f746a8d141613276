import Mathlib.Data.List.Forall2
import SchemaAudit.Proofs.Json.Values
import SchemaAudit.Proofs.Lookup

/-! # Values within others

A value within another one is the same value, but for members that only the other one has and for the order of the
members. A reading that passes over what it does not ask for makes no difference between the two. -/

namespace SchemaAudit.Json

variable {asciiOnly : Bool} {depth : Nat} {v w : Json} {items : List Json} {members : List (String × Json)}

/-- A value within another one, whose objects may have further members. -/
inductive Within : Json → Json → Prop
  | null : Within .null .null
  | bool (b : Bool) : Within (.bool b) (.bool b)
  | int (n : Int) : Within (.int n) (.int n)
  | real (x : Number.Binary64) : Within (.real x) (.real x)
  | str (s : String) : Within (.str s) (.str s)
  | arr {items items' : List Json} (items_within : List.Forall₂ Within items items') :
    Within (.arr items) (.arr items')
  | obj {members members' : List (String × Json)} (value : String → Json)
    (held : ∀ m ∈ members, members'.lookup m.1 = some (value m.1))
    (values_within : ∀ m ∈ members, Within m.2 (value m.1)) : Within (.obj members) (.obj members')

theorem within_null_iff : Within .null w ↔ w = .null := by
  constructor
  · rintro ⟨⟩
    rfl
  · rintro rfl
    exact .null

theorem within_str_iff {s : String} : Within (.str s) w ↔ w = .str s := by
  constructor
  · rintro ⟨⟩
    rfl
  · rintro rfl
    exact .str s

theorem within_arr_iff : Within (.arr items) w ↔ ∃ items', w = .arr items' ∧ List.Forall₂ Within items items' := by
  constructor
  · rintro (_ | _ | _ | _ | _ | h)
    exact ⟨_, rfl, h⟩
  · rintro ⟨items', rfl, h⟩
    exact .arr h

theorem Within.exists_obj (h : Within (.obj members) w) : ∃ members', w = .obj members' := by
  cases h with
  | obj value held values_within => exact ⟨_, rfl⟩

theorem Within.lookup {members' : List (String × Json)} {name : String} (h : Within (.obj members) (.obj members'))
    (hm : (name, v) ∈ members) : ∃ v', members'.lookup name = some v' ∧ v.Within v' := by
  cases h with
  | obj value held values_within => exact ⟨value name, held _ hm, values_within _ hm⟩

/-- A value that is read back is within itself: the names in each object differ. -/
theorem Readable.within_self [StandIns] (h : Readable asciiOnly depth v) : v.Within v := by
  induction h with
  | null => exact .null
  | bool b => exact .bool b
  | int few => exact .int _
  | str whole => exact .str _
  | arr _ ih => exact .arr (List.forall₂_same.mpr ih)
  | @obj _ members names _ _ ih =>
    refine .obj (fun name => (members.lookup name).getD .null) (fun m hm => ?_) (fun m hm => ?_)
    · rw [lookup_of_mem names hm]
      rfl
    · rw [lookup_of_mem names hm]
      exact ih m hm

end SchemaAudit.Json
