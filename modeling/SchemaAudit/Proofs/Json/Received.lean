import SchemaAudit.Proofs.Artifact.Encoding
import SchemaAudit.Proofs.Json.Within

/-! # What other programs receive

A document for other programs is printed with its members in order and in ASCII alone. What is read of it is `received`.
The members of an object are received one by one (`get?_received`), and a value with few enough digits and without halves
of pairs is received as it is, in order (`Readable.received_eq`). -/

namespace SchemaAudit.Json

variable {asciiOnly : Bool} {depth k : Nat} {v w x : Json} {items : List Json} {members : List (String × Json)}
  {name : String} {P : Int → Prop}

/-! ### Members in order -/

theorem sortedItems_eq [StandIns] (items : List Json) : sortedItems items = items.map sorted := by
  induction items with
  | nil => rfl
  | cons x items ih => rw [sortedItems, ih, List.map_cons]

theorem sortedMembers_eq [StandIns] (members : List (String × Json)) :
    sortedMembers members = members.map fun m => (m.1, m.2.sorted) := by
  induction members with
  | nil => rfl
  | cons m members ih =>
    obtain ⟨name, value⟩ := m
    rw [sortedMembers, ih, List.map_cons]

/-- The members of an object in order are the same members, each in order. -/
theorem exists_sorted_obj [StandIns] (members : List (String × Json)) :
    ∃ inOrder, (Json.obj members).sorted = .obj inOrder ∧ inOrder.Perm (members.map fun m => (m.1, m.2.sorted)) := by
  rw [sorted]
  exact ⟨_, rfl, sortedMembers_eq members ▸ List.mergeSort_perm _ _⟩

theorem forall_mem_sorted [StandIns] {P : String × Json → Prop} {inOrder : List (String × Json)}
    (perm : inOrder.Perm (members.map fun m => (m.1, m.2.sorted))) (h : ∀ m ∈ members, P (m.1, m.2.sorted)) :
    ∀ m ∈ inOrder, P m := by
  intro m hm
  obtain ⟨m', hm', rfl⟩ := List.mem_map.mp (perm.mem_iff.mp hm)
  exact h m' hm'

theorem nodup_sorted [StandIns] {inOrder : List (String × Json)}
    (perm : inOrder.Perm (members.map fun m => (m.1, m.2.sorted))) (names : (members.map (·.1)).Nodup) :
    (inOrder.map (·.1)).Nodup := by
  rw [(perm.map _).nodup_iff, List.map_map]
  exact names

theorem Printable.sorted [StandIns] (h : Printable asciiOnly P depth v) : Printable asciiOnly P depth v.sorted := by
  induction h with
  | null => exact .null
  | bool b => exact .bool b
  | int has => exact .int has
  | str s => exact .str s
  | arr _ ih =>
    rw [Json.sorted, sortedItems_eq]
    exact .arr (List.forall_mem_map.mpr ih)
  | @obj depth members names whole _ ih =>
    obtain ⟨inOrder, hsorted, perm⟩ := exists_sorted_obj members
    rw [hsorted]
    exact .obj (nodup_sorted perm names) (fun ha => forall_mem_sorted perm (whole ha)) (forall_mem_sorted perm ih)

theorem Readable.sorted [StandIns] (h : Readable asciiOnly depth v) : Readable asciiOnly depth v.sorted := by
  induction h with
  | null => exact .null
  | bool b => exact .bool b
  | int few => exact .int few
  | str whole => exact .str whole
  | arr _ ih =>
    rw [Json.sorted, sortedItems_eq]
    exact .arr (List.forall_mem_map.mpr ih)
  | @obj depth members names whole _ ih =>
    obtain ⟨inOrder, hsorted, perm⟩ := exists_sorted_obj members
    rw [hsorted]
    exact .obj (nodup_sorted perm names) (fun ha => forall_mem_sorted perm (whole ha)) (forall_mem_sorted perm ih)

theorem Printable.nodup [StandIns] (h : Printable asciiOnly P depth (.obj members)) : (members.map (·.1)).Nodup := by
  cases h with
  | obj names => exact names

/-! ### What is received -/

/-- What is read of a document that is printed for other programs. -/
def received [StandIns] (v : Json) : Option Json := asRead true v.sorted

theorem received_str [StandIns] {s : String} (h : SchemaAudit.InUtf8 s) : received (.str s) = some (.str s) := by
  change asRead true (.str s) = _
  rw [asRead, textRead_of_whole fun _ => h, String.ofList_toList]

/-- A value that is read back in ASCII is received as it is. -/
theorem Readable.received_eq [StandIns] (h : Readable true depth v) : received v = some v.sorted := h.sorted.asRead_eq

theorem Printable.exists_received [StandIns] (h : Printable true FewDigits depth v) : ∃ w, received v = some w :=
  h.sorted.exists_asRead

theorem lookup_membersAsRead [StandIns]
    {read : List (String × Json)} (h : membersAsRead asciiOnly members = some read) :
    read.lookup name = (members.lookup name).bind (asRead asciiOnly) := by
  induction members generalizing read with
  | nil =>
    cases h
    rfl
  | cons m members ih =>
    obtain ⟨other, value⟩ := m
    rw [membersAsRead] at h
    obtain ⟨x, hx, h⟩ := Option.bind_eq_some_iff.mp h
    obtain ⟨xs, hxs, rfl⟩ := Option.map_eq_some_iff.mp h
    rw [List.lookup_cons, List.lookup_cons]
    cases name == other with
    | true => exact hx.symm
    | false => exact ih hxs

/-- An object is received with its members. -/
theorem get?_received [StandIns]
    (names : (members.map (·.1)).Nodup) (h : received (.obj members) = some w) (name : String) :
    w.get? name = (members.lookup name).bind received := by
  obtain ⟨inOrder, hsorted, perm⟩ := exists_sorted_obj members
  rw [received, hsorted, asRead] at h
  obtain ⟨read, hread, rfl⟩ := Option.map_eq_some_iff.mp h
  have hnames : ((members.map fun m => (m.1, m.2.sorted)).map (·.1)).Nodup := by
    rw [List.map_map]
    exact names
  rw [get?, lookup_membersAsRead hread, lookup_of_perm perm hnames, lookup_map]
  cases members.lookup name <;> rfl

theorem exists_asRead_of_mem [StandIns] {read : List (String × Json)} (h : membersAsRead asciiOnly members = some read)
    {m : String × Json} (hm : m ∈ members) : ∃ x, asRead asciiOnly m.2 = some x := by
  induction members generalizing read with
  | nil => cases hm
  | cons p members ih =>
    rw [membersAsRead] at h
    obtain ⟨x, hx, h⟩ := Option.bind_eq_some_iff.mp h
    obtain ⟨xs, hxs, rfl⟩ := Option.map_eq_some_iff.mp h
    rcases List.mem_cons.mp hm with rfl | hm
    · exact ⟨x, hx⟩
    · exact ih hxs hm

/-- Each member of an object that is received is received itself. -/
theorem received_member [StandIns]
    (names : (members.map (·.1)).Nodup) (h : received (.obj members) = some w) {value : Json}
    (hm : (name, value) ∈ members) : ∃ x, received value = some x ∧ w.get? name = some x := by
  have hget := get?_received names h name
  obtain ⟨inOrder, hsorted, perm⟩ := exists_sorted_obj members
  rw [received, hsorted, asRead] at h
  obtain ⟨read, hread, -⟩ := Option.map_eq_some_iff.mp h
  have hmem : (name, value.sorted) ∈ inOrder := perm.mem_iff.mpr (List.mem_map_of_mem hm)
  obtain ⟨x, hx⟩ := exists_asRead_of_mem hread hmem
  refine ⟨x, hx, ?_⟩
  rw [hget, lookup_of_mem names hm]
  exact hx

theorem exists_obj_of_received [StandIns] (h : received (.obj members) = some w) : ∃ members', w = .obj members' := by
  obtain ⟨inOrder, hsorted, -⟩ := exists_sorted_obj members
  rw [received, hsorted, asRead] at h
  obtain ⟨read, -, rfl⟩ := Option.map_eq_some_iff.mp h
  exact ⟨read, rfl⟩

theorem forall₂_itemsAsRead [StandIns] {read : List Json} (h : itemsAsRead true (items.map sorted) = some read) :
    List.Forall₂ (fun item x => received item = some x) items read := by
  induction items generalizing read with
  | nil =>
    cases h
    exact .nil
  | cons item items ih =>
    rw [List.map_cons, itemsAsRead] at h
    obtain ⟨x, hx, h⟩ := Option.bind_eq_some_iff.mp h
    obtain ⟨xs, hxs, rfl⟩ := Option.map_eq_some_iff.mp h
    exact .cons hx (ih hxs)

/-- A list is received item by item. -/
theorem received_arr [StandIns] (h : received (.arr items) = some w) : ∃ read, w = .arr read ∧
    List.Forall₂ (fun item x => received item = some x) items read := by
  rw [received, sorted, asRead, sortedItems_eq] at h
  obtain ⟨read, hread, rfl⟩ := Option.map_eq_some_iff.mp h
  exact ⟨read, rfl, forall₂_itemsAsRead hread⟩

theorem received_int [StandIns] {n : Int} (h : received (.int n) = some w) : w = .int n := by
  change asRead true (.int n) = some w at h
  rw [asRead] at h
  split at h
  · cases h
    rfl
  · cases h

/-! ### Values in UTF-8 -/

theorem mem_itemsText [StandIns] {style : Style} {c : Char} (hx : x ∈ items) (hc : c ∈ valueText style k x) :
    c ∈ itemsText style k items := by
  induction items with
  | nil => cases hx
  | cons y items ih =>
    simp only [itemsText, List.mem_append]
    rcases List.mem_cons.mp hx with rfl | hx
    · exact Or.inl (Or.inr hc)
    · exact Or.inr (ih hx)

theorem mem_membersText [StandIns] {style : Style} {c : Char} {m : String × Json} (hm : m ∈ members)
    (hc : c ∈ memberText style k m) : c ∈ membersText style k members := by
  induction members with
  | nil => cases hm
  | cons p members ih =>
    rw [membersText_cons, List.mem_append, List.mem_append]
    rcases List.mem_cons.mp hm with rfl | hm
    · exact Or.inr (Or.inl hc)
    · exact Or.inr (Or.inr (ih hm))

theorem mem_valueText_of_item [StandIns]
    {style : Style} {c : Char} (hx : x ∈ items) (hc : c ∈ valueText style (k + 1) x) :
    c ∈ valueText style k (.arr items) := by
  cases items with
  | nil => cases hx
  | cons y items =>
    simp only [valueText_arr_cons, List.mem_cons, List.mem_append]
    rcases List.mem_cons.mp hx with rfl | hx
    · exact Or.inr (Or.inr (Or.inl hc))
    · exact Or.inr (Or.inr (Or.inr (Or.inl (mem_itemsText hx hc))))

theorem mem_valueText_of_member [StandIns] {style : Style} {c : Char} {m : String × Json} (hm : m ∈ members)
    (hc : c ∈ memberText style (k + 1) m) : c ∈ valueText style k (.obj members) := by
  cases members with
  | nil => cases hm
  | cons p members =>
    simp only [valueText_obj_cons, List.mem_cons, List.mem_append]
    rcases List.mem_cons.mp hm with rfl | hm
    · exact Or.inr (Or.inr (Or.inl hc))
    · exact Or.inr (Or.inr (Or.inr (Or.inl (mem_membersText hm hc))))

/-- Half a pair is written as it is where characters outside ASCII are. -/
theorem mem_stringText_of_isStandIn [StandIns] {s : List Char} {c : Char} (hc : c ∈ s) (h : Text.isStandIn c = true) :
    c ∈ stringText false s := by
  have hself : c ∈ stringChar false c := by
    have hlow := Text.le_toNat_of_isStandIn h
    have hne (d : Char) (hd : d.toNat < 0x80) : c ≠ d := by
      rintro rfl
      omega
    unfold stringChar
    rw [if_neg (hne _ (by decide)), if_neg (hne _ (by decide)), if_neg (hne _ (by decide)), if_neg (hne _ (by decide)),
      if_neg (hne _ (by decide)), if_neg (hne _ (by decide)), if_neg (hne _ (by decide)), if_neg (by omega)]
    exact List.mem_singleton_self c
  rw [stringText]
  exact List.mem_cons_of_mem _ (List.mem_append_left _ (List.mem_flatMap.mpr ⟨c, hc, hself⟩))

/-- A value whose text has bytes is in UTF-8. -/
theorem Readable.inUtf8_of_valueText [StandIns] {indented : Bool} (h : Readable asciiOnly depth v)
    (ht : ∀ c ∈ valueText ⟨false, indented⟩ k v, Text.isStandIn c = false) : v.InUtf8 := by
  have whole {s : List Char} (hs : ∀ c ∈ stringText false s, Text.isStandIn c = false) :
      ∀ c ∈ s, Text.isStandIn c = false := by
    intro c hc
    cases hstand : Text.isStandIn c with
    | false => rfl
    | true => exact hstand.symm.trans (hs c (mem_stringText_of_isStandIn hc hstand))
  induction h generalizing k with
  | null => exact .null
  | bool b => exact .bool b
  | int few => exact .int _
  | str _ => exact .str (whole ht)
  | arr _ ih => exact .arr fun x hx => ih x hx (k := k + 1) fun c hc => ht c (mem_valueText_of_item hx hc)
  | @obj depth members names _ _ ih =>
    have member (m : String × Json) (hm : m ∈ members) (c : Char)
        (hc : c ∈ memberText ⟨false, indented⟩ (k + 1) m) : Text.isStandIn c = false :=
      ht c (mem_valueText_of_member hm hc)
    refine .obj (fun m hm => whole fun c hc => ?_) fun m hm => ih m hm (k := k + 1) fun c hc => ?_
    · exact member m hm c (List.mem_append_left _ hc)
    · exact member m hm c (List.mem_append_right _ (List.mem_append_right _ hc))

end SchemaAudit.Json
