import SchemaAudit.Proofs.Json.Numbers

/-! # Reading back what was written

The reader gives back the value that the printer wrote, in every style: `Readable.parse_toText`. A value is
readable when it has no number with a point, when its whole numbers have few enough digits, and when the names of
each object differ; the containers may lie in each other no deeper than the reader goes. Of a value with other
strings and numbers the reader gives `asRead`, or nothing for a number with too many digits:
`Printable.parse_toText_eq_ok_iff`. How deep the reader goes is of no account to the rest (`readWithin`).

The reader counts steps. A value needs more of them than its text has characters (`Reads`), which the items of
an array and the members of an object hand on to each other. -/

namespace SchemaAudit.Json

/-- A value that is read back from its text. Where only ASCII is written, no half of a pair stands by itself. -/
inductive Readable [StandIns] (asciiOnly : Bool) : Nat → Json → Prop
  | null {depth : Nat} : Readable asciiOnly depth .null
  | bool {depth : Nat} (b : Bool) : Readable asciiOnly depth (.bool b)
  | int {depth : Nat} {n : Int} (few : FewDigits n) : Readable asciiOnly depth (.int n)
  | str {depth : Nat} {s : String} (whole : asciiOnly = true → ∀ c ∈ s.toList, Text.isStandIn c = false) :
    Readable asciiOnly depth (.str s)
  | arr {depth : Nat} {items : List Json} (readable : ∀ x ∈ items, Readable asciiOnly depth x) :
    Readable asciiOnly (depth + 1) (.arr items)
  | obj {depth : Nat} {members : List (String × Json)} (names : (members.map (·.1)).Nodup)
    (whole : asciiOnly = true → ∀ m ∈ members, ∀ c ∈ m.1.toList, Text.isStandIn c = false)
    (readable : ∀ m ∈ members, Readable asciiOnly depth m.2) : Readable asciiOnly (depth + 1) (.obj members)

/-- A value whose text is read as some value if its numbers are, which have a property. -/
inductive Printable [StandIns] (asciiOnly : Bool) (P : Int → Prop) : Nat → Json → Prop
  | null {depth : Nat} : Printable asciiOnly P depth .null
  | bool {depth : Nat} (b : Bool) : Printable asciiOnly P depth (.bool b)
  | int {depth : Nat} {n : Int} (has : P n) : Printable asciiOnly P depth (.int n)
  | str {depth : Nat} (s : String) : Printable asciiOnly P depth (.str s)
  | arr {depth : Nat} {items : List Json} (printable : ∀ x ∈ items, Printable asciiOnly P depth x) :
    Printable asciiOnly P (depth + 1) (.arr items)
  | obj {depth : Nat} {members : List (String × Json)} (names : (members.map (·.1)).Nodup)
    (whole : asciiOnly = true → ∀ m ∈ members, ∀ c ∈ m.1.toList, Text.isStandIn c = false)
    (printable : ∀ m ∈ members, Printable asciiOnly P depth m.2) : Printable asciiOnly P (depth + 1) (.obj members)

mutual

/-- What is read of the text of a value, unless a number in it has too many digits. -/
def asRead [StandIns] (asciiOnly : Bool) : Json → Option Json
  | null => some null
  | bool b => some (bool b)
  | int n => if FewDigits n then some (int n) else none
  | real x => some (real x)
  | str s => some (str (String.ofList (textRead asciiOnly s.toList)))
  | arr items => (itemsAsRead asciiOnly items).map arr
  | obj members => (membersAsRead asciiOnly members).map obj

/-- What is read of the items of an array. -/
def itemsAsRead [StandIns] (asciiOnly : Bool) : List Json → Option (List Json)
  | [] => some []
  | item :: items => (asRead asciiOnly item).bind fun x => (itemsAsRead asciiOnly items).map fun xs => x :: xs

/-- What is read of the members of an object whose names are read as they are. -/
def membersAsRead [StandIns] (asciiOnly : Bool) : List (String × Json) → Option (List (String × Json))
  | [] => some []
  | (name, value) :: members =>
    (asRead asciiOnly value).bind fun x => (membersAsRead asciiOnly members).map fun xs => (name, x) :: xs

end

variable {style : Style} {asciiOnly : Bool} {depth j k : Nat} {v : Json} {r : List Char} {P : Int → Prop}

theorem Readable.printable [StandIns] (h : Readable asciiOnly depth v) : Printable asciiOnly FewDigits depth v := by
  induction h with
  | null => exact .null
  | bool b => exact .bool b
  | int few => exact .int few
  | str whole => exact .str _
  | arr _ ih => exact .arr ih
  | obj names whole _ ih => exact .obj names whole ih

theorem itemsAsRead_of_forall [StandIns] {items : List Json} (h : ∀ x ∈ items, asRead asciiOnly x = some x) :
    itemsAsRead asciiOnly items = some items := by
  induction items with
  | nil => rfl
  | cons x items ih =>
    rw [List.forall_mem_cons] at h
    rw [itemsAsRead, h.1, ih h.2]
    rfl

theorem membersAsRead_of_forall [StandIns]
    {members : List (String × Json)} (h : ∀ m ∈ members, asRead asciiOnly m.2 = some m.2) :
    membersAsRead asciiOnly members = some members := by
  induction members with
  | nil => rfl
  | cons m members ih =>
    rw [List.forall_mem_cons] at h
    rw [membersAsRead, h.1, ih h.2]
    rfl

/-- A readable value is read as it is. -/
theorem Readable.asRead_eq [StandIns] (h : Readable asciiOnly depth v) : asRead asciiOnly v = some v := by
  induction h with
  | null => rfl
  | bool b => rfl
  | int few => exact if_pos few
  | str whole => rw [asRead, textRead_of_whole whole, String.ofList_toList]
  | arr _ ih => rw [asRead, itemsAsRead_of_forall ih]; rfl
  | obj _ _ _ ih => rw [asRead, membersAsRead_of_forall ih]; rfl

theorem exists_itemsAsRead [StandIns] {items : List Json} (h : ∀ x ∈ items, ∃ w, asRead asciiOnly x = some w) :
    ∃ read, itemsAsRead asciiOnly items = some read := by
  induction items with
  | nil => exact ⟨[], rfl⟩
  | cons x items ih =>
    rw [List.forall_mem_cons] at h
    obtain ⟨⟨w, hw⟩, hrest⟩ := h
    obtain ⟨read, hread⟩ := ih hrest
    exact ⟨w :: read, by rw [itemsAsRead, hw, hread]; rfl⟩

theorem exists_membersAsRead [StandIns]
    {members : List (String × Json)} (h : ∀ m ∈ members, ∃ w, asRead asciiOnly m.2 = some w) :
    ∃ read, membersAsRead asciiOnly members = some read := by
  induction members with
  | nil => exact ⟨[], rfl⟩
  | cons m members ih =>
    rw [List.forall_mem_cons] at h
    obtain ⟨⟨w, hw⟩, hrest⟩ := h
    obtain ⟨read, hread⟩ := ih hrest
    exact ⟨(m.1, w) :: read, by rw [membersAsRead, hw, hread]; rfl⟩

/-- A value with few digits in its numbers is read as some value. -/
theorem Printable.exists_asRead [StandIns] (h : Printable asciiOnly FewDigits depth v) :
    ∃ w, asRead asciiOnly v = some w := by
  induction h with
  | null => exact ⟨_, rfl⟩
  | bool b => exact ⟨_, rfl⟩
  | int few => exact ⟨_, if_pos few⟩
  | str s => exact ⟨_, rfl⟩
  | arr _ ih =>
    obtain ⟨read, hread⟩ := exists_itemsAsRead ih
    exact ⟨.arr read, by rw [asRead, hread]; rfl⟩
  | obj _ _ _ ih =>
    obtain ⟨read, hread⟩ := exists_membersAsRead ih
    exact ⟨.obj read, by rw [asRead, hread]; rfl⟩

/-! ### Gaps -/

theorem skipGap_append {gap : List Char} (h : ∀ c ∈ gap, isGap c = true) (t : List Char) :
    skipGap (gap ++ t) = skipGap t := List.dropWhile_append_of_pos h

theorem skipGap_cons {c : Char} (h : isGap c = false) (t : List Char) : skipGap (c :: t) = c :: t :=
  List.dropWhile_cons_of_neg (by simp [h])

theorem isGap_of_mem_lineStart {c : Char} (h : c ∈ lineStart k) : isGap c = true := by
  rcases List.mem_cons.mp h with rfl | h
  · rfl
  · rw [List.eq_of_mem_replicate h]
    rfl

theorem isGap_of_mem_opening {c : Char} (h : c ∈ opening style k) : isGap c = true := by
  unfold opening at h
  split at h
  · exact isGap_of_mem_lineStart h
  · cases h

theorem separator_eq (style : Style) (k : Nat) : ∃ gap, separator style k = ',' :: gap ∧ ∀ c ∈ gap, isGap c = true := by
  unfold separator
  split
  · exact ⟨_, rfl, fun c h => isGap_of_mem_lineStart h⟩
  · exact ⟨[' '], rfl, fun c h => by rw [List.mem_singleton.mp h]; rfl⟩

theorem endsNumber_cons {c : Char} (h : isDigit c = false ∧ c ≠ '.' ∧ c ≠ 'e' ∧ c ≠ 'E') (t : List Char) :
    EndsNumber (c :: t) := by
  intro d hd
  cases hd
  exact h

/-- A closing bracket ends a number, also on a line of its own. -/
theorem endsNumber_opening {c : Char} (h : isDigit c = false ∧ c ≠ '.' ∧ c ≠ 'e' ∧ c ≠ 'E') (t : List Char) :
    EndsNumber (opening style k ++ c :: t) := by
  unfold opening
  split
  · exact endsNumber_cons (by decide) _
  · exact endsNumber_cons h t

theorem endsNumber_of_gap (h : ∀ c ∈ r, isGap c = true) : EndsNumber r := by
  intro c hc
  have hg := h c (List.mem_of_mem_head? hc)
  simp only [isGap, Bool.or_eq_true, decide_eq_true_eq] at hg
  rcases hg with ((rfl | rfl) | rfl) | rfl <;> decide

theorem skipGap_opening {c : Char} (h : isGap c = false) (t : List Char) :
    skipGap (opening style k ++ c :: t) = c :: t := by
  rw [skipGap_append fun _ => isGap_of_mem_opening, skipGap_cons h]

/-! ### How a value starts -/

/-- A character that a value may start with: no gap, no end of an array, and no mark at the start of a text. -/
def Starts (c : Char) : Prop := isGap c = false ∧ c ≠ ']' ∧ c ≠ '\uFEFF'

theorem starts_of_isDigit {d : Char} (h : isDigit d = true) : Starts d := by
  refine ⟨?_, ?_, ?_⟩
  · cases hg : isGap d
    · rfl
    · simp only [isGap, Bool.or_eq_true, decide_eq_true_eq] at hg
      rcases hg with ((rfl | rfl) | rfl) | rfl <;> exact absurd h (by decide)
  · rintro rfl
    exact absurd h (by decide)
  · rintro rfl
    exact absurd h (by decide)

theorem Printable.valueText_cons [StandIns] (h : Printable asciiOnly P depth v) (style : Style) (k : Nat) :
    ∃ c t, valueText style k v = c :: t ∧ Starts c := by
  cases h with
  | null => exact ⟨'n', _, rfl, rfl, by decide⟩
  | bool b => cases b <;> exact ⟨_, _, rfl, rfl, by decide⟩
  | @int _ n has =>
    rcases integerText_cons n with ⟨d, ds, hd, hdig⟩ | ⟨d, ds, hd, -⟩
    · exact ⟨d, ds, hd, starts_of_isDigit hdig⟩
    · exact ⟨'-', d :: ds, hd, rfl, by decide⟩
  | str s => exact ⟨'"', _, rfl, rfl, by decide⟩
  | @arr _ items _ => cases items <;> exact ⟨'[', _, rfl, rfl, by decide⟩
  | @obj _ members _ _ _ => cases members <;> exact ⟨'{', _, rfl, rfl, by decide⟩

/-! ### Values that hold no others -/

theorem readValue_scalar [StandIns] {c : Char} {t : List Char} (hq : c ≠ '"') (ha : c ≠ '[') (ho : c ≠ '{') (n : Nat) :
    readValue depth (n + 1) (c :: t) = readScalar (c :: t) := by
  rw [readValue]
  all_goals
    intro t' ht
    cases ht
    contradiction

theorem readValue_integerText [StandIns] (n : Int) (steps : Nat) :
    readValue depth (steps + 1) (Number.integerText n ++ r) = readNumber (Number.integerText n ++ r) := by
  rw [← readScalar_eq_readNumber]
  have digit_ne (d : Char) (hd : isDigit d = true) : d ≠ '"' ∧ d ≠ '[' ∧ d ≠ '{' :=
    ⟨by rintro rfl; exact absurd hd (by decide), by rintro rfl; exact absurd hd (by decide),
      by rintro rfl; exact absurd hd (by decide)⟩
  rcases integerText_cons n with ⟨d, ds, hd, hdig⟩ | ⟨d, ds, hd, -⟩
  · rw [hd]
    exact readValue_scalar (digit_ne d hdig).1 (digit_ne d hdig).2.1 (digit_ne d hdig).2.2 steps
  · rw [hd]
    exact readValue_scalar (by decide) (by decide) (by decide) steps

/-! ### Items and members -/

/-- A step that gives what is there to give, and else is refused. -/
def Step.Gives {α : Type} (step : Step α) (given : Option α) (rest : List Char) : Prop :=
  match given with
  | some a => step = .ok (a, rest)
  | none => ∃ stop, step = .error stop

theorem Step.Gives.map {α β : Type} {step : Step α} {given : Option α} (h : step.Gives given r) (f : α → β) :
    Step.Gives (step.map fun (a, after) => (f a, after)) (given.map f) r := by
  cases given with
  | none =>
    obtain ⟨stop, rfl⟩ := h
    exact ⟨stop, rfl⟩
  | some a =>
    change step = .ok (a, r) at h
    rw [h]
    rfl

/-- A value whose text at a depth is read in more steps than it has characters. -/
structure Reads [StandIns] (style : Style) (depth k : Nat) (v : Json) : Prop where
  starts : ∃ c t, valueText style k v = c :: t ∧ Starts c
  read : ∀ n r, (valueText style k v).length < n → EndsNumber r →
    (readValue depth n (valueText style k v ++ r)).Gives (asRead style.asciiOnly v) r

theorem readValue_int [StandIns] (i n : Nat) (m : Int) (hr : EndsNumber r) :
    (readValue depth (n + 1) (valueText style i (.int m) ++ r)).Gives (asRead style.asciiOnly (.int m)) r := by
  rw [valueText, readValue_integerText, asRead]
  by_cases few : FewDigits m
  · rw [if_pos few]
    exact readNumber_integerText few hr
  · rw [if_neg few]
    exact readNumber_of_many few hr

theorem readValue_str [StandIns] (i n : Nat) (s : String) :
    (readValue depth (n + 1) (valueText style i (.str s) ++ r)).Gives (asRead style.asciiOnly (.str s)) r := by
  rw [valueText, stringText, List.cons_append, List.append_assoc, List.singleton_append, readValue,
    readString_stringText]
  rfl

theorem Reads.skipGap [StandIns] (h : Reads style depth k v) (t : List Char) :
    skipGap (valueText style k v ++ t) = valueText style k v ++ t := by
  obtain ⟨c, s, hv, hc, -⟩ := h.starts
  rw [hv, List.cons_append, skipGap_cons hc]

theorem readItems_cons [StandIns] {x : Json} {items : List Json} (h : ∀ y ∈ x :: items, Reads style depth k y) {n : Nat}
    (hn : (valueText style k x).length + (itemsText style k items).length + 1 < n) :
    (readItems depth n (valueText style k x ++ (itemsText style k items ++ (opening style j ++ ']' :: r)))).Gives
      (itemsAsRead style.asciiOnly (x :: items)) r := by
  induction items generalizing x n with
  | nil =>
    obtain ⟨n, rfl⟩ : ∃ m, n = m + 1 := ⟨n - 1, by omega⟩
    simp only [itemsText, List.length_nil] at hn
    have hx := (h x List.mem_cons_self).read n (opening style j ++ ']' :: r) (by omega) (endsNumber_opening (by decide) r)
    rw [readItems, itemsText, List.nil_append, itemsAsRead, itemsAsRead]
    cases hread : asRead style.asciiOnly x with
    | none =>
      rw [hread] at hx
      obtain ⟨stop, hx⟩ := hx
      rw [hx]
      exact ⟨stop, rfl⟩
    | some y =>
      rw [hread] at hx
      rw [show readValue depth n _ = _ from hx]
      dsimp only
      rw [skipGap_opening (by decide)]
      rfl
  | cons y items ih =>
    obtain ⟨n, rfl⟩ : ∃ m, n = m + 1 := ⟨n - 1, by omega⟩
    obtain ⟨gap, hsep, hgap⟩ := separator_eq style k
    simp only [itemsText, List.length_append, hsep, List.length_cons] at hn
    rw [readItems, itemsText, hsep]
    simp only [List.cons_append, List.append_assoc]
    have hx := (h x List.mem_cons_self).read n (',' :: (gap ++ (valueText style k y ++ (itemsText style k items ++
      (opening style j ++ ']' :: r))))) (by omega) (endsNumber_cons (by decide) _)
    have htail := ih (x := y) (n := n) (fun z hz => h z (List.mem_cons_of_mem _ hz)) (by omega)
    rw [itemsAsRead]
    cases hread : asRead style.asciiOnly x with
    | none =>
      rw [hread] at hx
      obtain ⟨stop, hx⟩ := hx
      rw [hx]
      exact ⟨stop, rfl⟩
    | some z =>
      rw [hread] at hx
      rw [show readValue depth n _ = _ from hx]
      dsimp only
      rw [skipGap_cons (by decide)]
      change Step.Gives (Except.map _ (readItems depth n (Json.skipGap (gap ++ _)))) _ _
      rw [skipGap_append hgap, (h y (by simp)).skipGap]
      exact htail.map (z :: ·)

/-- A member of an object as it is written, without the separator before it. -/
def memberText [StandIns] (style : Style) (k : Nat) (m : String × Json) : List Char :=
  stringText style.asciiOnly m.1.toList ++ ([':', ' '] ++ valueText style k m.2)

theorem membersText_cons [StandIns] (m : String × Json) (ms : List (String × Json)) :
    membersText style k (m :: ms) = separator style k ++ (memberText style k m ++ membersText style k ms) := by
  obtain ⟨name, value⟩ := m
  simp only [membersText, memberText, List.append_assoc]

/-- The members that are read from where the value of a first one stands, whose name is read already. -/
def readNamed [StandIns] (depth n : Nat) (name : String) (s : List Char) : Step (List (String × Json)) :=
  match readValue depth n s with
  | .error e => .error e
  | .ok (value, rest) => match skipGap rest with
    | '}' :: after => .ok ([(name, value)], after)
    | ',' :: more => (readMembers depth n (skipGap more)).map fun (ms, after) => ((name, value) :: ms, after)
    | other => .error ⟨.expectedComma, other⟩

/-- Behind its name a member is read as its value is. -/
theorem readMembers_named [StandIns] {name : String} {value : Json} (h : Reads style depth k value)
    (whole : style.asciiOnly = true → ∀ c ∈ name.toList, Text.isStandIn c = false) (n : Nat) (t : List Char) :
    readMembers depth (n + 1) (memberText style k (name, value) ++ t) =
      readNamed depth n name (valueText style k value ++ t) := by
  have hgap : skipGap (' ' :: (valueText style k value ++ t)) = valueText style k value ++ t := by
    have hspace : ∀ c ∈ [' '], isGap c = true := List.forall_mem_singleton.mpr rfl
    have hsp := skipGap_append hspace (valueText style k value ++ t)
    exact hsp.trans (h.skipGap t)
  rw [memberText, stringText]
  simp only [List.cons_append, List.append_assoc, List.nil_append]
  rw [readMembers, readString_stringText, textRead_of_whole whole]
  dsimp only
  rw [skipGap_cons (by decide)]
  simp only [hgap, String.ofList_toList]
  rfl

theorem readMembers_memberText [StandIns] {m : String × Json} (h : Reads style depth k m.2)
    (whole : style.asciiOnly = true → ∀ c ∈ m.1.toList, Text.isStandIn c = false) {n : Nat}
    (hn : (valueText style k m.2).length < n) {t : List Char} (ht : EndsNumber t) :
    match asRead style.asciiOnly m.2 with
    | none => ∃ stop, readMembers depth (n + 1) (memberText style k m ++ t) = .error stop
    | some x => readMembers depth (n + 1) (memberText style k m ++ t) = match skipGap t with
      | '}' :: after => .ok ([(m.1, x)], after)
      | ',' :: more => (readMembers depth n (skipGap more)).map fun (ms, after) => ((m.1, x) :: ms, after)
      | other => .error ⟨.expectedComma, other⟩ := by
  obtain ⟨name, value⟩ := m
  have hvalue := h.read n t hn ht
  rw [readMembers_named h whole, readNamed]
  dsimp only at hvalue ⊢
  cases hread : asRead style.asciiOnly value with
  | none =>
    rw [hread] at hvalue
    obtain ⟨stop, hvalue⟩ := hvalue
    rw [hvalue]
    exact ⟨stop, rfl⟩
  | some x =>
    rw [hread] at hvalue
    rw [show readValue depth n _ = _ from hvalue]

theorem readMembers_cons [StandIns] {m : String × Json} {members : List (String × Json)}
    (h : ∀ p ∈ m :: members, Reads style depth k p.2)
    (whole : style.asciiOnly = true → ∀ p ∈ m :: members, ∀ c ∈ p.1.toList, Text.isStandIn c = false)
    {n : Nat} (hn : (memberText style k m).length + (membersText style k members).length + 1 < n) :
    (readMembers depth n (memberText style k m ++ (membersText style k members ++ (opening style j ++ '}' :: r)))).Gives
      (membersAsRead style.asciiOnly (m :: members)) r := by
  have hlen : ∀ p, (valueText style k p.2).length ≤ (memberText style k p).length := fun p => by
    simp only [memberText, List.length_append]
    omega
  induction members generalizing m n with
  | nil =>
    obtain ⟨n, rfl⟩ : ∃ m, n = m + 1 := ⟨n - 1, by omega⟩
    have hmember := readMembers_memberText (n := n) (h m List.mem_cons_self) (fun ha => whole ha m List.mem_cons_self)
      (by have := hlen m; omega) (t := opening style j ++ '}' :: r) (endsNumber_opening (by decide) r)
    rw [membersText, List.nil_append, membersAsRead, membersAsRead]
    cases hread : asRead style.asciiOnly m.2 with
    | none =>
      rw [hread] at hmember
      exact hmember
    | some x =>
      rw [hread] at hmember
      dsimp only at hmember
      rw [skipGap_opening (by decide)] at hmember
      exact hmember
  | cons p members ih =>
    obtain ⟨n, rfl⟩ : ∃ m, n = m + 1 := ⟨n - 1, by omega⟩
    obtain ⟨gap, hsep, hgap⟩ := separator_eq style k
    have hm := hlen m
    rw [membersText_cons, hsep] at hn ⊢
    simp only [List.length_append, List.length_cons] at hn
    have hskip (t : List Char) : skipGap (memberText style k p ++ t) = memberText style k p ++ t := by
      rw [memberText, stringText, List.cons_append, List.cons_append, skipGap_cons (by decide)]
    simp only [List.cons_append, List.append_assoc]
    have hmember := readMembers_memberText (n := n) (h m List.mem_cons_self) (fun ha => whole ha m List.mem_cons_self)
      (by omega) (t := ',' :: (gap ++ (memberText style k p ++ (membersText style k members ++
        (opening style j ++ '}' :: r))))) (endsNumber_cons (by decide) _)
    have htail := ih (m := p) (n := n) (fun q hq => h q (List.mem_cons_of_mem _ hq))
      (fun ha q hq => whole ha q (List.mem_cons_of_mem _ hq)) (by omega)
    rw [membersAsRead]
    cases hread : asRead style.asciiOnly m.2 with
    | none =>
      rw [hread] at hmember
      exact hmember
    | some x =>
      rw [hread] at hmember
      dsimp only at hmember
      rw [hmember, skipGap_cons (by decide)]
      change Step.Gives (Except.map _ (readMembers depth n (skipGap (gap ++ _)))) _ _
      rw [skipGap_append hgap, hskip]
      exact htail.map ((m.1, x) :: ·)

/-! ### Members with different names -/

theorem setMember_of_not_mem {name : String} {value : Json} {ms : List (String × Json)} (h : name ∉ ms.map (·.1)) :
    setMember name value ms = ms ++ [(name, value)] := by
  induction ms with
  | nil => rfl
  | cons m ms ih =>
    simp only [List.map_cons, List.mem_cons, not_or] at h
    rw [setMember, if_neg (Ne.symm h.1), ih h.2, List.cons_append]

theorem foldl_setMember {seen ms : List (String × Json)} (h : ((seen ++ ms).map (·.1)).Nodup) :
    ms.foldl (fun acc p => setMember p.1 p.2 acc) seen = seen ++ ms := by
  induction ms generalizing seen with
  | nil => simp
  | cons m ms ih =>
    have hm : m.1 ∉ seen.map (·.1) := fun hin => by
      rw [List.map_append, List.nodup_append] at h
      exact h.2.2 _ hin _ (by simp) rfl
    rw [List.foldl_cons, setMember_of_not_mem hm, ih (by simpa using h)]
    simp

theorem membersOf_of_nodup {ms : List (String × Json)} (h : (ms.map (·.1)).Nodup) : membersOf ms = ms := by
  rw [membersOf, foldl_setMember (by simpa using h), List.nil_append]

/-! ### Whole values -/

theorem valueText_arr_cons [StandIns] (x : Json) (items : List Json) : valueText style k (.arr (x :: items)) =
    '[' :: (opening style (k + 1) ++ (valueText style (k + 1) x ++ (itemsText style (k + 1) items ++
      (opening style k ++ [']'])))) := by
  simp only [valueText, List.append_assoc]

theorem valueText_obj_cons [StandIns] (m : String × Json) (ms : List (String × Json)) :
    valueText style k (.obj (m :: ms)) =
    '{' :: (opening style (k + 1) ++ (memberText style (k + 1) m ++ (membersText style (k + 1) ms ++
      (opening style k ++ ['}'])))) := by
  obtain ⟨name, value⟩ := m
  simp only [valueText, memberText, List.append_assoc]

theorem readValue_arr [StandIns] {items : List Json} (h : ∀ x ∈ items, Reads style depth (k + 1) x) {n : Nat}
    (hn : (valueText style k (.arr items)).length < n) :
    (readValue (depth + 1) n (valueText style k (.arr items) ++ r)).Gives (asRead style.asciiOnly (.arr items)) r := by
  obtain ⟨n, rfl⟩ : ∃ m, n = m + 1 := ⟨n - 1, by omega⟩
  cases items with
  | nil => rfl
  | cons x items =>
    obtain ⟨c, t, hx, hc, hne, -⟩ := (h x List.mem_cons_self).starts
    rw [valueText_arr_cons] at hn ⊢
    simp only [List.length_cons, List.length_append, List.length_nil] at hn
    have hread := readItems_cons (j := k) (r := r) h (n := n) (by omega)
    simp only [List.cons_append, List.append_assoc, List.nil_append, readValue, Nat.add_one_ne_zero, ↓reduceIte]
    rw [skipGap_append fun _ => isGap_of_mem_opening, (h x List.mem_cons_self).skipGap]
    split
    · rename_i heq
      rw [hx, List.cons_append] at heq
      exact absurd (List.cons.inj heq).1 hne
    · rw [Nat.add_sub_cancel]
      exact hread.map Json.arr

theorem nodup_membersAsRead [StandIns]
    {members read : List (String × Json)} (h : membersAsRead asciiOnly members = some read) :
    read.map (·.1) = members.map (·.1) := by
  induction members generalizing read with
  | nil =>
    cases h
    rfl
  | cons m members ih =>
    obtain ⟨name, value⟩ := m
    rw [membersAsRead] at h
    obtain ⟨x, -, h⟩ := Option.bind_eq_some_iff.mp h
    obtain ⟨xs, hxs, rfl⟩ := Option.map_eq_some_iff.mp h
    rw [List.map_cons, List.map_cons, ih hxs]

theorem readValue_obj [StandIns] {members : List (String × Json)} (names : (members.map (·.1)).Nodup)
    (whole : style.asciiOnly = true → ∀ m ∈ members, ∀ c ∈ m.1.toList, Text.isStandIn c = false)
    (h : ∀ m ∈ members, Reads style depth (k + 1) m.2) {n : Nat}
    (hn : (valueText style k (.obj members)).length < n) :
    (readValue (depth + 1) n (valueText style k (.obj members) ++ r)).Gives (asRead style.asciiOnly (.obj members)) r := by
  obtain ⟨n, rfl⟩ : ∃ m, n = m + 1 := ⟨n - 1, by omega⟩
  cases members with
  | nil => rfl
  | cons m members =>
    rw [valueText_obj_cons] at hn ⊢
    simp only [List.length_cons, List.length_append, List.length_nil] at hn
    have hread := readMembers_cons (j := k) (r := r) h whole (n := n) (by omega)
    obtain ⟨t, hm⟩ : ∃ t, memberText style (k + 1) m = '"' :: t := ⟨_, rfl⟩
    simp only [List.cons_append, List.append_assoc, List.nil_append, readValue, Nat.add_one_ne_zero, ↓reduceIte]
    rw [skipGap_append fun _ => isGap_of_mem_opening, hm, List.cons_append, skipGap_cons (by decide)]
    rw [hm, List.cons_append] at hread
    split
    · rename_i heq
      exact absurd (List.cons.inj heq).1 (by decide)
    · rw [Nat.add_sub_cancel, asRead]
      cases hmembers : membersAsRead style.asciiOnly (m :: members) with
      | none =>
        rw [hmembers] at hread
        obtain ⟨stop, hread⟩ := hread
        rw [hread]
        exact ⟨stop, rfl⟩
      | some read =>
        rw [hmembers] at hread
        rw [show readMembers depth n _ = _ from hread]
        have hnames : (read.map (·.1)).Nodup := nodup_membersAsRead hmembers ▸ names
        change Except.ok (obj (membersOf read), r) = Except.ok (obj read, r)
        rw [membersOf_of_nodup hnames]

theorem Printable.reads [StandIns] (h : Printable style.asciiOnly P depth v) (k : Nat) : Reads style depth k v := by
  refine ⟨h.valueText_cons style k, fun n r hn hr => ?_⟩
  induction h generalizing k n r with
  | null =>
    obtain ⟨n, rfl⟩ : ∃ m, n = m + 1 := ⟨n - 1, by omega⟩
    exact readValue_scalar (by decide) (by decide) (by decide) n
  | bool b =>
    obtain ⟨n, rfl⟩ : ∃ m, n = m + 1 := ⟨n - 1, by omega⟩
    cases b <;> exact readValue_scalar (by decide) (by decide) (by decide) n
  | @int _ m has =>
    obtain ⟨n, rfl⟩ : ∃ m, n = m + 1 := ⟨n - 1, by omega⟩
    exact readValue_int k n m hr
  | str s =>
    obtain ⟨n, rfl⟩ : ∃ m, n = m + 1 := ⟨n - 1, by omega⟩
    exact readValue_str k n s
  | arr printable ih =>
    exact readValue_arr (fun x hx => ⟨(printable x hx).valueText_cons style (k + 1), fun n r => ih x hx (k + 1) n r⟩) hn
  | obj names whole printable ih =>
    exact readValue_obj names whole
      (fun m hm => ⟨(printable m hm).valueText_cons style (k + 1), fun n r => ih m hm (k + 1) n r⟩) hn

/-- The one value of a text for a reader in which arrays and objects may lie in each other so deep. -/
def readWithin [StandIns] (depth : Nat) (s : List Char) : Except Stop Json :=
  match s with
  | '\uFEFF' :: _ => .error ⟨.byteOrderMark, s⟩
  | _ =>
    match readValue depth (2 * s.length + 1) (skipGap s) with
    | .error e => .error e
    | .ok (value, rest) =>
      match skipGap rest with
      | [] => .ok value
      | extra => .error ⟨.extraText, extra⟩

theorem readText_eq_readWithin [StandIns] (s : List Char) : readText s = readWithin depthLimit s := rfl

/-- A text without a byte order mark is a value between gaps. -/
theorem readWithin_of_unmarked [StandIns] {s : List Char} (h : ∀ t, s = '\uFEFF' :: t → False) : readWithin depth s =
    match readValue depth (2 * s.length + 1) (skipGap s) with
    | .error e => .error e
    | .ok (value, rest) => match skipGap rest with
      | [] => .ok value
      | extra => .error ⟨.extraText, extra⟩ := by
  unfold readWithin
  split
  · exact (h _ rfl).elim
  · rfl

/-- The text of a value, with gaps behind it, is read as what is read of the value, and as nothing else. -/
theorem Printable.readWithin_toText_eq_ok_iff [StandIns] (h : Printable style.asciiOnly P depth v) {g : List Char}
    (hg : ∀ c ∈ g, isGap c = true) {w : Json} :
    readWithin depth ((v.toText style).toList ++ g) = .ok w ↔ asRead style.asciiOnly v = some w := by
  have hreads := h.reads 0
  obtain ⟨c, t, hv, -, -, hbom⟩ := hreads.starts
  have hread := hreads.read (2 * (valueText style 0 v ++ g).length + 1) g (by rw [List.length_append]; omega)
    (endsNumber_of_gap hg)
  have hend : skipGap g = [] := by
    have := skipGap_append hg []
    rwa [List.append_nil] at this
  -- a text may only be refused for a mark in front, and no value starts with one
  have hmark (t : List Char) : valueText style 0 v ++ g = '\uFEFF' :: t → False := by
    intro heq
    rw [hv, List.cons_append] at heq
    exact hbom (List.cons.inj heq).1
  rw [toText, String.toList_ofList, readWithin_of_unmarked hmark, hreads.skipGap]
  cases hv : asRead style.asciiOnly v with
  | none =>
    rw [hv] at hread
    obtain ⟨stop, hread⟩ := hread
    rw [hread]
    simp
  | some x =>
    rw [hv] at hread
    rw [show readValue depth _ _ = _ from hread]
    dsimp only
    rw [hend]
    simp

/-- The text of a readable value is read as that value, by a reader that goes as deep. -/
theorem Readable.readWithin_toText [StandIns] (h : Readable style.asciiOnly depth v) :
    readWithin depth (v.toText style).toList = .ok v := by
  have hread := (h.printable.readWithin_toText_eq_ok_iff (List.forall_mem_nil _)).mpr h.asRead_eq
  rwa [List.append_nil] at hread

theorem parse_eq_ok_iff [StandIns] {s : List Char} {w : Json} : parse s = .ok w ↔ readWithin depthLimit s = .ok w := by
  rw [parse, readText_eq_readWithin]
  cases readWithin depthLimit s <;> simp

/-- The text of a value, with gaps behind it, parses to what is read of the value, and to nothing else. -/
theorem Printable.parse_toText_eq_ok_iff [StandIns] (h : Printable style.asciiOnly P depthLimit v) {g : List Char}
    (hg : ∀ c ∈ g, isGap c = true) {w : Json} :
    parse ((v.toText style).toList ++ g) = .ok w ↔ asRead style.asciiOnly v = some w :=
  parse_eq_ok_iff.trans (h.readWithin_toText_eq_ok_iff hg)

/-- The text of a readable value, with gaps behind it, parses to that value. -/
theorem Readable.parse_toText [StandIns] (h : Readable style.asciiOnly depthLimit v) {g : List Char}
    (hg : ∀ c ∈ g, isGap c = true) : parse ((v.toText style).toList ++ g) = .ok v :=
  (h.printable.parse_toText_eq_ok_iff hg).mpr h.asRead_eq

end SchemaAudit.Json
