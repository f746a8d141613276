/-! # Lookups in lists of pairs

What is found under a key is in the list. In a list that has each key once, what is in it is found, in whatever order the
pairs stand. A result whose fault does not matter is like a lookup. -/

namespace SchemaAudit

variable {α β γ : Type} [BEq α] [LawfulBEq α] {l l' : List (α × β)} {a : α} {b : β}

theorem mem_of_lookup (h : l.lookup a = some b) : (a, b) ∈ l := by
  obtain ⟨before, after, rfl, -⟩ := List.lookup_eq_some_iff.mp h
  exact List.mem_append_right before List.mem_cons_self

theorem lookup_of_mem (keys : (l.map (·.1)).Nodup) (h : (a, b) ∈ l) : l.lookup a = some b := by
  induction l with
  | nil => cases h
  | cons p l ih =>
    obtain ⟨k, v⟩ := p
    rw [List.map_cons, List.nodup_cons] at keys
    rcases List.mem_cons.mp h with heq | hrest
    · cases heq
      exact List.lookup_cons_self
    · have hne : (a == k) = false :=
        beq_eq_false_iff_ne.mpr fun heq => keys.1 (List.mem_map.mpr ⟨(a, b), hrest, heq⟩)
      rw [List.lookup_cons, hne]
      exact ih keys.2 hrest

/-- What is found under a key does not depend on the order of the pairs. -/
theorem lookup_of_perm (perm : l'.Perm l) (keys : (l.map (·.1)).Nodup) : l'.lookup a = l.lookup a := by
  have keys' : (l'.map (·.1)).Nodup := (perm.map _).nodup_iff.mpr keys
  cases h : l.lookup a with
  | none =>
    rw [List.lookup_eq_none_iff] at h ⊢
    exact fun p hp => h p (perm.mem_iff.mp hp)
  | some b => exact lookup_of_mem keys' (perm.mem_iff.mpr (mem_of_lookup h))

omit [LawfulBEq α] in
theorem lookup_map (f : β → γ) : (l.map fun p => (p.1, f p.2)).lookup a = (l.lookup a).map f := by
  induction l with
  | nil => rfl
  | cons p l ih =>
    rw [List.map_cons, List.lookup_cons, List.lookup_cons]
    cases a == p.1 with
    | true => rfl
    | false => exact ih

/-- Dropping pairs under other keys makes no difference. -/
theorem lookup_filter {f : α × β → Bool} (hf : ∀ b, f (a, b) = true) (l : List (α × β)) :
    (l.filter f).lookup a = l.lookup a := by
  induction l with
  | nil => rfl
  | cons p l ih =>
    obtain ⟨k, v⟩ := p
    cases hk : a == k with
    | true =>
      cases eq_of_beq hk
      rw [List.filter_cons_of_pos (hf v), List.lookup_cons, List.lookup_cons, hk]
    | false =>
      rw [List.filter_cons]
      split
      · rw [List.lookup_cons, List.lookup_cons, hk]
        exact ih
      · rw [List.lookup_cons, hk]
        exact ih

theorem toOption_eq_some_iff {ε α : Type} {x : Except ε α} {a : α} : x.toOption = some a ↔ x = .ok a := by
  cases x with
  | error e => simp [Except.toOption]
  | ok b => simp [Except.toOption]

end SchemaAudit
