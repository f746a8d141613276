import SchemaAudit.Proofs.Annotation.Wrapping

/-! # Members of unions

Of the members of a union those besides the absent value count. With a sole one the union has its token, with none or more
than one it has none (`classify_of_sole`, `classify_of_not_sole`). Leaving the absent value out and dropping repetitions
can be done in either order (`present_distinct`). -/

namespace SchemaAudit.Annotation

variable {a m : Annotation} {ms ns : List Annotation}

/-- Induction over annotations, with what is said of the arguments of a class and of the members of a union. -/
@[elab_as_elim]
theorem inductionOn {P : Annotation → Prop} (any : P any) (ofClass : ∀ c, P (ofClass c))
    (applied : ∀ spelling origin args, (∀ a ∈ args, P a) → P (applied spelling origin args))
    (union : ∀ ms, (∀ m ∈ ms, P m) → P (union ms)) (annotated : ∀ core own, P core → P (annotated core own))
    (literal : ∀ values, P (literal values)) (qualified : ∀ qualifier a, P a → P (qualified qualifier a))
    (forward : ∀ name, P (forward name)) (other : ∀ label serial, P (other label serial)) (a : Annotation) : P a :=
  Annotation.rec any ofClass applied union annotated literal qualified forward other (List.forall_mem_nil P)
    (fun _ _ ha has => List.forall_mem_cons.mpr ⟨ha, has⟩) a

/-- The members besides the absent value. -/
def present (ms : List Annotation) : List Annotation := ms.filter fun m => !m.isAbsent

theorem mem_present : a ∈ present ms ↔ a ∈ ms ∧ a ≠ absent := by
  rw [present, List.mem_filter, Bool.not_eq_true', ← Bool.not_eq_true, isAbsent_iff]

theorem present_append (ms ns : List Annotation) : present (ms ++ ns) = present ms ++ present ns := List.filter_append ..

theorem present_eq_nil_iff : present ms = [] ↔ ∀ m ∈ ms, m = absent := by
  simp only [present, List.filter_eq_nil_iff, Bool.not_eq_true', Bool.not_eq_false, isAbsent_iff]

theorem present_cons_absent (ms : List Annotation) : present (absent :: ms) = present ms :=
  List.filter_cons_of_neg (by decide)

theorem present_cons_of_ne (h : a ≠ absent) (ms : List Annotation) : present (a :: ms) = a :: present ms := by
  refine List.filter_cons_of_pos ?_
  rwa [Bool.not_eq_true', ← Bool.not_eq_true, isAbsent_iff]

theorem present_beside_absent {left right : List Annotation} (hothers : ∀ a ∈ left ++ right, a = absent) (hm : m ≠ absent) :
    present (left ++ m :: right) = [m] := by
  have hleft : present left = [] := present_eq_nil_iff.mpr fun a ha => hothers a (List.mem_append_left right ha)
  have hright : present right = [] := present_eq_nil_iff.mpr fun a ha => hothers a (List.mem_append_right left ha)
  rw [present_append, present_cons_of_ne hm, hleft, hright, List.nil_append]

/-! ### Tokens -/

theorem memberTokens_eq (ms : List Annotation) (entries : List Entry) :
    memberTokens ms entries = (present ms).map (classify · entries) := by
  induction ms with
  | nil => rfl
  | cons m ms ih =>
    rw [memberTokens, present]
    cases h : m.isAbsent <;> simp [h, ih, present]

theorem classify_of_sole (h : present ms = [m]) (entries : List Entry) :
    classify (union ms) entries = classify m entries := by
  rw [classify, memberTokens_eq, h]
  rfl

theorem classify_of_not_sole (h : ∀ m, present ms ≠ [m]) (entries : List Entry) :
    classify (union ms) entries = .unknown := by
  rw [classify, memberTokens_eq]
  split
  · rename_i token htoken
    obtain ⟨m, hm, -⟩ := List.map_eq_singleton_iff.mp htoken
    exact absurd hm (h m)
  · rfl

theorem classify_of_present (h : present ms = present ns) (entries : List Entry) :
    classify (union ms) entries = classify (union ns) entries := by
  rw [classify, classify, memberTokens_eq, memberTokens_eq, h]

/-! ### Repetitions -/

theorem same_absent_right [StandIns] : same a absent = true ↔ a = absent := by
  cases a <;> simp [same, absent]

theorem isIn_present [StandIns] (h : a ≠ absent) (ms : List Annotation) : isIn a (present ms) = isIn a ms := by
  induction ms with
  | nil => rfl
  | cons m ms ih =>
    by_cases hm : m = absent
    · have hno : same a absent = false := Bool.eq_false_iff.mpr fun hsame => h (same_absent_right.mp hsame)
      rw [hm, present_cons_absent, isIn, hno, Bool.false_or, ih]
    · rw [present_cons_of_ne hm, isIn, isIn, ih]

theorem present_distinct [StandIns] (seen ms : List Annotation) :
    present (distinct seen ms) = distinct (present seen) (present ms) := by
  induction ms generalizing seen with
  | nil => rfl
  | cons m ms ih =>
    by_cases hm : m = absent
    · subst hm
      rw [present_cons_absent, distinct]
      split
      · exact ih seen
      · rw [present_cons_absent, ih, present_cons_absent]
    · rw [present_cons_of_ne hm, distinct, distinct, isIn_present hm]
      split
      · exact ih seen
      · rw [present_cons_of_ne hm, ih, present_cons_of_ne hm]

/-- Beside absent values only, the parts of an annotation make up a union. -/
theorem present_parts_beside_absent [StandIns]
    {left right : List Annotation} (hothers : ∀ a ∈ left ++ right, a = absent)
    (hflat : m.Flat) : present (distinct [] ((left ++ m :: right).flatMap parts)) = present m.parts := by
  have hnone (as : List Annotation) (h : ∀ a ∈ as, a = absent) : present (as.flatMap parts) = [] := by
    refine present_eq_nil_iff.mpr fun p hp => ?_
    obtain ⟨a, ha, hp⟩ := List.mem_flatMap.mp hp
    rw [h a ha] at hp
    exact List.mem_singleton.mp hp
  have hleft := hnone left fun a ha => hothers a (List.mem_append_left right ha)
  have hright := hnone right fun a ha => hothers a (List.mem_append_right left ha)
  calc present (distinct [] ((left ++ m :: right).flatMap parts))
      = distinct [] (present m.parts) := by
        rw [present_distinct, List.flatMap_append, List.flatMap_cons, present_append, present_append, hleft, hright,
          List.nil_append, List.append_nil]
        rfl
    _ = present (distinct [] m.parts) := (present_distinct [] m.parts).symm
    _ = present m.parts := by rw [hflat.distinct_parts]

end SchemaAudit.Annotation
