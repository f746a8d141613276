import Mathlib.Data.List.Forall2
import SchemaAudit.Annotation.Catalogue
import SchemaAudit.Record.Model
import SchemaAudit.Proofs.Annotation.Members

/-! # Sameness of annotations

Two annotations are the same if they differ by nothing but the order of the members of unions and of the values of
literals. On annotations as they are built (`Canonical`) this is an equivalence (`same_refl`, `same_trans`,
`Canonical.same_symm`), and what is the same has the same token (`Canonical.classify_congr`). -/

namespace SchemaAudit

/-- If every element of a list is related to one of another list that is not longer, and no two of them to the same one,
then every element of the other list is related to one of the first. -/
theorem exists_related_of_length_le {α β : Type} {R : α → β → Prop} {xs : List α} {ys : List β}
    (hone : xs.Pairwise fun x x' => ∀ y, R x y → ¬ R x' y) (hwithin : ∀ x ∈ xs, ∃ y ∈ ys, R x y)
    (hlength : ys.length ≤ xs.length) : ∀ y ∈ ys, ∃ x ∈ xs, R x y := by
  induction xs generalizing ys with
  | nil =>
    rw [List.eq_nil_of_length_eq_zero (Nat.le_zero.mp hlength)]
    exact List.forall_mem_nil _
  | cons x xs ih =>
    obtain ⟨hfirst, hone⟩ := List.pairwise_cons.mp hone
    obtain ⟨⟨y₀, hy₀, hxy₀⟩, hwithin⟩ := List.forall_mem_cons.mp hwithin
    obtain ⟨left, right, rfl⟩ := List.append_of_mem hy₀
    -- The others are related to what is beside `y₀`, which is shorter by one.
    have hbeside : ∀ x' ∈ xs, ∃ y ∈ left ++ right, R x' y := by
      intro x' hx'
      obtain ⟨y, hy, hxy⟩ := hwithin x' hx'
      rcases List.mem_append.mp hy with hy | hy
      · exact ⟨y, List.mem_append_left right hy, hxy⟩
      · rcases List.mem_cons.mp hy with rfl | hy
        · exact absurd hxy (hfirst x' hx' y hxy₀)
        · exact ⟨y, List.mem_append_right left hy, hxy⟩
    have hshorter : (left ++ right).length ≤ xs.length := by
      simp only [List.length_append, List.length_cons] at hlength ⊢
      omega
    intro y hy
    by_cases hcase : y ∈ left ++ right
    · obtain ⟨x', hx', hxy⟩ := ih hone hbeside hshorter y hcase
      exact ⟨x', List.mem_cons_of_mem x hx', hxy⟩
    · obtain ⟨hleft, hright⟩ := not_or.mp (mt List.mem_append.mpr hcase)
      rcases List.mem_append.mp hy with hy | hy
      · exact absurd hy hleft
      · rcases List.mem_cons.mp hy with rfl | hy
        · exact ⟨x, List.mem_cons_self, hxy₀⟩
        · exact absurd hy hright

theorem forall₂_symm_of {α : Type} {R : α → α → Prop} {as bs : List α} (hsymm : ∀ a ∈ as, ∀ b, R a b → R b a)
    (h : List.Forall₂ R as bs) : List.Forall₂ R bs as := by
  induction h with
  | nil => exact .nil
  | cons hab _ ih =>
    obtain ⟨ha, hsymm⟩ := List.forall_mem_cons.mp hsymm
    exact .cons (ha _ hab) (ih hsymm)

theorem forall₂_trans_of {α : Type} {R : α → α → Prop} {as bs cs : List α}
    (htrans : ∀ a ∈ as, ∀ b c, R a b → R b c → R a c) (h : List.Forall₂ R as bs) (h' : List.Forall₂ R bs cs) :
    List.Forall₂ R as cs := by
  induction h generalizing cs with
  | nil => exact h'
  | cons hab _ ih =>
    obtain ⟨ha, htrans⟩ := List.forall_mem_cons.mp htrans
    cases h' with
    | cons hbc h' => exact .cons (ha _ _ hab hbc) (ih htrans h')

/-! ### Entries -/

theorem Entry.same_refl (e : Entry) : e.same e = true := by
  cases e <;> simp [same]

theorem Entry.same_symm {e f : Entry} (h : e.same f = true) : f.same e = true := by
  cases e <;> cases f <;> simp_all [same]

theorem Entry.same_trans {e f g : Entry} (h : e.same f = true) (h' : f.same g = true) : e.same g = true := by
  cases e <;> cases f <;> cases g <;> simp_all [same]

/-- The entry holds the options that belong to its serial number, if it is a field. -/
def Entry.IsOf (options : Nat → FieldOptions) : Entry → Prop
  | field serial given => given = options serial
  | _ => True

theorem Entry.eq_of_same {options : Nat → FieldOptions} {e f : Entry} (he : e.IsOf options) (hf : f.IsOf options)
    (h : e.same f = true) : e = f := by
  cases e <;> cases f <;> simp_all [same, IsOf]

namespace Annotation

variable {options : Nat → FieldOptions} {a b c m : Annotation} {as bs ms xs ys : List Annotation} {es fs : List Entry}

/-! ### Lists -/

theorem sameEntries_iff : sameEntries es fs = true ↔ List.Forall₂ (fun e f => e.same f = true) es fs := by
  induction es generalizing fs with
  | nil => cases fs <;> simp [sameEntries]
  | cons e es ih => cases fs <;> simp [sameEntries, ih]

theorem eq_of_forall₂_same (hes : ∀ e ∈ es, e.IsOf options) (hfs : ∀ f ∈ fs, f.IsOf options)
    (h : List.Forall₂ (fun e f => e.same f = true) es fs) : es = fs := by
  induction h with
  | nil => rfl
  | cons hef _ ih =>
    obtain ⟨he, hes⟩ := List.forall_mem_cons.mp hes
    obtain ⟨hf, hfs⟩ := List.forall_mem_cons.mp hfs
    rw [Entry.eq_of_same he hf hef, ih hes hfs]

theorem sameAll_iff [StandIns] : sameAll as bs = true ↔ List.Forall₂ (fun a b => same a b = true) as bs := by
  induction as generalizing bs with
  | nil => cases bs <;> simp [sameAll]
  | cons a as ih => cases bs <;> simp [sameAll, ih]

theorem valuesWithin_refl [StandIns] (vs : List Json) : valuesWithin vs vs = true := by
  simp only [valuesWithin, List.all_eq_true, List.any_eq_true, decide_eq_true_eq]
  exact fun v hv => ⟨v, hv, rfl⟩

theorem valuesWithin_trans [StandIns]
    {us vs ws : List Json} (h : valuesWithin us vs = true) (h' : valuesWithin vs ws = true) :
    valuesWithin us ws = true := by
  simp only [valuesWithin, List.all_eq_true, List.any_eq_true, decide_eq_true_eq] at h h' ⊢
  intro u hu
  obtain ⟨v, hv, huv⟩ := h u hu
  obtain ⟨w, hw, hvw⟩ := h' v hv
  exact ⟨w, hw, huv.trans hvw⟩

theorem isIn_iff [StandIns] : isIn a bs = true ↔ ∃ b ∈ bs, same a b = true := by
  induction bs with
  | nil => simp [isIn]
  | cons b bs ih => simp [isIn, ih]

theorem within_iff [StandIns] : within as bs = true ↔ ∀ a ∈ as, ∃ b ∈ bs, same a b = true := by
  induction as with
  | nil => simp [within]
  | cons a as ih => simp [within, ih, isIn_iff]

/-! ### What is the same as an annotation of each kind -/

theorem same_any_iff [StandIns] : same any b = true ↔ b = any := by
  cases b <;> simp [same]

theorem same_ofClass_iff [StandIns] {c : ClassRef} : same (ofClass c) b = true ↔ b = ofClass c := by
  cases b with
  | ofClass d => rw [same, decide_eq_true_eq, ofClass.injEq, eq_comm]
  | _ => simp [same]

theorem same_applied_iff [StandIns] {spelling : String} {origin : ClassRef} :
    same (applied spelling origin xs) b = true ↔
      ∃ ys, b = applied spelling origin ys ∧ List.Forall₂ (fun x y => same x y = true) xs ys := by
  constructor
  · intro h
    cases b <;> simp only [same, Bool.and_eq_true, decide_eq_true_eq, Bool.false_eq_true] at h
    obtain ⟨⟨rfl, rfl⟩, h⟩ := h
    exact ⟨_, rfl, sameAll_iff.mp h⟩
  · rintro ⟨ys, rfl, h⟩
    simp [same, sameAll_iff.mpr h]

theorem same_union_iff [StandIns] :
    same (union xs) b = true ↔ ∃ ys, b = union ys ∧ (∀ x ∈ xs, ∃ y ∈ ys, same x y = true) ∧ xs.length = ys.length := by
  cases b <;> simp [same, within_iff]

theorem same_annotated_iff [StandIns] {core : Annotation} : same (annotated core es) b = true ↔
    ∃ core' fs, b = annotated core' fs ∧ same core core' = true ∧
      List.Forall₂ (fun e f => e.same f = true) es fs := by
  constructor
  · intro h
    cases b <;> simp only [same, Bool.and_eq_true, Bool.false_eq_true] at h
    exact ⟨_, _, rfl, h.1, sameEntries_iff.mp h.2⟩
  · rintro ⟨core', fs, rfl, h, hentries⟩
    rw [same, h, sameEntries_iff.mpr hentries, Bool.true_and]

theorem same_literal_iff [StandIns] {us : List Json} :
    same (literal us) b = true ↔ ∃ vs, b = literal vs ∧ valuesWithin us vs = true ∧ valuesWithin vs us = true := by
  cases b <;> simp [same]

theorem same_qualified_iff [StandIns] {qualifier : Qualifier} :
    same (qualified qualifier a) b = true ↔ ∃ a', b = qualified qualifier a' ∧ same a a' = true := by
  constructor
  · intro h
    cases b <;> simp only [same, Bool.and_eq_true, decide_eq_true_eq, Bool.false_eq_true] at h
    obtain ⟨rfl, h⟩ := h
    exact ⟨_, rfl, h⟩
  · rintro ⟨a', rfl, h⟩
    simp [same, h]

theorem same_forward_iff [StandIns] {name : String} : same (forward name) b = true ↔ b = forward name := by
  cases b with
  | forward n => rw [same, decide_eq_true_eq, forward.injEq, eq_comm]
  | _ => simp [same]

theorem same_other_iff [StandIns] {label : String} {serial : Nat} :
    same (other label serial) b = true ↔ b = other label serial := by
  constructor
  · intro h
    cases b <;> simp only [same, Bool.and_eq_true, decide_eq_true_eq, Bool.false_eq_true] at h
    obtain ⟨rfl, rfl⟩ := h
    rfl
  · rintro rfl
    simp [same]

/-! ### An equivalence -/

theorem same_refl [StandIns] (a : Annotation) : same a a = true := by
  induction a using inductionOn with
  | any => exact same_any_iff.mpr rfl
  | ofClass c => exact same_ofClass_iff.mpr rfl
  | applied spelling origin args ih => exact same_applied_iff.mpr ⟨args, rfl, List.forall₂_same.mpr ih⟩
  | union ms ih => exact same_union_iff.mpr ⟨ms, rfl, fun m hm => ⟨m, hm, ih m hm⟩, rfl⟩
  | annotated core own ih => exact same_annotated_iff.mpr ⟨core, own, rfl, ih, List.forall₂_same.mpr fun e _ => e.same_refl⟩
  | literal values => exact same_literal_iff.mpr ⟨values, rfl, valuesWithin_refl values, valuesWithin_refl values⟩
  | qualified qualifier a ih => exact same_qualified_iff.mpr ⟨a, rfl, ih⟩
  | forward name => exact same_forward_iff.mpr rfl
  | other label serial => exact same_other_iff.mpr rfl

theorem same_trans [StandIns] (h : same a b = true) (h' : same b c = true) : same a c = true := by
  induction a using inductionOn generalizing b c with
  | any => rwa [same_any_iff.mp h] at h'
  | ofClass c => rwa [same_ofClass_iff.mp h] at h'
  | applied spelling origin args ih =>
    obtain ⟨ys, rfl, hargs⟩ := same_applied_iff.mp h
    obtain ⟨zs, rfl, hargs'⟩ := same_applied_iff.mp h'
    exact same_applied_iff.mpr ⟨zs, rfl, forall₂_trans_of (fun a ha b c => ih a ha) hargs hargs'⟩
  | union ms ih =>
    obtain ⟨ys, rfl, h, hlength⟩ := same_union_iff.mp h
    obtain ⟨zs, rfl, h', hlength'⟩ := same_union_iff.mp h'
    refine same_union_iff.mpr ⟨zs, rfl, fun m hm => ?_, hlength.trans hlength'⟩
    obtain ⟨y, hy, hmy⟩ := h m hm
    obtain ⟨z, hz, hyz⟩ := h' y hy
    exact ⟨z, hz, ih m hm hmy hyz⟩
  | annotated core own ih =>
    obtain ⟨core', fs, rfl, h, hentries⟩ := same_annotated_iff.mp h
    obtain ⟨core'', gs, rfl, h', hentries'⟩ := same_annotated_iff.mp h'
    exact same_annotated_iff.mpr ⟨core'', gs, rfl, ih h h',
      forall₂_trans_of (fun e _ f g => Entry.same_trans) hentries hentries'⟩
  | literal values =>
    obtain ⟨vs, rfl, h, hback⟩ := same_literal_iff.mp h
    obtain ⟨ws, rfl, h', hback'⟩ := same_literal_iff.mp h'
    exact same_literal_iff.mpr ⟨ws, rfl, valuesWithin_trans h h', valuesWithin_trans hback' hback⟩
  | qualified qualifier a ih =>
    obtain ⟨a', rfl, hinner⟩ := same_qualified_iff.mp h
    obtain ⟨a'', rfl, hinner'⟩ := same_qualified_iff.mp h'
    exact same_qualified_iff.mpr ⟨a'', rfl, ih hinner hinner'⟩
  | forward name => rwa [same_forward_iff.mp h] at h'
  | other label serial => rwa [same_other_iff.mp h] at h'

/-- Annotations as they are built: all unions in them are flat, and a field has the options of its serial number. -/
inductive Canonical [StandIns] (options : Nat → FieldOptions) : Annotation → Prop where
  | any : Canonical options any
  | ofClass (c : ClassRef) : Canonical options (ofClass c)
  | applied (spelling : String) (origin : ClassRef) {args : List Annotation} (h : ∀ a ∈ args, Canonical options a) :
      Canonical options (applied spelling origin args)
  | union {ms : List Annotation} (h : ∀ m ∈ ms, Canonical options m) (flat : (union ms).Flat) :
      Canonical options (union ms)
  | annotated {core : Annotation} {es : List Entry} (h : Canonical options core) (hes : ∀ e ∈ es, e.IsOf options) :
      Canonical options (annotated core es)
  | literal (values : List Json) : Canonical options (literal values)
  | qualified (qualifier : Qualifier) {a : Annotation} (h : Canonical options a) : Canonical options (qualified qualifier a)
  | forward (name : String) : Canonical options (forward name)
  | other (label : String) (serial : Nat) : Canonical options (other label serial)

/-- No annotation of the list is the same as an earlier one. -/
def Apart [StandIns] (as : List Annotation) : Prop := as.Pairwise fun a later => ¬ same later a = true

theorem apart_distinct [StandIns] (seen as : List Annotation) :
    Apart (distinct seen as) ∧ ∀ a ∈ distinct seen as, ∀ s ∈ seen, ¬ same a s = true := by
  induction as generalizing seen with
  | nil => exact ⟨List.Pairwise.nil, List.forall_mem_nil _⟩
  | cons a as ih =>
    rw [distinct]
    split
    · exact ih seen
    · rename_i hnew
      obtain ⟨hapart, hseen⟩ := ih (a :: seen)
      refine ⟨List.pairwise_cons.mpr ⟨fun b hb => hseen b hb a List.mem_cons_self, hapart⟩, ?_⟩
      refine List.forall_mem_cons.mpr ⟨fun s hs hsame => hnew (isIn_iff.mpr ⟨s, hs, hsame⟩), fun b hb s hs => ?_⟩
      exact hseen b hb s (List.mem_cons_of_mem a hs)

theorem Flat.apart [StandIns] (h : (union ms).Flat) : Apart ms := by
  have hdistinct : distinct [] ms = ms := h.distinct_parts
  rw [← hdistinct]
  exact (apart_distinct [] ms).1

theorem Canonical.same_symm [StandIns] (ha : a.Canonical options) (h : same a b = true) : same b a = true := by
  induction a using inductionOn generalizing b with
  | any => rw [same_any_iff.mp h, same_refl]
  | ofClass c => rw [same_ofClass_iff.mp h, same_refl]
  | applied spelling origin args ih =>
    obtain ⟨ys, rfl, hargs⟩ := same_applied_iff.mp h
    cases ha with
    | applied _ _ hcanonical =>
      exact same_applied_iff.mpr ⟨args, rfl, forall₂_symm_of (fun a ha b => ih a ha (hcanonical a ha)) hargs⟩
  | union ms ih =>
    obtain ⟨ys, rfl, h, hlength⟩ := same_union_iff.mp h
    cases ha with
    | union hms flat =>
      have hone : ms.Pairwise fun m m' => ∀ y, same m y = true → ¬ same m' y = true := by
        refine flat.apart.imp_of_mem fun hm _ hnot y hmy hmy' => ?_
        exact hnot (same_trans hmy' (ih _ hm (hms _ hm) hmy))
      refine same_union_iff.mpr ⟨ms, rfl, fun y hy => ?_, hlength.symm⟩
      obtain ⟨m, hm, hmy⟩ := exists_related_of_length_le hone h (Nat.le_of_eq hlength.symm) y hy
      exact ⟨m, hm, ih m hm (hms m hm) hmy⟩
  | annotated core own ih =>
    obtain ⟨core', fs, rfl, h, hentries⟩ := same_annotated_iff.mp h
    cases ha with
    | annotated hcore _ => exact same_annotated_iff.mpr ⟨core, own, rfl, ih hcore h,
        forall₂_symm_of (fun e _ f => Entry.same_symm) hentries⟩
  | literal values =>
    obtain ⟨vs, rfl, h, hback⟩ := same_literal_iff.mp h
    exact same_literal_iff.mpr ⟨values, rfl, hback, h⟩
  | qualified qualifier a ih =>
    obtain ⟨a', rfl, hinner⟩ := same_qualified_iff.mp h
    cases ha with
    | qualified _ ha => exact same_qualified_iff.mpr ⟨a, rfl, ih ha hinner⟩
  | forward name => rw [same_forward_iff.mp h, same_refl]
  | other label serial => rw [same_other_iff.mp h, same_refl]

/-! ### What is built -/

theorem Canonical.flat [StandIns] (h : a.Canonical options) : a.Flat := by
  cases h with
  | union _ flat => exact flat
  | _ => exact flat_of_parts rfl

theorem Canonical.of_mem_parts [StandIns] (h : a.Canonical options) (hb : b ∈ a.parts) : b.Canonical options := by
  cases h with
  | union hms _ => exact hms b hb
  | any => exact List.mem_singleton.mp hb ▸ .any
  | ofClass c => exact List.mem_singleton.mp hb ▸ .ofClass c
  | applied spelling origin hargs => exact List.mem_singleton.mp hb ▸ .applied spelling origin hargs
  | annotated hcore hes => exact List.mem_singleton.mp hb ▸ .annotated hcore hes
  | literal values => exact List.mem_singleton.mp hb ▸ .literal values
  | qualified qualifier ha => exact List.mem_singleton.mp hb ▸ .qualified qualifier ha
  | forward name => exact List.mem_singleton.mp hb ▸ .forward name
  | other label serial => exact List.mem_singleton.mp hb ▸ .other label serial

theorem Canonical.unionOf [StandIns] (h : ∀ m ∈ ms, m.Canonical options) : (unionOf ms).Canonical options := by
  have hparts : ∀ p ∈ distinct [] (ms.flatMap parts), p.Canonical options := by
    intro p hp
    obtain ⟨m, hm, hp⟩ := List.mem_flatMap.mp (mem_of_mem_distinct hp)
    exact (h m hm).of_mem_parts hp
  have hflat := flat_unionOf fun m hm => (h m hm).flat
  rcases unionOf_cases ms with ⟨a, hsole, heq⟩ | heq
  · rw [heq]
    exact hparts a (hsole ▸ List.mem_cons_self)
  · rw [heq] at hflat ⊢
    exact .union hparts hflat

theorem Canonical.optional [StandIns] (h : a.Canonical options) : a.optional.Canonical options := by
  refine Canonical.unionOf (List.forall_mem_cons.mpr ⟨h, List.forall_mem_cons.mpr ⟨.ofClass _, List.forall_mem_nil _⟩⟩)

theorem Canonical.annotate [StandIns] (h : a.Canonical options) (hes : ∀ e ∈ es, e.IsOf options) :
    (a.annotate es).Canonical options := by
  cases h with
  | annotated hcore hown => exact .annotated hcore (List.forall_mem_append.mpr ⟨hown, hes⟩)
  | union hms flat => exact .annotated (.union hms flat) hes
  | any => exact .annotated .any hes
  | ofClass c => exact .annotated (.ofClass c) hes
  | applied spelling origin hargs => exact .annotated (.applied spelling origin hargs) hes
  | literal values => exact .annotated (.literal values) hes
  | qualified qualifier ha => exact .annotated (.qualified qualifier ha) hes
  | forward name => exact .annotated (.forward name) hes
  | other label serial => exact .annotated (.other label serial) hes

theorem isOf_notes (notes : List String) : ∀ e ∈ notes.map Entry.note, e.IsOf options :=
  List.forall_mem_map.mpr fun _ _ => trivial

theorem canonical_classNamed [StandIns] (name : String) : (named.named? name).Canonical options := by
  unfold named.named?
  cases class? name with
  | none => exact .other name 0
  | some c => exact .ofClass c

theorem canonical_classApplied [StandIns] (spelling origin : String) (h : ∀ a ∈ as, a.Canonical options) :
    (named.applyTo spelling origin as).Canonical options := by
  unfold named.applyTo
  cases class? origin with
  | none => exact .other spelling 0
  | some c => exact .applied spelling c h

theorem canonical_named [StandIns] (name : String) : (named name).Canonical options := by
  unfold named
  split
  · exact .any
  split
  · exact .ofClass _
  split
  · exact canonical_classNamed "str"
  split
  · exact .ofClass _
  · exact canonical_classApplied _ _ (List.forall_mem_nil _)
  · exact (canonical_classNamed _).annotate (isOf_notes [name])
  · refine (canonical_classApplied _ _ ?_).annotate (isOf_notes [name])
    exact List.forall_mem_singleton.mpr (canonical_classNamed "int")
  · exact .other name 0

theorem Canonical.apply [StandIns] (name : String) (h : ∀ a ∈ as, a.Canonical options) :
    (apply name as).Canonical options := by
  unfold Annotation.apply
  split
  · exact .unionOf (List.forall_mem_append.mpr ⟨h, List.forall_mem_singleton.mpr (.ofClass _)⟩)
  split
  · exact .unionOf h
  split
  · refine Canonical.annotate ?_ (isOf_notes [name])
    cases as with
    | nil => exact .any
    | cons a as => exact h a List.mem_cons_self
  split
  · exact .applied name _ h
  · exact .applied _ _ h
  · exact .other _ _
  · exact canonical_named name

theorem Canonical.resolve [StandIns]
    {scope : String → Option Annotation} (hscope : ∀ name a, scope name = some a → a.Canonical options)
    (h : a.Canonical options) : (Record.resolve scope a).Canonical options := by
  have hall (as : List Annotation) (h : ∀ a ∈ as, (Record.resolve scope a).Canonical options) :
      ∀ a ∈ Record.resolveAll scope as, a.Canonical options := by
    induction as with
    | nil => exact List.forall_mem_nil _
    | cons a as ih =>
      obtain ⟨ha, h⟩ := List.forall_mem_cons.mp h
      exact List.forall_mem_cons.mpr ⟨ha, ih h⟩
  induction a using inductionOn with
  | forward name =>
    unfold Record.resolve
    cases hname : scope name with
    | none => exact .forward name
    | some a => exact hscope name a hname
  | applied spelling origin args ih =>
    cases h with
    | applied _ _ hargs => exact .applied spelling origin (hall args fun a ha => ih a ha (hargs a ha))
  | union ms ih =>
    cases h with
    | union hms _ => exact .unionOf (hall ms fun m hm => ih m hm (hms m hm))
  | annotated core own ih =>
    cases h with
    | annotated hcore hown => exact (ih hcore).annotate hown
  | qualified qualifier a ih =>
    cases h with
    | qualified _ ha => exact .qualified qualifier (ih ha)
  | any => exact h
  | ofClass c => exact h
  | literal values => exact h
  | other label serial => exact h

end Annotation

end SchemaAudit
