import SchemaAudit.Proofs.Annotation.Sameness

/-! # Unions of unions

Annotations may be combined by unions in any nesting. What counts for the token of the whole is only which annotations
besides the absent value stand in it somewhere, up to sameness: with a sole one it is the token of that one, and with more
there is none (`classify_combination`). -/

namespace SchemaAudit.Annotation

variable {options : Nat → FieldOptions} {a b m n : Annotation} {as bs cs ms ns : List Annotation} {entries : List Entry}

/-! ### Lists that hold the same annotations -/

/-- Every annotation of one list is the same as one of the other, whatever their order and number. -/
def Alike [StandIns] (as bs : List Annotation) : Prop :=
  (∀ a ∈ as, ∃ b ∈ bs, same a b = true) ∧ ∀ b ∈ bs, ∃ a ∈ as, same b a = true

theorem Alike.symm [StandIns] (h : Alike as bs) : Alike bs as := ⟨h.2, h.1⟩

theorem Alike.trans [StandIns] (h : Alike as bs) (h' : Alike bs cs) : Alike as cs := by
  have through {xs ys zs : List Annotation} (h : ∀ x ∈ xs, ∃ y ∈ ys, same x y = true)
      (h' : ∀ y ∈ ys, ∃ z ∈ zs, same y z = true) : ∀ x ∈ xs, ∃ z ∈ zs, same x z = true := by
    intro x hx
    obtain ⟨y, hy, hxy⟩ := h x hx
    obtain ⟨z, hz, hyz⟩ := h' y hy
    exact ⟨z, hz, same_trans hxy hyz⟩
  exact ⟨through h.1 h'.1, through h'.2 h.2⟩

theorem alike_of_mem_iff [StandIns] (h : ∀ a, a ∈ as ↔ a ∈ bs) : Alike as bs :=
  ⟨fun a ha => ⟨a, (h a).mp ha, same_refl a⟩, fun b hb => ⟨b, (h b).mpr hb, same_refl b⟩⟩

theorem Alike.present [StandIns] (h : Alike as bs) : Alike (present as) (present bs) := by
  have through {xs ys : List Annotation} (h : ∀ x ∈ xs, ∃ y ∈ ys, same x y = true) :
      ∀ x ∈ Annotation.present xs, ∃ y ∈ Annotation.present ys, same x y = true := by
    intro x hx
    obtain ⟨hx, hpresent⟩ := mem_present.mp hx
    obtain ⟨y, hy, hxy⟩ := h x hx
    refine ⟨y, mem_present.mpr ⟨hy, ?_⟩, hxy⟩
    rintro rfl
    exact hpresent (same_absent_right.mp hxy)
  exact ⟨through h.1, through h.2⟩

theorem Alike.flatMap [StandIns]
    {α : Type} {ts : List α} {f g : α → List Annotation} (h : ∀ t ∈ ts, Alike (f t) (g t)) :
    Alike (ts.flatMap f) (ts.flatMap g) := by
  have through {f g : α → List Annotation} (h : ∀ t ∈ ts, ∀ x ∈ f t, ∃ y ∈ g t, same x y = true) :
      ∀ x ∈ ts.flatMap f, ∃ y ∈ ts.flatMap g, same x y = true := by
    intro x hx
    obtain ⟨t, ht, hx⟩ := List.mem_flatMap.mp hx
    obtain ⟨y, hy, hxy⟩ := h t ht x hx
    exact ⟨y, List.mem_flatMap.mpr ⟨t, ht, hy⟩, hxy⟩
  exact ⟨through fun t ht => (h t ht).1, through fun t ht => (h t ht).2⟩

theorem exists_same_distinct [StandIns] (seen : List Annotation) (h : a ∈ as) :
    (∃ s ∈ seen, same a s = true) ∨ ∃ b ∈ distinct seen as, same a b = true := by
  induction as generalizing seen with
  | nil => cases h
  | cons b as ih =>
    rw [distinct]
    rcases List.mem_cons.mp h with rfl | h
    · split
      · rename_i hseen
        exact Or.inl (isIn_iff.mp hseen)
      · exact Or.inr ⟨a, List.mem_cons_self, same_refl a⟩
    · split
      · exact ih seen h
      · rcases ih (b :: seen) h with ⟨s, hs, has⟩ | ⟨c, hc, hac⟩
        · rcases List.mem_cons.mp hs with rfl | hs
          · exact Or.inr ⟨s, List.mem_cons_self, has⟩
          · exact Or.inl ⟨s, hs, has⟩
        · exact Or.inr ⟨c, List.mem_cons_of_mem b hc, hac⟩

theorem alike_distinct [StandIns] (as : List Annotation) : Alike (distinct [] as) as := by
  refine ⟨fun a ha => ⟨a, mem_of_mem_distinct ha, same_refl a⟩, fun a ha => ?_⟩
  rcases exists_same_distinct [] ha with ⟨s, hs, -⟩ | h
  · cases hs
  · exact h

/-- What holds the same as a sole annotation, without repetition, is a sole annotation. -/
theorem Alike.sole [StandIns] (h : Alike [a] bs) (hapart : Apart bs) (hbs : ∀ b ∈ bs, b.Canonical options) :
    ∃ b, bs = [b] ∧ same a b = true := by
  have hback : ∀ b ∈ bs, same b a = true := by
    intro b hb
    obtain ⟨a', ha', hba⟩ := h.2 b hb
    rwa [List.mem_singleton.mp ha'] at hba
  obtain ⟨b, hb, hab⟩ := h.1 a (List.mem_singleton_self a)
  match bs, hapart with
  | [c], _ => exact ⟨c, rfl, List.mem_singleton.mp hb ▸ hab⟩
  | c :: d :: rest, hapart =>
    have hac := (hbs c List.mem_cons_self).same_symm (hback c List.mem_cons_self)
    have hda := hback d (List.mem_cons_of_mem c List.mem_cons_self)
    exact absurd (same_trans hda hac) ((List.pairwise_cons.mp hapart).1 d List.mem_cons_self)

/-! ### Tokens of what is the same -/

theorem Canonical.apart_present [StandIns] (h : Canonical options (.union ms)) : Apart (present ms) :=
  List.Pairwise.filter _ h.flat.apart

theorem Canonical.of_mem_present [StandIns] (h : Canonical options (.union ms)) (hm : m ∈ present ms) :
    m.Canonical options :=
  h.of_mem_parts (mem_present.mp hm).1

theorem classify_union_congr [StandIns] (hms : (union ms).Canonical options) (hns : (union ns).Canonical options)
    (halike : Alike (present ms) (present ns))
    (hcongr : ∀ m ∈ ms, ∀ n ∈ ns, same m n = true → classify m entries = classify n entries) :
    classify (union ms) entries = classify (union ns) entries := by
  by_cases hsole : ∃ m, present ms = [m]
  · obtain ⟨m, hm⟩ := hsole
    rw [hm] at halike
    obtain ⟨n, hn, hmn⟩ := halike.sole hns.apart_present fun n hn => hns.of_mem_present hn
    have hmem : m ∈ ms := (mem_present.mp (hm ▸ List.mem_cons_self)).1
    have hmem' : n ∈ ns := (mem_present.mp (hn ▸ List.mem_cons_self)).1
    rw [classify_of_sole hm, classify_of_sole hn, hcongr m hmem n hmem' hmn]
  · have hnone : ∀ n, present ns ≠ [n] := by
      intro n hn
      rw [hn] at halike
      obtain ⟨m, hm, -⟩ := halike.symm.sole hms.apart_present fun m hm => hms.of_mem_present hm
      exact hsole ⟨m, hm⟩
    rw [classify_of_not_sole (not_exists.mp hsole), classify_of_not_sole hnone]

theorem Canonical.classify_congr [StandIns] (ha : a.Canonical options) (hb : b.Canonical options) (h : same a b = true)
    (entries : List Entry) : classify a entries = classify b entries := by
  induction a using inductionOn generalizing b entries with
  | any => rw [same_any_iff.mp h]
  | ofClass c => rw [same_ofClass_iff.mp h]
  | applied spelling origin args =>
    obtain ⟨ys, rfl, -⟩ := same_applied_iff.mp h
    rw [classify, classify]
  | union ms ih =>
    obtain ⟨ns, rfl, hwithin, -⟩ := same_union_iff.mp h
    obtain ⟨_, hback, hwithin', -⟩ := same_union_iff.mp (ha.same_symm h)
    cases hback
    refine classify_union_congr ha hb (Alike.present ⟨hwithin, hwithin'⟩) fun m hm n hn hmn => ?_
    exact ih m hm (ha.of_mem_parts hm) (hb.of_mem_parts hn) hmn entries
  | annotated core own ih =>
    obtain ⟨core', fs, rfl, hcore, hentries⟩ := same_annotated_iff.mp h
    cases ha with
    | annotated hcanonical hown =>
      cases hb with
      | annotated hcanonical' hfs =>
        rw [classify, classify, eq_of_forall₂_same hown hfs hentries]
        exact ih hcanonical hcanonical' hcore _
  | literal values =>
    obtain ⟨vs, rfl, -⟩ := same_literal_iff.mp h
    rw [classify, classify]
  | qualified qualifier a =>
    obtain ⟨a', rfl, -⟩ := same_qualified_iff.mp h
    rw [classify, classify]
  | forward name => rw [same_forward_iff.mp h]
  | other label serial => rw [same_other_iff.mp h]

theorem Canonical.union_parts [StandIns] (h : a.Canonical options) : Canonical options (.union a.parts) :=
  .union (fun _ hp => h.of_mem_parts hp) ⟨h.flat.distinct_parts, h.flat.parts_of_mem⟩

/-- Annotations that have the same parts besides the absent value have the same token. -/
theorem classify_of_alike [StandIns] (ha : a.Canonical options) (hb : b.Canonical options)
    (h : Alike (present a.parts) (present b.parts)) (entries : List Entry) : classify a entries = classify b entries := by
  rw [← classify_union_parts a, ← classify_union_parts b]
  refine classify_union_congr ha.union_parts hb.union_parts h fun m hm n hn hmn => ?_
  exact (ha.of_mem_parts hm).classify_congr (hb.of_mem_parts hn) hmn entries

/-! ### Combinations -/

/-- Annotations combined by unions. -/
inductive Combination where
  | single (a : Annotation)
  | union (ts : List Combination)

namespace Combination

/-- A combination or the absent value. -/
def optional (t : Combination) : Combination := union [t, single absent]

mutual

/-- The annotation that a combination is. -/
def built [StandIns] : Combination → Annotation
  | single a => a
  | union ts => unionOf (allBuilt ts)

/-- The annotations that some combinations are. -/
def allBuilt [StandIns] : List Combination → List Annotation
  | [] => []
  | t :: ts => built t :: allBuilt ts

end

mutual

/-- The annotations that are combined. -/
def leaves : Combination → List Annotation
  | single a => [a]
  | union ts => allLeaves ts

/-- The annotations that are combined in some combinations. -/
def allLeaves : List Combination → List Annotation
  | [] => []
  | t :: ts => leaves t ++ allLeaves ts

end

/-- The members that a combination has when all unions in it are flattened. -/
def members (t : Combination) : List Annotation := t.leaves.flatMap parts

@[elab_as_elim]
theorem inductionOn {P : Combination → Prop} (single : ∀ a, P (single a)) (union : ∀ ts, (∀ t ∈ ts, P t) → P (union ts))
    (t : Combination) : P t :=
  Combination.rec single union (List.forall_mem_nil P) (fun _ _ ht hts => List.forall_mem_cons.mpr ⟨ht, hts⟩) t

theorem allBuilt_eq [StandIns] (ts : List Combination) : allBuilt ts = ts.map built := by
  induction ts with
  | nil => rfl
  | cons t ts ih => rw [allBuilt, ih, List.map_cons]

theorem allLeaves_eq (ts : List Combination) : allLeaves ts = ts.flatMap leaves := by
  induction ts with
  | nil => rfl
  | cons t ts ih => rw [allLeaves, ih, List.flatMap_cons]

theorem members_union (ts : List Combination) : (union ts).members = ts.flatMap members := by
  rw [members, leaves, allLeaves_eq, List.flatMap_assoc]
  rfl

end Combination

theorem parts_unionOf [StandIns] (h : ∀ m ∈ ms, m.Flat) : (unionOf ms).parts = distinct [] (ms.flatMap parts) := by
  rcases unionOf_cases ms with ⟨a, hsole, heq⟩ | heq
  · obtain ⟨m, hm, ha⟩ := List.mem_flatMap.mp (mem_of_mem_distinct (hsole ▸ List.mem_cons_self))
    rw [heq, hsole, (h m hm).parts_of_mem a ha]
  · rw [heq]
    rfl

theorem Combination.canonical_of_mem [StandIns] {t : Combination} (h : ∀ a ∈ t.leaves, a.Canonical options)
    (hm : m ∈ present t.members) : m.Canonical options := by
  obtain ⟨a, ha, hma⟩ := List.mem_flatMap.mp (mem_present.mp hm).1
  exact (h a ha).of_mem_parts hma

/-- Flattening and dropping repetitions neither loses a member nor adds one. -/
theorem Combination.alike_parts [StandIns] (t : Combination) (h : ∀ a ∈ t.leaves, a.Canonical options) :
    t.built.Canonical options ∧ Alike t.built.parts t.members := by
  induction t using Combination.inductionOn with
  | single a =>
    rw [members, leaves, List.flatMap_singleton]
    exact ⟨h a (List.mem_singleton_self a), alike_of_mem_iff fun _ => Iff.rfl⟩
  | union ts ih =>
    rw [leaves, allLeaves_eq] at h
    have hparts (t : Combination) (ht : t ∈ ts) := ih t ht fun a ha => h a (List.mem_flatMap.mpr ⟨t, ht, ha⟩)
    have hcanonical : ∀ a ∈ ts.map built, a.Canonical options :=
      List.forall_mem_map.mpr fun t ht => (hparts t ht).1
    rw [built, allBuilt_eq, members_union, parts_unionOf fun a ha => (hcanonical a ha).flat]
    refine ⟨.unionOf hcanonical, (alike_distinct _).trans ?_⟩
    rw [List.flatMap_map]
    exact Alike.flatMap fun t ht => (hparts t ht).2

/-- The token of annotations that are combined by unions in any nesting. If none but the absent value stands in it there is
no token; if all others are the same, it is the token of any of these; if two of them are not, there is none again. So it
is the same for all combinations that hold the same annotations besides the absent value. -/
theorem classify_combination [StandIns]
    (options : Nat → FieldOptions) (s t : Combination) (hs : ∀ a ∈ s.leaves, a.Canonical options)
    (ht : ∀ a ∈ t.leaves, a.Canonical options) (entries : List Entry) :
    (present s.members = [] → classify s.built entries = .unknown) ∧
    (∀ x ∈ present s.members, (∀ m ∈ present s.members, same m x = true) →
      classify s.built entries = classify x entries) ∧
    (∀ x ∈ present s.members, ∀ y ∈ present s.members, ¬ same x y = true → classify s.built entries = .unknown) ∧
    (Alike (present s.members) (present t.members) → classify s.built entries = classify t.built entries) := by
  obtain ⟨hcanonical, hparts⟩ := s.alike_parts hs
  obtain ⟨hcanonical', hparts'⟩ := t.alike_parts ht
  have hpresent := hparts.present
  have hunion := hcanonical.union_parts
  refine ⟨fun hnone => ?_, fun x hx hall => ?_, fun x hx y hy hnot => ?_, fun halike => ?_⟩
  · rw [← classify_union_parts]
    refine classify_of_not_sole (fun m hm => ?_) entries
    rw [hm, hnone] at hpresent
    obtain ⟨_, hmem, -⟩ := hpresent.1 m (List.mem_singleton_self m)
    cases hmem
  · have hsole : Alike [x] (present s.members) := by
      refine ⟨List.forall_mem_singleton.mpr ⟨x, hx, same_refl x⟩, fun m hm => ⟨x, List.mem_singleton_self x, hall m hm⟩⟩
    obtain ⟨p, hp, hxp⟩ := (hsole.trans hpresent.symm).sole hunion.apart_present fun p hp => hunion.of_mem_present hp
    have hp' : p.Canonical options := hunion.of_mem_present (hp ▸ List.mem_cons_self)
    rw [← classify_union_parts, classify_of_sole hp, (Combination.canonical_of_mem hs hx).classify_congr hp' hxp]
  · rw [← classify_union_parts]
    refine classify_of_not_sole (fun m hm => ?_) entries
    rw [hm] at hpresent
    obtain ⟨_, hmem, hxm⟩ := hpresent.2 x hx
    obtain ⟨_, hmem', hym⟩ := hpresent.2 y hy
    rw [List.mem_singleton.mp hmem] at hxm
    rw [List.mem_singleton.mp hmem'] at hym
    exact hnot (same_trans hxm ((Combination.canonical_of_mem hs hy).same_symm hym))
  · exact classify_of_alike hcanonical hcanonical' (hpresent.trans (halike.trans hparts'.present.symm)) entries

/-- Lists of numbers or texts. -/
def numbersOrTexts [StandIns] : Annotation :=
  applied "list" ⟨"list", 0, [.collection]⟩ [unionOf [ofClass ⟨"int", 0, [.integer]⟩, ofClass ⟨"str", 0, [.text]⟩]]

/-- Lists of texts or numbers. -/
def textsOrNumbers [StandIns] : Annotation :=
  applied "list" ⟨"list", 0, [.collection]⟩ [unionOf [ofClass ⟨"str", 0, [.text]⟩, ofClass ⟨"int", 0, [.integer]⟩]]

/-- Both are one member, and the absent value beside them does not count. -/
theorem classify_combination_lists :
    classify (Combination.optional (.union [.single numbersOrTexts, .single textsOrNumbers])).built [] = .array ∧
      classify (Combination.optional (.union [.single numbersOrTexts, .single textsOrNumbers])).built [] =
        classify (Combination.single textsOrNumbers).built [] := by
  have hsame : same numbersOrTexts textsOrNumbers = true := by
    simp [numbersOrTexts, textsOrNumbers, unionOf, parts, distinct, isIn, same, sameAll, within]
  have hcanonical (c d : ClassRef) : (unionOf [ofClass c, ofClass d]).Canonical fun _ => .none :=
    .unionOf (List.forall_mem_cons.mpr ⟨.ofClass c, List.forall_mem_singleton.mpr (.ofClass d)⟩)
  have hfirst : numbersOrTexts.Canonical fun _ => .none :=
    .applied _ _ (List.forall_mem_singleton.mpr (hcanonical _ _))
  have hsecond : textsOrNumbers.Canonical fun _ => .none :=
    .applied _ _ (List.forall_mem_singleton.mpr (hcanonical _ _))
  obtain ⟨-, hsole, -, halike⟩ := classify_combination (fun _ => .none)
    (.optional (.union [.single numbersOrTexts, .single textsOrNumbers])) (.single textsOrNumbers)
    (List.forall_mem_cons.mpr ⟨hfirst, List.forall_mem_cons.mpr ⟨hsecond, List.forall_mem_singleton.mpr (.ofClass _)⟩⟩)
    (List.forall_mem_singleton.mpr hsecond) []
  constructor
  · refine (hsole _ List.mem_cons_self ?_).trans rfl
    exact List.forall_mem_cons.mpr ⟨same_refl _, List.forall_mem_singleton.mpr (hfirst.same_symm hsame)⟩
  · refine halike ⟨List.forall_mem_cons.mpr ⟨⟨_, List.mem_cons_self, hsame⟩, ?_⟩, ?_⟩
    · exact List.forall_mem_singleton.mpr ⟨_, List.mem_cons_self, same_refl _⟩
    · exact List.forall_mem_singleton.mpr ⟨_, List.mem_cons_self, hfirst.same_symm hsame⟩

end SchemaAudit.Annotation
