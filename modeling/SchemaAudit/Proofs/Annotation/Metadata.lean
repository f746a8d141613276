import SchemaAudit.Proofs.Annotation.Members

/-! # Metadata around annotations

Unwrapping an annotation takes the metadata off it, and takes the member out of a union that has a sole one besides the
absent value, as long as it can. `Reaches` says at which class that ends, and what metadata is met on the way, from
without.

Metadata has a say only if that class is one of texts. Then the first entry that refines a text decides, those around the
annotation coming before those that are met on the way. So an entry that refines nothing, or that stands behind one that
does, may be put in or left out anywhere (`classify_by_metadata`). -/

namespace SchemaAudit

variable {c : ClassRef} {e : Entry} {t : TypeToken} {es before after entries : List Entry}

/-! ### Texts and what refines them -/

/-- The families that a class is asked for before the texts. -/
def Family.beforeText : List Family := [.enumeration, .boolean, .integer, .number, .uuid, .moment]

/-- A class of texts that belongs to no family that counts first. -/
def ClassRef.IsText (c : ClassRef) : Prop := .text ∈ c.families ∧ ∀ f ∈ Family.beforeText, f ∉ c.families

theorem ClassRef.deciding?_eq_text_iff : c.deciding? = some .text ↔ c.IsText := by
  have hprecedence : Family.precedence =
      Family.beforeText ++ [.text, .address, .bytes, .model, .mapping, .collection] := rfl
  rw [deciding?, hprecedence, List.find?_append]
  constructor
  · intro h
    cases hbefore : Family.beforeText.find? fun f => c.families.contains f with
    | some f =>
      rw [hbefore, Option.some_or, Option.some.injEq] at h
      rw [h] at hbefore
      exact absurd (List.mem_of_find?_eq_some hbefore) (by decide)
    | none =>
      rw [hbefore, Option.none_or] at h
      have htext := List.find?_some h
      exact ⟨by simpa using htext, fun f hf => by simpa using List.find?_eq_none.mp hbefore f hf⟩
  · rintro ⟨htext, hnot⟩
    have hbefore : (Family.beforeText.find? fun f => c.families.contains f) = none :=
      List.find?_eq_none.mpr fun f hf => by simpa using hnot f hf
    rw [hbefore, Option.none_or, List.find?_cons_of_pos (by simpa using htext)]

/-- The entry refines a text to the token: it is the options of a field, and these give the JSON schema of the field by
members, of which `format` is one of two strings. -/
def Entry.Refines (e : Entry) (t : TypeToken) : Prop :=
  ∃ serial options ms, e = .field serial options ∧ options.extra? = some (.members ms) ∧
    (ms.lookup "format" = some (.str "uuid") ∧ t = .uuid ∨
      ms.lookup "format" = some (.str "date-time") ∧ t = .timestampTz)

theorem Entry.refinement?_eq_some_iff : e.refinement? = some t ↔ e.Refines t := by
  have hformat (format : String) : textFormats.lookup format = some t ↔
      format = "uuid" ∧ t = .uuid ∨ format = "date-time" ∧ t = .timestampTz := by
    constructor
    · intro h
      have hmem := mem_of_lookup h
      simpa [textFormats] using hmem
    · rintro (⟨rfl, rfl⟩ | ⟨rfl, rfl⟩) <;> decide
  constructor
  · intro h
    obtain ⟨format, hentry, hlookup⟩ := Option.bind_eq_some_iff.mp h
    unfold Entry.format? at hentry
    split at hentry
    · rename_i serial options
      split at hentry
      · rename_i ms hextra
        split at hentry
        · rename_i s hs
          cases hentry
          refine ⟨serial, options, ms, rfl, hextra, ?_⟩
          rcases (hformat format).mp hlookup with ⟨rfl, ht⟩ | ⟨rfl, ht⟩
          · exact Or.inl ⟨hs, ht⟩
          · exact Or.inr ⟨hs, ht⟩
        · cases hentry
      · cases hentry
    · cases hentry
  · rintro ⟨serial, options, ms, rfl, hextra, ⟨hs, ht⟩ | ⟨hs, ht⟩⟩
    · exact Option.bind_eq_some_iff.mpr ⟨"uuid", by simp [format?, hextra, hs], (hformat _).mpr (Or.inl ⟨rfl, ht⟩)⟩
    · exact Option.bind_eq_some_iff.mpr
        ⟨"date-time", by simp [format?, hextra, hs], (hformat _).mpr (Or.inr ⟨rfl, ht⟩)⟩

theorem Entry.refinement?_eq_none_iff : e.refinement? = none ↔ ∀ t, ¬ e.Refines t := by
  rw [Option.eq_none_iff_forall_ne_some]
  exact forall_congr' fun t => not_congr refinement?_eq_some_iff

/-- The token of a text inside some metadata: the one that the first refining entry names, and plain text without any. -/
def IsTextToken (entries : List Entry) (t : TypeToken) : Prop :=
  (∃ before e after, entries = before ++ e :: after ∧ (∀ b ∈ before, ∀ u, ¬ b.Refines u) ∧ e.Refines t) ∨
    (∀ e ∈ entries, ∀ u, ¬ e.Refines u) ∧ t = .text

theorem textToken_iff_isTextToken : textToken entries = t ↔ IsTextToken entries t := by
  unfold textToken
  cases hfind : entries.findSome? Entry.refinement? with
  | some u =>
    obtain ⟨before, e, after, rfl, he, hbefore⟩ := List.findSome?_eq_some_iff.mp hfind
    rw [Option.getD_some]
    constructor
    · rintro rfl
      exact Or.inl ⟨before, e, after, rfl, fun b hb => Entry.refinement?_eq_none_iff.mp (hbefore b hb),
        Entry.refinement?_eq_some_iff.mp he⟩
    · rintro (⟨before', e', after', heq, hbefore', he'⟩ | ⟨hnone, -⟩)
      · have hfirst := List.findSome?_eq_some_iff.mpr ⟨before', e', after', heq, Entry.refinement?_eq_some_iff.mpr he',
          fun b hb => Entry.refinement?_eq_none_iff.mpr (hbefore' b hb)⟩
        exact Option.some.inj (hfind.symm.trans hfirst)
      · exact absurd (Entry.refinement?_eq_some_iff.mp he) (hnone e (by simp) u)
  | none =>
    have hnone : ∀ e ∈ entries, ∀ u, ¬ e.Refines u :=
      fun e he => Entry.refinement?_eq_none_iff.mp (List.findSome?_eq_none_iff.mp hfind e he)
    rw [Option.getD_none]
    constructor
    · rintro rfl
      exact Or.inr ⟨hnone, rfl⟩
    · rintro (⟨before, e, after, rfl, -, he⟩ | ⟨-, rfl⟩)
      · exact absurd he (hnone e (by simp) t)
      · rfl

/-- The entry refines a text, and nothing before it does. -/
def Entry.Counts (e : Entry) (before : List Entry) : Prop :=
  (∃ t, e.Refines t) ∧ ∀ b ∈ before, ∀ t, ¬ b.Refines t

theorem textToken_insert (h : ¬ e.Counts before) (after : List Entry) :
    textToken (before ++ e :: after) = textToken (before ++ after) := by
  unfold textToken
  rw [List.findSome?_append, List.findSome?_append, List.findSome?_cons]
  cases hbefore : before.findSome? Entry.refinement? with
  | some u => rw [Option.some_or, Option.some_or]
  | none =>
    cases he : e.refinement? with
    | none => rfl
    | some u =>
      have hnone : ∀ b ∈ before, ∀ t, ¬ b.Refines t :=
        fun b hb => Entry.refinement?_eq_none_iff.mp (List.findSome?_eq_none_iff.mp hbefore b hb)
      exact absurd ⟨⟨u, Entry.refinement?_eq_some_iff.mp he⟩, hnone⟩ h

namespace Annotation

variable {a a' m : Annotation} {ms : List Annotation}

/-! ### Unwrapping -/

/-- Unwrapping the annotation ends at the class, with the entries met on the way. A record model with arguments is a class
itself. -/
inductive Reaches : Annotation → ClassRef → List Entry → Prop where
  | ofClass (c : ClassRef) : Reaches (ofClass c) c []
  | model {spelling : String} {c : ClassRef} {args : List Annotation} (h : c.families.contains .model = true) :
      Reaches (applied spelling c args) c []
  | annotated {core : Annotation} {c : ClassRef} {es : List Entry} (own : List Entry) (h : Reaches core c es) :
      Reaches (annotated core own) c (own ++ es)
  | sole {ms : List Annotation} {m : Annotation} {c : ClassRef} {es : List Entry}
      (hsole : present ms = [m]) (h : Reaches m c es) : Reaches (union ms) c es

/-- Unwrapping the annotation ends at a class of texts. -/
def ReachesText (a : Annotation) : Prop := ∃ c es, a.Reaches c es ∧ c.IsText

theorem Reaches.classify_eq (h : a.Reaches c es) (entries : List Entry) :
    classify a entries = c.token (entries ++ es) := by
  induction h generalizing entries with
  | ofClass c => rw [classify, List.append_nil]
  | model h => rw [classify, ClassRef.appliedToken, if_pos h, List.append_nil]
  | annotated own h ih => rw [classify, ih, List.append_assoc]
  | sole hsole h ih => rw [classify_of_sole hsole, ih]

/-- What ends at no class has a token of its own. -/
theorem reaches_or_constant (a : Annotation) :
    (∃ c es, a.Reaches c es) ∨ ∃ t, ∀ entries, classify a entries = t := by
  induction a using inductionOn with
  | any => exact Or.inr ⟨.jsonb, fun _ => rfl⟩
  | ofClass c => exact Or.inl ⟨c, [], .ofClass c⟩
  | applied spelling origin args =>
    by_cases h : origin.families.contains .model = true
    · exact Or.inl ⟨origin, [], .model h⟩
    · refine Or.inr ⟨origin.appliedToken [], fun entries => ?_⟩
      rw [classify, ClassRef.appliedToken, ClassRef.appliedToken, if_neg h, if_neg h]
  | union ms ih =>
    by_cases h : ∃ m, present ms = [m]
    · obtain ⟨m, hsole⟩ := h
      have hm : m ∈ ms := (mem_present.mp (hsole ▸ List.mem_cons_self)).1
      rcases ih m hm with ⟨c, es, hreach⟩ | ⟨t, ht⟩
      · exact Or.inl ⟨c, es, .sole hsole hreach⟩
      · exact Or.inr ⟨t, fun entries => (classify_of_sole hsole entries).trans (ht entries)⟩
    · exact Or.inr ⟨.unknown, classify_of_not_sole (not_exists.mp h)⟩
  | annotated core own ih =>
    rcases ih with ⟨c, es, hreach⟩ | ⟨t, ht⟩
    · exact Or.inl ⟨c, own ++ es, .annotated own hreach⟩
    · exact Or.inr ⟨t, fun entries => by rw [classify, ht]⟩
  | literal values => exact Or.inr ⟨.enumLike, fun _ => rfl⟩
  | qualified qualifier a => exact Or.inr ⟨.unknown, fun _ => rfl⟩
  | forward name => exact Or.inr ⟨.unknown, fun _ => rfl⟩
  | other label serial => exact Or.inr ⟨.unknown, fun _ => rfl⟩

/-- Only texts have a say for metadata around them. -/
theorem classify_of_not_reachesText (h : ¬ a.ReachesText) (es fs : List Entry) : classify a es = classify a fs := by
  rcases reaches_or_constant a with ⟨c, own, hreach⟩ | ⟨t, ht⟩
  · rw [hreach.classify_eq, hreach.classify_eq, token_eq_iff]
    intro htext
    exact absurd ⟨c, own, hreach, ClassRef.deciding?_eq_text_iff.mp htext⟩ h
  · rw [ht, ht]

theorem Reaches.of_parts (h : m.Reaches c es) (hm : m ≠ absent) : ∃ p, present m.parts = [p] ∧ p.Reaches c es := by
  cases h with
  | sole hsole h => exact ⟨_, hsole, h⟩
  | ofClass c => exact ⟨_, present_cons_of_ne hm [], .ofClass c⟩
  | model h => exact ⟨_, present_cons_of_ne hm [], .model h⟩
  | annotated own h => exact ⟨_, present_cons_of_ne hm [], .annotated own h⟩

theorem Reaches.of_unionOf [StandIns] (h : present (distinct [] (ms.flatMap parts)) = [m]) (hm : m.Reaches c es) :
    (unionOf ms).Reaches c es := by
  rcases unionOf_cases ms with ⟨a, hsole, heq⟩ | heq
  · have ha : a = m := by
      have hmem : m ∈ present [a] := by rw [← hsole, h]; exact List.mem_singleton_self m
      exact (List.mem_singleton.mp (mem_present.mp hmem).1).symm
    rwa [heq, ha]
  · rw [heq]
    exact .sole h hm

/-! ### Entries put in -/

/-- The second annotation is the first one with an entry put among the metadata that unwrapping meets, behind what is
given. A layer of metadata may be there already or not. Without one around it, a member of a union may be taken apart into
its own members. -/
inductive Inserted [StandIns] (e : Entry) : List Entry → Annotation → Annotation → Prop where
  | among (core : Annotation) (before after : List Entry) :
      Inserted e before (annotated core (before ++ after)) (annotated core (before ++ e :: after))
  | around (core : Annotation) : Inserted e [] core (annotated core [e])
  | inside {before : List Entry} {core core' : Annotation} (own : List Entry) (h : Inserted e before core core') :
      Inserted e (own ++ before) (annotated core own) (annotated core' own)
  | sole {before : List Entry} {m m' : Annotation} {left right : List Annotation}
      (hothers : ∀ a ∈ left ++ right, a = absent) (hm : m ≠ absent) (h : Inserted e before m m') :
      Inserted e before (union (left ++ m :: right)) (union (left ++ m' :: right))
  | beside {m : Annotation} {left right : List Annotation} (hothers : ∀ a ∈ left ++ right, a = absent) (flat : m.Flat) :
      Inserted e [] (unionOf (left ++ m :: right)) (union (left ++ annotated m [e] :: right))

theorem Inserted.ne_absent [StandIns] (h : Inserted e before a a') : a' ≠ absent := by
  intro habsent
  cases h <;> cases habsent

/-- With an entry put in, unwrapping ends where it did, and meets that entry behind those that it was put behind. -/
theorem Inserted.reaches_or_constant [StandIns] (h : Inserted e before a a') :
    (∃ c after, a.Reaches c (before ++ after) ∧ a'.Reaches c (before ++ e :: after)) ∨
      ∃ t, ∀ entries, classify a entries = t ∧ classify a' entries = t := by
  induction h with
  | among core before after =>
    rcases core.reaches_or_constant with ⟨c, es, hreach⟩ | ⟨t, ht⟩
    · refine Or.inl ⟨c, after ++ es, ?_, ?_⟩
      · rw [← List.append_assoc]
        exact .annotated _ hreach
      · rw [← List.cons_append, ← List.append_assoc]
        exact .annotated _ hreach
    · exact Or.inr ⟨t, fun entries => ⟨by rw [classify, ht], by rw [classify, ht]⟩⟩
  | around core =>
    rcases core.reaches_or_constant with ⟨c, es, hreach⟩ | ⟨t, ht⟩
    · exact Or.inl ⟨c, es, hreach, .annotated [e] hreach⟩
    · exact Or.inr ⟨t, fun entries => ⟨ht entries, by rw [classify, ht]⟩⟩
  | inside own h ih =>
    rcases ih with ⟨c, after, hreach, hreach'⟩ | ⟨t, ht⟩
    · refine Or.inl ⟨c, after, ?_, ?_⟩
      · rw [List.append_assoc]
        exact .annotated own hreach
      · rw [List.append_assoc]
        exact .annotated own hreach'
    · exact Or.inr ⟨t, fun entries => by rw [classify, classify]; exact ht _⟩
  | sole hothers hm h ih =>
    have hsole := present_beside_absent hothers hm
    have hsole' := present_beside_absent hothers h.ne_absent
    rcases ih with ⟨c, after, hreach, hreach'⟩ | ⟨t, ht⟩
    · exact Or.inl ⟨c, after, .sole hsole hreach, .sole hsole' hreach'⟩
    · exact Or.inr ⟨t, fun entries => by rw [classify_of_sole hsole, classify_of_sole hsole']; exact ht entries⟩
  | @beside m left right hothers flat =>
    have hparts := present_parts_beside_absent hothers flat
    have hsole : present (left ++ annotated m [e] :: right) = [annotated m [e]] :=
      present_beside_absent hothers (Inserted.around m).ne_absent
    have hconstant (t : TypeToken) (ht : ∀ entries, classify m entries = t) (entries : List Entry) :
        classify (unionOf (left ++ m :: right)) entries = t ∧
          classify (union (left ++ annotated m [e] :: right)) entries = t := by
      rw [classify_unionOf, classify_of_present hparts, classify_union_parts, classify_of_sole hsole, classify]
      exact ⟨ht _, ht _⟩
    by_cases hm : m = absent
    · refine Or.inr ⟨.unknown, hconstant .unknown fun entries => ?_⟩
      rw [hm]
      rfl
    · rcases m.reaches_or_constant with ⟨c, es, hreach⟩ | ⟨t, ht⟩
      · obtain ⟨p, hp, hreachp⟩ := hreach.of_parts hm
        exact Or.inl ⟨c, es, .of_unionOf (hparts.trans hp) hreachp, .sole hsole (.annotated [e] hreach)⟩
      · exact Or.inr ⟨t, hconstant t ht⟩

theorem classify_inserted [StandIns]
    (h : Inserted e before a a') (hidle : a.ReachesText → ¬ e.Counts (entries ++ before)) :
    classify a' entries = classify a entries := by
  rcases h.reaches_or_constant with ⟨c, after, hreach, hreach'⟩ | ⟨t, ht⟩
  · rw [hreach.classify_eq, hreach'.classify_eq, token_eq_iff, ← List.append_assoc, ← List.append_assoc]
    intro htext
    exact textToken_insert (hidle ⟨c, _, hreach, ClassRef.deciding?_eq_text_iff.mp htext⟩) after
  · rw [(ht entries).1, (ht entries).2]

theorem classify_insert (hidle : a.ReachesText → ¬ e.Counts before) (after : List Entry) :
    classify a (before ++ e :: after) = classify a (before ++ after) := by
  by_cases h : a.ReachesText
  · obtain ⟨c, es, hreach, -⟩ := h
    rw [hreach.classify_eq, hreach.classify_eq, token_eq_iff, List.append_assoc, List.append_assoc, List.cons_append]
    intro htext
    exact textToken_insert (hidle ⟨c, es, hreach, ClassRef.deciding?_eq_text_iff.mp htext⟩) (after ++ es)
  · exact classify_of_not_reachesText h _ _

/-- If unwrapping an annotation ends at a class of texts, its token is the one that the first refining entry names, of those
around the annotation and then those met on the way. If it does not, all metadata gives the same token. So no entry but
that first one makes a difference, whether it is put among the metadata around the annotation or inside it. -/
theorem classify_by_metadata [StandIns] (a : Annotation) :
    (∀ c es, a.Reaches c es → c.IsText → ∀ entries t, classify a entries = t ↔ IsTextToken (entries ++ es) t) ∧
    (¬ a.ReachesText → ∀ es fs, classify a es = classify a fs) ∧
    (∀ e before after, (a.ReachesText → ¬ e.Counts before) →
      classify a (before ++ e :: after) = classify a (before ++ after)) ∧
    ∀ e before a' entries, Inserted e before a a' → (a.ReachesText → ¬ e.Counts (entries ++ before)) →
      classify a' entries = classify a entries := by
  refine ⟨fun c es hreach htext entries t => ?_, classify_of_not_reachesText, fun e before after hidle => ?_,
    fun e before a' entries h hidle => classify_inserted h hidle⟩
  · have htoken : c.token (entries ++ es) = textToken (entries ++ es) := by
      rw [ClassRef.token, ClassRef.deciding?_eq_text_iff.mpr htext]
      rfl
    rw [hreach.classify_eq, htoken]
    exact textToken_iff_isTextToken
  · exact classify_insert hidle after

theorem refines_formatted_uuid (serial : Nat) : (formatted serial "uuid").Refines .uuid :=
  ⟨serial, _, [("format", .str "uuid")], rfl, rfl, Or.inl ⟨rfl, rfl⟩⟩

/-- A text that a field refines, beside the absent value, and the same with a note put before the field. -/
theorem classify_by_metadata_optional :
    classify (union [annotated (ofClass ⟨"str", 0, [.text, .collection]⟩) [formatted 1 "uuid"], absent]) [] = .uuid ∧
      classify (union [annotated (ofClass ⟨"str", 0, [.text, .collection]⟩) [.note "key", formatted 1 "uuid"], absent]) [] =
        classify (union [annotated (ofClass ⟨"str", 0, [.text, .collection]⟩) [formatted 1 "uuid"], absent]) [] := by
  have hothers : ∀ a ∈ [] ++ [absent], a = absent := by simp
  have hreach : (union [annotated (ofClass ⟨"str", 0, [.text, .collection]⟩) [formatted 1 "uuid"], absent]).Reaches
      ⟨"str", 0, [.text, .collection]⟩ [formatted 1 "uuid"] :=
    .sole (present_beside_absent hothers nofun) (.annotated [formatted 1 "uuid"] (.ofClass _))
  have htext : ClassRef.IsText ⟨"str", 0, [.text, .collection]⟩ := ⟨by decide, by decide⟩
  have hput : Inserted (.note "key") []
      (union [annotated (ofClass ⟨"str", 0, [.text, .collection]⟩) [formatted 1 "uuid"], absent])
      (union [annotated (ofClass ⟨"str", 0, [.text, .collection]⟩) [.note "key", formatted 1 "uuid"], absent]) :=
    .sole hothers nofun (.among _ [] [formatted 1 "uuid"])
  obtain ⟨htoken, -, -, hinserted⟩ := classify_by_metadata
    (union [annotated (ofClass ⟨"str", 0, [.text, .collection]⟩) [formatted 1 "uuid"], absent])
  refine ⟨(htoken _ _ hreach htext [] .uuid).mpr (Or.inl ?_), hinserted _ _ _ [] hput fun _ hcounts => ?_⟩
  · exact ⟨[], formatted 1 "uuid", [], rfl, nofun, refines_formatted_uuid 1⟩
  · obtain ⟨⟨t, serial, options, ms, hfield, -⟩, -⟩ := hcounts
    cases hfield

end Annotation

end SchemaAudit
