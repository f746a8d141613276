import SchemaAudit.Annotation.Classify
import SchemaAudit.Proofs.Lookup

/-! # Annotations in wrappers

An annotation may stand in any number of wrappers: beside the absent value, or inside metadata. The absent value beside
it never changes a token by itself (`classify_optional`), but it divides metadata into layers that would otherwise be
one. Inside a layer the inner metadata is met first, and of the layers the outermost (`classify_wrap`). So without the
absent value between its layers an annotation has the same token exactly if they refine a text to the same token from
without and from within (`classify_wrap_eq_iff`). -/

namespace SchemaAudit

variable {a : Annotation} {c : ClassRef}

namespace Annotation

/-! ### Unions -/

/-- An annotation whose parts are no unions and stand in it once each, as all that are built do. -/
structure Flat [StandIns] (a : Annotation) : Prop where
  distinct_parts : distinct [] a.parts = a.parts
  parts_of_mem : ∀ b ∈ a.parts, b.parts = [b]

theorem distinct_distinct [StandIns] (seen as : List Annotation) :
    distinct seen (distinct seen as) = distinct seen as := by
  induction as generalizing seen with
  | nil => rfl
  | cons a as ih =>
    rw [distinct]
    split
    · exact ih seen
    · rename_i hnew
      rw [distinct, if_neg hnew, ih]

theorem mem_of_mem_distinct [StandIns] {seen as : List Annotation} (h : a ∈ distinct seen as) : a ∈ as := by
  induction as generalizing seen with
  | nil => cases h
  | cons b as ih =>
    rw [distinct] at h
    split at h
    · exact List.mem_cons_of_mem b (ih h)
    · rcases List.mem_cons.mp h with rfl | h
      · exact List.mem_cons_self
      · exact List.mem_cons_of_mem b (ih h)

theorem distinct_cons [StandIns] (a : Annotation) (as : List Annotation) :
    distinct [] (a :: as) = a :: distinct [a] as := by
  simp [distinct, isIn]

theorem flat_of_parts [StandIns] (h : a.parts = [a]) : a.Flat where
  distinct_parts := by
    rw [h, distinct_cons]
    rfl
  parts_of_mem b hb := by
    rw [h, List.mem_singleton] at hb
    rw [hb, h]

theorem parts_beside_absent (a : Annotation) : [a, absent].flatMap parts = a.parts ++ [absent] := by
  simp [parts, absent]

theorem unionOf_cases [StandIns] (ms : List Annotation) :
    (∃ a, distinct [] (ms.flatMap parts) = [a] ∧ unionOf ms = a) ∨
      unionOf ms = union (distinct [] (ms.flatMap parts)) := by
  unfold unionOf
  split
  · rename_i a h
    exact Or.inl ⟨a, h, rfl⟩
  · exact Or.inr rfl

theorem flat_unionOf [StandIns] {ms : List Annotation} (h : ∀ m ∈ ms, m.Flat) : (unionOf ms).Flat := by
  have hparts : ∀ b ∈ distinct [] (ms.flatMap parts), b.parts = [b] := by
    intro b hb
    obtain ⟨m, hm, hb⟩ := List.mem_flatMap.mp (mem_of_mem_distinct hb)
    exact (h m hm).parts_of_mem b hb
  rcases unionOf_cases ms with ⟨a, hsole, heq⟩ | heq
  · rw [heq]
    exact flat_of_parts (hparts a (hsole ▸ List.mem_cons_self))
  · rw [heq]
    exact ⟨distinct_distinct [] _, hparts⟩

theorem flat_absent [StandIns] : absent.Flat := flat_of_parts rfl

theorem Flat.optional [StandIns] (h : a.Flat) : a.optional.Flat := by
  refine flat_unionOf fun m hm => ?_
  rcases List.mem_cons.mp hm with rfl | hm
  · exact h
  · rw [List.mem_singleton.mp hm]
    exact flat_absent

theorem flat_annotate [StandIns] (a : Annotation) (es : List Entry) : (a.annotate es).Flat := by
  cases a <;> exact flat_of_parts rfl

/-! ### The token of a union with the absent value -/

theorem isAbsent_iff : a.isAbsent = true ↔ a = absent := by
  cases a <;> simp [isAbsent, absent]

/-- A sole member of a union has the token of the union. -/
theorem classify_union_singleton (a : Annotation) (entries : List Entry) :
    classify (union [a]) entries = classify a entries := by
  rw [classify, memberTokens, memberTokens]
  cases h : a.isAbsent with
  | true =>
    rw [isAbsent_iff.mp h]
    rfl
  | false => rfl

theorem classify_union_parts (a : Annotation) (entries : List Entry) :
    classify (union a.parts) entries = classify a entries := by
  cases a with
  | union ms => rfl
  | _ => exact classify_union_singleton _ entries

theorem classify_unionOf [StandIns] (ms : List Annotation) (entries : List Entry) :
    classify (unionOf ms) entries = classify (union (distinct [] (ms.flatMap parts))) entries := by
  rcases unionOf_cases ms with ⟨a, hsole, heq⟩ | heq
  · rw [heq, hsole, classify_union_singleton]
  · rw [heq]

/-- The absent value contributes no token to a union, whether it stands in it already or not. -/
theorem memberTokens_distinct_absent [StandIns] (seen as : List Annotation) (entries : List Entry) :
    memberTokens (distinct seen (as ++ [absent])) entries = memberTokens (distinct seen as) entries := by
  induction as generalizing seen with
  | nil =>
    rw [List.nil_append, distinct, distinct]
    split <;> rfl
  | cons a as ih =>
    rw [List.cons_append, distinct, distinct]
    split
    · exact ih seen
    · rw [memberTokens, memberTokens, ih]

/-- The absent value beside an annotation does not change its token. -/
theorem classify_optional [StandIns] (h : a.Flat) (entries : List Entry) :
    classify a.optional entries = classify a entries := by
  calc classify a.optional entries
      = classify (union (distinct [] (a.parts ++ [absent]))) entries := by
        rw [← parts_beside_absent]
        exact classify_unionOf [a, absent] entries
    _ = classify (union a.parts) entries := by
        rw [classify, classify, memberTokens_distinct_absent, h.distinct_parts]
    _ = classify a entries := classify_union_parts a entries

/-! ### Metadata -/

/-- An annotation without the metadata around it. -/
def core : Annotation → Annotation
  | annotated core _ => core
  | a => a

/-- The metadata around an annotation. -/
def own : Annotation → List Entry
  | annotated _ es => es
  | _ => []

theorem core_annotate (a : Annotation) (es : List Entry) : (a.annotate es).core = a.core := by
  cases a <;> rfl

theorem own_annotate (a : Annotation) (es : List Entry) : (a.annotate es).own = a.own ++ es := by
  cases a <;> rfl

theorem classify_eq_core (a : Annotation) (entries : List Entry) :
    classify a entries = classify a.core (entries ++ a.own) := by
  cases a with
  | annotated core es => rw [classify, Annotation.core, own]
  | _ => exact congrArg (classify _) (List.append_nil entries).symm

theorem same_absent_iff [StandIns] : same absent a = true ↔ a = absent := by
  cases a <;> simp [same, absent, eq_comm]

theorem isIn_of_distinct_eq_nil [StandIns] {seen as : List Annotation} (h : distinct seen (as ++ [absent]) = []) :
    isIn absent seen = true := by
  induction as generalizing seen with
  | nil =>
    cases hin : isIn absent seen with
    | true => rfl
    | false =>
      rw [List.nil_append, distinct, if_neg (by simp [hin])] at h
      cases h
  | cons a as ih =>
    rw [List.cons_append, distinct] at h
    split at h
    · exact ih h
    · cases h

/-- With the absent value beside it an annotation is a union, unless it is that value. -/
theorem optional_cases [StandIns] (a : Annotation) : a.optional = absent ∨ ∃ ms, a.optional = union ms := by
  rcases unionOf_cases [a, absent] with ⟨b, hsole, heq⟩ | heq
  · refine Or.inl (heq.trans ?_)
    rw [parts_beside_absent] at hsole
    cases hms : a.parts with
    | nil =>
      rw [hms, List.nil_append, distinct_cons] at hsole
      cases hsole
      rfl
    | cons m ms =>
      -- Only if the first part is the absent value does adding that value leave one part.
      rw [hms, List.cons_append, distinct_cons, List.cons.injEq] at hsole
      obtain ⟨rfl, hrest⟩ := hsole
      have hin := isIn_of_distinct_eq_nil hrest
      simpa [isIn, same_absent_iff] using hin
  · exact Or.inr ⟨_, heq⟩

theorem own_optional [StandIns] (a : Annotation) : a.optional.own = [] := by
  rcases optional_cases a with h | ⟨ms, h⟩ <;> rw [h] <;> rfl

theorem core_optional [StandIns] (a : Annotation) : a.optional.core = a.optional := by
  rcases optional_cases a with h | ⟨ms, h⟩ <;> rw [h] <;> rfl

/-! ### Wrappers -/

/-- What an annotation is wrapped in: the absent value beside it, or metadata around it. -/
inductive Wrapper where
  | optional
  | annotated (entries : List Entry)

/-- Whether a wrapper holds metadata. -/
def Wrapper.isAnnotated : Wrapper → Bool
  | optional => false
  | annotated _ => true

/-- An annotation in some wrappers, the outermost first. -/
def wrap [StandIns] : List Wrapper → Annotation → Annotation
  | [], a => a
  | .optional :: ws, a => (wrap ws a).optional
  | .annotated es :: ws, a => (wrap ws a).annotate es

/-- The metadata of some wrappers in layers, the outermost first. The absent value starts a new layer; metadata right
around a layer is added to it, behind what it has. -/
def layers : List Wrapper → List (List Entry)
  | [] => [[]]
  | .optional :: ws => [] :: layers ws
  | .annotated es :: ws => (layers ws).modifyHead (· ++ es)

theorem flat_wrap [StandIns] (ws : List Wrapper) (c : ClassRef) : (wrap ws (ofClass c)).Flat := by
  induction ws with
  | nil => exact flat_of_parts rfl
  | cons w ws ih =>
    cases w with
    | optional => exact ih.optional
    | annotated es => exact flat_annotate _ es

/-- The metadata around an annotation in wrappers is the outermost layer, and the others are inside. -/
theorem wrap_layers [StandIns] (ws : List Wrapper) (c : ClassRef) : ∃ outer inner, layers ws = outer :: inner ∧
    (wrap ws (ofClass c)).own = outer ∧
    ∀ entries, classify (wrap ws (ofClass c)).core entries = c.token (entries ++ inner.flatten) := by
  induction ws with
  | nil =>
    refine ⟨[], [], rfl, rfl, fun entries => ?_⟩
    rw [List.flatten_nil, List.append_nil]
    rfl
  | cons w ws ih =>
    obtain ⟨outer, inner, hlayers, hown, htoken⟩ := ih
    cases w with
    | optional =>
      refine ⟨[], outer :: inner, by rw [layers, hlayers], own_optional _, fun entries => ?_⟩
      rw [wrap, core_optional, classify_optional (flat_wrap ws c), classify_eq_core, hown, htoken, List.flatten_cons,
        List.append_assoc]
    | annotated es =>
      refine ⟨outer ++ es, inner, by rw [layers, hlayers, List.modifyHead_cons], ?_, fun entries => ?_⟩
      · rw [wrap, own_annotate, hown]
      · rw [wrap, core_annotate, htoken]

/-- A class in wrappers has its token inside the metadata around all of it and then the layers of the wrappers, the
outermost first. -/
theorem classify_wrap [StandIns] (ws : List Wrapper) (c : ClassRef) (entries : List Entry) :
    classify (wrap ws (ofClass c)) entries = c.token (entries ++ (layers ws).flatten) := by
  obtain ⟨outer, inner, hlayers, hown, htoken⟩ := wrap_layers ws c
  rw [classify_eq_core, hown, htoken, hlayers, List.flatten_cons, List.append_assoc]

/-- Without the absent value there is one layer, with the innermost metadata first. -/
theorem layers_filter_isAnnotated (ws : List Wrapper) :
    layers (ws.filter Wrapper.isAnnotated) = [(layers ws).reverse.flatten] := by
  induction ws with
  | nil => rfl
  | cons w ws ih =>
    cases w with
    | optional =>
      rw [List.filter_cons_of_neg (by simp [Wrapper.isAnnotated]), ih]
      simp [layers]
    | annotated es =>
      obtain ⟨outer, inner, hlayers, -⟩ := wrap_layers ws .absent
      rw [List.filter_cons_of_pos rfl, layers, ih, layers, hlayers]
      simp

/-! ### Refined texts -/

/-- The token that a list of metadata refines a text to. -/
def refinement? (entries : List Entry) : Option TypeToken := entries.findSome? Entry.refinement?

theorem refinement?_append (es fs : List Entry) : refinement? (es ++ fs) = (refinement? es).or (refinement? fs) :=
  List.findSome?_append

theorem refinement?_flatten (ls : List (List Entry)) : refinement? ls.flatten = ls.findSome? refinement? := by
  induction ls with
  | nil => rfl
  | cons es ls ih =>
    rw [List.flatten_cons, refinement?_append, ih, List.findSome?_cons]
    cases refinement? es <;> rfl

theorem refinement?_ne_text (entries : List Entry) : refinement? entries ≠ some .text := by
  intro h
  obtain ⟨e, -, he⟩ := List.exists_of_findSome?_eq_some h
  obtain ⟨format, -, hformat⟩ := Option.bind_eq_some_iff.mp he
  have hrefined : ∀ known ∈ textFormats, known.2 ≠ .text := by decide
  exact hrefined _ (mem_of_lookup hformat) rfl

theorem getD_inj {α : Type} {x y : Option α} {d : α} (hx : x ≠ some d) (hy : y ≠ some d) :
    x.getD d = y.getD d ↔ x = y := by
  cases x with
  | none => cases y <;> simp_all [eq_comm]
  | some a => cases y <;> simp_all

theorem textToken_eq_iff {es fs : List Entry} : textToken es = textToken fs ↔ refinement? es = refinement? fs :=
  getD_inj (refinement?_ne_text es) (refinement?_ne_text fs)

/-- Metadata counts for texts alone. -/
theorem token_eq_iff {es fs : List Entry} :
    c.token es = c.token fs ↔ (c.deciding? = some .text → textToken es = textToken fs) := by
  unfold ClassRef.token
  cases c.deciding? with
  | none => simp
  | some f => cases f <;> simp [Family.token]

/-- The absent value inside an annotation does not matter for its token, unless the class is a text that the metadata
around the annotation does not refine, and of its layers the outermost one that refines a text and the innermost one
refine it differently. -/
theorem classify_wrap_eq_iff [StandIns] (ws : List Wrapper) (c : ClassRef) (entries : List Entry) :
    classify (wrap ws (ofClass c)) entries = classify (wrap (ws.filter Wrapper.isAnnotated) (ofClass c)) entries ↔
      (c.deciding? = some .text → refinement? entries = none →
        (layers ws).findSome? refinement? = (layers ws).reverse.findSome? refinement?) := by
  rw [classify_wrap, classify_wrap, layers_filter_isAnnotated, List.flatten_singleton, token_eq_iff]
  refine imp_congr_right fun _ => ?_
  rw [textToken_eq_iff, refinement?_append, refinement?_append, refinement?_flatten, refinement?_flatten]
  cases refinement? entries with
  | none => simp
  | some t => simp

/-- The options of a field that names a format. -/
def formatted (serial : Nat) (format : String) : Entry :=
  .field serial { FieldOptions.none with extra? := some (.members [("format", .str format)]) }

/-- A text with the same format within and without and another one between them. -/
theorem classify_wrap_enclosed :
    classify (wrap [.annotated [formatted 1 "uuid"], .optional, .annotated [formatted 2 "date-time"], .optional,
        .annotated [formatted 3 "uuid"]] (ofClass ⟨"str", 0, [.text, .collection]⟩)) [] =
      classify (wrap ([.annotated [formatted 1 "uuid"], .optional, .annotated [formatted 2 "date-time"], .optional,
        .annotated [formatted 3 "uuid"]].filter Wrapper.isAnnotated) (ofClass ⟨"str", 0, [.text, .collection]⟩)) [] :=
  (classify_wrap_eq_iff _ _ _).mpr fun _ _ => by decide

/-- A text that is refined differently within and without, with the absent value in between and without it. -/
theorem classify_wrap_reordered :
    classify (wrap [.annotated [formatted 1 "date-time"], .optional, .annotated [formatted 2 "uuid"]]
        (ofClass ⟨"str", 0, [.text, .collection]⟩)) [] = .timestampTz ∧
      classify (wrap ([.annotated [formatted 1 "date-time"], .optional, .annotated [formatted 2 "uuid"]].filter
        Wrapper.isAnnotated) (ofClass ⟨"str", 0, [.text, .collection]⟩)) [] ≠ .timestampTz := by
  rw [classify_wrap, classify_wrap]
  decide

end Annotation

end SchemaAudit
