import SchemaAudit.Annotation.Catalogue
import SchemaAudit.Annotation.Classify

/-! # Type arguments

A bare class has a token by its families. With type arguments only record models are asked for their families; of the
others a few arrays and objects of the library are known by name, and all else is unknown. So type arguments leave the
token alone for record models, for the classes known by name and for what has no token anyway, and take it from all
others; the one class that gets a token from its arguments is `abc.Iterable` (`classify_withArgs_eq_iff`). Which
arguments these are and which metadata is around never matters. -/

namespace SchemaAudit

variable {c : ClassRef} {entries : List Entry} {name origin : String}

/-! ### Classes -/

namespace ClassRef

/-- A class of the library under its own name, or one that is declared. -/
def IsProper (c : ClassRef) : Prop := c.serial = 0 → Annotation.class? c.name = some c

/-- The library class of all that can be gone through, which belongs to no family. -/
def iterable : ClassRef := ⟨"abc.Iterable", 0, []⟩

/-- The classes whose token is looked for with type arguments, too, and found to be the same: record models, and the
arrays and objects that are known by name. -/
def IsSteady (c : ClassRef) : Prop :=
  c.families.contains .model = true ∨
    c ≠ iterable ∧ (c.isOneOf arrayOrigins = true ∨ c.isOneOf objectOrigins = true)

theorem isOneOf_iff {names : List String} : c.isOneOf names = true ↔ c.serial = 0 ∧ c.name ∈ names := by
  simp [isOneOf]

theorem IsProper.eq_of_isOneOf {names : List String} {d : ClassRef} (hc : c.IsProper) (h : c.isOneOf names = true)
    (hd : Annotation.class? c.name = some d) : c = d := by
  have hown := hc (isOneOf_iff.mp h).1
  exact Option.some.inj (hown.symm.trans hd)

theorem IsProper.token_of_array (hc : c.IsProper) (h : c.isOneOf arrayOrigins = true) (hne : c ≠ iterable) :
    c.token entries = .array := by
  have hknown : ∀ name ∈ arrayOrigins, Annotation.class? name = some iterable ∨
      Annotation.class? name = some ⟨name, 0, [.collection]⟩ := by decide
  rcases hknown c.name (isOneOf_iff.mp h).2 with hname | hname
  · exact absurd (hc.eq_of_isOneOf h hname) hne
  · rw [hc.eq_of_isOneOf h hname]
    rfl

theorem IsProper.token_of_object (hc : c.IsProper) (h : c.isOneOf objectOrigins = true) : c.token entries = .jsonb := by
  have hknown : ∀ name ∈ objectOrigins, Annotation.class? name = some ⟨name, 0, [.mapping]⟩ := by decide
  rw [hc.eq_of_isOneOf h (hknown c.name (isOneOf_iff.mp h).2)]
  rfl

/-- What type arguments do to a class: they leave its token alone, they make `abc.Iterable` an array, or they make it
unknown. -/
theorem IsProper.appliedToken_cases (hc : c.IsProper) (entries : List Entry) :
    (c.IsSteady ∧ c.appliedToken entries = c.token entries) ∨
    (¬ c.IsSteady ∧ c = iterable ∧ c.appliedToken entries = .array ∧ c.token entries = .unknown) ∨
    (¬ c.IsSteady ∧ c ≠ iterable ∧ c.appliedToken entries = .unknown) := by
  unfold appliedToken
  split
  · rename_i hmodel
    exact Or.inl ⟨Or.inl hmodel, rfl⟩
  · rename_i hmodel
    by_cases hne : c = iterable
    · subst hne
      refine Or.inr (Or.inl ⟨?_, rfl, by decide, rfl⟩)
      rintro (h | ⟨h, -⟩)
      · exact hmodel h
      · exact h rfl
    split
    · rename_i harray
      exact Or.inl ⟨Or.inr ⟨hne, Or.inl harray⟩, (hc.token_of_array harray hne).symm⟩
    · rename_i harray
      split
      · rename_i hobject
        exact Or.inl ⟨Or.inr ⟨hne, Or.inr hobject⟩, (hc.token_of_object hobject).symm⟩
      · rename_i hobject
        refine Or.inr (Or.inr ⟨?_, hne, rfl⟩)
        rintro (h | ⟨-, h | h⟩)
        · exact hmodel h
        · exact harray h
        · exact hobject h

end ClassRef

namespace Annotation

/-! ### Names -/

/-- The names that stand for something else than a class or an alias of one. -/
def reserved : List String := ["Any", "typing.Any", "None", "typing.Text", "typing.Optional", "typing.Union"]

/-- Whether a name is that of a class or of an alias of one. -/
def IsKnown (name : String) : Prop := class? name ≠ none ∨ genericAliases.lookup name ≠ none

theorem IsKnown.ne (h : IsKnown name) : ∀ other ∈ reserved, name ≠ other := by
  have hnone : ∀ other ∈ reserved, class? other = none ∧ genericAliases.lookup other = none := by decide
  rintro other hother rfl
  obtain ⟨hclass, halias⟩ := hnone name hother
  rcases h with h | h
  · exact h hclass
  · exact h halias

theorem IsKnown.not_any (h : IsKnown name) : ¬ (name = "Any" || name = "typing.Any") = true := by
  simp [h.ne "Any" (by decide), h.ne "typing.Any" (by decide)]

theorem named_of_class? (h : class? name = some c) : named name = .ofClass c := by
  have hname : IsKnown name := Or.inl (Option.ne_none_iff_exists'.mpr ⟨c, h⟩)
  rw [named, if_neg hname.not_any, if_neg (hname.ne _ (by decide)), if_neg (hname.ne _ (by decide)), h]

theorem named_of_alias (hclass : class? name = none) (h : genericAliases.lookup name = some origin) :
    named name = named.applyTo name origin [] := by
  have hname : IsKnown name := Or.inr (Option.ne_none_iff_exists'.mpr ⟨origin, h⟩)
  rw [named, if_neg hname.not_any, if_neg (hname.ne _ (by decide)), if_neg (hname.ne _ (by decide)), hclass, h]

/-! ### What takes type arguments -/

/-- What takes type arguments: a class or an alias that the library has a name for, or a declared class. -/
inductive Generic where
  | named (name : String)
  | declared (c : ClassRef)

namespace Generic

/-- Whether it stands for a class indeed. The validated types that only put notes around their argument do not. -/
def IsClass : Generic → Prop
  | named name => name ∉ notingTypes ∧ IsKnown name
  | declared c => c.serial ≠ 0

/-- Without type arguments. -/
def bare : Generic → Annotation
  | named name => Annotation.named name
  | declared c => .ofClass c

/-- With type arguments. -/
def withArgs [StandIns] (args : List Annotation) : Generic → Annotation
  | named name => apply name args
  | declared c => .applied c.name c args

/-- The class that it is, unless it is an alias of one. -/
def class? : Generic → Option ClassRef
  | named name => Annotation.class? name
  | declared c => some c

end Generic

variable {g : Generic}

theorem apply_eq [StandIns] (h : (Generic.named name).IsClass) (args : List Annotation) :
    apply name args =
      match named name with
      | .ofClass c => .applied name c args
      | .applied spelling c _ => .applied spelling c args
      | a => a := by
  obtain ⟨hnoting, hname⟩ := h
  rw [apply, if_neg (hname.ne _ (by decide)), if_neg (hname.ne _ (by decide)), if_neg (by simpa using hnoting)]
  cases named name <;> rfl

/-- A class is one of its kind with and without type arguments. -/
theorem classify_of_class? [StandIns]
    (h : g.IsClass) (hc : g.class? = some c) (args : List Annotation) (entries : List Entry) :
    c.IsProper ∧ classify (g.withArgs args) entries = c.appliedToken entries ∧
      classify g.bare entries = c.token entries := by
  cases g with
  | named name =>
    have hnamed : named name = .ofClass c := named_of_class? hc
    refine ⟨fun _ => ?_, ?_, ?_⟩
    · obtain ⟨families, hlookup, rfl⟩ := Option.map_eq_some_iff.mp hc
      exact hc
    · rw [Generic.withArgs, apply_eq h, hnamed]
      rfl
    · rw [Generic.bare, hnamed]
      rfl
  | declared d =>
    cases hc
    exact ⟨fun hzero => absurd hzero h, rfl, rfl⟩

/-- An alias stands for its class with type arguments already, none so far. -/
theorem classify_of_alias [StandIns]
    (h : g.IsClass) (hc : g.class? = none) (args : List Annotation) (entries : List Entry) :
    classify (g.withArgs args) entries = classify g.bare entries := by
  cases g with
  | named name =>
    obtain ⟨origin, horigin⟩ := Option.ne_none_iff_exists'.mp (h.2.resolve_left (not_not_intro hc))
    rw [Generic.withArgs, Generic.bare, apply_eq h, named_of_alias hc horigin, named.applyTo]
    cases Annotation.class? origin <;> rfl
  | declared d => cases hc

/-- Type arguments leave the token of an alias alone, and of a class exactly if it is a record model or known by name, or
if it has no token without them and is not `abc.Iterable`. That one is an array with arguments; every other class that
does not keep its token is unknown with them. -/
theorem classify_withArgs_eq_iff [StandIns] (h : g.IsClass) (args : List Annotation) (entries : List Entry) :
    (classify (g.withArgs args) entries = classify g.bare entries ↔
      ∀ c, g.class? = some c → c.IsSteady ∨ (c ≠ .iterable ∧ c.token entries = .unknown)) ∧
    (classify (g.withArgs args) entries ≠ classify g.bare entries →
      g.class? = some .iterable ∧ classify (g.withArgs args) entries = .array ∨
        classify (g.withArgs args) entries = .unknown) := by
  cases hc : g.class? with
  | none =>
    have hsame := classify_of_alias h hc args entries
    exact ⟨⟨fun _ => nofun, fun _ => hsame⟩, fun hne => absurd hsame hne⟩
  | some c =>
    obtain ⟨hproper, hargs, hbare⟩ := classify_of_class? h hc args entries
    rw [hargs, hbare]
    simp only [Option.some.injEq, forall_eq']
    rcases hproper.appliedToken_cases entries with
      ⟨hsteady, heq⟩ | ⟨hnot, hiter, harray, hunknown⟩ | ⟨hnot, hne, hunknown⟩
    · exact ⟨⟨fun _ => Or.inl hsteady, fun _ => heq⟩, fun hne => absurd heq hne⟩
    · rw [harray, hunknown]
      exact ⟨⟨nofun, fun hkeeps => (hkeeps.resolve_left hnot).1.elim hiter⟩, fun _ => Or.inl ⟨hiter, rfl⟩⟩
    · rw [hunknown]
      refine ⟨⟨fun heq => Or.inr ⟨hne, heq.symm⟩, fun hkeeps => ?_⟩, fun _ => Or.inr rfl⟩
      exact (hkeeps.resolve_left hnot).2.symm

/-- A dictionary keeps its token with the types of its keys and values, one that is ordered does not. -/
theorem classify_withArgs_ordered :
    classify ((Generic.named "dict").withArgs [named "str", named "int"]) [] =
      classify (Generic.named "dict").bare [] ∧
    classify ((Generic.named "OrderedDict").withArgs [named "str", named "int"]) [] ≠
      classify (Generic.named "OrderedDict").bare [] := by
  have hdict : (Generic.named "dict").IsClass := ⟨by decide, Or.inl (by decide)⟩
  have hordered : (Generic.named "OrderedDict").IsClass := ⟨by decide, Or.inl (by decide)⟩
  constructor
  · refine (classify_withArgs_eq_iff hdict _ _).1.mpr fun c hc => Or.inl (Or.inr ?_)
    cases hc
    exact ⟨by decide, Or.inr (by decide)⟩
  · intro heq
    rcases (classify_withArgs_eq_iff hordered _ _).1.mp heq ⟨"OrderedDict", 0, [.mapping]⟩ (by decide) with
      (hmodel | ⟨-, harray | hobject⟩) | ⟨-, hunknown⟩
    · cases hmodel
    · revert harray
      decide
    · revert hobject
      decide
    · revert hunknown
      decide

end Annotation

end SchemaAudit
