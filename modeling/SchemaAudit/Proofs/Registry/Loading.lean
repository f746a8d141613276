import SchemaAudit.CommandLine.Run
import SchemaAudit.Proofs.Lookup
import SchemaAudit.Proofs.Text.Blank

/-! # Loading registries

An import path names a module and what it holds (`Names`), or it is malformed. What it names is loaded exactly if it is
a mapping of record models (`load_eq_ok_iff`); all else is a matter of configuration, but for a module's name that starts
with a dot, which is relative to nothing (`load_eq_relative_iff`). That failure is one that no command expects, so the
run ends with it, where all the others are recorded (`load_ends`). -/

namespace SchemaAudit

variable {l : Library} {path name wanted table : String} {r : Registry} {a : Attribute} {f : ImportFault}

/-! ### Paths -/

/-- The two parts of an import path, around its first colon: the name of a module, and that of what it is to hold.
Neither is empty. -/
structure Names (path name wanted : String) : Prop where
  split : path.toList = name.toList ++ ':' :: wanted.toList
  first_colon : ':' ∉ name.toList
  name_ne_empty : name ≠ ""
  wanted_ne_empty : wanted ≠ ""

/-- A path to a module that is relative to nothing. -/
def Relative (path : String) : Prop := ∃ name wanted, Names path name wanted ∧ name.toList.head? = some '.'

theorem Names.cut (h : Names path name wanted) :
    Text.cutAtChar ':' path.toList = some (name.toList, wanted.toList) :=
  Text.cutAtChar_eq_some_iff.mpr ⟨h.first_colon, h.split⟩

theorem Relative.head (h : Relative path) : path.toList.head? = some '.' := by
  obtain ⟨name, wanted, hnames, hdot⟩ := h
  rw [hnames.split, List.head?_append, hdot, Option.some_or]

/-! ### What a module holds -/

/-- A mapping of record models: a registry that registers nothing else, or a mapping of nothing. -/
inductive Attribute.Maps : Attribute → Registry → Prop
  | registry {r : Registry} (models : ∀ e ∈ r.entries, ∃ m, e.2 = .model m) : Maps (.registry r) r
  | nothing : Maps (.value (.obj [])) ⟨[]⟩

theorem Attribute.Maps.models (h : a.Maps r) : ∀ e ∈ r.entries, ∃ m, e.2 = .model m := by
  cases h with
  | registry models => exact models
  | nothing => exact nofun

/-- What comes of an attribute as a registry. -/
def Attribute.taken (path : String) : Attribute → Except ImportFault Registry
  | .registry r =>
    match Library.firstStray? r with
    | some table => .error (.notModel table)
    | none => .ok r
  | .value (.obj []) => .ok ⟨[]⟩
  | .value (.obj ((table, _) :: _)) => .error (.notModel table)
  | .value _ => .error (.notMapping path)

theorem Library.firstStray?_eq_none_iff :
    Library.firstStray? r = none ↔ ∀ e ∈ r.entries, ∃ m, e.2 = .model m := by
  simp only [firstStray?, Option.map_eq_none_iff, List.find?_eq_none]
  refine forall₂_congr fun e _ => ?_
  cases e.2 with
  | model m => simp
  | nothing => simp
  | stray description => simp

theorem Attribute.taken_eq_ok_iff : a.taken path = .ok r ↔ a.Maps r := by
  constructor
  · intro h
    cases a with
    | registry own =>
      rw [taken] at h
      split at h
      · cases h
      · rename_i hstray
        cases h
        exact .registry (Library.firstStray?_eq_none_iff.mp hstray)
    | value j =>
      unfold taken at h
      split at h
      · rename_i heq
        cases heq
      · rename_i heq
        cases heq
        cases h
        exact .nothing
      · cases h
      · cases h
  · intro h
    cases h with
    | registry models => rw [taken, Library.firstStray?_eq_none_iff.mpr models]
    | nothing => rfl

theorem Attribute.taken_ne_relative : a.taken path ≠ .error (.relative name) := by
  unfold taken
  split
  · split
    · simp
    · simp
  · simp
  · simp
  · simp

namespace Library

/-- What a module of the library holds under a name: something of its own, or else one of the mappings that modules
have besides. -/
def Holds (l : Library) (name wanted : String) (a : Attribute) : Prop :=
  ∃ m, l.modules.lookup name = some m ∧ m.get? wanted = some a

/-- A path under which the library has a mapping of record models. -/
def Offers (l : Library) (path : String) (r : Registry) : Prop :=
  ∃ name wanted a, Names path name wanted ∧ name.toList.head? ≠ some '.' ∧ l.Holds name wanted a ∧ a.Maps r

/-! ### Loading -/

theorem load_of_malformed (h : ∀ name wanted, ¬ Names path name wanted) : l.load path = .error (.malformed path) := by
  unfold load
  split
  · rfl
  · rename_i before after hcut
    obtain ⟨hbefore, hsplit⟩ := Text.cutAtChar_eq_some_iff.mp hcut
    dsimp only
    split
    · rfl
    · rename_i hparts
      simp only [Bool.or_eq_true, List.isEmpty_iff, not_or] at hparts
      refine absurd ⟨?_, ?_, ?_, ?_⟩ (h (String.ofList before) (String.ofList after))
      · rw [String.toList_ofList, String.toList_ofList, hsplit]
      · rwa [String.toList_ofList]
      · exact mt String.ofList_eq_empty_iff.mp hparts.1
      · exact mt String.ofList_eq_empty_iff.mp hparts.2

/-- What a well-formed path comes to depends on the module alone. -/
theorem load_of_names (h : Names path name wanted) : l.load path = (l.imported name).bind fun m =>
    match m.get? wanted with
    | some a => a.taken path
    | none =>
      if m.origin.attributes.contains wanted then .error (.notMapping path)
      else .error (.noAttribute name wanted) := by
  have hparts : (name.toList.isEmpty || wanted.toList.isEmpty) = false := by
    simp [h.name_ne_empty, h.wanted_ne_empty]
  unfold load
  rw [h.cut]
  dsimp only
  rw [hparts, if_neg Bool.false_ne_true, String.ofList_toList, String.ofList_toList]
  cases l.imported name with
  | error fault => rfl
  | ok m =>
    simp only [bind, Except.bind]
    cases m.get? wanted with
    | none => rfl
    | some a =>
      cases a with
      | registry r =>
        unfold Attribute.taken
        dsimp only
        cases firstStray? r <;> rfl
      | value j =>
        cases j with
        | obj members => cases members <;> rfl
        | _ => rfl

theorem imported_of_dot (h : name.toList.head? = some '.') : l.imported name = .error (.relative name) := by
  rw [imported, if_pos h]

theorem imported_eq_ok_iff {m : Module} :
    l.imported name = .ok m ↔ name.toList.head? ≠ some '.' ∧ l.modules.lookup name = some m := by
  unfold imported
  split
  · rename_i hdot
    simp [hdot]
  · rename_i hdot
    cases l.modules.lookup name <;> simp [hdot]

/-- A path is loaded exactly if the library has a mapping of record models under it. -/
theorem load_eq_ok_iff : l.load path = .ok r ↔ l.Offers path r := by
  constructor
  · intro h
    by_cases hnames : ∃ name wanted, Names path name wanted
    · obtain ⟨name, wanted, hnames⟩ := hnames
      rw [load_of_names hnames] at h
      cases himported : l.imported name with
      | error fault =>
        rw [himported] at h
        cases h
      | ok m =>
        obtain ⟨hdot, hlookup⟩ := imported_eq_ok_iff.mp himported
        rw [himported, Except.bind] at h
        split at h
        · rename_i a ha
          exact ⟨name, wanted, a, hnames, hdot, ⟨m, hlookup, ha⟩, Attribute.taken_eq_ok_iff.mp h⟩
        · split at h
          · cases h
          · cases h
    · rw [load_of_malformed fun name wanted hn => hnames ⟨name, wanted, hn⟩] at h
      cases h
  · rintro ⟨name, wanted, a, hnames, hdot, ⟨m, hlookup, ha⟩, hmaps⟩
    rw [load_of_names hnames, imported_eq_ok_iff.mpr ⟨hdot, hlookup⟩, Except.bind, ha]
    exact Attribute.taken_eq_ok_iff.mpr hmaps

/-- Only a module's name that starts with a dot is relative to nothing. -/
theorem load_eq_relative_iff : l.load path = .error (.relative name) ↔
    (∃ wanted, Names path name wanted) ∧ name.toList.head? = some '.' := by
  constructor
  · intro h
    by_cases hnames : ∃ name wanted, Names path name wanted
    · obtain ⟨own, wanted, hnames⟩ := hnames
      rw [load_of_names hnames] at h
      by_cases hdot : own.toList.head? = some '.'
      · rw [imported_of_dot hdot] at h
        cases h
        exact ⟨⟨wanted, hnames⟩, hdot⟩
      · exfalso
        rw [imported, if_neg hdot] at h
        split at h
        · rw [Except.bind] at h
          split at h
          · exact Attribute.taken_ne_relative h
          · split at h
            · cases h
            · cases h
        · cases h
    · rw [load_of_malformed fun name wanted hn => hnames ⟨name, wanted, hn⟩] at h
      cases h
  · rintro ⟨⟨wanted, hnames⟩, hdot⟩
    rw [load_of_names hnames, imported_of_dot hdot]
    rfl

/-- What is told of a path that is not loaded is a matter of configuration, unless the path is relative. -/
theorem failure_of_load [StandIns] (h : l.load path = .error f) :
    (¬ Relative path ∧ f.failure = ⟨.configuration, f.message⟩) ∨
    (Relative path ∧ f.failure = .unexpected "TypeError" f.message) := by
  -- The fault of a path is one alone, so no relative path has another one.
  have absolute (hf : ∀ name, f ≠ .relative name) : ¬ Relative path := by
    rintro ⟨name, wanted, hnames, hdot⟩
    have hrelative : l.load path = .error (.relative name) := load_eq_relative_iff.mpr ⟨⟨wanted, hnames⟩, hdot⟩
    cases h.symm.trans hrelative
    exact hf name rfl
  cases f with
  | relative name =>
    obtain ⟨⟨wanted, hnames⟩, hdot⟩ := load_eq_relative_iff.mp h
    exact .inr ⟨⟨name, wanted, hnames, hdot⟩, rfl⟩
  | malformed | noModule | noAttribute | notMapping | notModel => exact .inl ⟨absolute nofun, rfl⟩

end Library

/-! ### Orders -/

open CommandLine CommandLine.Session

/-- An order for a registry that cannot be loaded has no sides, and no note is taken of it. -/
theorem CommandLine.Session.sides_of_refused [StandIns]
    {se : Session} {o : AuditOrder} (hcontracts : o.contracts = .registry)
    (hpath : firstWord o.registry se.settings.registry = some path) (hload : se.around.library.load path = .error f) :
    se.sides o = ⟨[], .error f.failure⟩ := by
  have hsource (m : Manifests) : se.contractSource o m = ⟨[], .error f.failure⟩ := by
    rw [contractSource, hcontracts]
    dsimp only
    rw [hpath]
    dsimp only
    rw [hload]
    rfl
  unfold sides
  rw [if_neg (by simp [hcontracts])]
  dsimp only
  rw [hsource]
  rfl

/-- How the loading of a registry ends, for every library and path, and what becomes of an order for it. A mapping of
record models is loaded, and nothing else. All else is told as a matter of configuration and recorded by the order, unless
the path is relative: then the run ends with a failure that no command expects, and nothing is written. -/
theorem Library.load_ends [StandIns] (l : Library) (path : String) :
    ((∃ r, l.load path = .ok r ∧ l.Offers path r ∧ ∀ e ∈ r.entries, ∃ m, e.2 = .model m) ∨
      ∃ f, l.load path = .error f ∧ (∀ r, ¬ l.Offers path r) ∧
        ((¬ Relative path ∧ f.failure = ⟨.configuration, f.message⟩) ∨
          (Relative path ∧ f.failure = .unexpected "TypeError" f.message))) ∧
    ∀ (se : Session) (o : AuditOrder) (f : ImportFault), se.around.library = l → o.contracts = .registry →
      firstWord o.registry se.settings.registry = some path → l.load path = .error f →
        (¬ Relative path → se.audit o = se.afterWriting [] "Run failure report"
          ((se.artifacts o.reportDir).writeRunFailure se.around.store f.message (targets o)) 1
          fun _ => .ofFailure f.message) ∧
        (Relative path → se.audit o = ⟨.failed f.failure, "", [], [], se.around.store⟩) := by
  constructor
  · cases hload : l.load path with
    | ok r =>
      obtain ⟨_, _, _, _, _, _, hmaps⟩ := load_eq_ok_iff.mp hload
      exact .inl ⟨r, rfl, load_eq_ok_iff.mp hload, hmaps.models⟩
    | error f =>
      refine .inr ⟨f, rfl, fun r hoffers => ?_, failure_of_load hload⟩
      cases hload.symm.trans (load_eq_ok_iff.mpr hoffers)
  · rintro se o f rfl hcontracts hpath hload
    have hsides := sides_of_refused hcontracts hpath hload
    unfold Session.audit
    rw [hsides]
    dsimp only
    rcases failure_of_load hload with ⟨habsolute, hfailure⟩ | ⟨hrelative, hfailure⟩
    · rw [hfailure]
      exact ⟨fun _ => rfl, fun hrelative => absurd hrelative habsolute⟩
    · rw [hfailure]
      exact ⟨fun habsolute => absurd hrelative habsolute, fun _ => rfl⟩

/-- A path with a dot before the module's name, and the same path without it. -/
theorem Library.load_ends_behind_dot : Relative ".app:R" ∧
    (Library.mk [("app", ⟨.file, [("R", .registry ⟨[]⟩)]⟩)]).load ".app:R" = .error (.relative ".app") ∧
    (ImportFault.relative ".app").failure = .unexpected "TypeError" (ImportFault.relative ".app").message ∧
    ∃ r, (Library.mk [("app", ⟨.file, [("R", .registry ⟨[]⟩)]⟩)]).load "app:R" = .ok r := by
  have hdotted : Names ".app:R" ".app" "R" := ⟨rfl, by decide, by decide, by decide⟩
  have hrelative : Relative ".app:R" := ⟨".app", "R", hdotted, rfl⟩
  have hload : (Library.mk [("app", ⟨.file, [("R", .registry ⟨[]⟩)]⟩)]).load ".app:R" = .error (.relative ".app") := by rfl
  have happ : (Library.mk [("app", ⟨.file, [("R", .registry ⟨[]⟩)]⟩)]).Offers "app:R" ⟨[]⟩ :=
    ⟨"app", "R", .registry ⟨[]⟩, ⟨rfl, by decide, by decide, by decide⟩, by decide, ⟨_, rfl, rfl⟩, .registry nofun⟩
  refine ⟨hrelative, hload, ?_, ?_⟩
  · obtain ⟨hends, -⟩ := load_ends ⟨[("app", ⟨.file, [("R", .registry ⟨[]⟩)]⟩)]⟩ ".app:R"
    rcases hends with ⟨r, hr, -⟩ | ⟨f, hf, -, ⟨habsolute, -⟩ | ⟨-, hfailure⟩⟩
    · cases hload.symm.trans hr
    · exact absurd hrelative habsolute
    · cases hload.symm.trans hf
      exact hfailure
  · obtain ⟨hends, -⟩ := load_ends ⟨[("app", ⟨.file, [("R", .registry ⟨[]⟩)]⟩)]⟩ "app:R"
    rcases hends with ⟨r, hr, -⟩ | ⟨f, -, hoffers, -⟩
    · exact ⟨r, hr⟩
    · exact absurd happ (hoffers _)

end SchemaAudit
