import Mathlib.Data.List.Forall2
import SchemaAudit.Manifest.Reader
import SchemaAudit.Proofs.Artifact.Paths
import SchemaAudit.Proofs.Ddl.TableName

/-! # Manifests named after tables

The path of a table's manifest is made from a template: text, and fields in which the name of the table stands as it is or
in capitals. A name without slashes that is more than points changes nothing about where the path leads: it has the root
of the template's own path and one part for each of its parts, the same or a plain name (`path_of_solid`). The names that
are found in statements are such names (`tableName?_told`). -/

namespace SchemaAudit

/-! ### Templates of text and names -/

namespace Template

/-- A part of a template: a character of its text, or a field for the name of a table. -/
inductive Part where
  | char (c : Char)
  | table
  | capitals

/-- A field that asks for a value as it is. -/
def plainField (name : String) : List Char := '{' :: (name.toList ++ ['}'])

/-- A part as a template has it. Braces of the text are doubled. -/
def Part.written : Part → List Char
  | char c => if c = '{' ∨ c = '}' then [c, c] else [c]
  | table => plainField "table"
  | capitals => plainField "TABLE"

/-- What stands for a part when the template is filled in. -/
def Part.filled (table capitals : List Char) : Part → List Char
  | char c => [c]
  | .table => table
  | .capitals => capitals

def written (parts : List Part) : String := String.ofList (parts.flatMap Part.written)

/-- The values for a table. -/
def naming (table capitals : String) : List (String × String) := [("table", table), ("TABLE", capitals)]

variable {nested : List Char → Except Error (List Char)} {table capitals : String}

theorem fillWith_field [StandIns]
    {values : List (String × String)} {value rest : List Char} (first : Char) (name : List Char)
    (hfirst : first ≠ '{') (hscan : scanField (first :: name ++ '}' :: rest) = .ok (⟨first :: name, none, []⟩, rest))
    (hvalue : valueOf values (first :: name) = .ok (.text value)) (n : Nat) :
    fillWith nested values (n + 1) ('{' :: first :: (name ++ '}' :: rest)) =
      (fillWith nested values n rest).map (value ++ ·) := by
  rw [List.cons_append] at hscan
  rw [fillWith, hscan]
  · change (valueOf values (first :: name)).bind _ = _
    rw [hvalue]
    cases fillWith nested values n rest <;>
      simp [bind, Except.bind, pure, Except.pure, Except.map, convert, layOutFacet, layOut]
  · rintro more ⟨⟩
    exact hfirst rfl
  · nofun

theorem fillWith_part [StandIns] (part : Part) (rest : List Char) (n : Nat) :
    fillWith nested (naming table capitals) (n + 1) (part.written ++ rest) =
      (fillWith nested (naming table capitals) n rest).map (part.filled table.toList capitals.toList ++ ·) := by
  cases part with
  | char c =>
    by_cases hopen : c = '{'
    · subst hopen
      simp [fillWith, Part.written, Part.filled]
    · by_cases hclose : c = '}'
      · subst hclose
        simp [fillWith, Part.written, Part.filled]
      · simp [fillWith, Part.written, Part.filled, hopen, hclose]
  | table => exact fillWith_field 't' "able".toList (by decide) rfl rfl n
  | capitals => exact fillWith_field 'T' "ABLE".toList (by decide) rfl rfl n

theorem fillWith_parts [StandIns] (parts : List Part) {n : Nat} (hn : parts.length ≤ n) :
    fillWith nested (naming table capitals) n (parts.flatMap Part.written) =
      .ok (parts.flatMap (Part.filled table.toList capitals.toList)) := by
  induction parts generalizing n with
  | nil => cases n <;> rfl
  | cons part parts ih =>
    cases n with
    | zero => cases hn
    | succ n =>
      rw [List.flatMap_cons, fillWith_part, ih (Nat.le_of_succ_le_succ hn), List.flatMap_cons]
      rfl

theorem Part.written_ne_nil (part : Part) : part.written ≠ [] := by
  cases part with
  | char c =>
    rw [Part.written]
    split <;> exact List.cons_ne_nil _ _
  | table => decide
  | capitals => decide

theorem length_le_written (parts : List Part) : parts.length ≤ (parts.flatMap Part.written).length := by
  induction parts with
  | nil => exact Nat.le_refl 0
  | cons part parts ih =>
    have hpart := List.length_pos_iff.mpr part.written_ne_nil
    rw [List.length_cons, List.flatMap_cons, List.length_append]
    omega

/-- A template of text and names can be filled in for every name. -/
theorem fill_written [StandIns] (parts : List Part) (table capitals : String) :
    fill (naming table capitals) (written parts) =
      .ok (String.ofList (parts.flatMap (Part.filled table.toList capitals.toList))) := by
  have hlength := length_le_written parts
  rw [fill, written, String.toList_ofList, fillDeep, fillWith_parts parts (Nat.le_succ_of_le hlength)]
  rfl

end Template

/-! ### Names that lead nowhere else -/

namespace Path

/-- A text without slashes that is more than points. -/
structure Solid (s : List Char) : Prop where
  no_slash : '/' ∉ s
  more : ∃ c ∈ s, c ≠ '.'

theorem ne_of_more {s t : List Char} (h : ∃ c ∈ s, c ≠ '.') (ht : ∀ d ∈ t, d = '.') : s ≠ t := by
  rintro rfl
  obtain ⟨c, hc, hpoint⟩ := h
  exact hpoint (ht c hc)

/-- A path has a part for every piece with more than points. -/
theorem named_of_more {s : List Char} (h : ∃ c ∈ s, c ≠ '.') : (decide (s ≠ []) && decide (s ≠ ['.'])) = true := by
  have hnil : s ≠ [] := ne_of_more h (by simp)
  have hpoint : s ≠ ['.'] := ne_of_more h (by simp)
  simp [hnil, hpoint]

theorem Solid.ne_nil {s : List Char} (h : Solid s) : s ≠ [] := ne_of_more h.more (by simp)

theorem Solid.isPlain {s : List Char} (h : Solid s) : IsPlain (String.ofList s) := by
  have hne {t : String} (ht : (t.toList.all fun d => d = '.') = true) : String.ofList s ≠ t := by
    intro heq
    refine ne_of_more h.more (Text.forall_of_all ht) ?_
    rw [← heq, String.toList_ofList]
  refine ⟨hne (by decide), hne (by decide), hne (by decide), ?_⟩
  rw [String.toList_ofList]
  exact h.no_slash

/-- A piece of a path after names were filled in: as it was, or more than points before and after. -/
structure Filled (own piece : List Char) : Prop where
  no_slash : '/' ∉ piece
  same_or : piece = own ∨ (∃ c ∈ own, c ≠ '.') ∧ ∃ c ∈ piece, c ≠ '.'

theorem Filled.refl {s : List Char} (h : '/' ∉ s) : Filled s s := ⟨h, Or.inl rfl⟩

theorem Filled.of_solid {s t : List Char} (hs : Solid s) (ht : Solid t) : Filled s t :=
  ⟨ht.no_slash, Or.inr ⟨hs.more, ht.more⟩⟩

theorem Filled.append {s s' t t' : List Char} (hs : Filled s s') (ht : Filled t t') : Filled (s ++ t) (s' ++ t') := by
  have left {s t : List Char} : (∃ c ∈ s, c ≠ '.') → ∃ c ∈ s ++ t, c ≠ '.' :=
    fun ⟨c, hc, hne⟩ => ⟨c, List.mem_append_left _ hc, hne⟩
  have right {s t : List Char} : (∃ c ∈ t, c ≠ '.') → ∃ c ∈ s ++ t, c ≠ '.' :=
    fun ⟨c, hc, hne⟩ => ⟨c, List.mem_append_right _ hc, hne⟩
  refine ⟨fun h => (List.mem_append.mp h).elim hs.no_slash ht.no_slash, ?_⟩
  rcases hs.same_or with rfl | ⟨hown, hpiece⟩
  · rcases ht.same_or with rfl | ⟨hown, hpiece⟩
    · exact Or.inl rfl
    · exact Or.inr ⟨right hown, right hpiece⟩
  · exact Or.inr ⟨left hown, left hpiece⟩

variable {table capitals : List Char}

open Template (Part)

theorem filled_part (htable : Solid table) (hcapitals : Solid capitals) {part : Part} (h : part ≠ .char '/') :
    '/' ∉ part.written ∧ Filled part.written (part.filled table capitals) := by
  cases part with
  | char c =>
    have hc : '/' ≠ c := fun heq => h (congrArg Part.char heq.symm)
    rw [Part.written, Part.filled]
    split
    · rename_i hbrace
      have hpoint : c ≠ '.' := by rintro rfl; revert hbrace; decide
      have hsolid : Solid [c, c] := ⟨by simp [hc], c, List.mem_cons_self, hpoint⟩
      exact ⟨hsolid.no_slash, .of_solid hsolid ⟨by simp [hc], c, List.mem_cons_self, hpoint⟩⟩
    · have hno : '/' ∉ [c] := by simp [hc]
      exact ⟨hno, .refl hno⟩
  | table => exact ⟨by decide, .of_solid ⟨by decide, 't', by decide, by decide⟩ htable⟩
  | capitals => exact ⟨by decide, .of_solid ⟨by decide, 'T', by decide, by decide⟩ hcapitals⟩

theorem filled_ne_nil (htable : Solid table) (hcapitals : Solid capitals) (part : Part) :
    part.filled table capitals ≠ [] := by
  cases part with
  | char c => exact List.cons_ne_nil c []
  | table => exact htable.ne_nil
  | capitals => exact hcapitals.ne_nil

/-- Names that are filled in add no piece and leave none of a few points or none. -/
theorem forall₂_pieces (htable : Solid table) (hcapitals : Solid capitals) (parts : List Part) :
    List.Forall₂ Filled (Text.pieces '/' (parts.flatMap Part.written))
      (Text.pieces '/' (parts.flatMap (Part.filled table capitals))) := by
  induction parts with
  | nil => exact .cons (.refl List.not_mem_nil) .nil
  | cons part parts ih =>
    rw [List.flatMap_cons, List.flatMap_cons]
    by_cases h : part = .char '/'
    · rw [h]
      exact .cons (.refl List.not_mem_nil) ih
    · obtain ⟨hno, hpart⟩ := filled_part htable hcapitals h
      obtain ⟨own, owns, howns⟩ := Text.exists_pieces '/' (parts.flatMap Part.written)
      obtain ⟨piece, pieces, hpieces⟩ := Text.exists_pieces '/' (parts.flatMap (Part.filled table capitals))
      rw [howns, hpieces] at ih
      rw [Text.pieces_append hno howns, Text.pieces_append hpart.no_slash hpieces]
      cases ih with
      | cons hfirst hmore => exact .cons (hpart.append hfirst) hmore

theorem takeWhile_slash_eq_nil {s : List Char} (h : ∀ t, s ≠ '/' :: t) : s.takeWhile (· = '/') = [] := by
  cases s with
  | nil => rfl
  | cons c s =>
    refine List.takeWhile_cons_of_neg fun hc => h s ?_
    rw [of_decide_eq_true hc]

/-- A root is told by the slashes at the start. -/
theorem rootOf_takeWhile (s : List Char) : rootOf (s.takeWhile (· = '/')) = rootOf s := by
  fun_cases rootOf s with
  | case1 t => rfl
  | case2 t hthree =>
    have ht := takeWhile_slash_eq_nil hthree
    simp [ht, rootOf]
  | case3 t hthree htwo =>
    have ht := takeWhile_slash_eq_nil htwo
    simp [ht, rootOf]
  | case4 s _ _ hone =>
    have hs := takeWhile_slash_eq_nil hone
    simp [hs, rootOf]

theorem rootOf_filled (htable : Solid table) (hcapitals : Solid capitals) (parts : List Part) :
    rootOf (parts.flatMap (Part.filled table capitals)) = rootOf (parts.flatMap Part.written) := by
  rw [← rootOf_takeWhile, ← rootOf_takeWhile (parts.flatMap Part.written)]
  congr 1
  induction parts with
  | nil => rfl
  | cons part parts ih =>
    rw [List.flatMap_cons, List.flatMap_cons]
    by_cases h : part = .char '/'
    · rw [h]
      exact congrArg ('/' :: ·) ih
    · obtain ⟨hno, hpart⟩ := filled_part htable hcapitals h
      have first {s t : List Char} (hne : s ≠ []) (hs : '/' ∉ s) : (s ++ t).takeWhile (· = '/') = [] := by
        obtain ⟨c, s, rfl⟩ := List.exists_cons_of_ne_nil hne
        refine takeWhile_slash_eq_nil fun t heq => hs ?_
        rw [(List.cons.inj heq).1]
        exact List.mem_cons_self
      rw [first part.written_ne_nil hno, first (filled_ne_nil htable hcapitals part) hpart.no_slash]

/-- The parts of a path with names filled in are those of its template, but plain names may stand for some of them. -/
theorem ofText_filled (htable : Solid table) (hcapitals : Solid capitals) (parts : List Part) :
    (ofText (String.ofList (parts.flatMap (Part.filled table capitals)))).root = (ofText (Template.written parts)).root ∧
      List.Forall₂ (fun own part => part = own ∨ IsPlain part) (ofText (Template.written parts)).parts
        (ofText (String.ofList (parts.flatMap (Part.filled table capitals)))).parts := by
  rw [ofText, ofText, Template.written, String.toList_ofList, String.toList_ofList]
  refine ⟨rootOf_filled htable hcapitals parts, ?_⟩
  simp only [List.forall₂_map_left_iff, List.forall₂_map_right_iff]
  refine (List.rel_filter (fun own piece h => ?_) (forall₂_pieces htable hcapitals parts)).imp fun own piece h => ?_
  · rcases h.same_or with rfl | ⟨hown, hpiece⟩
    · rfl
    · exact iff_of_true (named_of_more hown) (named_of_more hpiece)
  · rcases h.same_or with rfl | ⟨-, hpiece⟩
    · exact Or.inl rfl
    · exact Or.inr (Solid.isPlain ⟨h.no_slash, hpiece⟩)

theorem forall₂_join (p : Path) {q q' : Path} (hroot : q'.root = q.root)
    (hparts : List.Forall₂ (fun own part => part = own ∨ IsPlain part) q.parts q'.parts) :
    (p.join q').root = (p.join q).root ∧
      List.Forall₂ (fun own part => part = own ∨ IsPlain part) (p.join q).parts (p.join q').parts := by
  rw [join, join, hroot]
  split
  · have hsame : List.Forall₂ (fun own part => part = own ∨ IsPlain part) p.parts p.parts :=
      List.forall₂_same.mpr fun part _ => Or.inl rfl
    exact ⟨rfl, List.rel_append hsame hparts⟩
  · exact ⟨hroot, hparts⟩

end Path

namespace Manifests

open Template (Part)

variable {m : Manifests} {parts : List Part} {table : String}

/-- The path of the manifest of a table. -/
theorem path_eq [StandIns] (hm : m.template = Template.written parts) (table : String) :
    m.path table = .ok (m.directory.child
    (String.ofList (parts.flatMap (Part.filled table.toList (Text.upper table.toList))))) := by
  have hfill := Template.fill_written parts table (String.ofList (Text.upper table.toList))
  rw [String.toList_ofList] at hfill
  rw [Manifests.path, fileName, hm]
  change ((Template.fill (Template.naming _ _) _).mapError _).map _ = _
  rw [hfill]
  rfl

/-- The path of the manifest of a table with a solid name. -/
theorem path_of_solid [StandIns] (hm : m.template = Template.written parts) (htable : Path.Solid table.toList)
    (hcapitals : Path.Solid (Text.upper table.toList)) : ∃ path,
      m.path table = .ok path ∧ path.root = (m.directory.child m.template).root ∧
      List.Forall₂ (fun own part => part = own ∨ Path.IsPlain part) (m.directory.child m.template).parts path.parts := by
  obtain ⟨hroot, hparts⟩ := Path.ofText_filled htable hcapitals parts
  refine ⟨_, path_eq hm table, ?_⟩
  rw [hm]
  exact Path.forall₂_join m.directory hroot hparts

end Manifests

/-! ### Names that are found -/

namespace Ddl

open Text (isWord)

variable {name : List Char}

theorem not_isStandIn_of_isWord [StandIns] {c : Char} (h : isWord c = true) : Text.isStandIn c = false := by
  have below : ∀ run ∈ Text.wordRuns, run.2 < 0xf0000 := by decide +kernel
  obtain ⟨run, hrun, -, hlast⟩ := Text.inRuns_eq_true_iff.mp h
  exact Text.isStandIn_of_lt (Nat.lt_of_le_of_lt hlast (below run hrun))

/-- Word characters are no slash and no point, and neither are their capitals. -/
theorem marks_of_isWord (hword : ∀ c ∈ name, isWord c = true) :
    ∀ d ∈ ['/', '.'], d ∉ name ∧ d ∉ Text.upper name := by
  have absent {d : Char} (hd : isWord d = false) : d ∉ name := by
    intro hmem
    cases hd.symm.trans (hword d hmem)
  have hslash : '/' ∉ name := absent (by decide +kernel)
  have hpoint : '.' ∉ name := absent isWord_dot
  simp only [List.forall_mem_cons, List.not_mem_nil, false_implies, implies_true, and_true]
  exact ⟨⟨hslash, Text.not_mem_upper (by decide) (by decide) hslash⟩,
    hpoint, Text.not_mem_upper (by decide) (by decide) hpoint⟩

theorem solid_of_marks {s : List Char} (hne : s ≠ []) (hslash : '/' ∉ s) (hpoint : '.' ∉ s) : Path.Solid s := by
  refine ⟨hslash, s.head hne, List.head_mem hne, fun heq => hpoint ?_⟩
  rw [← heq]
  exact List.head_mem hne

/-- A table whose name leads nowhere else: no slash and no point is in it, also in capitals, the path of its report goes one
plain name further than the directory, and that of its manifest is the path of the template, where plain names may stand
for some parts. -/
structure StaysPut [StandIns] (table : String) : Prop where
  marks : ∀ d ∈ ['/', '.'], d ∉ table.toList ∧ d ∉ Text.upper table.toList
  report : ∀ a : Artifacts, ∃ file, Path.IsPlain file ∧
    a.reportPath table = .ok ⟨a.consistency.root, a.consistency.parts ++ [file]⟩
  manifest : ∀ (m : Manifests) (parts : List Template.Part), m.template = Template.written parts → ∃ path,
    m.path table = .ok path ∧ path.root = (m.directory.child m.template).root ∧
    List.Forall₂ (fun own part => part = own ∨ Path.IsPlain part) (m.directory.child m.template).parts path.parts

theorem staysPut_of_isWord [StandIns] (hne : name ≠ []) (hword : ∀ c ∈ name, isWord c = true) :
    StaysPut (String.ofList name) := by
  have hmarks := marks_of_isWord hword
  have hname : (String.ofList name).toList = name := String.toList_ofList
  obtain ⟨hslash, hslashUpper⟩ := hmarks '/' (by decide)
  obtain ⟨hpoint, hpointUpper⟩ := hmarks '.' (by decide)
  refine ⟨?_, fun a => ⟨_, Artifact.isPlain_reportFile (String.ofList name), ?_⟩, fun m parts hm => ?_⟩
  · rwa [hname]
  · have hutf8 : Text.outsideUtf8? (String.ofList name).toList = none := by
      rw [hname, Text.outsideUtf8?_eq_none_iff]
      exact fun c hc => not_isStandIn_of_isWord (hword c hc)
    exact (Artifacts.files_of_inUtf8 a hutf8).reportPath_eq
  · refine Manifests.path_of_solid hm ?_ ?_
    · rw [hname]
      exact solid_of_marks hne hslash hpoint
    · rw [hname]
      exact solid_of_marks (Text.upper_ne_nil hne) hslashUpper hpointUpper

/-- The start of a statement gives the name of its table, whatever is behind it, unless it is not conditional and reads as
if it were. A name that is found in any text is one of word characters, and adds neither a separator nor a step up to
the paths that are made of it. -/
theorem tableName?_told [StandIns] (text : List Char) :
    (∀ (x : Creation) (rest : List Char), EndsName rest →
      (x.conditional = none → ¬ ReadsConditional (x.qualified ++ rest)) →
      tableName? (x.text ++ rest) = some x.name.name) ∧
    ∀ name, tableName? text = some name →
      name ≠ [] ∧ (∀ c ∈ name, isWord c = true) ∧ StaysPut (String.ofList name) := by
  refine ⟨fun x rest hrest hplain => tableName?_creation x hrest hplain, fun name hname => ?_⟩
  obtain ⟨hne, hword⟩ := word_of_tableName? hname
  exact ⟨hne, hword, staysPut_of_isWord hne hword⟩

/-- A table called "if". -/
def bareIf : Creation where
  create := ⟨"cReate".toList, "\n ".toList, spells_of_toUpper rfl, List.cons_ne_nil _ _, Text.forall_of_all (by decide)⟩
  table := ⟨"TABLE".toList, [' '], spells_of_toUpper rfl, List.cons_ne_nil _ _, Text.forall_of_all (by decide)⟩
  conditional := none
  schema := none
  name := ⟨"iF".toList, false, Text.forall_of_all (by decide +kernel)⟩
  name_ne_nil := List.cons_ne_nil _ _

def quotedAccent : Creation where
  create := ⟨"Create".toList, [' '], spells_of_toUpper rfl, List.cons_ne_nil _ _, Text.forall_of_all (by decide)⟩
  table := ⟨"table".toList, [' '], spells_of_toUpper rfl, List.cons_ne_nil _ _, Text.forall_of_all (by decide)⟩
  conditional := some {
    ifWord := ⟨"if".toList, [' '], spells_of_toUpper rfl, List.cons_ne_nil _ _, Text.forall_of_all (by decide)⟩
    notWord := ⟨"NOT".toList, [' '], spells_of_toUpper rfl, List.cons_ne_nil _ _, Text.forall_of_all (by decide)⟩
    existsWord := ⟨"exists".toList, [' '], spells_of_toUpper rfl, List.cons_ne_nil _ _, Text.forall_of_all (by decide)⟩ }
  schema := some ⟨"app".toList, true, Text.forall_of_all (by decide +kernel)⟩
  name := ⟨"é_1".toList, true, Text.forall_of_all (by decide +kernel)⟩
  name_ne_nil := List.cons_ne_nil _ _

theorem tableName?_told_if :
    tableName? "cReate\n TABLE iF (id int)".toList = some "iF".toList ∧
      tableName? "Create table if NOT exists \"app\".\"é_1\"(id int)".toList = some "é_1".toList ∧
      StaysPut "iF" := by
  have hspace : EndsName " (id int)".toList := endsName_of_qualifiedName? (by decide +kernel)
  have hparenthesis : EndsName "(id int)".toList := endsName_of_qualifiedName? (by decide +kernel)
  have hplain : ¬ ReadsConditional (bareIf.qualified ++ " (id int)".toList) :=
    fun h => absurd (readsConditional_iff.mp h) (by decide +kernel)
  have hbare := (tableName?_told []).1 bareIf " (id int)".toList hspace fun _ => hplain
  have hquoted := (tableName?_told []).1 quotedAccent "(id int)".toList hparenthesis nofun
  exact ⟨hbare, hquoted, ((tableName?_told _).2 _ hbare).2.2⟩

end Ddl

end SchemaAudit
