import Mathlib.Data.List.Forall2
import SchemaAudit.Ddl.TableName
import SchemaAudit.Proofs.Text.Case
import SchemaAudit.Proofs.Text.Pattern

/-! # The name of a created table

The start of a statement is described by its parts (`Creation`): keywords in some letter case with blanks behind them,
the conditional words or none, a qualifier or none, and a name, each in quotes or bare. Such a start gives its name
(`tableName?_creation`), unless it is not conditional and reads as if it were. Whatever the text, a name that is found is
made of word characters (`word_of_tableName?`).

The reading from left to right finds what the pattern of a creation finds (`created?_eq_find?`): a keyword needs blanks
behind it and a name begins with none, so of the blanks between them none can be given up, and the conditional words
are given up only when no name is behind them. -/

namespace SchemaAudit.Ddl

open Text (isBlank isWord spells dropKeyword Pattern Search)

variable {s t rest name : List Char} {keyword : String} {c : Char}

/-! ### Characters -/

/-- A text that is empty or begins with no blank. -/
def StartsInk (s : List Char) : Prop := ∀ c ∈ s.head?, isBlank c = false

/-- A text that is empty or begins with a character that is in no name. -/
def EndsName (s : List Char) : Prop := ∀ c ∈ s.head?, isNameChar c = false

theorem not_isBlank_of_isWord (h : isWord c = true) : isBlank c = false := by
  refine Bool.eq_false_iff.mpr fun hblank => ?_
  have hnot : isWord c = false := Text.inRuns_of_isBlank (by decide +kernel) hblank
  cases h.symm.trans hnot

theorem isWord_dot : isWord '.' = false := by decide +kernel

theorem isWord_quote : isWord '"' = false := by decide +kernel

theorem isNameChar_dot : isNameChar '.' = true := by simp [isNameChar]

theorem isNameChar_quote : isNameChar '"' = true := by simp [isNameChar]

theorem isNameChar_of_isWord (h : isWord c = true) : isNameChar c = true := by
  rw [isNameChar, h]
  rfl

theorem not_isBlank_of_isNameChar (h : isNameChar c = true) : isBlank c = false := by
  simp only [isNameChar, Bool.or_eq_true, decide_eq_true_eq] at h
  rcases h with (h | rfl) | rfl
  · exact not_isBlank_of_isWord h
  · rfl
  · rfl

theorem endsName_of_isBlank (h : isBlank c = true) : EndsName (c :: s) := by
  intro d hd
  cases hd
  refine Bool.eq_false_iff.mpr fun hname => ?_
  cases h.symm.trans (not_isBlank_of_isNameChar hname)

/-! ### Keywords -/

/-- A keyword written in some letter case. -/
def Spells (keyword written : List Char) : Prop := List.Forall₂ (fun k c => spells k c = true) keyword written

theorem spells_toUpper (c : Char) : spells c.toUpper c = true := by
  by_cases h : 'a'.val ≤ c.val ∧ c.val ≤ 'z'.val
  · have small : ∀ n < 123, 97 ≤ n → (Char.ofNat n).toUpper.toLower = Char.ofNat n := by decide
    have hback := small c.toNat (Nat.lt_succ_of_le h.2) h.1
    rw [Char.ofNat_toNat] at hback
    simp [spells, hback]
  · have hsame : c.toUpper = c := dif_neg h
    simp [spells, hsame]

/-- The letter cases of a keyword in ASCII are among its spellings. -/
theorem spells_of_toUpper (h : t.map Char.toUpper = s) : Spells s t := by
  subst h
  induction t with
  | nil => exact .nil
  | cons c t ih => exact .cons (spells_toUpper c) ih

theorem dropKeyword_eq_some_iff {ks : List Char} :
    dropKeyword ks s = some rest ↔ ∃ written, Spells ks written ∧ s = written ++ rest := by
  induction ks generalizing s with
  | nil =>
    constructor
    · rintro ⟨⟩
      exact ⟨[], .nil, rfl⟩
    · rintro ⟨_, ⟨⟩, rfl⟩
      rfl
  | cons k ks ih =>
    cases s with
    | nil => simp [dropKeyword, Spells]
    | cons c s =>
      rw [dropKeyword]
      constructor
      · intro h
        split at h
        · rename_i hc
          obtain ⟨written, hwritten, rfl⟩ := ih.mp h
          exact ⟨c :: written, .cons hc hwritten, rfl⟩
        · cases h
      · rintro ⟨_, hspells | ⟨hc, hwritten⟩, hs⟩
        obtain ⟨rfl, rfl⟩ := List.cons.inj hs
        rw [if_pos hc]
        exact ih.mpr ⟨_, hwritten, rfl⟩

theorem dropBlanks_eq_some_iff :
    dropBlanks s = some rest ↔ ∃ gap, gap ≠ [] ∧ (∀ c ∈ gap, isBlank c = true) ∧ s = gap ++ rest ∧ StartsInk rest := by
  constructor
  · intro h
    cases s with
    | nil => cases h
    | cons c s =>
      rw [dropBlanks] at h
      split at h
      · rename_i hc
        cases h
        refine ⟨c :: s.takeWhile isBlank, List.cons_ne_nil _ _, ?_, ?_, fun d hd => Text.isBlank_of_mem_head?_trimLeft hd⟩
        · exact List.forall_mem_cons.mpr ⟨hc, fun d hd => List.all_eq_true.mp List.all_takeWhile d hd⟩
        · exact congrArg (c :: ·) List.takeWhile_append_dropWhile.symm
      · cases h
  · rintro ⟨gap, hne, hgap, rfl, hrest⟩
    obtain ⟨c, gap, rfl⟩ := List.exists_cons_of_ne_nil hne
    rw [List.forall_mem_cons] at hgap
    rw [List.cons_append, dropBlanks, if_pos hgap.1, Text.trimLeft_append hgap.2, Text.trimLeft_of_head? hrest]

/-- A keyword as it stands in a statement: written in some letter case, with blanks behind it. -/
structure Keyword (keyword : String) where
  written : List Char
  gap : List Char
  spells : Spells keyword.toList written
  gap_ne_nil : gap ≠ []
  gap_blank : ∀ c ∈ gap, isBlank c = true

def Keyword.text (k : Keyword keyword) : List Char := k.written ++ k.gap

theorem dropWord_eq_some_iff :
    dropWord keyword s = some rest ↔ ∃ k : Keyword keyword, s = k.text ++ rest ∧ StartsInk rest := by
  rw [dropWord, Option.bind_eq_some_iff]
  constructor
  · rintro ⟨behind, hword, hblanks⟩
    obtain ⟨written, hwritten, rfl⟩ := dropKeyword_eq_some_iff.mp hword
    obtain ⟨gap, hne, hgap, rfl, hrest⟩ := dropBlanks_eq_some_iff.mp hblanks
    exact ⟨⟨written, gap, hwritten, hne, hgap⟩, (List.append_assoc _ _ _).symm, hrest⟩
  · rintro ⟨k, rfl, hrest⟩
    refine ⟨k.gap ++ rest, dropKeyword_eq_some_iff.mpr ⟨k.written, k.spells, List.append_assoc _ _ _⟩, ?_⟩
    exact dropBlanks_eq_some_iff.mpr ⟨k.gap, k.gap_ne_nil, k.gap_blank, rfl, hrest⟩

theorem not_isBlank_of_spells {k : Char} (hk : k.isUpper = true) (h : spells k c = true) : isBlank c = false := by
  have capital : ∀ n < 91, 65 ≤ n → isBlank (Char.ofNat n) = false ∧ isBlank (Char.ofNat n).toLower = false := by decide
  obtain ⟨hlow, hhigh⟩ := of_decide_eq_true hk
  have hboth := capital k.toNat (Nat.lt_succ_of_le hhigh) hlow
  rw [Char.ofNat_toNat] at hboth
  simp only [spells, Bool.or_eq_true, Bool.and_eq_true, decide_eq_true_eq] at h
  rcases h with ((rfl | rfl) | ⟨-, rfl | rfl⟩) | ⟨-, rfl⟩
  · exact hboth.1
  · exact hboth.2
  all_goals rfl

theorem Spells.startsInk {ks written : List Char} (h : Spells ks written) (hk : ks.head?.any Char.isUpper = true)
    (t : List Char) : StartsInk (written ++ t) := by
  cases h with
  | nil => cases hk
  | cons hc _ =>
    intro d hd
    cases hd
    exact not_isBlank_of_spells hk hc

/-- A keyword that is given with a capital begins with no blank in any letter case. -/
theorem Keyword.startsInk (hk : keyword.toList.head?.any Char.isUpper = true) (k : Keyword keyword) (t : List Char) :
    StartsInk (k.text ++ t) := by
  rw [text, List.append_assoc]
  exact Spells.startsInk k.spells hk _

theorem dropWord_isBlank (hk : keyword.toList.head?.any Char.isUpper = true) (hc : isBlank c = true) (s : List Char) :
    dropWord keyword (c :: s) = none := by
  refine Option.eq_none_iff_forall_not_mem.mpr fun rest hrest => ?_
  obtain ⟨k, hs, -⟩ := dropWord_eq_some_iff.mp hrest
  have hink := k.startsInk hk rest
  rw [← hs] at hink
  cases hc.symm.trans (hink c rfl)

/-- The words that make a creation conditional. -/
structure Conditional where
  ifWord : Keyword "IF"
  notWord : Keyword "NOT"
  existsWord : Keyword "EXISTS"

def Conditional.text (w : Conditional) : List Char := w.ifWord.text ++ (w.notWord.text ++ w.existsWord.text)

theorem Conditional.startsInk (w : Conditional) (t : List Char) : StartsInk (w.text ++ t) := by
  rw [text, List.append_assoc]
  exact w.ifWord.startsInk rfl _

theorem dropIfNotExists_eq_some_iff :
    dropIfNotExists s = some rest ↔ ∃ w : Conditional, s = w.text ++ rest ∧ StartsInk rest := by
  simp only [dropIfNotExists, Option.bind_eq_some_iff, dropWord_eq_some_iff]
  constructor
  · rintro ⟨_, ⟨ifWord, rfl, -⟩, _, ⟨notWord, rfl, -⟩, existsWord, rfl, hrest⟩
    refine ⟨⟨ifWord, notWord, existsWord⟩, ?_, hrest⟩
    simp only [Conditional.text, List.append_assoc]
  · rintro ⟨w, rfl, hrest⟩
    refine ⟨w.notWord.text ++ (w.existsWord.text ++ rest), ⟨w.ifWord, ?_, w.notWord.startsInk rfl _⟩,
      w.existsWord.text ++ rest, ⟨w.notWord, rfl, w.existsWord.startsInk rfl _⟩, w.existsWord, rfl, hrest⟩
    simp only [Conditional.text, List.append_assoc]

/-! ### Names -/

theorem qualifiedName?_append (hne : name ≠ []) (hname : ∀ c ∈ name, isNameChar c = true) (hrest : EndsName rest) :
    qualifiedName? (name ++ rest) = some name := by
  rw [qualifiedName?, Text.takeWhile_append hname hrest]
  cases name with
  | nil => exact absurd rfl hne
  | cons c name => rfl

theorem qualifiedName?_of_endsName (h : EndsName s) : qualifiedName? s = none := by
  cases s with
  | nil => rfl
  | cons c s => rw [qualifiedName?, List.takeWhile_cons_of_neg (by simp [h c rfl])]

theorem endsName_of_qualifiedName? (h : qualifiedName? s = none) : EndsName s := by
  intro c hc
  obtain ⟨rest, rfl⟩ := List.head?_eq_some_iff.mp hc
  refine Bool.eq_false_iff.mpr fun hname => ?_
  rw [qualifiedName?, List.takeWhile_cons_of_pos hname] at h
  cases h

theorem nameChars_of_qualifiedName? (h : qualifiedName? s = some name) :
    name ≠ [] ∧ ∀ c ∈ name, isNameChar c = true := by
  have hall : (s.takeWhile isNameChar).all isNameChar = true := List.all_takeWhile
  rw [qualifiedName?] at h
  split at h
  · cases h
  · rename_i hne
    obtain rfl := Option.some.inj h
    exact ⟨hne, List.all_eq_true.mp hall⟩

/-- A name as it stands in a statement: word characters, bare or in double quotes. -/
structure Identifier where
  name : List Char
  isQuoted : Bool
  word : ∀ c ∈ name, isWord c = true

def Identifier.text (i : Identifier) : List Char := if i.isQuoted then '"' :: (i.name ++ ['"']) else i.name

theorem Identifier.nameChars (i : Identifier) : ∀ c ∈ i.text, isNameChar c = true := by
  have hname : ∀ c ∈ i.name, isNameChar c = true := fun c hc => isNameChar_of_isWord (i.word c hc)
  rw [text]
  split
  · rw [List.forall_mem_cons, List.forall_mem_append, List.forall_mem_singleton]
    exact ⟨isNameChar_quote, hname, isNameChar_quote⟩
  · exact hname

theorem Identifier.ne (i : Identifier) {d : Char} (hd : isWord d = false) : ∀ c ∈ i.name, c ≠ d := by
  rintro c hc rfl
  cases (i.word c hc).symm.trans hd

theorem Identifier.filter_text (i : Identifier) : i.text.filter (· ≠ '"') = i.name := by
  have hname : i.name.filter (· ≠ '"') = i.name :=
    List.filter_eq_self.mpr fun c hc => decide_eq_true (i.ne isWord_quote c hc)
  rw [text]
  split
  · rw [List.filter_cons_of_neg (by decide), List.filter_append, hname]
    exact List.append_nil _
  · exact hname

/-- The start of a statement that creates a table. -/
structure Creation where
  create : Keyword "CREATE"
  table : Keyword "TABLE"
  conditional : Option Conditional
  schema : Option Identifier
  name : Identifier
  name_ne_nil : name.name ≠ []

namespace Creation

/-- The name with its qualifier. -/
def qualified (x : Creation) : List Char :=
  match x.schema with
  | some schema => schema.text ++ '.' :: x.name.text
  | none => x.name.text

def text (x : Creation) : List Char :=
  x.create.text ++ (x.table.text ++ ((x.conditional.elim [] Conditional.text) ++ x.qualified))

theorem nameChars_qualified (x : Creation) : ∀ c ∈ x.qualified, isNameChar c = true := by
  rw [qualified]
  split
  · rename_i schema _
    rw [List.forall_mem_append, List.forall_mem_cons]
    exact ⟨schema.nameChars, isNameChar_dot, x.name.nameChars⟩
  · exact x.name.nameChars

theorem name_text_ne_nil (x : Creation) : x.name.text ≠ [] := by
  rw [Identifier.text]
  split
  · exact List.cons_ne_nil _ _
  · exact x.name_ne_nil

theorem qualified_ne_nil (x : Creation) : x.qualified ≠ [] := by
  rw [qualified]
  split
  · exact List.append_ne_nil_of_right_ne_nil _ (List.cons_ne_nil _ _)
  · exact x.name_text_ne_nil

theorem startsInk_qualified (x : Creation) (t : List Char) : StartsInk (x.qualified ++ t) := by
  obtain ⟨d, more, hqualified⟩ := List.exists_cons_of_ne_nil x.qualified_ne_nil
  have hname := x.nameChars_qualified d (by rw [hqualified]; exact List.mem_cons_self)
  intro c hc
  rw [hqualified] at hc
  cases hc
  exact not_isBlank_of_isNameChar hname

/-- What stands behind the last point of a qualified name is its name. -/
theorem unqualified_qualified (x : Creation) : unqualified x.qualified = x.name.name := by
  have hname : ∀ c ∈ x.name.name.reverse, decide (c ≠ '.') = true :=
    fun c hc => decide_eq_true (x.name.ne isWord_dot c (List.mem_reverse.mp hc))
  have htake {t : List Char} (ht : ∀ c ∈ t.head?, c = '.') :
      ((x.name.name.reverse ++ t).takeWhile (· ≠ '.')).reverse = x.name.name := by
    rw [Text.takeWhile_append hname fun c hc => decide_eq_false fun hne => hne (ht c hc), List.reverse_reverse]
  rw [qualified]
  split
  · rw [unqualified, List.filter_append, List.filter_cons_of_pos (by decide), Identifier.filter_text,
      Identifier.filter_text, List.reverse_append, List.reverse_cons, List.append_assoc]
    exact htake fun c hc => (Option.some.inj hc).symm
  · rw [unqualified, Identifier.filter_text, ← List.append_nil x.name.name.reverse]
    exact htake nofun

end Creation

/-! ### Creations -/

/-- Whether a text reads as the conditional words with a name behind them. -/
def ReadsConditional (s : List Char) : Prop :=
  ∃ (w : Conditional) (more : List Char), s = w.text ++ more ∧ ¬ EndsName more

theorem readsConditional_iff : ReadsConditional s ↔ (dropIfNotExists s).bind qualifiedName? ≠ none := by
  constructor
  · rintro ⟨w, more, hs, hname⟩ hnone
    have hink : StartsInk more := by
      intro c hc
      refine Bool.eq_false_iff.mpr fun hblank => hname ?_
      obtain ⟨rest, rfl⟩ := List.head?_eq_some_iff.mp hc
      exact endsName_of_isBlank hblank
    have hwords : dropIfNotExists s = some more := dropIfNotExists_eq_some_iff.mpr ⟨w, hs, hink⟩
    rw [hwords, Option.bind_some] at hnone
    exact hname (endsName_of_qualifiedName? hnone)
  · intro hsome
    obtain ⟨name, hname⟩ := Option.ne_none_iff_exists'.mp hsome
    obtain ⟨more, hwords, hmore⟩ := Option.bind_eq_some_iff.mp hname
    obtain ⟨w, hs, -⟩ := dropIfNotExists_eq_some_iff.mp hwords
    refine ⟨w, more, hs, fun hends => ?_⟩
    cases (qualifiedName?_of_endsName hends).symm.trans hmore

theorem createdHere?_append (create : Keyword "CREATE") (table : Keyword "TABLE") (hs : StartsInk s) :
    createdHere? (create.text ++ (table.text ++ s)) =
      ((dropIfNotExists s).bind qualifiedName?).or (qualifiedName? s) := by
  have hcreate : dropWord "CREATE" (create.text ++ (table.text ++ s)) = some (table.text ++ s) :=
    dropWord_eq_some_iff.mpr ⟨create, rfl, table.startsInk rfl s⟩
  have htable : dropWord "TABLE" (table.text ++ s) = some s := dropWord_eq_some_iff.mpr ⟨table, rfl, hs⟩
  rw [createdHere?, hcreate]
  change (dropWord "TABLE" (table.text ++ s)).bind _ = _
  rw [htable, Option.bind_some]

theorem createdHere?_creation (x : Creation) (hrest : EndsName rest)
    (hplain : x.conditional = none → ¬ ReadsConditional (x.qualified ++ rest)) :
    createdHere? (x.text ++ rest) = some x.qualified := by
  have hname : qualifiedName? (x.qualified ++ rest) = some x.qualified :=
    qualifiedName?_append x.qualified_ne_nil x.nameChars_qualified hrest
  have hink := x.startsInk_qualified rest
  simp only [Creation.text, List.append_assoc]
  cases hconditional : x.conditional with
  | some w =>
    have hwords : dropIfNotExists (w.text ++ (x.qualified ++ rest)) = some (x.qualified ++ rest) :=
      dropIfNotExists_eq_some_iff.mpr ⟨w, rfl, hink⟩
    rw [Option.elim_some, createdHere?_append _ _ (w.startsInk _), hwords, Option.bind_some, hname, Option.some_or]
  | none =>
    have hnone : (dropIfNotExists (x.qualified ++ rest)).bind qualifiedName? = none :=
      Classical.byContradiction fun hsome => hplain hconditional (readsConditional_iff.mpr hsome)
    rw [Option.elim_none, List.nil_append, createdHere?_append _ _ hink, hnone, Option.none_or, hname]

theorem created?_of_createdHere? (h : createdHere? s = some name) : created? s = some name := by
  cases s with
  | nil => cases h
  | cons c s => rw [created?, h, Option.some_or]

/-- The start of a statement gives its name. -/
theorem tableName?_creation (x : Creation) (hrest : EndsName rest)
    (hplain : x.conditional = none → ¬ ReadsConditional (x.qualified ++ rest)) :
    tableName? (x.text ++ rest) = some x.name.name := by
  rw [tableName?, created?_of_createdHere? (createdHere?_creation x hrest hplain), Option.map_some,
    x.unqualified_qualified]
  cases hname : x.name.name with
  | nil => exact absurd hname x.name_ne_nil
  | cons c name => rfl

/-! ### Any text -/

theorem nameChars_of_createdHere? (h : createdHere? s = some name) : ∀ c ∈ name, isNameChar c = true := by
  simp only [createdHere?, Option.bind_eq_bind, Option.bind_eq_some_iff, Option.or_eq_some_iff] at h
  obtain ⟨_, -, _, -, ⟨_, -, hname⟩ | ⟨-, hname⟩⟩ := h
  · exact (nameChars_of_qualifiedName? hname).2
  · exact (nameChars_of_qualifiedName? hname).2

theorem nameChars_of_created? (h : created? s = some name) : ∀ c ∈ name, isNameChar c = true := by
  induction s with
  | nil => cases h
  | cons c s ih =>
    rw [created?, Option.or_eq_some_iff] at h
    rcases h with h | ⟨-, h⟩
    · exact nameChars_of_createdHere? h
    · exact ih h

/-- Nothing but word characters is left of a qualified name. -/
theorem isWord_of_mem_unqualified (h : ∀ c ∈ name, isNameChar c = true) (hc : c ∈ unqualified name) :
    isWord c = true := by
  have hall : ((name.filter (· ≠ '"')).reverse.takeWhile (· ≠ '.')).all (· ≠ '.') = true := List.all_takeWhile
  rw [unqualified, List.mem_reverse] at hc
  have hdot := List.all_eq_true.mp hall c hc
  have hmem := List.mem_reverse.mp (List.takeWhile_subset _ hc)
  obtain ⟨hmem, hquote⟩ := List.mem_filter.mp hmem
  have hname := h c hmem
  simp only [isNameChar, Bool.or_eq_true, decide_eq_true_eq] at hname hdot hquote
  rcases hname with (hword | hname) | hname
  · exact hword
  · exact absurd hname hdot
  · exact absurd hname hquote

/-- A name that is found is one of word characters, and not empty. -/
theorem word_of_tableName? (h : tableName? s = some name) : name ≠ [] ∧ ∀ c ∈ name, isWord c = true := by
  unfold tableName? at h
  split at h
  · cases h
  · rename_i hne
    obtain ⟨qualified, hcreated, rfl⟩ := Option.map_eq_some_iff.mp h
    refine ⟨fun hnil => hne ?_, fun c hc => isWord_of_mem_unqualified (nameChars_of_created? hcreated) hc⟩
    rw [h, hnil]

/-! ### What the pattern finds -/

/-- The pattern of a keyword and the blanks behind it. -/
def keywordPattern (keyword : String) : Pattern :=
  .both (.each (keyword.toList.map spells)) (.both (.each [isBlank]) (.most isBlank))

/-- The pattern of a created table's qualified name. -/
def creationSearch : Search where
  before := .both (keywordPattern "CREATE") (.both (keywordPattern "TABLE")
    (.perhaps (.both (keywordPattern "IF") (.both (keywordPattern "NOT") (keywordPattern "EXISTS")))))
  asked := .both (.each [isNameChar]) (.most isNameChar)
  after := .each []

variable {α : Type} {k : List Char → Option α}

theorem follow_spells (ks : List Char) (k : List Char → Option α) (s : List Char) :
    (Pattern.each (ks.map spells)).follow k s = (dropKeyword ks s).bind k := by
  induction ks generalizing s with
  | nil => simp [Pattern.follow, Pattern.ways, Pattern.eachWays, dropKeyword]
  | cons letter ks ih =>
    cases s with
    | nil => rfl
    | cons c s =>
      rw [List.map_cons, Pattern.follow_each_cons, ih, dropKeyword]
      split <;> rfl

/-- Of the blanks before what begins with none, none can be given up. -/
theorem follow_blanks_ink (h : ∀ c s, isBlank c = true → k (c :: s) = none) (s : List Char) :
    (Pattern.both (.each [isBlank]) (.most isBlank)).follow k s = (dropBlanks s).bind k := by
  rw [Pattern.follow_both]
  cases s with
  | nil => rfl
  | cons c s =>
    rw [Pattern.follow_each_cons, dropBlanks]
    split
    · rw [Option.bind_some, Text.trimLeft, ← Pattern.follow_most h]
      simp [Pattern.follow, Pattern.ways, Pattern.eachWays]
    · rfl

theorem follow_keyword (h : ∀ c s, isBlank c = true → k (c :: s) = none) (keyword : String) (s : List Char) :
    (keywordPattern keyword).follow k s = (dropWord keyword s).bind k := by
  have hblanks : (Pattern.both (.each [isBlank]) (.most isBlank)).follow k = fun s => (dropBlanks s).bind k :=
    funext (follow_blanks_ink h)
  rw [keywordPattern, Pattern.follow_both, follow_spells, hblanks, dropWord, Option.bind_assoc]

/-- No blank can be given up before another keyword either. -/
theorem follow_keywords {next : String} {p : Pattern} {after : List Char → Option α}
    (hnext : next.toList.head?.any Char.isUpper = true) (hp : p.follow k = fun s => (dropWord next s).bind after)
    (keyword : String) : (Pattern.both (keywordPattern keyword) p).follow k =
      fun s => (dropWord keyword s).bind fun s => (dropWord next s).bind after := by
  have hfails : ∀ c s, isBlank c = true → (dropWord next (c :: s)).bind after = none :=
    fun c s hc => by rw [dropWord_isBlank hnext hc, Option.bind_none]
  funext s
  rw [Pattern.follow_both, hp, follow_keyword hfails]

/-- Nothing is asked behind a name, so it is all characters of names there are. -/
theorem findSome?_nameWays (s : List Char) :
    (creationSearch.asked.ways s).findSome? (fun w => creationSearch.after.follow (fun _ => some w.1) w.2) =
      qualifiedName? s := by
  have hany : (fun w : Pattern.Way => creationSearch.after.follow (fun _ => some w.1) w.2) = fun w => some w.1 := rfl
  rw [hany, findSome?_some_eq, creationSearch, Pattern.head?_someWays, qualifiedName?]
  cases s.takeWhile isNameChar <;> rfl

theorem here?_creationSearch (s : List Char) : creationSearch.here? s = createdHere? s := by
  have hname : (fun s => (creationSearch.asked.ways s).findSome? fun w =>
      creationSearch.after.follow (fun _ => some w.1) w.2) = qualifiedName? := funext findSome?_nameWays
  have hfails : ∀ c s, isBlank c = true → qualifiedName? (c :: s) = none :=
    fun c s hc => qualifiedName?_of_endsName (endsName_of_isBlank hc)
  have hexists := funext (follow_keyword hfails "EXISTS")
  have hif := follow_keywords rfl (follow_keywords rfl hexists "NOT") "IF"
  have hperhaps : ∀ s, (Pattern.perhaps (.both (keywordPattern "IF") (.both (keywordPattern "NOT")
      (keywordPattern "EXISTS")))).follow qualifiedName? s =
      ((dropIfNotExists s).bind qualifiedName?).or (qualifiedName? s) := by
    intro s
    simp only [Pattern.follow_perhaps, hif, dropIfNotExists, Option.bind_assoc]
  have hblank : ∀ c s, isBlank c = true →
      ((dropIfNotExists (c :: s)).bind qualifiedName?).or (qualifiedName? (c :: s)) = none := by
    intro c s hc
    rw [dropIfNotExists, dropWord_isBlank rfl hc, hfails c s hc]
    rfl
  have htable : (Pattern.both (keywordPattern "TABLE") (.perhaps (.both (keywordPattern "IF")
      (.both (keywordPattern "NOT") (keywordPattern "EXISTS"))))).follow qualifiedName? =
      fun s => (dropWord "TABLE" s).bind fun s => ((dropIfNotExists s).bind qualifiedName?).or (qualifiedName? s) := by
    funext s
    rw [Pattern.follow_both, funext hperhaps, follow_keyword hblank]
  rw [Search.here?, hname, creationSearch, follow_keywords rfl htable]
  rfl

/-- The reading from left to right finds what the pattern finds, at the first place where it matches. -/
theorem created?_eq_find? (text : List Char) : created? text = creationSearch.find? text := by
  induction text with
  | nil => exact (here?_creationSearch []).symm
  | cons c s ih => rw [created?, Search.find?, here?_creationSearch, ih]

end SchemaAudit.Ddl
