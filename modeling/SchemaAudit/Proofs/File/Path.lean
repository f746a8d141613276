import SchemaAudit.File.Store
import SchemaAudit.Proofs.Text.Unencodable

/-! # Names in paths

A plain name taken from a path on is one more part of it (`child_of_plain`), and the path without that part is the
first one again. The text of a path can be handed to the system exactly if its root and its parts can, so a path can be
if one below it can. -/

namespace SchemaAudit

/-! ### Pieces -/

theorem Text.pieces_of_not_mem {sep : Char} {s : List Char} (h : sep ∉ s) : pieces sep s = [s] := by
  induction s with
  | nil => rfl
  | cons c s ih =>
    rw [List.mem_cons, not_or] at h
    rw [pieces, if_neg (Ne.symm h.1), ih h.2]

theorem Text.exists_pieces (sep : Char) (s : List Char) : ∃ piece more, pieces sep s = piece :: more := by
  cases s with
  | nil => exact ⟨[], [], rfl⟩
  | cons c s =>
    rw [pieces]
    split
    · exact ⟨_, _, rfl⟩
    · split <;> exact ⟨_, _, rfl⟩

/-- What has no separator goes into the first piece. -/
theorem Text.pieces_append {sep : Char} {s t piece : List Char} {more : List (List Char)} (h : sep ∉ s)
    (ht : pieces sep t = piece :: more) : pieces sep (s ++ t) = (s ++ piece) :: more := by
  induction s with
  | nil => exact ht
  | cons c s ih =>
    rw [List.mem_cons, not_or] at h
    rw [List.cons_append, pieces, if_neg (Ne.symm h.1), ih h.2]
    rfl

theorem forall_mem_intercalate {P : Char → Prop} {sep : Char} (hsep : P sep) (texts : List (List Char)) :
    (∀ c ∈ [sep].intercalate texts, P c) ↔ ∀ t ∈ texts, ∀ c ∈ t, P c := by
  induction texts with
  | nil => simp
  | cons t ts ih =>
    by_cases hts : ts = []
    · subst hts
      simp
    · rw [List.intercalate_cons_of_ne_nil hts]
      rw [List.forall_mem_append, List.forall_mem_append, List.forall_mem_cons, ih]
      simp [hsep]

/-! ### Texts that the system takes -/

/-- A character that the text of a path may hold. -/
def Sendable [StandIns] (c : Char) : Prop := Text.InNames c ∧ c ≠ '\x00'

theorem sendable_of_ascii [StandIns] {c : Char} (h : c.toNat < 0x80) (hz : c ≠ '\x00') : Sendable c :=
  ⟨Or.inl (Text.isStandIn_of_ascii h), hz⟩

theorem PathFault.ofText?_eq_none_iff [StandIns] {s : List Char} : ofText? s = none ↔ ∀ c ∈ s, Sendable c := by
  simp only [Sendable, forall_and, ← Text.outsideNames?_eq_none_iff]
  unfold ofText?
  split
  · simp_all
  · split
    · simp_all
    · simp_all only [List.contains_iff_mem, true_and, true_iff]
      rintro c hc rfl
      contradiction

namespace Path

variable {p : Path} {name : String}

/-- A path whose text can be handed to the system. -/
def IsSendable [StandIns] (p : Path) : Prop := PathFault.ofText? p.text.toList = none

theorem toList_text (h : p.root ≠ "" ∨ p.parts ≠ []) :
    p.text.toList = p.root.toList ++ ['/'].intercalate (p.parts.map String.toList) := by
  rw [text, if_neg (by simpa [Classical.or_iff_not_imp_left] using h), String.toList_append,
    String.toList_intercalate]
  rfl

theorem isSendable_iff [StandIns] :
    p.IsSendable ↔ (∀ c ∈ p.root.toList, Sendable c) ∧ ∀ part ∈ p.parts, ∀ c ∈ part.toList, Sendable c := by
  have slash : Sendable '/' := sendable_of_ascii (by decide) (by decide)
  rw [IsSendable, PathFault.ofText?_eq_none_iff]
  by_cases h : p.root = "" ∧ p.parts = []
  · have dot : Sendable '.' := sendable_of_ascii (by decide) (by decide)
    simp [text, h.1, h.2, dot]
  · rw [toList_text (by simpa [Classical.or_iff_not_imp_left] using h)]
    simp only [List.mem_append, or_imp, forall_and, forall_mem_intercalate slash, List.forall_mem_map]

theorem isSendable_of_ascii [StandIns] (hroot : p.root.toList.all (fun c => c.toNat < 0x80 && c ≠ '\x00') = true)
    (hparts : p.parts.all (fun part => part.toList.all fun c => c.toNat < 0x80 && c ≠ '\x00') = true) :
    p.IsSendable := by
  simp only [List.all_eq_true, Bool.and_eq_true, decide_eq_true_eq] at hroot hparts
  refine isSendable_iff.mpr ⟨fun c hc => ?_, fun part hpart c hc => ?_⟩
  · exact sendable_of_ascii (hroot c hc).1 (hroot c hc).2
  · exact sendable_of_ascii (hparts part hpart c hc).1 (hparts part hpart c hc).2

theorem IsSendable.parent [StandIns] (h : p.IsSendable) : p.parent.IsSendable := by
  rw [isSendable_iff] at h ⊢
  exact ⟨h.1, fun part hpart => h.2 part (List.dropLast_subset _ hpart)⟩

/-! ### Plain names -/

/-- A name that is one part of a path and leads down. -/
structure IsPlain (name : String) : Prop where
  ne_empty : name ≠ ""
  ne_dot : name ≠ "."
  ne_dots : name ≠ ".."
  no_slash : '/' ∉ name.toList

theorem ofText_of_plain (h : IsPlain name) : ofText name = ⟨"", [name]⟩ := by
  have hroot : rootOf name.toList = "" := by
    unfold rootOf
    split
    all_goals first
      | rfl
      | (rename_i heq; exact absurd (heq ▸ List.mem_cons_self) h.no_slash)
  have hne : name.toList ≠ [] := fun he => h.ne_empty (String.toList_inj.mp he)
  have hnd : name.toList ≠ ['.'] := fun he => h.ne_dot (String.toList_inj.mp he)
  simp [ofText, hroot, Text.pieces_of_not_mem h.no_slash, hne, hnd]

theorem child_of_plain (p : Path) (h : IsPlain name) : p.child name = ⟨p.root, p.parts ++ [name]⟩ := by
  rw [child, ofText_of_plain h]
  rfl

theorem parent_child (p : Path) (h : IsPlain name) : (p.child name).parent = p := by
  rw [child_of_plain p h]
  exact congrArg (Path.mk p.root) List.dropLast_concat

theorem isSendable_child_iff [StandIns] (h : IsPlain name) :
    (p.child name).IsSendable ↔ p.IsSendable ∧ ∀ c ∈ name.toList, Sendable c := by
  rw [child_of_plain p h, isSendable_iff, isSendable_iff]
  simp only [List.mem_append, List.mem_singleton, or_imp, forall_and, forall_eq, and_assoc]

theorem isSendable_child_of_ascii_iff [StandIns] (h : IsPlain name)
    (hascii : name.toList.all (fun c => c.toNat < 0x80 && c ≠ '\x00') = true) :
    (p.child name).IsSendable ↔ p.IsSendable := by
  simp only [List.all_eq_true, Bool.and_eq_true, decide_eq_true_eq] at hascii
  rw [isSendable_child_iff h]
  exact and_iff_left fun c hc => sendable_of_ascii (hascii c hc).1 (hascii c hc).2

end Path

end SchemaAudit
