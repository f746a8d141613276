import SchemaAudit.Proofs.Diagnostics.Saved
import SchemaAudit.Proofs.Diagnostics.Violations

/-! # How loading a file ends

What comes of loading a file is told by the file alone: it is a document, the system refuses it, it is something else
than a document, or loading has no answer for it and fails in a way that nobody expects (`LoadEnding`, `tells_load_iff`).
Loading has an answer for a file whose path the system can be told of, whose bytes are UTF-8 and whose text keeps the
limits of the reader. -/

namespace SchemaAudit

variable [StandIns]

/-- A refusal for a limit of the reader and not for the text. -/
def Json.Refusal.IsLimit : Json.Refusal → Prop
  | .tooManyDigits _ => True
  | .tooDeep _ => True
  | _ => False

/-- A text that is JSON and holds a document, by itself or as its details. -/
def HoldsDocument (text : List Char) : Prop :=
  ∃ v ms, Json.parse text = .ok v ∧ Diagnostics.details v = .obj ms ∧ Diagnostics.wrongIn ms = []

/-- A file that loading has an answer for. -/
structure FileStore.Answers (s : FileStore) (path : Path) : Prop where
  sendable : path.IsSendable
  utf8 : ∀ bytes, s.readBytes path = .ok bytes → ∃ text, bytes = Text.encodeUtf8 text
  limits : ∀ text e, s.readText path = .ok text → Json.parse text = .error e → ¬ e.refusal.IsLimit

/-- What may come of loading a file. -/
inductive LoadEnding where
  | document
  | refused
  | misshapen
  | unforeseen
  deriving DecidableEq, Repr

namespace LoadEnding

/-- What loading gives for each ending. -/
def Tells (result : Except SavedFault Diagnostics) : LoadEnding → Prop
  | document => ∃ d, result = .ok d
  | refused => ∃ fault, result = .error fault ∧ fault.failure.kind = .connectivity
  | misshapen => ∃ fault, result = .error fault ∧ fault.failure.kind = .shape
  | unforeseen => ∃ fault name, result = .error fault ∧ fault.failure.kind = .unexpected name

/-- The files for each ending. -/
def IsOf (s : FileStore) (path : Path) : LoadEnding → Prop
  | document => ∃ text, s.readText path = .ok text ∧ HoldsDocument text
  | refused => ∃ refusal, s.readBytes path = .error (.refused refusal path)
  | misshapen => s.Answers path ∧ ∃ text, s.readText path = .ok text ∧ ¬ HoldsDocument text
  | unforeseen => ¬ s.Answers path

theorem Tells.unique {result : Except SavedFault Diagnostics} {e e' : LoadEnding} (h : e.Tells result)
    (h' : e'.Tells result) : e = e' := by
  cases e <;> cases e' <;> grind [Tells]

end LoadEnding

namespace FileStore

variable {s : FileStore} {path q : Path} {text : List Char} {refusal : SystemRefusal}

theorem answers_of_refused (hread : s.readBytes path = .error (.refused refusal q)) : s.Answers path := by
  refine ⟨?_, fun bytes hbytes => (nomatch hread.symm.trans hbytes), fun text e htext => ?_⟩
  · rcases s.readBytes_cases path with ⟨hsend, -⟩ | ⟨hsend, -⟩ | ⟨-, cause, hcause⟩
    · exact hsend
    · exact hsend
    · cases hread.symm.trans hcause
  · rw [readText, hread] at htext
    cases htext

end FileStore

namespace Diagnostics

variable {s : FileStore} {path : Path} {fault : SavedFault} {text : List Char}

/-! ### Endings -/

theorem exists_isOf (s : FileStore) (path : Path) : ∃ e : LoadEnding, e.IsOf s path := by
  by_cases answers : s.Answers path
  · rcases s.readBytes_cases path with ⟨-, bytes, hbytes⟩ | ⟨-, hrefused⟩ | ⟨hsend, -⟩
    · obtain ⟨chars, hchars⟩ := answers.utf8 bytes hbytes
      have hread := FileStore.readText_of_decoded hbytes (Text.decodeUtf8_eq_ok_iff.mpr hchars)
      by_cases hdoc : HoldsDocument (Text.universalNewlines chars)
      · exact ⟨.document, _, hread, hdoc⟩
      · exact ⟨.misshapen, answers, _, hread, hdoc⟩
    · exact ⟨.refused, hrefused⟩
    · exact absurd answers.sendable hsend
  · exact ⟨.unforeseen, answers⟩

theorem load_of_readText (hread : s.readText path = .ok text) : load s path = ofText path text := by
  rw [load, hread]

theorem load_of_refused {refusal : SystemRefusal} {q : Path} (h : s.readBytes path = .error (.refused refusal q)) :
    load s path = .error (.unreadable path (.refused refusal q)) := by
  rw [load, FileStore.readText, h]

theorem load_of_undecodable {bytes : List UInt8} {e : Text.Utf8Error} (hbytes : s.readBytes path = .ok bytes)
    (hdecode : Text.decodeUtf8 bytes = .error e) : load s path = .error (.notUtf8 e) := by
  rw [load, FileStore.readText, hbytes]
  simp only [hdecode]

theorem ofText_of_parse_ok {v : Json} (hparse : Json.parse text = .ok v) :
    ofText path text = (ofJson (details v)).mapError .shape := by
  rw [ofText, hparse]

theorem ofText_of_parse_error {e : Json.SyntaxError} (path : Path) (hparse : Json.parse text = .error e) :
    (¬ e.refusal.IsLimit ∧ ofText path text = .error (.notJson path e)) ∨
    (e.refusal.IsLimit ∧ (ofText path text = .error (.hugeNumber e) ∨ ofText path text = .error (.tooDeep e))) := by
  rw [ofText, hparse]
  obtain ⟨refusal, position⟩ := e
  cases refusal with
  | tooManyDigits count => exact Or.inr ⟨trivial, Or.inl rfl⟩
  | tooDeep container => exact Or.inr ⟨trivial, Or.inr rfl⟩
  | _ => exact Or.inl ⟨id, rfl⟩

/-- What a text without a document comes to, if the reader has no limit for it. -/
theorem ofText_of_not_holdsDocument (path : Path) (hdoc : ¬ HoldsDocument text)
    (keeps : ∀ e, Json.parse text = .error e → ¬ e.refusal.IsLimit) :
    (∃ e, ofText path text = .error (.notJson path e) ∧ ¬ e.refusal.IsLimit) ∨
      ∃ v e, ofJson (details v) = .error e ∧ ofText path text = .error (.shape e) := by
  cases hparse : Json.parse text with
  | error e =>
    rcases ofText_of_parse_error path hparse with ⟨hlimit, hload⟩ | ⟨hlimit, -⟩
    · exact Or.inl ⟨e, hload, hlimit⟩
    · exact absurd hlimit (keeps e hparse)
  | ok v =>
    refine Or.inr ⟨v, ?_⟩
    rw [ofText_of_parse_ok hparse]
    cases hread : ofJson (details v) with
    | error e => exact ⟨e, rfl, rfl⟩
    | ok d =>
      obtain ⟨ms, hms, hnone⟩ := ofJson_eq_ok_iff.mp ⟨d, hread⟩
      exact absurd ⟨v, ms, hparse, hms, hnone⟩ hdoc

theorem exists_load_unexpected (h : ¬ s.Answers path) : LoadEnding.unforeseen.Tells (load s path) := by
  rcases s.readBytes_cases path with ⟨hsend, bytes, hbytes⟩ | ⟨-, refusal, hrefused⟩ | ⟨-, cause, hunsent⟩
  · cases hdecode : Text.decodeUtf8 bytes with
    | error e => exact ⟨.notUtf8 e, _, load_of_undecodable hbytes hdecode, rfl⟩
    | ok chars =>
      have hread := FileStore.readText_of_decoded hbytes hdecode
      -- The path and the bytes are as they should be, so it is a limit that the text goes over.
      have hlimit : ∃ e, Json.parse (Text.universalNewlines chars) = .error e ∧ e.refusal.IsLimit := by
        refine Classical.byContradiction fun hno => h ⟨hsend, fun bytes' hbytes' => ?_, fun text e htext he hover => ?_⟩
        · cases hbytes.symm.trans hbytes'
          exact ⟨chars, Text.decodeUtf8_eq_ok_iff.mp hdecode⟩
        · cases hread.symm.trans htext
          exact hno ⟨e, he, hover⟩
      obtain ⟨e, hparse, hover⟩ := hlimit
      rw [load_of_readText hread]
      rcases ofText_of_parse_error path hparse with ⟨hkeeps, -⟩ | ⟨-, hload | hload⟩
      · exact absurd hover hkeeps
      · exact ⟨_, _, hload, rfl⟩
      · exact ⟨_, _, hload, rfl⟩
  · exact absurd (FileStore.answers_of_refused hrefused) h
  · refine ⟨.unsent cause, _, ?_, rfl⟩
    rw [load, FileStore.readText, hunsent]

theorem tells_of_isOf {e : LoadEnding} (h : e.IsOf s path) : e.Tells (load s path) := by
  cases e with
  | document =>
    obtain ⟨text, hread, v, ms, hparse, hms, hnone⟩ := h
    obtain ⟨d, hd⟩ := ofJson_eq_ok_iff.mpr ⟨ms, hms, hnone⟩
    refine ⟨d, ?_⟩
    rw [load_of_readText hread, ofText_of_parse_ok hparse, hd]
    rfl
  | refused =>
    obtain ⟨refusal, hrefused⟩ := h
    exact ⟨_, load_of_refused hrefused, rfl⟩
  | misshapen =>
    obtain ⟨answers, text, hread, hdoc⟩ := h
    have hload := load_of_readText hread
    rcases ofText_of_not_holdsDocument path hdoc fun e => answers.limits text e hread with
      ⟨e, hnotJson, -⟩ | ⟨v, e, -, hshape⟩
    · exact ⟨_, hload.trans hnotJson, rfl⟩
    · exact ⟨_, hload.trans hshape, rfl⟩
  | unforeseen => exact exists_load_unexpected h

/-- What is told of a file is what the file is. -/
theorem tells_load_iff {e : LoadEnding} : e.Tells (load s path) ↔ e.IsOf s path := by
  refine ⟨fun h => ?_, tells_of_isOf⟩
  obtain ⟨e', he'⟩ := exists_isOf s path
  cases h.unique (tells_of_isOf he')
  exact he'

end Diagnostics

end SchemaAudit
