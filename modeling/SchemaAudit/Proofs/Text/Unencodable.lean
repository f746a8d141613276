import SchemaAudit.Text.Unencodable
import SchemaAudit.Proofs.Text.Half

/-! # Texts that can be encoded

A text is told to be outside an encoding exactly if one of its characters is: the first run that is looked for starts
at the first of them. -/

namespace SchemaAudit.Text

variable {p q : Char → Bool} {s t : List Char}

theorem drop_length_takeWhile (p : Char → Bool) (s : List Char) : s.drop (s.takeWhile p).length = s.dropWhile p := by
  conv => lhs; arg 2; rw [← List.takeWhile_append_dropWhile (p := p) (l := s)]
  exact List.drop_left

/-- Nothing is left to be told when all characters before the run are all there are. -/
theorem takeWhile_dropWhile_eq_nil_iff (h : ∀ c, p c = false → q c = true) :
    (s.dropWhile p).takeWhile q = [] ↔ ∀ c ∈ s, p c = true := by
  induction s with
  | nil => simp
  | cons c s ih =>
    cases hc : p c with
    | true => simp [hc, ih]
    | false => simp [hc, h c hc]

theorem firstRun?_eq_none_iff : firstRun? q s = none ↔ ∀ c ∈ s, q c = false := by
  have hrun := takeWhile_dropWhile_eq_nil_iff (p := fun c => !q c) (q := q) (s := s) (by simp)
  simp only [Bool.not_eq_true'] at hrun
  rw [← hrun, firstRun?, drop_length_takeWhile]
  cases (s.dropWhile fun c => !q c).takeWhile q <;> simp

theorem outsideUtf8?_eq_none_iff [StandIns] :
    outsideUtf8? s = none ↔ ∀ c ∈ s, isStandIn c = false := firstRun?_eq_none_iff

/-- A character that the name of a file may hold: one of UTF-8, or the half that stands for some byte. -/
def InNames [StandIns] (c : Char) : Prop := isStandIn c = false ∨ (0xdc80 ≤ codePoint c ∧ codePoint c ≤ 0xdcff)

theorem outsideNames?_eq_none_iff [StandIns] : outsideNames? s = none ↔ ∀ c ∈ s, InNames c := by
  have hrun := takeWhile_dropWhile_eq_nil_iff (s := s) (q := isStandIn)
    (p := fun c => !isStandIn c || (decide (0xdc80 ≤ codePoint c) && decide (codePoint c ≤ 0xdcff)))
    (fun c hc => by simp only [Bool.or_eq_false_iff, Bool.not_eq_false'] at hc; exact hc.1)
  have hnone : (∀ c ∈ s, InNames c) ↔
      ∀ c ∈ s, (!isStandIn c || (decide (0xdc80 ≤ codePoint c) && decide (codePoint c ≤ 0xdcff))) = true := by
    simp only [InNames, Bool.or_eq_true, Bool.not_eq_true', Bool.and_eq_true, decide_eq_true_eq]
  rw [hnone, ← hrun, outsideNames?, drop_length_takeWhile]
  cases (s.dropWhile fun c =>
    !isStandIn c || (decide (0xdc80 ≤ codePoint c) && decide (codePoint c ≤ 0xdcff))).takeWhile isStandIn <;> simp

end SchemaAudit.Text
