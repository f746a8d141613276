import SchemaAudit.Proofs.Lookup
import SchemaAudit.Proofs.Text.Blank
import SchemaAudit.Text.Case
import SchemaAudit.Text.Half

/-! # Blanks in capitals and small letters

No case mapping touches a blank or makes one, and a blank ends what a final sigma looks at. The words of a text in
capitals or in small letters are therefore the words of the text, each by itself in that case. -/

namespace SchemaAudit.Text

variable {s t w : List Char} {c d : Char} {expansions : List (Nat × List Nat)} {shifts : List Shift} {b : Bool}

/-! ### The tables -/

/-- Whether no blank is in any of the runs. -/
def apart (runs : List (Nat × Nat)) : Bool :=
  runs.all fun run => blankRuns.all fun blank => decide (blank.2 < run.1) || decide (run.2 < blank.1)

/-- The runs of characters that a table of case mappings says something of. -/
def sources (expansions : List (Nat × List Nat)) (shifts : List Shift) : List (Nat × Nat) :=
  expansions.map (fun e => (e.1, e.1)) ++ shifts.map fun s => (s.first, s.last)

/-- The runs of characters among which its images are. -/
def images (expansions : List (Nat × List Nat)) (shifts : List Shift) : List (Nat × Nat) :=
  expansions.flatMap (fun e => e.2.map fun n => (n, n)) ++
    shifts.map fun s => ((Int.ofNat s.first + s.offset).toNat, (Int.ofNat s.last + s.offset).toNat)

/-- Tables of case mappings that leave blanks as they are and make none. -/
structure KeepsBlanks (expansions : List (Nat × List Nat)) (shifts : List Shift) : Prop where
  sources_apart : apart (sources expansions shifts) = true
  images_apart : apart (images expansions shifts) = true

set_option maxRecDepth 2000 in
theorem keepsBlanks_upper : KeepsBlanks upperExpansions upperShifts := ⟨by decide, by decide⟩

set_option maxRecDepth 2000 in
theorem keepsBlanks_lower : KeepsBlanks lowerExpansions lowerShifts := ⟨by decide, by decide⟩

theorem inRuns_eq_true_iff {runs : List (Nat × Nat)} {n : Nat} :
    inRuns runs n = true ↔ ∃ r ∈ runs, r.1 ≤ n ∧ n ≤ r.2 := by
  simp [inRuns]

theorem not_between_of_apart {runs : List (Nat × Nat)} {run : Nat × Nat} {n : Nat} (h : apart runs = true)
    (hrun : run ∈ runs) (hn : inRuns blankRuns n = true) : ¬ (run.1 ≤ n ∧ n ≤ run.2) := by
  obtain ⟨blank, hblank, hlow, hhigh⟩ := inRuns_eq_true_iff.mp hn
  have hapart := List.all_eq_true.mp (List.all_eq_true.mp h run hrun) blank hblank
  simp only [Bool.or_eq_true, decide_eq_true_eq] at hapart
  omega

theorem isBlank_ofNat {n : Nat} (h : inRuns blankRuns n = false) : isBlank (Char.ofNat n) = false := by
  by_cases hn : n.isValidChar
  · rw [Char.ofNat, dif_pos hn]
    exact h
  · rw [Char.ofNat, dif_neg hn]
    rfl

theorem KeepsBlanks.mapped_of_isBlank (k : KeepsBlanks expansions shifts) (h : isBlank c = true) :
    mapped expansions shifts c = [c] := by
  have outside {run : Nat × Nat} (hrun : run ∈ sources expansions shifts) : ¬ (run.1 ≤ c.toNat ∧ c.toNat ≤ run.2) :=
    not_between_of_apart k.sources_apart hrun h
  have hexpansion : expansions.lookup c.toNat = none := by
    rw [List.lookup_eq_none_iff]
    intro e he
    have := outside (List.mem_append_left _ (List.mem_map_of_mem he))
    exact bne_iff_ne.mpr (by omega)
  have hshift : shifted shifts c.toNat = none := by
    rw [shifted, Option.map_eq_none_iff, List.find?_eq_none]
    intro s hs
    have := outside (List.mem_append_right _ (List.mem_map_of_mem hs))
    simp only [Bool.and_eq_true, decide_eq_true_eq, not_and]
    omega
  rw [mapped, hexpansion, hshift]

/-- A character of an image is the character that is mapped, or among the images of the tables. -/
theorem mem_mapped (hd : d ∈ mapped expansions shifts c) :
    d = c ∨ ∃ run ∈ images expansions shifts, ∃ n, (run.1 ≤ n ∧ n ≤ run.2) ∧ d = Char.ofNat n := by
  unfold mapped at hd
  split at hd
  · rename_i ns hlookup
    obtain ⟨n, hn, rfl⟩ := List.mem_map.mp hd
    have himage : (n, n) ∈ images expansions shifts :=
      List.mem_append_left _ (List.mem_flatMap.mpr ⟨_, mem_of_lookup hlookup, List.mem_map_of_mem hn⟩)
    exact Or.inr ⟨(n, n), himage, n, ⟨Nat.le_refl n, Nat.le_refl n⟩, rfl⟩
  · split at hd
    · rename_i n hshift
      obtain ⟨s, hfind, rfl⟩ := Option.map_eq_some_iff.mp hshift
      have hfits := List.find?_some hfind
      simp only [Bool.and_eq_true, decide_eq_true_eq] at hfits
      refine Or.inr ⟨_, List.mem_append_right _ (List.mem_map_of_mem (List.mem_of_find?_eq_some hfind)), _, ?_,
        List.mem_singleton.mp hd⟩
      simp only [Int.ofNat_eq_natCast]
      omega
    · exact Or.inl (List.mem_singleton.mp hd)

theorem mapped_ne_nil (h : ∀ e ∈ expansions, e.2 ≠ []) (c : Char) : mapped expansions shifts c ≠ [] := by
  unfold mapped
  split
  · rename_i ns hlookup
    exact fun hnil => h _ (mem_of_lookup hlookup) (List.map_eq_nil_iff.mp hnil)
  · split <;> exact List.cons_ne_nil _ _

theorem KeepsBlanks.isBlank_of_mem_mapped (k : KeepsBlanks expansions shifts) (h : isBlank c = false)
    (hd : d ∈ mapped expansions shifts c) : isBlank d = false := by
  rcases mem_mapped hd with rfl | ⟨run, hrun, n, hn, rfl⟩
  · exact h
  · exact isBlank_ofNat (Bool.eq_false_iff.mpr fun hblank => not_between_of_apart k.images_apart hrun hblank hn)

/-! ### Capitals -/

theorem upper_append (s t : List Char) : upper (s ++ t) = upper s ++ upper t := List.flatMap_append

theorem upper_of_blank (h : ∀ c ∈ s, isBlank c = true) : upper s = s := by
  induction s with
  | nil => rfl
  | cons c s ih =>
    rw [List.forall_mem_cons] at h
    have hc : upperChar c = [c] := keepsBlanks_upper.mapped_of_isBlank h.1
    rw [upper, List.flatMap_cons, hc]
    exact congrArg (c :: ·) (ih h.2)

theorem isBlank_of_mem_upper (h : ∀ c ∈ s, isBlank c = false) (hd : d ∈ upper s) : isBlank d = false := by
  obtain ⟨c, hc, hd⟩ := List.mem_flatMap.mp hd
  exact keepsBlanks_upper.isBlank_of_mem_mapped (h c hc) hd

theorem endsWord_upper (h : EndsWord t) : EndsWord (upper t) := by
  cases t with
  | nil => exact h
  | cons c t =>
    have hc : upperChar c = [c] := keepsBlanks_upper.mapped_of_isBlank (h c rfl)
    rw [upper, List.flatMap_cons, hc]
    exact endsWord_cons (h c rfl)

theorem upper_ne_nil (h : s ≠ []) : upper s ≠ [] := by
  have hexpansions : ∀ e ∈ upperExpansions, e.2 ≠ [] := by decide
  obtain ⟨c, s, rfl⟩ := List.exists_cons_of_ne_nil h
  rw [upper, List.flatMap_cons]
  exact List.append_ne_nil_of_left_ne_nil (mapped_ne_nil hexpansions c) _

set_option maxRecDepth 2000 in
/-- A mark of ASCII before the digits is the capital of itself alone. -/
theorem not_mem_upper (hpos : 0 < d.toNat) (hd : d.toNat < 0x30) (h : d ∉ s) : d ∉ upper s := by
  have himages : ∀ run ∈ images upperExpansions upperShifts, 0x30 ≤ run.1 := by decide
  intro hmem
  obtain ⟨c, hc, hmapped⟩ := List.mem_flatMap.mp hmem
  rcases mem_mapped hmapped with rfl | ⟨run, hrun, n, ⟨hlow, -⟩, rfl⟩
  · exact h hc
  · have hn := Nat.le_trans (himages run hrun) hlow
    by_cases hvalid : n.isValidChar
    · have hsame := toNat_ofNat hvalid
      omega
    · rw [Char.ofNat, dif_neg hvalid] at hpos
      cases hpos

/-! ### Small letters -/

theorem inRuns_of_isBlank {runs : List (Nat × Nat)} (hruns : apart runs = true) (h : isBlank c = true) :
    inRuns runs c.toNat = false := by
  refine Bool.eq_false_iff.mpr fun hin => ?_
  obtain ⟨run, hrun, hbetween⟩ := inRuns_eq_true_iff.mp hin
  exact not_between_of_apart hruns hrun h hbetween

theorem isCased_of_isBlank (h : isBlank c = true) : isCased c = false := inRuns_of_isBlank (by decide) h

set_option maxRecDepth 2000 in
theorem isCaseIgnorable_of_isBlank (h : isBlank c = true) : isCaseIgnorable c = false :=
  inRuns_of_isBlank (by decide) h

theorem lowerChar_of_isBlank (h : isBlank c = true) (b : Bool) (t : List Char) : lowerChar b c t = [c] := by
  have hsigma : c ≠ 'Σ' := by
    rintro rfl
    cases h
  rw [lowerChar, if_neg hsigma, keepsBlanks_lower.mapped_of_isBlank h]

theorem isBlank_of_mem_lowerChar (h : isBlank c = false) (hd : d ∈ lowerChar b c t) : isBlank d = false := by
  unfold lowerChar at hd
  split at hd
  · rw [List.mem_singleton.mp hd]
    split <;> rfl
  · exact keepsBlanks_lower.isBlank_of_mem_mapped h hd

/-- A character that no small form differs from and at which a word ends: a blank, a parenthesis. -/
structure Inert (c : Char) : Prop where
  not_ignorable : isCaseIgnorable c = false
  not_cased : isCased c = false
  lowerChar_eq : ∀ b t, lowerChar b c t = [c]

theorem inert_of_isBlank (h : isBlank c = true) : Inert c :=
  ⟨isCaseIgnorable_of_isBlank h, isCased_of_isBlank h, lowerChar_of_isBlank h⟩

set_option maxRecDepth 2000 in
theorem inert_parenthesis : Inert '(' where
  not_ignorable := by decide
  not_cased := by decide
  lowerChar_eq b t := by
    have hmapped : mapped lowerExpansions lowerShifts '(' = ['('] := by decide
    rw [lowerChar, if_neg (by decide), hmapped]

/-- What stands behind an inert character is of no account for the search for the end of a word. -/
theorem startsCased_append_cons (hc : Inert c) (s t : List Char) : startsCased (s ++ c :: t) = startsCased s := by
  induction s with
  | nil =>
    rw [List.nil_append, startsCased, List.dropWhile_cons_of_neg (by simp [hc.not_ignorable])]
    exact hc.not_cased
  | cons d s ih =>
    unfold startsCased at ih ⊢
    cases hd : isCaseIgnorable d with
    | true =>
      rw [List.cons_append, List.dropWhile_cons_of_pos hd, List.dropWhile_cons_of_pos hd]
      exact ih
    | false =>
      rw [List.cons_append, List.dropWhile_cons_of_neg (by simp [hd]), List.dropWhile_cons_of_neg (by simp [hd])]

/-- A part that ends at an inert character is in small letters what it is by itself. -/
theorem lowerFrom_append_cons (hc : Inert c) (b : Bool) (w t : List Char) :
    ∃ after, lowerFrom b (w ++ c :: t) = lowerFrom b w ++ lowerFrom after (c :: t) := by
  -- What `w` leaves behind reaches into `t`, but nothing of `t` reaches back: the search for a cased one ends at `c`.
  induction w generalizing b with
  | nil => exact ⟨b, rfl⟩
  | cons d w ih =>
    obtain ⟨after, hafter⟩ := ih (casedAfter b d)
    refine ⟨after, ?_⟩
    have hd : lowerChar b d (w ++ c :: t) = lowerChar b d w := by
      unfold lowerChar
      rw [startsCased_append_cons hc]
    rw [List.cons_append, lowerFrom, hafter, hd]
    exact (List.append_assoc _ _ _).symm

theorem isBlank_of_mem_lowerFrom (h : ∀ c ∈ s, isBlank c = false) (hd : d ∈ lowerFrom b s) : isBlank d = false := by
  induction s generalizing b with
  | nil => cases hd
  | cons c s ih =>
    rw [List.forall_mem_cons] at h
    rcases List.mem_append.mp hd with hd | hd
    · exact isBlank_of_mem_lowerChar h.1 hd
    · exact ih h.2 hd

theorem isBlank_of_mem_lower (h : ∀ c ∈ s, isBlank c = false) (hd : d ∈ lower s) : isBlank d = false :=
  isBlank_of_mem_lowerFrom h hd

/-- In small letters an inert character stays where it is, and what stands before it is what it is by itself. -/
theorem lower_append_cons (hc : Inert c) (w t : List Char) : ∃ more, lower (w ++ c :: t) = lower w ++ c :: more := by
  obtain ⟨after, hafter⟩ := lowerFrom_append_cons hc false w t
  rw [lower, hafter, lowerFrom, hc.lowerChar_eq]
  exact ⟨_, rfl⟩

end SchemaAudit.Text
