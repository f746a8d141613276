import Mathlib.Data.List.Basic
import SchemaAudit.Proofs.Text.Case

/-! # Small letters are taken once

No mapping moves what another one maps to, and both small forms of the sigma are their own small letters. A text in small
letters is therefore made of characters that stay as they are wherever they stand, and taking small letters again changes
nothing: `lower_lower`. -/

namespace SchemaAudit.Text

variable {s t : List Char} {c d : Char} {b : Bool} {n : Nat} {expansions : List (Nat × List Nat)} {shifts : List Shift}
  {move : Shift}

/-! ### The tables -/

/-- Where a shift moves a code point. -/
def Shift.target (s : Shift) (n : Nat) : Nat := (Int.ofNat n + s.offset).toNat

/-- Whether a shift moves nothing that another one moves something to: its run lies behind all of that or before it, or
steps over it. -/
def Shift.spares (t s : Shift) : Bool :=
  Nat.blt (s.target s.last) t.first || Nat.blt t.last (s.target s.first) ||
    (decide (s.first = s.last ∨ s.step % t.step = 0) && decide (t.first ≤ s.target s.first) &&
      decide ((s.target s.first - t.first) % t.step ≠ 0))

/-- Tables of case mappings none of which moves what another one maps to. -/
structure Settles (expansions : List (Nat × List Nat)) (shifts : List Shift) : Prop where
  targets_exist : (shifts.all fun s => decide (0 ≤ Int.ofNat s.first + s.offset)) = true
  shifts_spare : (shifts.all fun s => shifts.all fun t => t.spares s) = true
  expansions_spare : (shifts.all fun s => expansions.all fun e =>
    Nat.blt e.1 (s.target s.first) || Nat.blt (s.target s.last) e.1) = true
  expanded : (expansions.all fun e => e.2.all fun n => mapped expansions shifts (Char.ofNat n) = [Char.ofNat n]) = true
  zero : mapped expansions shifts (Char.ofNat 0) = [Char.ofNat 0]

theorem settles_lower : Settles lowerExpansions lowerShifts where
  targets_exist := by decide +kernel
  shifts_spare := by decide +kernel
  expansions_spare := by decide +kernel
  expanded := by decide +kernel
  zero := by decide +kernel

/-- A code point that a shift moves. -/
structure Shift.Moves (s : Shift) (n : Nat) : Prop where
  first_le : s.first ≤ n
  le_last : n ≤ s.last
  on_step : (n - s.first) % s.step = 0

theorem exists_moves_of_shifted {m : Nat} (h : shifted shifts n = some m) :
    ∃ s ∈ shifts, s.Moves n ∧ m = s.target n := by
  obtain ⟨s, hfind, rfl⟩ := Option.map_eq_some_iff.mp h
  have hfits := List.find?_some hfind
  simp only [Bool.and_eq_true, decide_eq_true_eq, beq_iff_eq] at hfits
  exact ⟨s, List.mem_of_find?_eq_some hfind, ⟨hfits.1.1, hfits.1.2, hfits.2⟩, rfl⟩

theorem shifted_eq_none (h : ∀ s ∈ shifts, ¬ s.Moves n) : shifted shifts n = none := by
  rw [shifted, Option.map_eq_none_iff, List.find?_eq_none]
  intro s hs hfits
  simp only [Bool.and_eq_true, decide_eq_true_eq, beq_iff_eq] at hfits
  exact h s hs ⟨hfits.1.1, hfits.1.2, hfits.2⟩

/-- The targets of a shift lie as far apart as what it moves. -/
theorem Shift.Moves.target_eq (h : move.Moves n) (exist : 0 ≤ Int.ofNat move.first + move.offset) :
    move.target n = move.target move.first + (n - move.first) ∧ move.target n ≤ move.target move.last := by
  have hfirst := h.first_le
  have hlast := h.le_last
  simp only [Shift.target, Int.ofNat_eq_natCast] at exist ⊢
  omega

/-- What a shift spares it does not move. -/
theorem Shift.Moves.not_moves_target {s t : Shift} (h : s.Moves n) (exist : 0 ≤ Int.ofNat s.first + s.offset)
    (spares : t.spares s = true) : ¬ t.Moves (s.target n) := by
  obtain ⟨htarget, hend⟩ := h.target_eq exist
  rintro ⟨hfirst, hlast, hstep⟩
  simp only [Shift.spares, Bool.or_eq_true, Bool.and_eq_true, Nat.blt_eq, decide_eq_true_eq] at spares
  rcases spares with (hbehind | hbefore) | ⟨⟨hregular, hlow⟩, hover⟩
  · omega
  · omega
  · -- The targets lie multiples of the step apart, so all of them are as far off the step as the first one is.
    have hdistance : (n - s.first) % t.step = 0 := by
      rcases hregular with hsingle | hdivides
      · have hsame : n - s.first = 0 := by
          have hle := h.le_last
          omega
        rw [hsame, Nat.zero_mod]
      · exact Nat.mod_eq_zero_of_dvd
          (Nat.dvd_trans (Nat.dvd_of_mod_eq_zero hdivides) (Nat.dvd_of_mod_eq_zero h.on_step))
    have hsum : s.target n - t.first = (s.target s.first - t.first) + (n - s.first) := by omega
    rw [hsum, Nat.add_mod, hdistance, Nat.add_zero, Nat.mod_mod] at hstep
    exact hover hstep

/-- A code point that no mapping says anything of stays as it is. -/
theorem Settles.mapped_ofNat (k : Settles expansions shifts) (hexpansions : ∀ e ∈ expansions, e.1 ≠ n)
    (hshifts : ∀ s ∈ shifts, ¬ s.Moves n) : mapped expansions shifts (Char.ofNat n) = [Char.ofNat n] := by
  by_cases hvalid : n.isValidChar
  · have hlookup : expansions.lookup n = none := by
      rw [List.lookup_eq_none_iff]
      intro e he
      exact bne_iff_ne.mpr (hexpansions e he).symm
    rw [mapped, toNat_ofNat hvalid, hlookup, shifted_eq_none hshifts]
  · have hzero : Char.ofNat n = Char.ofNat 0 := by
      rw [Char.ofNat, dif_neg hvalid]
      rfl
    rw [hzero]
    exact k.zero

/-- What a character is mapped to stays as it is. -/
theorem Settles.mapped_of_mem (k : Settles expansions shifts) (h : d ∈ mapped expansions shifts c) :
    mapped expansions shifts d = [d] := by
  unfold mapped at h
  split at h
  · rename_i ns hlookup
    obtain ⟨n, hn, rfl⟩ := List.mem_map.mp h
    have hexpanded := List.all_eq_true.mp (List.all_eq_true.mp k.expanded _ (mem_of_lookup hlookup)) n hn
    exact of_decide_eq_true hexpanded
  · rename_i hlookup
    split at h
    · rename_i m hshifted
      cases List.mem_singleton.mp h
      obtain ⟨s, hs, hmoves, rfl⟩ := exists_moves_of_shifted hshifted
      have exist := of_decide_eq_true (List.all_eq_true.mp k.targets_exist s hs)
      obtain ⟨htarget, hend⟩ := hmoves.target_eq exist
      refine k.mapped_ofNat (fun e he heq => ?_) fun t ht => ?_
      · have hspare := List.all_eq_true.mp (List.all_eq_true.mp k.expansions_spare s hs) e he
        simp only [Bool.or_eq_true, Nat.blt_eq] at hspare
        omega
      · have hspare := List.all_eq_true.mp (List.all_eq_true.mp k.shifts_spare s hs) t ht
        exact hmoves.not_moves_target exist hspare
    · rename_i hshifted
      cases List.mem_singleton.mp h
      rw [mapped, hlookup, hshifted]

/-! ### Small letters -/

/-- A character that is its own small letter. -/
def Settled (c : Char) : Prop := mapped lowerExpansions lowerShifts c = [c]

set_option maxRecDepth 4000 in
theorem Settled.lowerChar_eq (h : Settled c) (b : Bool) (t : List Char) : lowerChar b c t = [c] := by
  have hsigma : c ≠ 'Σ' := by
    rintro rfl
    have hmoved : mapped lowerExpansions lowerShifts 'Σ' = ['σ'] := by decide
    cases hmoved.symm.trans h
  rw [lowerChar, if_neg hsigma]
  exact h

set_option maxRecDepth 4000 in
theorem settled_of_mem_lowerChar (h : d ∈ lowerChar b c t) : Settled d := by
  unfold lowerChar at h
  split at h
  · rw [List.mem_singleton] at h
    subst h
    have hforms : Settled 'ς' ∧ Settled 'σ' := ⟨show _ = _ by decide, show _ = _ by decide⟩
    split
    · exact hforms.1
    · exact hforms.2
  · exact settles_lower.mapped_of_mem h

theorem settled_of_mem_lowerFrom (h : d ∈ lowerFrom b s) : Settled d := by
  induction s generalizing b with
  | nil => cases h
  | cons c s ih =>
    rw [lowerFrom, List.mem_append] at h
    rcases h with h | h
    · exact settled_of_mem_lowerChar h
    · exact ih h

theorem lowerFrom_of_settled (h : ∀ c ∈ s, Settled c) (b : Bool) : lowerFrom b s = s := by
  induction s generalizing b with
  | nil => rfl
  | cons c s ih =>
    rw [List.forall_mem_cons] at h
    rw [lowerFrom, h.1.lowerChar_eq, ih h.2, List.singleton_append]

/-- A text in small letters is in small letters what it is. -/
theorem lower_lower (s : List Char) : lower (lower s) = lower s :=
  lowerFrom_of_settled (fun _ => settled_of_mem_lowerFrom) false

/-! ### The ends of a text -/

theorem lowerChar_ne_nil (b : Bool) (c : Char) (t : List Char) : lowerChar b c t ≠ [] := by
  have hexpansions : ∀ e ∈ lowerExpansions, e.2 ≠ [] := by decide
  unfold lowerChar
  split
  · exact List.cons_ne_nil _ _
  · exact mapped_ne_nil hexpansions c

theorem lower_ne_nil (h : s ≠ []) : lower s ≠ [] := by
  obtain ⟨c, s, rfl⟩ := List.exists_cons_of_ne_nil h
  rw [lower, lowerFrom]
  exact List.append_ne_nil_of_left_ne_nil (lowerChar_ne_nil _ _ _) _

/-- The last character of a text makes the end of the text in small letters. -/
theorem lowerFrom_concat (b : Bool) (s : List Char) (c : Char) :
    ∃ before after, lowerFrom b (s ++ [c]) = before ++ lowerChar after c [] := by
  induction s generalizing b with
  | nil => exact ⟨[], b, by rw [List.nil_append, lowerFrom, lowerFrom, List.append_nil, List.nil_append]⟩
  | cons d s ih =>
    obtain ⟨before, after, hlower⟩ := ih (casedAfter b d)
    exact ⟨lowerChar b d (s ++ [c]) ++ before, after, by rw [List.cons_append, lowerFrom, hlower, List.append_assoc]⟩

/-- A text without blanks at its ends has none there in small letters. -/
theorem trim_lower (hfirst : ∀ c ∈ s.head?, isBlank c = false) (hlast : ∀ c ∈ s.getLast?, isBlank c = false) :
    trim (lower s) = lower s := by
  refine trim_of_ends (fun d hd => ?_) fun d hd => ?_
  · cases s with
    | nil => cases hd
    | cons c s =>
      rw [lower, lowerFrom, List.head?_append_of_ne_nil _ (lowerChar_ne_nil _ _ _)] at hd
      exact isBlank_of_mem_lowerChar (hfirst c rfl) (List.mem_of_mem_head? hd)
  · rcases List.eq_nil_or_concat s with rfl | ⟨s, c, rfl⟩
    · cases hd
    · rw [List.concat_eq_append] at hlast hd
      obtain ⟨before, after, hlower⟩ := lowerFrom_concat false s c
      rw [lower, hlower, List.getLast?_append_of_ne_nil _ (lowerChar_ne_nil _ _ _)] at hd
      exact isBlank_of_mem_lowerChar (hlast c List.getLast?_concat) (List.mem_of_getLast? hd)

theorem lower_trim_settled (s : List Char) : lower (trim (lower (trim s))) = lower (trim s) := by
  have htrim : trim (lower (trim s)) = lower (trim s) :=
    trim_lower (fun _ => isBlank_of_mem_head?_trim) fun _ => isBlank_of_mem_getLast?_trimRight
  rw [htrim, lower_lower]

end SchemaAudit.Text
