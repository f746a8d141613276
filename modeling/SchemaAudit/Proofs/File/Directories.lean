import SchemaAudit.Proofs.File.Store

/-! # Making directories

Making a directory with all those above it only adds directories; where it succeeds the directory is there, and where
one is there already nothing changes. What could not be made cannot be made by trying again: the second attempt fails
too and leaves the store as the first one did (`ensureDirectories_again`). -/

namespace SchemaAudit.FileStore

variable [StandIns]

variable {s s' : FileStore} {p missing : Path} {d : Place} {fault : FileFault}

/-! ### One directory -/

theorem makeDirectory_of_place {q : Place} (h : s.place p = .ok q) : s.makeDirectory p = match s.node? q with
    | some _ => .error (.refused .fileExists p)
    | none => .ok (s.put q .directory) := by
  unfold makeDirectory
  rw [h]
  change (pure q >>= _) = _
  rw [pure_bind]
  cases s.node? q <;> rfl

theorem makeDirectory_of_error (h : s.place p = .error fault) : s.makeDirectory p = .error fault := by
  unfold makeDirectory
  rw [h]
  rfl

theorem isDirectory_of_place {q : Place} (h : s.place p = .ok q) :
    s.isDirectory p = .ok (s.node? q = some .directory) := by
  rw [isDirectory, h]

theorem ensureDirectory_of_hasDirectory (h : s.HasDirectory p d) : s.ensureDirectory p = .ok s := by
  rw [ensureDirectory, makeDirectory_of_place h.1, h.2]
  dsimp only
  rw [isDirectory_of_place h.1, decide_eq_true h.2]
  rfl

/-- What is in the way of a directory is refused; a path that has no place is refused for that. -/
theorem ensureDirectory_cases (s : FileStore) (p : Path) :
    (∃ q, s.place p = .ok q ∧ s.node? q = none ∧ s.ensureDirectory p = .ok (s.put q .directory)) ∨
    (∃ d, s.HasDirectory p d ∧ s.ensureDirectory p = .ok s) ∨
    (∃ q bytes, s.place p = .ok q ∧ s.node? q = some (.file bytes) ∧
      s.ensureDirectory p = .error (.refused .fileExists p)) ∨
    ∃ fault, s.place p = .error fault ∧ s.ensureDirectory p = .error fault := by
  cases hp : s.place p with
  | error fault =>
    refine Or.inr (Or.inr (Or.inr ⟨fault, rfl, ?_⟩))
    rw [ensureDirectory, makeDirectory_of_error hp]
    cases fault with
    | unsent fault => rfl
    | refused refusal path =>
      cases refusal
      case noEntry => rfl
      all_goals
        dsimp only
        rw [isDirectory, hp]
        rfl
  | ok q =>
    cases hn : s.node? q with
    | none =>
      refine Or.inl ⟨q, rfl, hn, ?_⟩
      rw [ensureDirectory, makeDirectory_of_place hp, hn]
    | some node =>
      cases node with
      | directory => exact Or.inr (Or.inl ⟨q, ⟨hp, hn⟩, ensureDirectory_of_hasDirectory ⟨hp, hn⟩⟩)
      | file bytes =>
        refine Or.inr (Or.inr (Or.inl ⟨q, bytes, rfl, hn, ?_⟩))
        rw [ensureDirectory, makeDirectory_of_place hp, hn]
        dsimp only
        rw [isDirectory_of_place hp, hn]
        rfl

theorem ensureDirectory_ok (h : s.ensureDirectory p = .ok s') :
    Kept (fun _ => False) s s' ∧ ∃ d, s'.HasDirectory p d := by
  rcases ensureDirectory_cases s p with ⟨q, hq, hnone, he⟩ | ⟨d, hd, he⟩ | ⟨q, bytes, -, -, he⟩ | ⟨fault, -, he⟩
  · cases h.symm.trans he
    have hroot : q ≠ [] := by
      rintro rfl
      cases hnone
    have hkept := kept_putDirectory hnone
    exact ⟨hkept, q, hkept.place hq, node?_put_self hroot⟩
  · cases h.symm.trans he
    exact ⟨Kept.refl s, d, hd⟩
  · cases h.symm.trans he
  · cases h.symm.trans he

theorem ensureDirectory_of_no_parent (hne : p.parts ≠ []) (h : ∀ d, ¬ s.HasDirectory p.parent d) :
    ∃ fault, s.ensureDirectory p = .error fault := by
  have hplace (q : Place) : s.place p ≠ .ok q := by
    intro hq
    obtain ⟨d, hd⟩ := hasDirectory_parent hq hne
    exact h d hd
  rcases ensureDirectory_cases s p with ⟨q, hq, -, -⟩ | ⟨d, hd, -⟩ | ⟨q, bytes, hq, -, -⟩ | ⟨fault, -, he⟩
  · exact absurd hq (hplace q)
  · exact absurd hd.1 (hplace d)
  · exact absurd hq (hplace q)
  · exact ⟨fault, he⟩

/-- Only a path that cannot be handed to the system is never handed to it. -/
theorem not_isSendable_of_unsent {cause : PathFault} (h : s.ensureDirectory p = .error (.unsent cause)) :
    ¬ p.IsSendable := by
  rcases ensureDirectory_cases s p with ⟨q, -, -, he⟩ | ⟨d, -, he⟩ | ⟨q, bytes, -, -, he⟩ | ⟨fault, hp, he⟩
  · cases h.symm.trans he
  · cases h.symm.trans he
  · cases h.symm.trans he
  · cases h.symm.trans he
    exact not_isSendable_of_place hp

/-! ### A directory and all above it -/

theorem ensureDirectories_made (h : s.ensureDirectory p = .ok s') : s.ensureDirectories p = (s', .ok ()) := by
  rw [ensureDirectories, h]

theorem ensureDirectories_refused (h : s.ensureDirectory p = .error fault)
    (hf : p.parts = [] ∨ ∀ q, fault ≠ .refused .noEntry q) : s.ensureDirectories p = (s, .error fault) := by
  rw [ensureDirectories, h]
  cases fault with
  | unsent fault => rfl
  | refused refusal q =>
    cases refusal
    case noEntry => exact dif_pos (hf.resolve_right fun hne => hne q rfl)
    all_goals rfl

theorem ensureDirectories_above (h : s.ensureDirectory p = .error (.refused .noEntry missing)) (hne : p.parts ≠ [])
    (ha : s.ensureDirectories p.parent = (s', .error fault)) : s.ensureDirectories p = (s', .error fault) := by
  rw [ensureDirectories, h]
  dsimp only
  rw [dif_neg hne, ha]

theorem ensureDirectories_below (h : s.ensureDirectory p = .error (.refused .noEntry missing)) (hne : p.parts ≠ [])
    (ha : s.ensureDirectories p.parent = (s', .ok ())) : s.ensureDirectories p = match s'.ensureDirectory p with
      | .ok s => (s, .ok ())
      | .error fault => (s', .error fault) := by
  cases hb : s'.ensureDirectory p with
  | ok s =>
    rw [ensureDirectories, h]
    dsimp only
    rw [dif_neg hne, ha]
    dsimp only
    rw [hb]
  | error fault =>
    rw [ensureDirectories, h]
    dsimp only
    rw [dif_neg hne, ha]
    dsimp only
    rw [hb]

theorem ensureDirectories_of_hasDirectory (h : s.HasDirectory p d) : s.ensureDirectories p = (s, .ok ()) :=
  ensureDirectories_made (ensureDirectory_of_hasDirectory h)

theorem ensureDirectories_kept (s : FileStore) (p : Path) : Kept (fun _ => False) s (s.ensureDirectories p).1 := by
  induction p using ensureDirectories.induct s with
  | case1 p s' h =>
    rw [ensureDirectories_made h]
    exact (ensureDirectory_ok h).1
  | case2 p q h hp =>
    rw [ensureDirectories_refused h (Or.inl hp)]
    exact Kept.refl s
  | case3 p q h hp s1 fault ha ih =>
    rw [ensureDirectories_above h hp ha]
    rwa [ha] at ih
  | case4 p q h hp s1 ha s2 hb ih =>
    rw [ensureDirectories_below h hp ha, hb]
    rw [ha] at ih
    exact ih.trans (ensureDirectory_ok hb).1
  | case5 p q h hp s1 ha fault hb ih =>
    rw [ensureDirectories_below h hp ha, hb]
    rwa [ha] at ih
  | case6 p fault hf h =>
    rw [ensureDirectories_refused h (Or.inr hf)]
    exact Kept.refl s

theorem hasDirectory_of_ensureDirectories (h : s.ensureDirectories p = (s', .ok ())) : ∃ d, s'.HasDirectory p d := by
  cases he : s.ensureDirectory p with
  | ok s1 =>
    cases h.symm.trans (ensureDirectories_made he)
    exact (ensureDirectory_ok he).2
  | error fault =>
    by_cases hf : p.parts = [] ∨ ∀ q, fault ≠ .refused .noEntry q
    · cases h.symm.trans (ensureDirectories_refused he hf)
    · simp only [not_or, Classical.not_forall, Decidable.not_not] at hf
      obtain ⟨hne, q, rfl⟩ := hf
      rcases ha : s.ensureDirectories p.parent with ⟨s1, fault | ⟨⟨⟩⟩⟩
      · cases h.symm.trans (ensureDirectories_above he hne ha)
      · rw [ensureDirectories_below he hne ha] at h
        cases hb : s1.ensureDirectory p with
        | ok s2 =>
          rw [hb] at h
          cases h
          exact (ensureDirectory_ok hb).2
        | error fault =>
          rw [hb] at h
          cases h

/-- Trying again to make what could not be made changes nothing more. -/
theorem ensureDirectories_again (h : s.ensureDirectories p = (s', .error fault)) :
    ∃ fault', s'.ensureDirectories p = (s', .error fault') := by
  induction p using ensureDirectories.induct s generalizing s' fault with
  | case1 p s' hm => cases h.symm.trans (ensureDirectories_made hm)
  | case2 p q he hp =>
    cases h.symm.trans (ensureDirectories_refused he (Or.inl hp))
    exact ⟨_, h⟩
  | case3 p q he hp s1 fault ha ih =>
    cases h.symm.trans (ensureDirectories_above he hp ha)
    obtain ⟨fault', hagain⟩ := ih ha
    -- what is above is still missing, so the directory itself cannot be made at once either
    have habove (d : Place) : ¬ s1.HasDirectory p.parent d := by
      intro hd
      cases hagain.symm.trans (ensureDirectories_of_hasDirectory hd)
    obtain ⟨fault1, he1⟩ := ensureDirectory_of_no_parent hp habove
    by_cases hf : ∀ q, fault1 ≠ .refused .noEntry q
    · exact ⟨fault1, ensureDirectories_refused he1 (Or.inr hf)⟩
    · simp only [Classical.not_forall, Decidable.not_not] at hf
      obtain ⟨q1, rfl⟩ := hf
      exact ⟨fault', ensureDirectories_above he1 hp hagain⟩
  | case4 p q he hp s1 ha s2 hb ih =>
    rw [ensureDirectories_below he hp ha, hb] at h
    cases h
  | case5 p q he hp s1 ha fault1 hb ih =>
    rw [ensureDirectories_below he hp ha, hb] at h
    cases h
    by_cases hf : ∀ q, fault1 ≠ .refused .noEntry q
    · exact ⟨fault1, ensureDirectories_refused hb (Or.inr hf)⟩
    · simp only [Classical.not_forall, Decidable.not_not] at hf
      obtain ⟨q1, rfl⟩ := hf
      obtain ⟨d, hd⟩ := hasDirectory_of_ensureDirectories ha
      refine ⟨.refused .noEntry q1, ?_⟩
      rw [ensureDirectories_below hb hp (ensureDirectories_of_hasDirectory hd), hb]
  | case6 p fault hf he =>
    cases h.symm.trans (ensureDirectories_refused he (Or.inr hf))
    exact ⟨_, h⟩

/-- What can be handed to the system is refused by it, if it cannot be made. -/
theorem refused_of_ensureDirectories (hs : p.IsSendable) (h : s.ensureDirectories p = (s', .error fault)) :
    ∃ refusal q, fault = .refused refusal q := by
  induction p using ensureDirectories.induct s generalizing s' fault with
  | case1 p s' hm => cases h.symm.trans (ensureDirectories_made hm)
  | case2 p q he hp =>
    cases h.symm.trans (ensureDirectories_refused he (Or.inl hp))
    exact ⟨_, _, rfl⟩
  | case3 p q he hp s1 fault ha ih =>
    cases h.symm.trans (ensureDirectories_above he hp ha)
    exact ih hs.parent ha
  | case4 p q he hp s1 ha s2 hb ih =>
    rw [ensureDirectories_below he hp ha, hb] at h
    cases h
  | case5 p q he hp s1 ha fault1 hb ih =>
    rw [ensureDirectories_below he hp ha, hb] at h
    cases h
    cases fault1 with
    | refused refusal q => exact ⟨refusal, q, rfl⟩
    | unsent cause => exact absurd hs (not_isSendable_of_unsent hb)
  | case6 p fault1 hf he =>
    cases h.symm.trans (ensureDirectories_refused he (Or.inr hf))
    cases fault1 with
    | refused refusal q => exact ⟨refusal, q, rfl⟩
    | unsent cause => exact absurd hs (not_isSendable_of_unsent he)

/-- A path that cannot be handed to the system is told at once. -/
theorem ensureDirectories_of_not_isSendable (hs : ¬ p.IsSendable) :
    ∃ cause, s.ensureDirectories p = (s, .error (.unsent cause)) := by
  obtain ⟨cause, hp⟩ := place_of_not_isSendable (s := s) hs
  refine ⟨cause, ?_⟩
  rcases ensureDirectory_cases s p with ⟨q, hq, -⟩ | ⟨d, hd, -⟩ | ⟨q, bytes, hq, -⟩ | ⟨fault, hq, he⟩
  · cases hp.symm.trans hq
  · cases hp.symm.trans hd.1
  · cases hp.symm.trans hq
  · cases hp.symm.trans hq
    exact ensureDirectories_refused he (Or.inr fun q => by simp)

end SchemaAudit.FileStore
