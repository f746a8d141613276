import SchemaAudit.Proofs.File.Saving

/-! # Files gathered in a directory

The files of a folder are saved in some order, each of them any number of times. The first save makes the directory,
and the others find it there or fail as that one did; so a save comes to what it comes to alone
(`Gathered.save_result`), and which files there are in the end depends only on which of them were saved
(`Gathered.file?_congr`). -/

namespace SchemaAudit

variable [StandIns]

/-- The files of a directory: each has a name of its own, and a text. -/
structure Folder (α : Type) where
  path : Path
  name : α → String
  text : α → List Char
  plain : ∀ x, Path.IsPlain (name x)
  distinct : ∀ {x y}, name x = name y → x = y

namespace Folder

variable {α : Type} {f : Folder α} {s₀ s s' : FileStore} {x y : α} {xs ys : List α} {q r : Place}

/-- The path of a file. -/
def file (f : Folder α) (x : α) : Path := f.path.child (f.name x)

/-- A store after a file was saved, and what came of it. -/
def save (f : Folder α) (s : FileStore) (x : α) : FileStore × Except WriteFault Unit := s.save (f.file x) (f.text x)

/-! ### Where files go -/

/-- The place that a file is written to once the directory is made. -/
def Spot (f : Folder α) (s₀ : FileStore) (x : α) (q : Place) : Prop :=
  ∃ s, s₀.ensureDirectories f.path = (s, .ok ()) ∧ s.placeToWrite (f.file x) = .ok q

theorem Spot.made (h : f.Spot s₀ x q) (made : s₀.ensureDirectories f.path = (s, .ok ())) :
    s.place (f.file x) = .ok q ∧ s.node? q ≠ some .directory ∧ s.locked q = false := by
  obtain ⟨s', made', hq⟩ := h
  cases made.symm.trans made'
  exact FileStore.placeToWrite_eq_ok_iff.mp hq

theorem Spot.unique (hq : f.Spot s₀ x q) (hr : f.Spot s₀ x r) : q = r := by
  obtain ⟨s, made, -⟩ := id hq
  cases (hq.made made).1.symm.trans (hr.made made).1
  rfl

/-- Two files are not written to one place. -/
theorem Spot.injective (hx : f.Spot s₀ x q) (hy : f.Spot s₀ y q) : x = y := by
  obtain ⟨s, made, -⟩ := id hx
  obtain ⟨d, hd, rfl⟩ := FileStore.place_child (f.plain x) (hx.made made).1
  obtain ⟨e, he, heq⟩ := FileStore.place_child (f.plain y) (hy.made made).1
  cases hd.1.symm.trans he.1
  rw [List.append_cancel_left_eq, List.cons.injEq] at heq
  exact f.distinct heq.1

/-- A file whose text can be encoded, if it comes to that. -/
def Encodes (f : Folder α) (s₀ : FileStore) (x : α) : Prop := ∀ q, f.Spot s₀ x q → Text.outsideUtf8? (f.text x) = none

/-- A file is opened exactly if it has a place; its text may still be in the way of writing it, if it cannot be encoded,
or the device, if it stops. -/
theorem save_cases (f : Folder α) (s₀ : FileStore) (x : α) :
    (∃ fault, (∀ q, ¬ f.Spot s₀ x q) ∧ (f.save s₀ x).2 = .error (.file fault)) ∨
    (∃ q outside, f.Spot s₀ x q ∧ (f.save s₀ x).2 = .error (.notUtf8 outside)) ∨
    ∃ q, f.Spot s₀ x q ∧ Text.outsideUtf8? (f.text x) = none ∧
      (f.save s₀ x).2 = s₀.taking q (Text.encodeUtf8 (f.text x)) := by
  rcases made : s₀.ensureDirectories f.path with ⟨s₁, fault | ⟨⟨⟩⟩⟩
  · rw [save, file, FileStore.save_of_blocked (f.plain x) made]
    refine Or.inl ⟨fault, fun q ⟨s, made', _⟩ => ?_, rfl⟩
    cases made.symm.trans made'
  · have hstops : s₁.stops = s₀.stops := by
      have kept := FileStore.ensureDirectories_kept s₀ f.path
      rw [made] at kept
      exact kept.stops
    rw [save, file, FileStore.save_of_made (f.plain x) made]
    cases hw : s₁.placeToWrite (f.path.child (f.name x)) with
    | error fault =>
      refine Or.inl ⟨fault, fun q ⟨s, made', hq⟩ => ?_, by rw [FileStore.writeText_of_error hw]⟩
      cases made.symm.trans made'
      cases hw.symm.trans hq
    | ok q =>
      have hspot : f.Spot s₀ x q := ⟨s₁, made, hw⟩
      cases ho : Text.outsideUtf8? (f.text x) with
      | some outside => exact Or.inr (Or.inl ⟨q, outside, hspot, by rw [FileStore.writeText, hw, ho]⟩)
      | none =>
        refine Or.inr (Or.inr ⟨q, hspot, rfl, ?_⟩)
        rw [FileStore.writeText_of_placeToWrite hw ho, FileStore.taking, FileStore.taking, hstops]

/-! ### Once the directory is there -/

/-- A store that differs from the one in which the directory was made at the places of some files, and has there what
the device took of them. -/
structure Filled (f : Folder α) (s₀ s₁ : FileStore) (d : Place) (xs : List α) (s : FileStore) : Prop where
  made : s₀.ensureDirectories f.path = (s₁, .ok ())
  below : s₁.HasDirectory f.path d
  here : s.here = s₁.here
  locked : s.locked = s₁.locked
  stops : s.stops = s₁.stops
  own : ∀ x ∈ xs, ∀ q, f.Spot s₀ x q → s.node? q = some (.file (s₁.taken q (Text.encodeUtf8 (f.text x))))
  other : ∀ q, (∀ x ∈ xs, ¬ f.Spot s₀ x q) → s.node? q = s₁.node? q

namespace Filled

variable {s₁ : FileStore} {d : Place}

theorem kept (h : f.Filled s₀ s₁ d xs s) : FileStore.Kept (fun q => ∃ x ∈ xs, f.Spot s₀ x q) s₁ s := by
  refine ⟨h.here, h.locked, h.stops, fun q hq => ?_, fun q hP => ?_⟩
  · rw [h.other q fun x _ hspot => (hspot.made h.made).2.1 hq, hq]
  · rw [FileStore.file?, FileStore.file?, h.other q fun x hx hspot => hP ⟨x, hx, hspot⟩]

theorem ensureDirectories (h : f.Filled s₀ s₁ d xs s) : s.ensureDirectories f.path = (s, .ok ()) :=
  FileStore.ensureDirectories_of_hasDirectory (h.kept.hasDirectory h.below)

theorem placeToWrite (h : f.Filled s₀ s₁ d xs s) (y : α) : s.placeToWrite (f.file y) = s₁.placeToWrite (f.file y) := by
  have hplace : s.place (f.file y) = s₁.place (f.file y) :=
    FileStore.place_child_congr (f.plain y) h.below (h.kept.hasDirectory h.below)
  cases hp : s₁.place (f.file y) with
  | error fault => rw [FileStore.placeToWrite_of_error hp, FileStore.placeToWrite_of_error (hplace.trans hp)]
  | ok q =>
    rw [FileStore.placeToWrite_of_place hp, FileStore.placeToWrite_of_place (hplace.trans hp), h.locked]
    by_cases hspot : ∃ x ∈ xs, f.Spot s₀ x q
    · obtain ⟨x, hx, hspot⟩ := hspot
      rw [if_neg (hspot.made h.made).2.1, if_neg (by rw [h.own x hx q hspot]; nofun)]
    · rw [h.other q fun x hx hq => hspot ⟨x, hx, hq⟩]

/-- A file without a place changes nothing. -/
theorem append_of_no_spot (h : f.Filled s₀ s₁ d xs s) (hno : ∀ q, ¬ f.Spot s₀ y q) :
    f.Filled s₀ s₁ d (xs ++ [y]) s := by
  refine ⟨h.made, h.below, h.here, h.locked, h.stops, fun x hx q hspot => ?_, fun q hq => h.other q fun x hx => ?_⟩
  · rcases List.mem_append.mp hx with hx | hx
    · exact h.own x hx q hspot
    · rw [List.mem_singleton.mp hx] at hspot
      exact absurd hspot (hno q)
  · exact hq x (List.mem_append_left _ hx)

theorem append_of_spot (h : f.Filled s₀ s₁ d xs s) (hy : f.Spot s₀ y r) :
    f.Filled s₀ s₁ d (xs ++ [y]) (s.put r (.file (s₁.taken r (Text.encodeUtf8 (f.text y))))) := by
  have hroot : r ≠ [] := FileStore.ne_root_of_node?_ne (hy.made h.made).2.1
  refine ⟨h.made, h.below, h.here, h.locked, h.stops, fun x hx q hspot => ?_, fun q hq => ?_⟩
  · by_cases hqr : q = r
    · subst hqr
      rw [hspot.injective hy, FileStore.node?_put_self hroot]
    · rw [FileStore.node?_put_of_ne hqr]
      rcases List.mem_append.mp hx with hx | hx
      · exact h.own x hx q hspot
      · rw [List.mem_singleton.mp hx] at hspot
        exact absurd (hspot.unique hy) hqr
  · rw [FileStore.node?_put_of_ne, h.other q fun x hx => hq x (List.mem_append_left _ hx)]
    rintro rfl
    exact hq y (List.mem_append_right _ (List.mem_singleton_self y)) hy

theorem write (h : f.Filled s₀ s₁ d xs s) (encodes : f.Encodes s₀ y) :
    f.Filled s₀ s₁ d (xs ++ [y]) (s.writeText (f.file y) (f.text y)).1 := by
  cases hw : s.placeToWrite (f.file y) with
  | error fault =>
    rw [FileStore.writeText_of_error hw]
    refine h.append_of_no_spot fun q hq => ?_
    rw [h.placeToWrite y, FileStore.placeToWrite_eq_ok_iff.mpr (hq.made h.made)] at hw
    cases hw
  | ok q =>
    have hspot : f.Spot s₀ y q := ⟨s₁, h.made, (h.placeToWrite y).symm.trans hw⟩
    rw [FileStore.writeText_of_placeToWrite hw (encodes q hspot), FileStore.taken, h.stops]
    exact h.append_of_spot hspot

end Filled

/-! ### Stores with some of the files -/

/-- The stores that come of saving some files of a folder in some order: the one from the beginning, the one in which
the directory could not be made, and those in which it is there. -/
inductive Gathered (f : Folder α) (s₀ : FileStore) : List α → FileStore → Prop
  | untouched : Gathered f s₀ [] s₀
  | blocked {s : FileStore} {fault : FileFault} {xs : List α}
    (made : s₀.ensureDirectories f.path = (s, .error fault)) : Gathered f s₀ xs s
  | filled {s₁ s : FileStore} {d : Place} {xs : List α} (filled : f.Filled s₀ s₁ d xs s) : Gathered f s₀ xs s

theorem filled_of_made (made : s₀.ensureDirectories f.path = (s, .ok ())) : ∃ d, f.Filled s₀ s d [] s := by
  obtain ⟨d, hd⟩ := FileStore.hasDirectory_of_ensureDirectories made
  exact ⟨d, made, hd, rfl, rfl, rfl, fun _ hx => (nomatch hx), fun _ _ => rfl⟩

namespace Gathered

theorem kept (h : f.Gathered s₀ xs s) : FileStore.Kept (fun q => ∃ x ∈ xs, f.Spot s₀ x q) s₀ s := by
  have directories := (FileStore.ensureDirectories_kept s₀ f.path).mono (Q := fun q => ∃ x ∈ xs, f.Spot s₀ x q)
    fun _ hq => hq.elim
  cases h with
  | untouched => exact FileStore.Kept.refl _
  | blocked made =>
    rw [made] at directories
    exact directories
  | filled h =>
    rw [h.made] at directories
    exact directories.trans h.kept

/-- The directory can be made any number of times. -/
theorem ensureDirectories (h : f.Gathered s₀ xs s) : f.Gathered s₀ xs (s.ensureDirectories f.path).1 := by
  cases h with
  | untouched =>
    rcases made : s₀.ensureDirectories f.path with ⟨s₁, fault | ⟨⟨⟩⟩⟩
    · exact .blocked made
    · obtain ⟨d, hd⟩ := filled_of_made made
      exact .filled hd
  | blocked made =>
    obtain ⟨fault, hagain⟩ := FileStore.ensureDirectories_again made
    rw [hagain]
    exact .blocked made
  | filled h =>
    rw [h.ensureDirectories]
    exact .filled h

theorem save (h : f.Gathered s₀ xs s) (encodes : f.Encodes s₀ y) : f.Gathered s₀ (xs ++ [y]) (f.save s y).1 := by
  cases h with
  | untouched =>
    rcases made : s₀.ensureDirectories f.path with ⟨s₁, fault | ⟨⟨⟩⟩⟩
    · rw [Folder.save, file, FileStore.save_of_blocked (f.plain y) made]
      exact .blocked made
    · rw [Folder.save, file, FileStore.save_of_made (f.plain y) made]
      obtain ⟨d, hd⟩ := filled_of_made made
      exact .filled (hd.write encodes)
  | blocked made =>
    obtain ⟨fault, hagain⟩ := FileStore.ensureDirectories_again made
    rw [Folder.save, file, FileStore.save_of_blocked (f.plain y) hagain]
    exact .blocked made
  | filled h =>
    rw [Folder.save, file, FileStore.save_of_made (f.plain y) h.ensureDirectories]
    exact .filled (h.write encodes)

/-- A save comes to what it comes to alone. Only the reason why the directory cannot be made may be another one. -/
theorem save_result (h : f.Gathered s₀ xs s) (y : α) : (f.save s y).2 = (f.save s₀ y).2 ∨
    ∃ fault fault', (f.save s₀ y).2 = .error (.file fault) ∧ (f.save s y).2 = .error (.file fault') ∧
      (f.path.IsSendable → ∃ refusal path, fault' = .refused refusal path) := by
  cases h with
  | untouched => exact Or.inl rfl
  | @blocked _ fault _ made =>
    obtain ⟨fault', hagain⟩ := FileStore.ensureDirectories_again made
    refine Or.inr ⟨fault, fault', ?_, ?_, fun hs => FileStore.refused_of_ensureDirectories hs hagain⟩
    · exact congrArg Prod.snd (FileStore.save_of_blocked (f.plain y) made (f.text y))
    · exact congrArg Prod.snd (FileStore.save_of_blocked (f.plain y) hagain (f.text y))
  | filled h =>
    rw [Folder.save, Folder.save, file, FileStore.save_of_made (f.plain y) h.made,
      FileStore.save_of_made (f.plain y) h.ensureDirectories]
    exact Or.inl (FileStore.writeText_congr (h.placeToWrite y) h.stops)

end Gathered

end Folder

end SchemaAudit
