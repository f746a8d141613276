import SchemaAudit.Proofs.File.Directories
import SchemaAudit.Proofs.Text.Utf8

/-! # Saving files in one directory

A file saved under a plain name in a directory is written whole, or the store is left with no more than new
directories in it, unless the text itself cannot be encoded or the device stops: then the file has lost what it held
(`SaveEnds`). What is saved is read back, and a file of another name in that directory keeps its bytes however the save
ends. -/

namespace SchemaAudit

/-- Whether the file was open when its writing failed. -/
def WriteFault.isOpened : WriteFault → Bool
  | .file _ => false
  | .notUtf8 _ => true
  | .stopped _ => true

namespace FileStore

variable {s s' : FileStore} {p : Path} {name other : String} {text : List Char} {bytes : List UInt8}
  {result : Except WriteFault Unit} {P : Place → Prop}

/-! ### Reading -/

theorem readBytes_of_place [StandIns] {place : Place} (h : s.place p = .ok place) : s.readBytes p =
    match s.node? place with
    | none => .error (.refused .noEntry p)
    | some .directory => .error (.refused .isDirectory p)
    | some (.file bytes) => if s.locked place then .error (.refused .accessDenied p) else .ok bytes := by
  unfold readBytes
  rw [h]
  change (match s.node? place with
    | none => _
    | some .directory => _
    | some (.file bytes) => _) = _
  cases s.node? place with
  | none => rfl
  | some node =>
    cases node with
    | directory => rfl
    | file bytes => rfl

theorem readBytes_of_error [StandIns] {fault : FileFault} (h : s.place p = .error fault) :
    s.readBytes p = .error fault := by
  unfold readBytes
  rw [h]
  rfl

theorem readBytes_eq_ok_iff [StandIns] :
    s.readBytes p = .ok bytes ↔ ∃ q, s.place p = .ok q ∧ s.locked q = false ∧ s.file? q = some bytes := by
  cases hp : s.place p with
  | error fault => simp [readBytes_of_error hp]
  | ok q =>
    simp only [readBytes_of_place hp, Except.ok.injEq, exists_eq_left', file?]
    cases s.node? q with
    | none => simp
    | some node =>
      cases node with
      | directory => simp
      | file own => cases s.locked q <;> simp

/-- The system gives the bytes of a file or refuses them by the name of the file, if it can be told of it. -/
theorem readBytes_cases [StandIns] (s : FileStore) (p : Path) :
    (p.IsSendable ∧ ∃ bytes, s.readBytes p = .ok bytes) ∨
    (p.IsSendable ∧ ∃ refusal, s.readBytes p = .error (.refused refusal p)) ∨
    (¬ p.IsSendable ∧ ∃ cause, s.readBytes p = .error (.unsent cause)) := by
  cases hplace : s.place p with
  | error fault =>
    have hread := readBytes_of_error hplace
    by_cases hsend : p.IsSendable
    · cases fault with
      | refused refusal q =>
        cases place_refused hplace
        exact Or.inr (Or.inl ⟨hsend, refusal, hread⟩)
      | unsent cause => exact absurd hsend (not_isSendable_of_place hplace)
    · obtain ⟨cause, hcause⟩ := place_of_not_isSendable hsend
      cases hplace.symm.trans hcause
      exact Or.inr (Or.inr ⟨hsend, cause, hread⟩)
  | ok q =>
    have hsend := (place_eq_ok_iff.mp hplace).1
    rw [readBytes_of_place hplace]
    split
    · exact Or.inr (Or.inl ⟨hsend, .noEntry, rfl⟩)
    · exact Or.inr (Or.inl ⟨hsend, .isDirectory, rfl⟩)
    · split
      · exact Or.inr (Or.inl ⟨hsend, .accessDenied, rfl⟩)
      · exact Or.inl ⟨hsend, _, rfl⟩

theorem readText_of_decoded [StandIns] {bytes : List UInt8} {chars : List Char} (hbytes : s.readBytes p = .ok bytes)
    (hdecode : Text.decodeUtf8 bytes = .ok chars) : s.readText p = .ok (Text.universalNewlines chars) := by
  rw [readText, hbytes]
  simp only [hdecode]

/-- A file that holds an encoded text is read as that text, if no line of it ends in a carriage return. -/
theorem readText_of_readBytes [StandIns] (hr : s.readBytes p = .ok (Text.encodeUtf8 text)) (hc : '\r' ∉ text) :
    s.readText p = .ok text := by
  rw [readText_of_decoded hr (Text.decodeUtf8_encodeUtf8 text), Text.universalNewlines_eq_self hc]

/-! ### Writing -/

theorem placeToWrite_of_place [StandIns] {q : Place} (h : s.place p = .ok q) : s.placeToWrite p =
    if s.node? q = some .directory then .error (.refused .isDirectory p)
    else if s.locked q then .error (.refused .accessDenied p) else .ok q := by
  unfold placeToWrite
  rw [h]
  change (pure q >>= _) = _
  rw [pure_bind]
  split
  · rw [if_pos ‹_›]
    rfl
  · rename_i hfree
    rw [if_neg hfree]
    rfl

theorem placeToWrite_of_error [StandIns] {fault : FileFault} (h : s.place p = .error fault) :
    s.placeToWrite p = .error fault := by
  unfold placeToWrite
  rw [h]
  rfl

theorem placeToWrite_eq_ok_iff [StandIns] {q : Place} :
    s.placeToWrite p = .ok q ↔ s.place p = .ok q ∧ s.node? q ≠ some .directory ∧ s.locked q = false := by
  cases hp : s.place p with
  | error fault => simp [placeToWrite_of_error hp]
  | ok r =>
    rw [placeToWrite_of_place hp]
    split
    · rename_i hdir
      refine ⟨(nomatch ·), fun ⟨hr, hfree, _⟩ => ?_⟩
      cases hr
      exact absurd hdir hfree
    · rename_i hfree
      split
      · rename_i hlocked
        refine ⟨(nomatch ·), fun ⟨hr, _, hunlocked⟩ => ?_⟩
        cases hr
        cases hlocked.symm.trans hunlocked
      · rename_i hunlocked
        refine ⟨fun h => ?_, fun h => h.1⟩
        cases h
        exact ⟨rfl, hfree, eq_false_of_ne_true hunlocked⟩

theorem placeToWrite_cases [StandIns] (s : FileStore) (p : Path) :
    (∃ fault, s.placeToWrite p = .error fault ∧ ∀ cause, fault = .unsent cause → ¬ p.IsSendable) ∨
    ∃ q, s.placeToWrite p = .ok q := by
  cases hp : s.place p with
  | error fault =>
    exact Or.inl ⟨fault, placeToWrite_of_error hp, fun cause hc => not_isSendable_of_place (hc ▸ hp)⟩
  | ok q =>
    rw [placeToWrite_of_place hp]
    split
    · exact Or.inl ⟨_, rfl, nofun⟩
    · split
      · exact Or.inl ⟨_, rfl, nofun⟩
      · exact Or.inr ⟨q, rfl⟩

theorem save_of_made [StandIns]
    (hn : Path.IsPlain name) (made : s.ensureDirectories p = (s', .ok ())) (text : List Char) :
    s.save (p.child name) text = s'.writeText (p.child name) text := by
  rw [save, Path.parent_child p hn, made]

theorem save_of_blocked [StandIns] {fault : FileFault} (hn : Path.IsPlain name)
    (blocked : s.ensureDirectories p = (s', .error fault)) (text : List Char) :
    s.save (p.child name) text = (s', .error (.file fault)) := by
  rw [save, Path.parent_child p hn, blocked]

theorem writeText_of_placeToWrite [StandIns] {q : Place} (hw : s.placeToWrite p = .ok q)
    (encodable : Text.outsideUtf8? text = none) : s.writeText p text =
      (s.put q (.file (s.taken q (Text.encodeUtf8 text))), s.taking q (Text.encodeUtf8 text)) := by
  rw [writeText, hw, encodable]

theorem taken_of_stops {q : Place} (h : s.stops q bytes = none) : s.taken q bytes = bytes := by
  rw [taken, h]

theorem taking_of_stops {q : Place} (h : s.stops q bytes = none) : s.taking q bytes = .ok () := by
  rw [taking, h]

/-- What comes of a write depends on the store only through the place that is written to and what the device does. -/
theorem writeText_congr [StandIns] (h : s.placeToWrite p = s'.placeToWrite p) (hstops : s.stops = s'.stops) :
    (s.writeText p text).2 = (s'.writeText p text).2 := by
  unfold writeText taking
  rw [h, hstops]
  split <;> rfl

theorem writeText_of_error [StandIns] {fault : FileFault} (hw : s.placeToWrite p = .error fault) :
    s.writeText p text = (s, .error (.file fault)) := by
  rw [writeText, hw]

/-- How a save ends: without the file, spoilt by a text that cannot be encoded, broken off by the device, or with the
file written. The system is the reason for the first, unless the path cannot be handed to it. -/
inductive SaveEnds [StandIns] (s : FileStore) (p : Path) (name : String) (text : List Char) :
    FileStore → Except WriteFault Unit → Prop
  | refused (fault : FileFault) (reason : ∀ cause, fault = .unsent cause → ¬ (p.child name).IsSendable) :
    SaveEnds s p name text (s.ensureDirectories p).1 (.error (.file fault))
  | spoilt {s1 : FileStore} {d : Place} {outside : Text.Unencodable} (made : s.ensureDirectories p = (s1, .ok ()))
    (below : s1.HasDirectory p d) (place : s1.placeToWrite (p.child name) = .ok (d ++ [name]))
    (unencodable : Text.outsideUtf8? text = some outside) :
    SaveEnds s p name text (s1.put (d ++ [name]) (.file [])) (.error (.notUtf8 outside))
  | stopped {s1 : FileStore} {d : Place} {refusal : SystemRefusal} {n : Nat}
    (made : s.ensureDirectories p = (s1, .ok ())) (below : s1.HasDirectory p d)
    (place : s1.placeToWrite (p.child name) = .ok (d ++ [name])) (encodable : Text.outsideUtf8? text = none)
    (stops : s1.stops (d ++ [name]) (Text.encodeUtf8 text) = some (refusal, n)) :
    SaveEnds s p name text (s1.put (d ++ [name]) (.file ((Text.encodeUtf8 text).take n))) (.error (.stopped refusal))
  | written {s1 : FileStore} {d : Place} (made : s.ensureDirectories p = (s1, .ok ()))
    (below : s1.HasDirectory p d) (place : s1.placeToWrite (p.child name) = .ok (d ++ [name]))
    (encodable : Text.outsideUtf8? text = none) (takes : s1.stops (d ++ [name]) (Text.encodeUtf8 text) = none) :
    SaveEnds s p name text (s1.put (d ++ [name]) (.file (Text.encodeUtf8 text))) (.ok ())

theorem saveEnds_of_save [StandIns] (hn : Path.IsPlain name) (h : s.save (p.child name) text = (s', result)) :
    SaveEnds s p name text s' result := by
  rcases hm : s.ensureDirectories p with ⟨s1, fault | ⟨⟨⟩⟩⟩
  · cases h.symm.trans (save_of_blocked hn hm text)
    have reason (cause : PathFault) (hc : fault = .unsent cause) : ¬ (p.child name).IsSendable := by
      intro hs
      obtain ⟨refusal, q, hr⟩ := refused_of_ensureDirectories ((Path.isSendable_child_iff hn).mp hs).1 hm
      cases hc.symm.trans hr
    have hrefused : SaveEnds s p name text (s.ensureDirectories p).1 (.error (.file fault)) := .refused fault reason
    rwa [hm] at hrefused
  · rw [save_of_made hn hm] at h
    rcases placeToWrite_cases s1 (p.child name) with ⟨fault, hw, reason⟩ | ⟨q, hw⟩
    · cases h.symm.trans (writeText_of_error hw)
      have hrefused : SaveEnds s p name text (s.ensureDirectories p).1 (.error (.file fault)) := .refused fault reason
      rwa [hm] at hrefused
    · obtain ⟨d, hd, rfl⟩ := place_child hn (placeToWrite_eq_ok_iff.mp hw).1
      cases ho : Text.outsideUtf8? text with
      | none =>
        rw [writeText_of_placeToWrite hw ho, taken, taking] at h
        cases hstops : s1.stops (d ++ [name]) (Text.encodeUtf8 text) with
        | none =>
          rw [hstops] at h
          cases h
          exact SaveEnds.written hm hd hw ho hstops
        | some stop =>
          rw [hstops] at h
          cases h
          exact SaveEnds.stopped hm hd hw ho hstops
      | some outside =>
        rw [writeText, hw, ho] at h
        cases h
        exact SaveEnds.spoilt hm hd hw ho

/-- Nothing is saved below a path that cannot be handed to the system, and the system is not the reason. -/
theorem save_of_not_isSendable [StandIns]
    (hn : Path.IsPlain name) (hp : ¬ p.IsSendable) (s : FileStore) (text : List Char) :
    ∃ cause, s.save (p.child name) text = (s, .error (.file (.unsent cause))) := by
  obtain ⟨cause, he⟩ := ensureDirectories_of_not_isSendable (s := s) hp
  exact ⟨cause, save_of_blocked hn he text⟩

theorem append_singleton_ne_nil {d : Place} : d ++ [name] ≠ [] :=
  List.append_ne_nil_of_right_ne_nil _ (List.cons_ne_nil _ _)

/-- What a save leaves as it was: everything, but for the file that it writes. -/
theorem SaveEnds.kept [StandIns] (h : SaveEnds s p name text s' result) :
    Kept (fun q => s'.place (p.child name) = .ok q) s s' := by
  have directories := ensureDirectories_kept s p
  have opened {s1 : FileStore} {d : Place} (bytes : List UInt8) (made : s.ensureDirectories p = (s1, .ok ()))
      (hplace : s1.placeToWrite (p.child name) = .ok (d ++ [name])) :
      Kept (fun q => (s1.put (d ++ [name]) (.file bytes)).place (p.child name) = .ok q) s
        (s1.put (d ++ [name]) (.file bytes)) := by
    obtain ⟨place, free, -⟩ := placeToWrite_eq_ok_iff.mp hplace
    rw [made] at directories
    have hput : Kept (fun q => q = d ++ [name]) s1 (s1.put (d ++ [name]) (.file bytes)) := kept_putFile free
    refine (directories.mono fun _ hq => hq.elim).trans (hput.mono fun q hq => ?_)
    rw [hq]
    exact hput.place place
  cases h with
  | refused fault reason => exact directories.mono fun _ hq => hq.elim
  | spoilt made below place unencodable => exact opened _ made place
  | stopped made below place encodable stops => exact opened _ made place
  | written made below place encodable takes => exact opened _ made place

/-- A path that leads to the same place as before, to the same file if it leads to one. -/
structure Untouched [StandIns] (p : Path) (s s' : FileStore) : Prop where
  place : ∀ q, s.place p = .ok q → s'.place p = .ok q
  locked : s'.locked = s.locked
  file : ∀ q, s'.place p = .ok q → s'.file? q = s.file? q

theorem Untouched.readBytes [StandIns] (h : Untouched p s s') (hr : s.readBytes p = .ok bytes) :
    s'.readBytes p = .ok bytes := by
  obtain ⟨q, hq, hunlocked, hbytes⟩ := readBytes_eq_ok_iff.mp hr
  refine readBytes_eq_ok_iff.mpr ⟨q, h.place q hq, ?_, (h.file q (h.place q hq)).trans hbytes⟩
  rw [h.locked, hunlocked]

/-- A file of another name in the same directory is not touched. -/
theorem SaveEnds.untouched [StandIns] (h : SaveEnds s p name text s' result) (hn : Path.IsPlain name)
    (ho : Path.IsPlain other) (hne : name ≠ other) : Untouched (p.child other) s s' :=
  ⟨fun _ hq => h.kept.place hq, h.kept.locked, fun q hq => h.kept.file q fun hself => place_child_ne hn ho hne hself hq rfl⟩

theorem SaveEnds.untouched_of_refused [StandIns]
    {fault : FileFault} (h : SaveEnds s p name text s' (.error (.file fault)))
    (own : Path) : Untouched own s s' := by
  cases h with
  | refused =>
    have directories := ensureDirectories_kept s p
    exact ⟨fun _ hq => directories.place hq, directories.locked, fun q _ => directories.file q id⟩

theorem readBytes_put [StandIns] {s1 : FileStore} {q : Place} (hplace : s1.placeToWrite p = .ok q) (hq : q ≠ []) :
    (s1.put q (.file bytes)).readBytes p = .ok bytes := by
  obtain ⟨place, free, unlocked⟩ := placeToWrite_eq_ok_iff.mp hplace
  exact readBytes_eq_ok_iff.mpr
    ⟨q, (kept_putFile free).place place, unlocked, file?_eq_some_iff.mpr (node?_put_self hq)⟩

theorem SaveEnds.readBytes_self [StandIns] (h : SaveEnds s p name text s' (.ok ())) :
    s'.readBytes (p.child name) = .ok (Text.encodeUtf8 text) := by
  cases h with
  | written made below place encodable takes => exact readBytes_put place append_singleton_ne_nil

/-- What is left of a file that was opened and not written: the start of the text, and nothing of what it held before. -/
theorem SaveEnds.readBytes_of_opened [StandIns] {fault : WriteFault} (h : SaveEnds s p name text s' (.error fault))
    (opened : fault.isOpened = true) :
    ∃ n, s'.readBytes (p.child name) = .ok ((Text.encodeUtf8 text).take n) := by
  cases h with
  | refused fault reason => cases opened
  | spoilt made below place unencodable => exact ⟨0, readBytes_put place append_singleton_ne_nil⟩
  | stopped made below place encodable stops => exact ⟨_, readBytes_put place append_singleton_ne_nil⟩

end FileStore

end SchemaAudit
