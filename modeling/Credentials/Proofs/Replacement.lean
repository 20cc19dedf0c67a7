import Credentials.Files.FileSystem

/-! A file put in the place of another: it is there afterwards, every path that led somewhere still
does, and every file that could be read still can. -/

namespace Credentials.Files.FileSystem

variable {fs fs' : FileSystem} {place other : Place} {path : Path} {entry : Entry} {text : String}

theorem lookup_map_same {l : List (Place × Entry)} (h : (l.lookup place).isSome) :
    (l.map fun e => if e.1 = place then (place, entry) else e).lookup place = some entry := by
  induction l with
  | nil => simp at h
  | cons e l ih =>
    obtain ⟨p, x⟩ := e
    by_cases hp : p = place
    · simp [hp]
    · have hp' : (place == p) = false := by simpa using Ne.symm hp
      simp only [List.lookup_cons, hp'] at h
      simp [hp, hp', List.lookup_cons, ih h]

theorem lookup_map_other {l : List (Place × Entry)} (h : other ≠ place) :
    (l.map fun e => if e.1 = place then (place, entry) else e).lookup other = l.lookup other := by
  induction l with
  | nil => rfl
  | cons e l ih =>
    obtain ⟨p, x⟩ := e
    by_cases hp : p = place
    · have ho : (other == p) = false := by simpa [hp] using h
      have ho' : (other == place) = false := by simpa using h
      simp [hp, ho', List.lookup_cons, ih]
    · simp [hp, List.lookup_cons, ih]

theorem entry_setEntry_same (h : place ≠ []) :
    FileSystem.entry? (fs.setEntry place entry) place = some entry := by
  have he : place.isEmpty = false := by simpa using h
  simp only [ entry?, he, Bool.false_eq_true, if_false, setEntry]
  split
  · exact lookup_map_same ‹_›
  · next hn =>
    rw [Option.not_isSome_iff_eq_none] at hn
    simp [List.lookup_append, hn]

theorem entry_setEntry_other (h : other ≠ place) :
    FileSystem.entry? (fs.setEntry place entry) other = fs.entry? other := by
  unfold entry?
  by_cases he : other.isEmpty = true
  · simp [he]
  · have ho : (other == place) = false := by simpa using h
    simp only [he, Bool.false_eq_true, if_false, setEntry]
    split
    · exact lookup_map_other h
    · simp [List.lookup_append, ho, List.lookup_cons]

theorem steps_setEntry (hp : fs.entry? place ≠ some .directory) {pieces : List (List Char)}
    {start : Place} (h : pieces.foldlM fs.step start = .ok other) :
    pieces.foldlM (fs.setEntry place entry).step start = .ok other := by
  induction pieces generalizing start with
  | nil => exact h
  | cons piece pieces ih =>
    rw [List.foldlM_cons] at h ⊢
    have hs : start ≠ place := by
      rintro rfl
      have : fs.step start piece = .error .notFound ∨ fs.step start piece = .error .notADirectory := by
        unfold step
        cases hd : fs.entry? start with
        | none => exact Or.inl rfl
        | some e =>
          cases e with
          | file => exact Or.inr rfl
          | directory => exact absurd hd hp
      rcases this with hs | hs <;> (rw [hs] at h; cases h)
    have same : (fs.setEntry place entry).step start piece = fs.step start piece := by
      unfold step
      rw [entry_setEntry_other hs]
    rw [same]
    cases hn : fs.step start piece with
    | error => rw [hn] at h; cases h
    | ok next => rw [hn] at h; exact ih h

/-- Whatever takes the place of a file, no directory on the way to anything has gone. -/
theorem resolve_setEntry (hp : fs.entry? place ≠ some .directory) (h : fs.resolve path = .ok other) :
    (fs.setEntry place entry).resolve path = .ok other := by
  unfold resolve at h ⊢
  by_cases h₁ : path.contains (Char.ofNat 0) = true
  · rw [if_pos h₁] at h; cases h
  by_cases h₂ : path.isEmpty = true
  · rw [if_neg h₁, if_pos h₂] at h; cases h
  by_cases h₃ : 4096 ≤ (Text.utf8 path).length
  · rw [if_neg h₁, if_neg h₂, if_pos h₃] at h; cases h
  rw [if_neg h₁, if_neg h₂, if_neg h₃] at h ⊢
  exact steps_setEntry hp h

theorem replace_ok_iff :
    fs.replace path text = .ok fs' ↔
      ∃ place, fs.resolve path = .ok place ∧ endsInSlash path = false ∧
        fs.entry? place ≠ some .directory ∧ fs' = fs.setEntry place (.file (.text text)) := by
  unfold replace
  cases fs.resolve path with
  | error => simp [bind, Except.bind]
  | ok place =>
    by_cases hs : endsInSlash path = true
    · simp [bind, Except.bind, hs]
    · cases he : fs.entry? place with
      | none => simp [bind, Except.bind, hs, he, eq_comm]
      | some e => cases e <;> simp [bind, Except.bind, hs, he, eq_comm]

theorem find_file_iff {content : Content} :
    fs.find path = .ok (.file content) ↔
      ∃ place, fs.resolve path = .ok place ∧ endsInSlash path = false ∧
        fs.entry? place = some (.file content) := by
  unfold find
  cases fs.resolve path with
  | error => simp [bind, Except.bind]
  | ok place =>
    cases he : fs.entry? place with
    | none => simp [bind, Except.bind, he]
    | some e => cases e <;> by_cases hs : endsInSlash path = true <;> simp [bind, Except.bind, he, hs]

theorem read_ok_iff {content : Content} :
    fs.read path = .ok content ↔ fs.find path = .ok (.file content) := by
  unfold read
  cases fs.find path with
  | error => simp [bind, Except.bind]
  | ok e => cases e <;> simp [bind, Except.bind]

theorem readText_ok_iff : fs.readText path = .ok text ↔ fs.read path = .ok (.text text) := by
  unfold readText
  cases fs.read path with
  | error => simp [bind, Except.bind]
  | ok c => cases c <;> simp [bind, Except.bind]

theorem place_ne_root (h : fs.entry? place ≠ some .directory) : place ≠ [] := by
  rintro rfl
  exact h rfl

theorem readText_replace (h : fs.replace path text = .ok fs') : fs'.readText path = .ok text := by
  obtain ⟨place, hr, hs, hd, rfl⟩ := replace_ok_iff.mp h
  exact readText_ok_iff.mpr (read_ok_iff.mpr (find_file_iff.mpr
    ⟨place, resolve_setEntry hd hr, hs, entry_setEntry_same (place_ne_root hd)⟩))

/-- A file stays readable when another one, or itself, is replaced. -/
theorem read_ok_replace {other : Path} {content : Content} (h : fs.replace path text = .ok fs')
    (ho : fs.read other = .ok content) : ∃ content', fs'.read other = .ok content' := by
  obtain ⟨place, -, -, hd, rfl⟩ := replace_ok_iff.mp h
  obtain ⟨place', hr', hs', he'⟩ := find_file_iff.mp (read_ok_iff.mp ho)
  by_cases hp : place' = place
  · subst hp
    exact ⟨_, read_ok_iff.mpr (find_file_iff.mpr
      ⟨place', resolve_setEntry hd hr', hs', entry_setEntry_same (place_ne_root hd)⟩)⟩
  · exact ⟨content, read_ok_iff.mpr (find_file_iff.mpr
      ⟨place', resolve_setEntry hd hr', hs', by rw [entry_setEntry_other hp, he']⟩)⟩

theorem replace_replace (h : fs.replace path text = .ok fs') (again : String) :
    ∃ fs'', fs'.replace path again = .ok fs'' := by
  obtain ⟨place, hr, hs, hd, rfl⟩ := replace_ok_iff.mp h
  refine ⟨_, replace_ok_iff.mpr ⟨place, resolve_setEntry hd hr, hs, ?_, rfl⟩⟩
  rw [entry_setEntry_same (place_ne_root hd)]
  nofun

end Credentials.Files.FileSystem
