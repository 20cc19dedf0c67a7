import Credentials.Proofs.Opening

/-! What files hold, place by place. Opening a document makes directories and an empty lock file; no
place that the path of the document can lead to is the lock's, so no document comes or goes by it. -/

namespace Credentials

namespace Files.FileSystem

variable {fs fs' : FileSystem} {place other : Place} {path : Path} {front dots : List (List Char)}
  {name : List Char}

def content? (fs : FileSystem) (place : Place) : Option Content :=
  match fs.entry? place with
  | some (.file content) => some content
  | _ => none

theorem content_eq_some_iff {content : Content} :
    fs.content? place = some content ↔ fs.entry? place = some (.file content) := by
  rw [content?]
  cases fs.entry? place with
  | none => simp
  | some entry => cases entry <;> simp

theorem content_setEntry_other {entry : Entry} (h : other ≠ place) :
    (fs.setEntry place entry).content? other = fs.content? other := by
  rw [content?, entry_setEntry_other h, content?]

theorem content_makeDirectory (h : fs.makeDirectory path = .ok fs') (other : Place) :
    fs'.content? other = fs.content? other := by
  obtain ⟨place, -, hnone, rfl⟩ := makeDirectory_ok_iff.mp h
  by_cases ho : other = place
  · subst ho
    have hne : fs.entry? other ≠ some .directory := by simp [hnone]
    rw [content?, entry_setEntry_same (place_ne_root hne), content?, hnone]
  · exact content_setEntry_other ho

theorem content_makeDirectories (fuel : Nat) (fs : FileSystem) (path : Path) (other : Place) :
    (fs.makeDirectories fuel path).1.content? other = fs.content? other := by
  induction fuel generalizing fs path with
  | zero => rfl
  | succ fuel ih =>
    rw [makeDirectories]
    split
    · rfl
    split
    · next hmade => exact content_makeDirectory hmade other
    · split
      · rfl
      · next parent _ =>
        have habove := ih fs parent
        split
        · next hfault =>
          rw [hfault] at habove
          exact habove
        · next hmade =>
          rw [hmade] at habove
          split
          · next hlast => exact (content_makeDirectory hlast other).trans habove
          · exact habove
    · rfl

theorem content_touch (h : fs.touch path = .ok fs') (ho : fs.resolve path ≠ .ok other) :
    fs'.content? other = fs.content? other := by
  obtain ⟨place, hr, h⟩ := bind_ok_iff.mp h
  split at h
  · cases h
  · split at h
    · cases h
    · cases h
      rfl
  · split at h
    · cases h
    · cases h
      exact content_setEntry_other fun he => ho (he ▸ hr)

theorem foldlM_dots (hdots : ∀ dot ∈ dots, dot = ['.']) (h : dots.foldlM fs.step place = .ok other) :
    other = place := by
  induction dots with
  | nil => cases h; rfl
  | cons dot dots ih =>
    obtain ⟨rfl, hrest⟩ := List.forall_mem_cons.mp hdots
    obtain ⟨next, hstep, h⟩ := bind_ok_iff.mp h
    have hnext : next = place := by
      unfold step at hstep
      split at hstep
      · cases hstep
      · cases hstep
      · simpa using hstep.symm
    exact ih hrest (hnext ▸ h)

/-- A path whose steps end in a name, but for single dots, leads to something of that name. -/
theorem getLast?_of_resolve (hsteps : path.steps = front ++ name :: dots)
    (hdot : name ≠ ['.']) (hdotdot : name ≠ ['.', '.']) (hdots : ∀ dot ∈ dots, dot = ['.'])
    (h : fs.resolve path = .ok place) : place.getLast? = some name := by
  have hfold := steps_of_resolve h
  rw [hsteps, List.foldlM_append] at hfold
  obtain ⟨below, -, hfold⟩ := bind_ok_iff.mp hfold
  obtain ⟨there, hstep, hfold⟩ := bind_ok_iff.mp hfold
  obtain ⟨-, -, rfl⟩ := (step_name_ok_iff hdot hdotdot).mp hstep
  rw [foldlM_dots hdots hfold]
  exact List.getLast?_concat

end Files.FileSystem

namespace Files.Path

variable {path : Path} {name : List Char}

theorem splitOn_of_fileName (h : path.fileName? = some name) :
    ∃ front tail, path.splitOn '/' = front ++ name :: tail ∧ isStep name = true ∧
      name ≠ ['.', '.'] ∧ ∀ piece ∈ tail, isStep piece = false := by
  simp only [fileName?, piecesBack, Text.fields_eq_splitOn] at h
  generalize hkeep : (if (path.splitOn '/').head? = some ['.'] then 1 else 0) = keep at h
  have hfirst : ∀ piece ∈ (path.splitOn '/').take keep, piece = ['.'] := by
    rw [← hkeep]
    split
    · next hdot =>
      obtain ⟨rest, hrest⟩ := List.head?_eq_some_iff.mp hdot
      simp [hrest]
    · simp
  obtain ⟨tail, hsplit, htail⟩ := exists_rdropWhile (!isStep ·) ((path.splitOn '/').drop keep)
  have hlast := List.rdropWhile_last_not (!isStep ·) ((path.splitOn '/').drop keep)
  rw [List.rdropWhile] at hsplit hlast
  generalize ((path.splitOn '/').drop keep).reverse.dropWhile (!isStep ·) = back at h hsplit hlast
  cases back with
  | nil =>
    -- nothing is left but a dot in front, which is no name
    rw [List.nil_append] at h
    split at h
    · next piece rest htake =>
      rw [if_pos (.inl (hfirst piece (by simp [htake])))] at h
      cases h
    · cases h
  | cons piece back =>
    simp only [List.cons_append] at h
    split at h
    · cases h
    · next hne =>
      obtain rfl := Option.some.inj h
      refine ⟨(path.splitOn '/').take keep ++ back.reverse, tail, ?_, by simpa using hlast, ?_, ?_⟩
      · conv_lhs => rw [← List.take_append_drop keep (path.splitOn '/'), hsplit]
        simp
      · exact fun hdots => hne (.inr hdots)
      · simpa using htail

/-- Where a path names a file, its steps end in that name, but for single dots. -/
theorem steps_of_fileName (h : path.fileName? = some name) :
    ∃ front dots, path.steps = front ++ name :: dots ∧ (∀ dot ∈ dots, dot = ['.']) ∧ '/' ∉ name ∧
      name ≠ [] ∧ name ≠ ['.'] ∧ name ≠ ['.', '.'] := by
  obtain ⟨front, tail, hsplit, hstep, hdots, htail⟩ := splitOn_of_fileName h
  obtain ⟨hne, hdot⟩ := ne_of_isStep hstep
  have hslash : '/' ∉ name := not_mem_of_mem_splitOn (s := path) (by simp [hsplit])
  refine ⟨front.filter (!·.isEmpty), tail.filter (!·.isEmpty), ?_, dot_of_not_isStep htail, hslash,
    hne, hdot, hdots⟩
  simp [steps_of_splitOn hsplit, hne]

end Files.Path

namespace Store

open Files (FileSystem Path Place)

variable {path : Path} {files files' fs : FileSystem} {place : Place} {name : List Char}

/-- The lock file has another name than the document, so the two are never at one place. -/
theorem getLast?_of_lockPath (hname : path.fileName? = some name)
    (h : fs.resolve (lockPath path) = .ok place) : place.getLast? = some (name ++ ".lk".toList) := by
  obtain ⟨-, -, -, -, hslash, hne, -⟩ := Path.steps_of_fileName hname
  have hslash' : '/' ∉ name ++ ".lk".toList := by simpa using hslash
  have hsteps : (lockPath path).steps =
      ((Path.parent? path).getD []).steps ++ (name ++ ".lk".toList) :: [] := by
    simp only [lockPath, Path.withFileName, hname, Option.getD_some]
    exact Path.steps_join hslash' (by simp)
  have hlong : 3 < (name ++ ".lk".toList).length := by
    have := List.length_pos_iff.mpr hne
    simp
    omega
  refine FileSystem.getLast?_of_resolve hsteps ?_ ?_ (by simp) h
  all_goals
    intro he
    rw [he] at hlong
    simp at hlong

theorem place_ne_lock {lock : Place} {fs' : FileSystem} (hname : path.fileName? = some name)
    (h : fs.resolve path = .ok place) (hl : fs'.resolve (lockPath path) = .ok lock) :
    place ≠ lock := by
  obtain ⟨front, dots, hsteps, hdots, -, -, hdot, hdotdot⟩ := Path.steps_of_fileName hname
  rintro rfl
  have hlast := FileSystem.getLast?_of_resolve hsteps hdot hdotdot hdots h
  rw [getLast?_of_lockPath hname hl] at hlast
  simp at hlast

/-- Opening a document leaves what is in its file. -/
theorem content_prepare (hname : path.fileName? = some name) (h : fs.resolve path = .ok place) :
    (prepare path files).1.content? place = files.content? place := by
  have hmade := FileSystem.content_makeDirectories
    (((Path.parent? (lockPath path)).getD []).length + 1) files
    ((Path.parent? (lockPath path)).getD []) place
  unfold prepare FileSystem.ensureDirectory
  simp only
  split
  · next hfault =>
    rw [hfault] at hmade
    exact hmade
  · next made hok =>
    rw [hok] at hmade
    split
    · next touched htouch =>
      exact (FileSystem.content_touch htouch fun hl => place_ne_lock hname h hl rfl).trans hmade
    · exact hmade

end Store

end Credentials
