import Credentials.Proofs.Paths
import Credentials.Proofs.Stores

/-! Opening a document makes its directory and its lock file, and opening it again makes nothing more,
whatever was written in between. Once its lock can be taken, a document whose path ends in a name can
be written. -/

namespace Credentials

namespace Files.FileSystem

variable {fs fs' : FileSystem} {place other : Place} {path : Path} {text : String} {content : Content}

theorem isDirectory_iff : fs.isDirectory path = true ↔
    ∃ place, fs.resolve path = .ok place ∧ fs.entry? place = some .directory := by
  unfold isDirectory find
  cases fs.resolve path with
  | error => simp [bind, Except.bind]
  | ok place =>
    cases he : fs.entry? place with
    | none => simp [bind, Except.bind, he]
    | some e => cases e <;> by_cases hs : endsInSlash path = true <;> simp [bind, Except.bind, he, hs]

/-- Whatever is put where no directory was, directories stay. -/
theorem isDirectory_setEntry {entry : Entry} (hp : fs.entry? place ≠ some .directory)
    (h : fs.isDirectory path = true) : (fs.setEntry place entry).isDirectory path = true := by
  obtain ⟨there, hr, hd⟩ := isDirectory_iff.mp h
  refine isDirectory_iff.mpr ⟨there, resolve_setEntry hp hr, ?_⟩
  rw [entry_setEntry_other, hd]
  rintro rfl
  exact hp hd

theorem makeDirectory_ok_iff : fs.makeDirectory path = .ok fs' ↔
    ∃ place, fs.resolve path = .ok place ∧ fs.entry? place = none ∧
      fs' = fs.setEntry place .directory := by
  unfold makeDirectory
  cases fs.resolve path with
  | error => simp [bind, Except.bind]
  | ok place => cases he : fs.entry? place <;> simp [bind, Except.bind, he, eq_comm]

theorem isDirectory_makeDirectory (h : fs.makeDirectory path = .ok fs') :
    fs'.isDirectory path = true := by
  obtain ⟨place, hr, he, rfl⟩ := makeDirectory_ok_iff.mp h
  have hp : fs.entry? place ≠ some .directory := by simp [he]
  exact isDirectory_iff.mpr ⟨place, resolve_setEntry hp hr, entry_setEntry_same (place_ne_root hp)⟩

theorem isDirectory_of_faultUnless {fault : Fault}
    (h : (fs, fs.faultUnless path fault) = (fs', none)) : fs'.isDirectory path = true := by
  obtain ⟨rfl, hnone⟩ := Prod.mk.inj h
  unfold faultUnless at hnone
  split at hnone
  · assumption
  · cases hnone

theorem isDirectory_makeDirectories {fuel : Nat} (hne : path ≠ [])
    (h : fs.makeDirectories fuel path = (fs', none)) : fs'.isDirectory path = true := by
  cases fuel with
  | zero => cases h
  | succ fuel =>
    rw [makeDirectories, if_neg (by simpa using hne)] at h
    split at h
    · next made hmade =>
      cases h
      exact isDirectory_makeDirectory hmade
    · -- what is above it was missing, so it is tried again once that has been made
      split at h
      · cases h
      · split at h
        · cases h
        · split at h
          · next made hmade =>
            cases h
            exact isDirectory_makeDirectory hmade
          · exact isDirectory_of_faultUnless h
    · exact isDirectory_of_faultUnless h

theorem ensureDirectory_of_isDirectory (h : fs.isDirectory path = true) :
    fs.ensureDirectory path = (fs, none) := by
  obtain ⟨place, hr, hd⟩ := isDirectory_iff.mp h
  have hm : fs.makeDirectory path = .error .alreadyExists := by
    simp [makeDirectory, hr, hd, bind, Except.bind]
  unfold ensureDirectory makeDirectories
  simp [hm, faultUnless, h]

theorem touch_of_read (h : fs.read path = .ok content) : fs.touch path = .ok fs := by
  obtain ⟨place, hr, hs, he⟩ := find_file_iff.mp (read_ok_iff.mp h)
  simp [touch, hr, hs, he, bind, Except.bind]

theorem touch_spec (h : fs.touch path = .ok fs') :
    (∃ content, fs'.read path = .ok content) ∧
      ∀ other, fs.isDirectory other = true → fs'.isDirectory other = true := by
  unfold touch at h
  cases hr : fs.resolve path with
  | error fault => simp [hr, bind, Except.bind] at h
  | ok place =>
    simp only [hr, bind, Except.bind] at h
    have hs : endsInSlash path = false := by
      rw [← Bool.not_eq_true]
      intro hs
      cases he : fs.entry? place with
      | none => simp [he, hs] at h
      | some e => cases e <;> simp [he, hs] at h
    cases he : fs.entry? place with
    | none =>
      simp only [he, hs, Bool.false_eq_true, if_false, Except.ok.injEq] at h
      subst h
      have hp : fs.entry? place ≠ some .directory := by simp [he]
      refine ⟨⟨.text "", read_ok_iff.mpr (find_file_iff.mpr ?_)⟩, fun _ => isDirectory_setEntry hp⟩
      exact ⟨place, resolve_setEntry hp hr, hs, entry_setEntry_same (place_ne_root hp)⟩
    | some e =>
      cases e with
      | directory => simp [he] at h
      | file content =>
        simp only [he, hs, Bool.false_eq_true, if_false, Except.ok.injEq] at h
        subst h
        exact ⟨⟨content, read_ok_iff.mpr (find_file_iff.mpr ⟨place, hr, hs, he⟩)⟩, fun _ => id⟩

theorem resolve_of_readText (h : fs.readText path = .ok text) :
    ∃ place, fs.resolve path = .ok place ∧ fs.entry? place ≠ some .directory := by
  obtain ⟨place, hr, -, he⟩ := find_file_iff.mp (read_ok_iff.mp (readText_ok_iff.mp h))
  exact ⟨place, hr, by simp [he]⟩

theorem missing_of_readText (h : fs.readText path = .error .notFound) :
    fs.resolve path = .error .notFound ∨
      ∃ place, fs.resolve path = .ok place ∧ fs.entry? place = none := by
  cases hr : fs.resolve path with
  | error fault => simpa [readText, read, find, hr, bind, Except.bind] using h
  | ok place =>
    refine .inr ⟨place, rfl, ?_⟩
    cases he : fs.entry? place with
    | none => rfl
    | some e =>
      cases e with
      | directory => simp [readText, read, find, hr, he, bind, Except.bind] at h
      | file content =>
        by_cases hs : endsInSlash path = true
        · simp [readText, read, find, hr, he, hs, bind, Except.bind] at h
        · cases content <;> simp [readText, read, find, hr, he, hs, bind, Except.bind] at h

def origin (fs : FileSystem) (path : Path) : Place :=
  if path.head? = some '/' then [] else fs.current

theorem steps_of_resolve (h : fs.resolve path = .ok place) :
    path.steps.foldlM fs.step (fs.origin path) = .ok place := by
  unfold resolve at h
  split at h
  · cases h
  · split at h
    · cases h
    · split at h
      · cases h
      · exact h

theorem resolve_ne_notFound (hne : path ≠ [])
    (h : path.steps.foldlM fs.step (fs.origin path) = .ok place) :
    fs.resolve path ≠ .error .notFound := by
  unfold resolve
  rw [if_neg (by simpa using hne : ¬ path.isEmpty = true)]
  split
  · nofun
  · split
    · nofun
    · intro hmissing
      cases h.symm.trans hmissing

theorem step_dots {dots : List (List Char)} (hd : fs.entry? place = some .directory)
    (h : ∀ dot ∈ dots, dot = ['.']) : dots.foldlM fs.step place = .ok place := by
  induction dots with
  | nil => rfl
  | cons dot dots ih =>
    obtain ⟨rfl, hdots⟩ := List.forall_mem_cons.mp h
    rw [List.foldlM_cons]
    have hstep : fs.step place ['.'] = .ok place := by simp [step, hd]
    rw [hstep]
    exact ih hdots

theorem step_name_ok_iff {name : List Char} {next : Place} (hdot : name ≠ ['.'])
    (hdots : name ≠ ['.', '.']) : fs.step place name = .ok next ↔
      fs.entry? place = some .directory ∧ (Text.utf8 name).length ≤ 255 ∧ next = place ++ [name] := by
  unfold step
  cases hp : fs.entry? place with
  | none => simp
  | some entry =>
    cases entry with
    | file => simp
    | directory =>
      by_cases hl : 255 < (Text.utf8 name).length
      · simp [hdot, hdots, hl, Nat.not_le.mpr hl]
      · simp [hdot, hdots, hl, Nat.not_lt.mp hl, eq_comm]

/-- Where one name can be looked up, a shorter one can too, single dots or not. -/
theorem steps_beside {front dots : List (List Char)} {start : Place} {name ending : List Char}
    (hdot : ∀ dot ∈ dots, dot = ['.']) (hn : Path.isStep name = true) (hdots : name ≠ ['.', '.'])
    (h : (front ++ [name ++ ending]).foldlM fs.step start = .ok place) :
    ∃ other, (front ++ dots ++ [name]).foldlM fs.step start = .ok other := by
  have hname := Path.ne_of_isStep hn
  have hlonger : name ++ ending ≠ ['.'] ∧ name ++ ending ≠ ['.', '.'] := by
    rcases name with _ | ⟨c, _ | ⟨c', rest⟩⟩ <;> simp_all
  rw [List.foldlM_append] at h
  obtain ⟨below, hfront, hstep⟩ := bind_ok_iff.mp h
  rw [List.foldlM_cons] at hstep
  obtain ⟨there, hstep, -⟩ := bind_ok_iff.mp hstep
  obtain ⟨hd, hl, -⟩ := (step_name_ok_iff hlonger.1 hlonger.2).mp hstep
  have hshorter : (Text.utf8 name).length ≤ 255 := by
    rw [Text.utf8, List.flatMap_append, List.length_append] at hl
    exact (Nat.le_add_right ..).trans hl
  refine ⟨below ++ [name], ?_⟩
  rw [List.foldlM_append, List.foldlM_append, hfront]
  show ((dots.foldlM fs.step below) >>= _) = _
  rw [step_dots hd hdot]
  show (fs.step below name >>= _) = _
  rw [(step_name_ok_iff hname.2 hdots).mpr ⟨hd, hshorter, rfl⟩]
  rfl

end Files.FileSystem

namespace Store

open Files (FileSystem Path)

variable {δ : Type} {format : Format δ} {path : Path} {files files' : FileSystem} {text : String}

/-- The directory and the lock file of a document are there. -/
structure IsPrepared (path : Path) (files : FileSystem) : Prop where
  directory : (Path.parent? (lockPath path)).getD [] = [] ∨
    files.isDirectory ((Path.parent? (lockPath path)).getD []) = true
  lock : ∃ content, files.read (lockPath path) = .ok content

theorem isPrepared_of_prepare (h : prepare path files = (files', none)) : IsPrepared path files' := by
  unfold prepare at h
  simp only at h
  split at h
  · cases h
  · next made hmade =>
    split at h
    · next touched htouched =>
      cases h
      obtain ⟨hlock, hkeeps⟩ := FileSystem.touch_spec htouched
      refine ⟨?_, hlock⟩
      by_cases hp : (Path.parent? (lockPath path)).getD [] = []
      · exact .inl hp
      · exact .inr (hkeeps _ (FileSystem.isDirectory_makeDirectories hp hmade))
    · cases h

theorem prepare_of_isPrepared (h : IsPrepared path files) : prepare path files = (files, none) := by
  obtain ⟨content, hl⟩ := h.lock
  have hdirectory : files.ensureDirectory ((Path.parent? (lockPath path)).getD []) = (files, none) := by
    rcases h.directory with hp | hd
    · rw [hp]
      rfl
    · exact FileSystem.ensureDirectory_of_isDirectory hd
  simp only [prepare, hdirectory, FileSystem.touch_of_read hl]

theorem IsPrepared.replace (h : IsPrepared path files) (hw : files.replace path text = .ok files') :
    IsPrepared path files' := by
  obtain ⟨content, hl⟩ := h.lock
  obtain ⟨place, -, -, hp, hset⟩ := FileSystem.replace_ok_iff.mp hw
  refine ⟨h.directory.imp_right fun hd => ?_, FileSystem.read_ok_replace hw hl⟩
  exact hset ▸ FileSystem.isDirectory_setEntry hp hd

theorem IsPrepared.acquire (h : IsPrepared path files) : acquire path files = .ok () := by
  obtain ⟨content, hl⟩ := h.lock
  rw [Store.acquire, hl]

/-- What a document's file stands for: a missing or blank one for the empty document. -/
inductive Holds (format : Format δ) (path : Path) (files : FileSystem) : δ → Prop
  | missing : files.readText path = .error .notFound → Holds format path files format.empty
  | blank {text : String} : files.readText path = .ok text → text.toList.all Text.isBlank = true →
      Holds format path files format.empty
  | written {text : String} {value : δ} : files.readText path = .ok text →
      text.toList.all Text.isBlank = false → format.ofText text = .ok value →
      Holds format path files value

theorem load_ok_iff {value : δ} : load format path files = .ok value ↔ Holds format path files value := by
  constructor
  · intro h
    unfold load at h
    split at h
    · next hmissing =>
      cases h
      exact .missing hmissing
    · cases h
    · next text htext =>
      split at h
      · next hblank =>
        cases h
        exact .blank htext hblank
      · next hblank =>
        split at h
        · next hvalue =>
          cases h
          exact .written htext (by simpa using hblank) hvalue
        · cases h
  · rintro (hmissing | ⟨htext, hblank⟩ | ⟨htext, hblank, hvalue⟩)
    · simp only [load, hmissing]
    · simp only [load, htext, hblank, if_true]
    · simp only [load, htext, hblank, hvalue, Bool.false_eq_true, if_false]

theorem read_file_ok_iff {value : δ} : read format (file path files) = .ok value ↔
    acquire path files = .ok () ∧ Holds format path files value := by
  rw [read, bind_ok_iff, ← load_ok_iff]
  constructor
  · rintro ⟨_, h⟩
    exact h
  · intro h
    exact ⟨(), h⟩

/-- Where a lock can be taken, the path of its document leads somewhere. -/
theorem resolve_ne_notFound (hp : path.namesFile = true) (h : acquire path files = .ok ()) :
    files.resolve path ≠ .error .notFound := by
  obtain ⟨content, hl⟩ : ∃ content, files.read (lockPath path) = .ok content := by
    unfold acquire at h
    cases hl : files.read (lockPath path) with
    | error fault => simp [hl] at h
    | ok content => exact ⟨content, rfl⟩
  obtain ⟨place, hr, -⟩ := FileSystem.find_file_iff.mp (FileSystem.read_ok_iff.mp hl)
  obtain ⟨front, dots, name, hsteps, hdot, hn, hdots, hlock, hhead⟩ := steps_lockPath hp
  have horigin : files.origin (lockPath path) = files.origin path := by
    simp only [FileSystem.origin, hhead]
  have hthere := FileSystem.steps_of_resolve hr
  rw [hlock, horigin] at hthere
  obtain ⟨other, hother⟩ := FileSystem.steps_beside hdot hn hdots hthere
  rw [← hsteps] at hother
  exact FileSystem.resolve_ne_notFound (Path.ne_nil_of_namesFile hp) hother

/-- Where a document can be read, one can be written. -/
theorem takes_of_read {value : δ} (hp : path.namesFile = true)
    (h : read format (file path files) = .ok value) : Takes format (file path files) := by
  obtain ⟨hlock, hholds⟩ := read_file_ok_iff.mp h
  have hslash := Path.endsInSlash_of_namesFile hp
  obtain ⟨place, hr, hd⟩ : ∃ place, files.resolve path = .ok place ∧
      files.entry? place ≠ some .directory := by
    cases hholds with
    | missing htext =>
      rcases FileSystem.missing_of_readText htext with hnowhere | ⟨place, hr, hnone⟩
      · exact absurd hnowhere (resolve_ne_notFound hp hlock)
      · exact ⟨place, hr, by simp [hnone]⟩
    | blank htext => exact FileSystem.resolve_of_readText htext
    | written htext => exact FileSystem.resolve_of_readText htext
  intro copy
  exact ⟨_, put_file_ok_iff.mpr
    ⟨_, FileSystem.replace_ok_iff.mpr ⟨place, hr, hslash, hd, rfl⟩, rfl⟩⟩

end Store

end Credentials
