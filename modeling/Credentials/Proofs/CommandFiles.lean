import Credentials.CommandLine.Run
import Credentials.Proofs.Failures
import Credentials.Proofs.FileContents
import Credentials.Proofs.LoadedSources
import Credentials.Proofs.Stamps
import Credentials.Random.Digits

/-! What a run of the program does to the file of the document. A run that exits with zero leaves what
its operation leaves; any other leaves the file as it was. There is one exception: a new pairing secret
is put into the document before its expiry is read back from there, so where the document has a time
that cannot be read again, the run fails although the secret is in the file. -/

namespace Credentials

open Files (FileSystem Path Place)

/-- A call puts a new pairing secret into a document that cannot be read afterwards. -/
def Call.Strands (c : Call) (store : DocumentStore) : Prop :=
  ∃ answer d d', c.Commits store .generatePairing answer d d' ∧ ¬ d'.IsReadable

namespace Call

variable {c : Call} {path : Path} {files : FileSystem} {command : Command} {answer : Answer}
  {d d' : Document}

theorem Commits.content_ne (h : c.Commits (.file path files) command answer d d')
    (hd : ¬ d'.IsReadable) :
    ∃ files' place, c.after (.file path files) = .file path files' ∧
      files.resolve path = .ok place ∧ files'.resolve path = .ok place ∧
        files'.content? place ≠ files.content? place := by
  obtain ⟨files', hw, hafter⟩ := Store.put_file_ok_iff.mp h.put
  obtain ⟨place, hr, hslash, hne, rfl⟩ := FileSystem.replace_ok_iff.mp hw
  refine ⟨_, place, hafter, hr, FileSystem.resolve_setEntry hne hr, fun hsame => ?_⟩
  have hentry := FileSystem.content_eq_some_iff.mp (hsame.symm.trans
    (FileSystem.content_eq_some_iff.mpr
      (FileSystem.entry_setEntry_same (FileSystem.place_ne_root hne))))
  have hread := FileSystem.read_ok_iff.mpr (FileSystem.find_file_iff.mpr ⟨place, hr, hslash, hentry⟩)
  rcases Store.holdsDocument_of_read hread h.read with hblank | ⟨e, he⟩
  · rw [Document.writesText_format d'] at hblank
    cases hblank
  · exact hd (Document.ofJson_text_iff.mp he).1

theorem exists_after_file (c : Call) (path : Path) (files : FileSystem) :
    ∃ files', c.after (.file path files) = .file path files' := by
  rcases c.commits_or_idle (.file path files) with ⟨_, _, _, _, h⟩ | ⟨hsame, -⟩
  · obtain ⟨files', -, hafter⟩ := Store.put_file_ok_iff.mp h.put
    exact ⟨files', hafter⟩
  · exact ⟨files, hsame⟩

end Call

namespace CommandLine

/-- What becomes of an operation on a store: a report of what it did, no report and no change, or no
report of a pairing secret that is in the document. -/
inductive Performed (c : Call) (store : DocumentStore) : Performance → Prop
  | reported {lines : List Line} : ¬ c.Strands store → Performed c store (.ok lines, c.after store)
  | failed {complaint : Complaint} : ¬ c.Strands store → Performed c store (.error complaint, store)
  | stranded {complaint : Complaint} : c.Strands store →
      Performed c store (.error complaint, c.after store)

theorem performed (c : Call) (path : Path) (files : FileSystem) :
    Performed c (.file path files)
      (perform c.settings c.now c.randomness c.operation (.file path files)) := by
  have hidle : c.operation ≠ .command .generatePairing → ¬ c.Strands (.file path files) := by
    rintro hne ⟨_, _, _, h, -⟩
    exact hne h.operation
  unfold perform
  simp only
  split
  · next complaint hname =>
    -- only a rotation looks a name up before
    refine .failed (hidle fun hop => ?_)
    rw [hop] at hname
    cases hname
  · next name _ =>
    obtain ⟨rest, hrun⟩ : ∃ rest, c.operation.run c.settings c.now (.file path files) c.randomness =
        (c.answer (.file path files), c.after (.file path files), rest) := ⟨_, rfl⟩
    rw [hrun]
    simp only
    cases ha : c.answer (.file path files) with
    | error failure =>
      simp only [c.after_error ha]
      refine .failed ?_
      rintro ⟨_, _, _, h, -⟩
      cases h.answered.symm.trans ha
    | ok answer =>
      simp only
      split
      · next hop =>
        obtain ⟨d, d', hc⟩ := Call.commits_of_ok hop ha
        rcases hc.after_file with ⟨hd', _, e, -, hread, -⟩ | ⟨hd', mismatch, hread⟩
        · simp only [ask, Query.run, hread]
          refine .reported ?_
          rintro ⟨_, _, _, h, hunreadable⟩
          rcases h.after_file with ⟨hreadable, -⟩ | ⟨-, mismatch, hshut⟩
          · exact hunreadable hreadable
          · cases hread.symm.trans hshut
        · simp only [ask, Query.run, hread]
          exact .stranded ⟨_, _, _, hc, hd'⟩
      · next hne => exact .reported (hidle hne)

def Invocation.loaded (i : Invocation) (s : Surroundings) : Except Config.Error Config.Resolved :=
  Config.load s.files (Config.Locations.standard s.home s.environment) (i.config.map String.toList)
    s.environment

def call? (args : List String) (s : Surroundings) : Option Call :=
  match Invocation.ofArguments s.environment args with
  | .error _ => none
  | .ok i =>
    match i.request.operation?, i.loaded s with
    | some operation, .ok r =>
      (settingsOf r.config).toOption.map fun settings => ⟨settings, s.now, s.randomness, operation⟩
    | _, _ => none

/-- Whatever a path led to, or now leads to, holds what it held: the same bytes, or nothing. -/
def SameFile (path : Path) (before after : FileSystem) : Prop :=
  ∀ place, before.resolve path = .ok place ∨ after.resolve path = .ok place →
    after.content? place = before.content? place

/-- A run whose call, made on the document that was opened for it, leaves a new pairing secret in a
document that cannot be read again. -/
def Strands (args : List String) (s : Surroundings) (path : Path) : Prop :=
  ∃ call prepared, call? args s = some call ∧ Store.prepare path s.files = (prepared, none) ∧
    call.Strands (.file path prepared)

structure Leaves (args : List String) (s : Surroundings) (path : Path) : Prop where
  /-- Where it exits with zero, what its call leaves on the document that was opened for it. -/
  reported : (run args s).code = 0 → ∃ call prepared, call? args s = some call ∧
    Store.prepare path s.files = (prepared, none) ∧
      call.after (.file path prepared) = .file path (run args s).files
  /-- Where it does not, what was there, -/
  failed : (run args s).code ≠ 0 → ¬ Strands args s path →
    SameFile path s.files (run args s).files
  /-- but for the secret that is not told to anyone. -/
  stranded : Strands args s path → (run args s).code = 1 ∧ (run args s).output = "" ∧
    ¬ SameFile path s.files (run args s).files ∧ ∃ call prepared, call? args s = some call ∧
      Store.prepare path s.files = (prepared, none) ∧
        call.after (.file path prepared) = .file path (run args s).files

section
variable {args : List String} {s : Surroundings} {i : Invocation} {path : Path}
  {before after : FileSystem} {cause : Option Store.Error}

theorem fileName_of_loaded {r : Config.Resolved} (h : i.loaded s = .ok r) :
    ∃ name, Path.fileName? r.config.store.path.toList = some name := by
  obtain ⟨⟨⟩, hstore, -⟩ := bind_ok_iff.mp (Config.check_of_load h)
  simp only [Config.StoreSection.check, ite_eq_iff, reduceCtorEq, and_false, false_or] at hstore
  exact Option.ne_none_iff_exists'.mp (by simpa using hstore.2.1)

theorem sameFile_prepare {name : List Char} (hname : Path.fileName? path = some name)
    (h : Store.prepare path before = (after, cause)) : SameFile path before after := by
  have hsame : ∀ {fs : FileSystem} {place : Place}, fs.resolve path = .ok place →
      after.content? place = before.content? place := by
    intro fs place hr
    have hprepare : (Store.prepare path before).1.content? place = before.content? place :=
      Store.content_prepare hname hr
    rwa [h] at hprepare
  exact fun place hp => hp.elim hsame hsame

def Invocation.answered (i : Invocation) (s : Surroundings) :
    Except Complaint (List Line) × FileSystem :=
  answer i.request (i.config.map String.toList) (Config.Locations.standard s.home s.environment)
    (i.loaded s) s

theorem run_of_ok (hi : Invocation.ofArguments s.environment args = .ok i) {lines : List Line}
    (h : i.answered s = (.ok lines, after)) : (run args s).code = 0 ∧ (run args s).files = after := by
  have hrun : run args s = i.run s := by rw [run, hi]
  unfold Invocation.answered Invocation.loaded at h
  rw [hrun, Invocation.run]
  simp only [h, and_self]

theorem run_of_error (hi : Invocation.ofArguments s.environment args = .ok i) {complaint : Complaint}
    (h : i.answered s = (.error complaint, after)) :
    (run args s).code = 1 ∧ (run args s).output = "" ∧ (run args s).files = after := by
  have hrun : run args s = i.run s := by rw [run, hi]
  unfold Invocation.answered Invocation.loaded at h
  rw [hrun, Invocation.run]
  simp only [h, and_self]

theorem files_of_no_access (h : access? args s = none) : (run args s).files = s.files := by
  cases hi : Invocation.ofArguments s.environment args with
  | error stop =>
    rw [run, hi]
    cases stop <;> rfl
  | ok i =>
    have hanswered : (i.answered s).2 = s.files := by
      simp only [access?, hi] at h
      unfold Invocation.answered Invocation.loaded answer
      split
      · rfl
      · rfl
      · rfl
      · next hrequest hload =>
        simp [hrequest, hload, Request.changes?] at h
      · next operation r hrequest hload =>
        cases operation <;> simp [hrequest, hload, Request.changes?] at h
    rcases ha : i.answered s with ⟨complaint | lines, after⟩
    · rw [(run_of_error hi ha).2.2, ← hanswered, ha]
    · rw [(run_of_ok hi ha).2, ← hanswered, ha]

theorem of_access {access : Access} (h : access? args s = some access) :
    ∃ i r, Invocation.ofArguments s.environment args = .ok i ∧ i.loaded s = .ok r ∧
      i.request.changes? ≠ none ∧ access.path = r.config.store.path.toList := by
  unfold access? at h
  split at h
  · cases h
  · next i hi =>
    simp only at h
    split at h
    · next changes r hchanges hload =>
      cases h
      exact ⟨i, r, hi, hload, by simp [hchanges], rfl⟩
    · cases h

theorem withStore_cases {c : Config} {files : FileSystem} {act : Settings → DocumentStore → Performance}
    {answered : Except Complaint (List Line) × FileSystem} (h : answered = withStore c files act) :
    (∃ cause complaint after, Store.prepare c.store.path.toList files = (after, some cause) ∧
      answered = (.error complaint, after)) ∨
    ∃ prepared, Store.prepare c.store.path.toList files = (prepared, none) ∧
      ((∃ complaint, (settingsOf c).toOption = none ∧ answered = (.error complaint, prepared)) ∨
      ∃ settings, settingsOf c = .ok settings ∧
        answered = ((act settings (.file c.store.path.toList prepared)).1,
          (act settings (.file c.store.path.toList prepared)).2.files?.getD prepared)) := by
  rw [h]
  unfold withStore
  simp only
  split
  · next after cause hprepare => exact .inl ⟨cause, _, after, hprepare, rfl⟩
  · next prepared hprepare =>
    refine .inr ⟨prepared, hprepare, ?_⟩
    split
    · next complaint hsettings => exact .inl ⟨complaint, by rw [hsettings]; rfl, rfl⟩
    · next settings hsettings => exact .inr ⟨settings, hsettings, rfl⟩

theorem call_of_perform {operation : Operation} {r : Config.Resolved} {settings : Settings}
    (hi : Invocation.ofArguments s.environment args = .ok i) (hrequest : i.request = .perform operation)
    (hload : i.loaded s = .ok r) (hsettings : settingsOf r.config = .ok settings) :
    call? args s = some ⟨settings, s.now, s.randomness, operation⟩ := by
  simp only [call?, hi, hrequest, Request.operation?, hload, hsettings]
  rfl

theorem leaves_of_error {name : List Char} {complaint : Complaint}
    (hi : Invocation.ofArguments s.environment args = .ok i) (hname : Path.fileName? path = some name)
    (hp : Store.prepare path s.files = (after, cause)) (ha : i.answered s = (.error complaint, after))
    (hn : ¬ Strands args s path) : Leaves args s path := by
  obtain ⟨hcode, -, hfiles⟩ := run_of_error hi ha
  refine ⟨fun hzero => ?_, fun _ _ => hfiles ▸ sameFile_prepare hname hp, fun hs => absurd hs hn⟩
  cases hcode.symm.trans hzero

theorem leaves_of_performed {name : List Char} {c : Call} {prepared : FileSystem}
    {performance : Performance} (hi : Invocation.ofArguments s.environment args = .ok i)
    (hname : Path.fileName? path = some name) (hc : call? args s = some c)
    (hp : Store.prepare path s.files = (prepared, none))
    (ha : i.answered s = (performance.1, performance.2.files?.getD prepared))
    (h : Performed c (.file path prepared) performance) : Leaves args s path := by
  have hstrands : Strands args s path ↔ c.Strands (.file path prepared) := by
    constructor
    · rintro ⟨c', prepared', hc', hp', hs⟩
      cases hc.symm.trans hc'
      cases hp.symm.trans hp'
      exact hs
    · exact fun hs => ⟨c, prepared, hc, hp, hs⟩
  obtain ⟨files', hafter⟩ := c.exists_after_file path prepared
  cases h with
  | reported hn =>
    rw [hafter] at ha
    obtain ⟨hcode, hfiles⟩ := run_of_ok hi ha
    refine ⟨fun _ => ⟨c, prepared, hc, hp, hfiles ▸ hafter⟩, fun hne => absurd hcode hne, fun hs => ?_⟩
    exact absurd (hstrands.mp hs) hn
  | failed hn => exact leaves_of_error hi hname hp ha (mt hstrands.mp hn)
  | stranded hs =>
    rw [hafter] at ha
    obtain ⟨hcode, houtput, hfiles⟩ := run_of_error hi ha
    refine ⟨fun hzero => ?_, fun _ hn => absurd (hstrands.mpr hs) hn, fun _ => ?_⟩
    · cases hcode.symm.trans hzero
    · obtain ⟨_, _, d', hcommits, hd'⟩ := hs
      obtain ⟨_, place, hafter', hr, hr', hne⟩ := hcommits.content_ne hd'
      cases hafter.symm.trans hafter'
      refine ⟨hcode, houtput, fun hsame => hne ?_, c, prepared, hc, hp, hfiles ▸ hafter⟩
      rw [hfiles] at hsame
      exact (hsame place (.inr hr')).trans (sameFile_prepare hname hp place (.inr hr)).symm

theorem leaves_of_access {access : Access} (h : access? args s = some access) :
    Leaves args s access.path := by
  obtain ⟨i, r, hi, hload, hopens, hpath⟩ := of_access h
  obtain ⟨name, hname⟩ := fileName_of_loaded hload
  rw [hpath]
  have hanswered : i.answered s = answer i.request (i.config.map String.toList)
      (Config.Locations.standard s.home s.environment) (.ok r) s := by rw [Invocation.answered, hload]
  cases hrequest : i.request with
  | showConfig | showPaths =>
    rw [hrequest] at hopens
    exact absurd rfl hopens
  | rotateUnnamed =>
    have hnone : ¬ Strands args s r.config.store.path.toList := by
      rintro ⟨call, -, hcall, -⟩
      simp [call?, hi, hrequest, Request.operation?] at hcall
    rw [hrequest] at hanswered
    simp only [answer] at hanswered
    rcases withStore_cases hanswered with
      ⟨cause, complaint, after, hp, ha⟩ | ⟨prepared, hp, ⟨complaint, -, ha⟩ | ⟨settings, -, ha⟩⟩
    all_goals exact leaves_of_error hi hname hp ha hnone
  | perform operation =>
    rw [hrequest] at hanswered
    simp only [answer] at hanswered
    rcases withStore_cases hanswered with ⟨cause, complaint, after, hp, ha⟩ |
      ⟨prepared, hp, ⟨complaint, hnone, ha⟩ | ⟨settings, hsettings, ha⟩⟩
    · refine leaves_of_error hi hname hp ha ?_
      rintro ⟨call, prepared, -, hp', -⟩
      cases hp.symm.trans hp'
    · refine leaves_of_error hi hname hp ha ?_
      rintro ⟨call, -, hcall, -⟩
      simp [call?, hi, hrequest, Request.operation?, hload, hnone] at hcall
    · have hcall := call_of_perform hi hrequest hload hsettings
      exact leaves_of_performed hi hname hcall hp ha
        (performed ⟨settings, s.now, s.randomness, operation⟩ r.config.store.path.toList prepared)

end

/-- A run that uses no document leaves the files alone; one that does leaves the document as it was or
as its call leaves it. -/
theorem run_files (args : List String) (s : Surroundings) :
    (access? args s = none → (run args s).files = s.files) ∧
      ∀ access, access? args s = some access → Leaves args s access.path :=
  ⟨files_of_no_access, fun _ => leaves_of_access⟩

/-- A device of the last hour of the year 9999, an hour west of UTC, where it is the year after. -/
def lateText : String :=
  "\x7b\"tokens\":[\x7b\"token\":\"a\",\"name\":\"tv\",\"date\":\"9999-12-31T23:59:59-01:00\"\x7d]\x7d"

def late : Surroundings where
  environment := [("HEARTH_TOKENS_PATH", "d")]
  home := "home".toList
  now := ⟨1700000000, 0⟩
  randomness := ⟨[List.replicate 32 1], Random.digits (List.replicate 32 2)⟩
  files := ⟨[(["d".toList], .file (.text lateText))], []⟩

theorem access_late {args : List String}
    (h : (access? args late).map (·.path) = some "d".toList) :
    ∃ access, access? args late = some access ∧ access.path = "d".toList :=
  Option.map_eq_some_iff.mp h

def lateDocument : Document where
  devices := [⟨"a", "tv", ⟨253402304399, 0⟩⟩]

theorem read_late : (Store.file "d".toList (Store.prepare "d".toList late.files).1).read
    Document.format = .ok lateDocument := ok_of_toOption (by decide +kernel)

theorem strands_late : Strands ["pairing", "create"] late "d".toList := by
  have hi : Invocation.ofArguments late.environment ["pairing", "create"] =
      .ok { request := .perform (.command .generatePairing) } := ok_of_toOption (by decide +kernel)
  have hsettings : ((Invocation.loaded { request := .perform (.command .generatePairing) }
      late).toOption.bind fun r => (settingsOf r.config).toOption).isSome = true := by decide +kernel
  obtain ⟨settings, hsettings⟩ := Option.isSome_iff_exists.mp hsettings
  obtain ⟨r, hload, hsettings⟩ := Option.bind_eq_some_iff.mp hsettings
  have hcall := call_of_perform hi rfl (ok_of_toOption hload) (ok_of_toOption hsettings)
  have hprepare : Store.prepare "d".toList late.files =
      ((Store.prepare "d".toList late.files).1, none) := Prod.ext rfl (by decide +kernel)
  have hfree : ∃ draw ∈ late.randomness.draws, lateDocument.hasDevice (secretOf draw) = false :=
    ⟨_, List.mem_singleton_self _, by decide +kernel⟩
  obtain ⟨fresh, hfresh⟩ := exists_freshSecret_iff.mpr hfree
  have htakes := Store.takes_of_read (by decide) read_late
  have hcommits := Call.commits_of_effect (c := ⟨settings, late.now, late.randomness, _⟩) rfl read_late
    htakes (.generatePairing hfresh)
  have hlate : ¬ Time.Instant.IsReadable ⟨253402304399, 0⟩ := by decide +kernel
  refine ⟨_, _, hcall, hprepare, _, _, _, hcommits, fun hd => hlate ?_⟩
  exact hd.devices ⟨"a", "tv", ⟨253402304399, 0⟩⟩ (List.mem_singleton_self _)

theorem create_late : (run ["pairing", "create"] late).code = 1 ∧
    (run ["pairing", "create"] late).files.content? ["d".toList] ≠ some (.text lateText) := by
  obtain ⟨access, haccess, hpath⟩ := @access_late ["pairing", "create"] (by decide +kernel)
  have hleaves : Leaves ["pairing", "create"] late "d".toList := hpath ▸ leaves_of_access haccess
  obtain ⟨hcode, -, -, call, prepared, hcall, hprepare, hafter⟩ := hleaves.stranded strands_late
  obtain ⟨call', prepared', hcall', hprepare', _, _, d', hcommits, hd'⟩ := strands_late
  obtain rfl : call = call' := Option.some.inj (hcall.symm.trans hcall')
  obtain rfl : prepared = prepared' := congrArg Prod.fst (hprepare.symm.trans hprepare')
  obtain ⟨files', place, hafter', hr, -, hne⟩ := hcommits.content_ne hd'
  have hfiles : (run ["pairing", "create"] late).files = files' :=
    (Store.file.inj (hafter.symm.trans hafter')).2
  have hprepared : prepared = (Store.prepare "d".toList late.files).1 :=
    congrArg Prod.fst hprepare.symm
  have hplace : (prepared.resolve "d".toList).toOption = some ["d".toList] := by
    rw [hprepared]
    decide +kernel
  have hcontent : prepared.content? ["d".toList] = some (.text lateText) := by
    rw [hprepared]
    decide +kernel
  rw [hr] at hplace
  obtain rfl : place = ["d".toList] := Option.some.inj hplace
  rw [hcontent, ← hfiles] at hne
  exact ⟨hcode, hne⟩

/-- The secret is put into the file, with the time of the device in a form that is not read; so its
expiry is not found, and the run fails without a word of the secret. -/
theorem create_late_changes : (access? ["pairing", "create"] late).map (·.path) = some "d".toList ∧
    (run ["pairing", "create"] late).code = 1 ∧
      late.files.content? ["d".toList] = some (.text lateText) ∧
        (run ["pairing", "create"] late).files.content? ["d".toList] ≠ some (.text lateText) :=
  ⟨by decide +kernel, create_late.1, by decide, create_late.2⟩

/-- The devices are listed, a rotation without a secret is refused, and a pairing secret is lost. -/
theorem run_files_late :
    (∃ call prepared, call? ["devices", "list"] late = some call ∧
      Store.prepare "d".toList late.files = (prepared, none) ∧ call.after (.file "d".toList prepared) =
        .file "d".toList (run ["devices", "list"] late).files) ∧
    SameFile "d".toList late.files (run ["devices", "rotate"] late).files ∧
    Strands ["pairing", "create"] late "d".toList ∧ (run ["pairing", "create"] late).output = "" := by
  obtain ⟨list, hlist, hpath⟩ := @access_late ["devices", "list"] (by decide +kernel)
  obtain ⟨rotate, hrotate, hpath'⟩ := @access_late ["devices", "rotate"] (by decide +kernel)
  obtain ⟨create, hcreate, hpath''⟩ := @access_late ["pairing", "create"] (by decide +kernel)
  have hlist := (run_files _ _).2 list hlist
  have hrotate := (run_files _ _).2 rotate hrotate
  have hcreate := (run_files _ _).2 create hcreate
  rw [hpath] at hlist
  rw [hpath'] at hrotate
  rw [hpath''] at hcreate
  have hunnamed : ¬ Strands ["devices", "rotate"] late "d".toList := by
    rintro ⟨call, -, hcall, -⟩
    have hnone : call? ["devices", "rotate"] late = none := by decide +kernel
    cases hnone.symm.trans hcall
  exact ⟨hlist.reported (by decide +kernel), hrotate.failed (by decide +kernel) hunnamed,
    strands_late, (hcreate.stranded strands_late).2.1⟩

end CommandLine

end Credentials
