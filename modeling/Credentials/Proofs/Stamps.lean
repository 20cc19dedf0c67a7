import Credentials.Proofs.Runs

/-! The times that commands bring into a document, and what becomes of a file by them. The writer
puts a sign before a year of more than four digits, and the reader takes none. So one such time,
which a command may bring in and call a success, is enough to shut the file. -/

namespace Credentials

open Time (Instant)

def Command.stamps (settings : Settings) (now : Instant) : Command → List Instant
  | createDevice _ | redeemRecovery _ _ | redeemPairing _ _ => [now]
  | generateRecovery expiresAt _ => now :: expiresAt.toList
  | generatePairing => [now, now.shiftWithin settings.pairingLife]
  | deleteDevice _ _ | rotateDevice _ | invalidatePairing => []

/-- The times that a call put into a document, none where it did not succeed. -/
def Exchange.stamps (e : Exchange) : List Instant :=
  match e.call.operation, e.answer with
  | .command command, .ok _ => command.stamps e.call.settings e.call.now
  | _, _ => []

theorem Time.Instant.IsReadable.reread {t : Instant} (h : t.IsReadable) : t.reread.IsReadable := by
  have hshown := t.reread_shownSecond h
  have hday := t.secondOfDay_cast
  -- only the second of the minute moves, so the day and with it the year stay
  have hdate : t.reread.date = t.date := by
    have hseconds : t.reread.seconds =
        t.seconds - (t.secondOfDay % 60 : Nat) + (min t.shownSecond 59 : Nat) := rfl
    have : t.reread.seconds / 86400 = t.seconds / 86400 := by omega
    rw [Instant.date, this, Instant.date]
  exact ⟨hdate ▸ h.1, hdate ▸ h.2.1, hshown ▸ h.2.2⟩

namespace Document

variable {p : Instant → Prop} {d : Document}

theorem eachTime_mapTimes_iff {f : Instant → Instant} :
    (d.mapTimes f).EachTime p ↔ d.EachTime fun t => p (f t) := by
  obtain ⟨ds, r, pending⟩ := d
  simp [eachTime_iff, mapTimes, Device.mapTimes, Recovery.mapTimes, Pairing.mapTimes]

theorem map_modifyFirst {α β : Type} {q : α → Bool} {f : α → α} {g : α → β}
    (h : ∀ x, g (f x) = g x) (l : List α) : (modifyFirst q f l).map g = l.map g := by
  induction l with
  | nil => rfl
  | cons x l ih =>
    rw [modifyFirst]
    split <;> simp [h, ih]

namespace EachTime

variable (h : d.EachTime p)
include h

theorem withDevice_iff {x : Device} : (d.withDevice x).EachTime p ↔ p x.createdAt := by
  have hd : ∀ y ∈ d.devices, p y.createdAt := h.devices
  constructor
  · intro hx
    exact hx.devices x (by simp [Document.withDevice])
  · intro hx
    exact ⟨List.forall_mem_append.mpr ⟨hd, by simpa using hx⟩, h.recovery, h.pairing⟩

theorem withRecovery_iff {slot : Option Recovery} : { d with recovery := slot }.EachTime p ↔
    ∀ x ∈ slot, p x.createdAt ∧ ∀ t ∈ x.expiresAt, p t :=
  ⟨fun hs => hs.recovery, fun hs => ⟨h.devices, hs, h.pairing⟩⟩

theorem withPairing_iff {slot : Option Pairing} : { d with pairing := slot }.EachTime p ↔
    ∀ x ∈ slot, p x.createdAt ∧ p x.expiresAt :=
  ⟨fun hs => hs.pairing, fun hs => ⟨h.devices, h.recovery, hs⟩⟩

theorem withoutName (name : String) : (d.withoutName name).EachTime p where
  devices x hx := h.devices x (List.mem_of_mem_eraseP hx)
  recovery := h.recovery
  pairing := h.pairing

theorem withSecret (secret renewed : String) : (d.withSecret secret renewed).EachTime p where
  devices x hx := by
    have hmap : (d.withSecret secret renewed).devices.map (·.createdAt) =
        d.devices.map (·.createdAt) :=
      map_modifyFirst (f := fun y => { y with secret := renewed }) (fun _ => rfl) d.devices
    have hmem : x.createdAt ∈ d.devices.map (·.createdAt) := hmap ▸ List.mem_map_of_mem hx
    obtain ⟨y, hy, he⟩ := List.mem_map.mp hmem
    exact he ▸ h.devices y hy
  recovery := h.recovery
  pairing := h.pairing

end EachTime

end Document

theorem Command.Effect.eachTime_iff {p : Instant → Prop} {settings : Settings} {now : Instant}
    {r : Randomness} {d d' : Document} {command : Command} {answer : Answer}
    (h : command.Effect settings now r d answer d') (hd : d.EachTime p) :
    d'.EachTime p ↔ ∀ t ∈ command.stamps settings now, p t := by
  cases h with
  | createDevice => simp [stamps, hd.withDevice_iff, Document.minted]
  | deleteDevice => simp [stamps, hd.withoutName]
  | rotateDevice => simp [stamps, hd.withSecret]
  | generateRecovery => simp [stamps, hd.withRecovery_iff]
  | @redeemRecovery _ _ credential _ _ hslot =>
    have hspent : ∀ x ∈ some credential.spend, p x.createdAt ∧ ∀ t ∈ x.expiresAt, p t :=
      fun x hx => Option.mem_some.mp hx ▸ hd.recovery credential hslot
    exact (hd.withRecovery_iff.mpr hspent).withDevice_iff.trans (by simp [stamps, Document.minted])
  | generatePairing => simp [stamps, hd.withPairing_iff]
  | invalidatePairing => simp [stamps, hd.withPairing_iff]
  | redeemPairing =>
    have hdropped : ∀ x ∈ (none : Option Pairing), p x.createdAt ∧ p x.expiresAt := by simp
    exact (hd.withPairing_iff.mpr hdropped).withDevice_iff.trans (by simp [stamps, Document.minted])

theorem Document.IsReadable.reread {d : Document} (h : d.IsReadable) :
    (d.mapTimes Instant.reread).IsReadable :=
  eachTime_mapTimes_iff.mpr (h.imp fun _ ht => ht.reread)

namespace Store

/-- A file that holds a document whose times can all be read once more. -/
def IsOpen (path : Files.Path) (store : DocumentStore) : Prop :=
  ∃ files d, store = file path files ∧ store.read Document.format = .ok d ∧ d.IsReadable

/-- A file with text that is no document. -/
def IsShut (path : Files.Path) (store : DocumentStore) : Prop :=
  ∃ mismatch, store.read Document.format = .error (.parse path mismatch)

/-- A file that can be read. It may hold times that are not read once more: a time of the last hours
of 9999, given west of UTC, is of the next year in UTC. -/
def IsLegible (path : Files.Path) (store : DocumentStore) : Prop :=
  ∃ files d, store = file path files ∧ store.read Document.format = .ok d

/-- The documents that calls put into a store, one after the other. -/
inductive Puts : DocumentStore → List Exchange → Document → Prop
  | now {store : DocumentStore} {x : Exchange} {log : List Exchange} {command : Command}
      {answer : Answer} {d d' : Document} : x.call.Commits store command answer d d' →
      Puts store (x :: log) d'
  | later {store : DocumentStore} {x : Exchange} {log : List Exchange} {d' : Document} :
      Puts (x.call.after store) log d' → Puts store (x :: log) d'

theorem IsOpen.isLegible {path : Files.Path} {store : DocumentStore} (h : IsOpen path store) :
    IsLegible path store := by
  obtain ⟨files, d, hs, hr, -⟩ := h
  exact ⟨files, d, hs, hr⟩

theorem IsLegible.not_isShut {path : Files.Path} {store : DocumentStore}
    (h : IsLegible path store) : ¬ IsShut path store := by
  rintro ⟨mismatch, hshut⟩
  obtain ⟨files, d, -, hr⟩ := h
  cases hr.symm.trans hshut

end Store

namespace Call

variable {c : Call} {store : DocumentStore} {path : Files.Path} {files : Files.FileSystem}
  {command : Command} {answer : Answer} {d d' : Document}

theorem Commits.stamps_eq (h : c.Commits store command answer d d') :
    (c.exchange store).stamps = command.stamps c.settings c.now := by
  simp only [Exchange.stamps, exchange, h.operation, h.answered]

theorem idle_stamps {e : Exchange} (h : e.succeeds (fun _ => true) = false) : e.stamps = [] := by
  unfold Exchange.succeeds at h
  unfold Exchange.stamps
  cases hop : e.call.operation with
  | command command =>
    cases hans : e.answer with
    | ok answer =>
      rw [hop, hans] at h
      cases h
    | error failure => rfl
  | _ => rfl

theorem Commits.after_file (h : c.Commits (.file path files) command answer d d') :
    (d'.IsReadable ∧ Store.IsOpen path (c.after (.file path files))) ∨
      (¬ d'.IsReadable ∧ Store.IsShut path (c.after (.file path files))) := by
  obtain ⟨files', hw, hafter⟩ := Store.put_file_ok_iff.mp h.put
  have hread := Store.read_replace Document.writesText_format h.read hw
  rw [Document.format_ofText, Document.format_toText] at hread
  rw [hafter]
  by_cases hd : d'.IsReadable
  · have hof : Document.ofJson d'.toValue.prettyText = .ok (d'.mapTimes Instant.reread) :=
      Document.ofJson_text_iff.mpr ⟨hd, rfl⟩
    rw [hof] at hread
    exact .inl ⟨hd, files', _, rfl, hread, hd.reread⟩
  · refine .inr ⟨hd, ?_⟩
    cases hof : Document.ofJson d'.toValue.prettyText with
    | ok e => exact absurd (Document.ofJson_text_iff.mp hof).1 hd
    | error mismatch =>
      rw [hof] at hread
      exact ⟨mismatch, hread⟩

theorem after_open (h : Store.IsOpen path store) :
    ((∀ t ∈ (c.exchange store).stamps, t.IsReadable) ∧ Store.IsOpen path (c.after store)) ∨
      ((∃ t ∈ (c.exchange store).stamps, ¬ t.IsReadable) ∧ Store.IsShut path (c.after store)) := by
  obtain ⟨files, d, rfl, hr, hd⟩ := h
  rcases c.commits_or_idle (.file path files) with ⟨command, answer, d₁, d', hc⟩ | ⟨hs, hidle⟩
  · obtain rfl := Except.ok.inj (hr.symm.trans hc.read)
    have hstamps := hc.effect.eachTime_iff hd
    rw [hc.stamps_eq]
    rcases hc.after_file with ⟨hd', hopen⟩ | ⟨hd', hshut⟩
    · exact .inl ⟨hstamps.mp hd', hopen⟩
    · exact .inr ⟨by simpa using mt hstamps.mpr hd', hshut⟩
  · rw [hs, idle_stamps (hidle _)]
    exact .inl ⟨List.forall_mem_nil _, files, d, rfl, hr, hd⟩

theorem after_legible (h : Store.IsLegible path store) :
    ((∀ command answer d d', c.Commits store command answer d d' → d'.IsReadable) ∧
        Store.IsLegible path (c.after store)) ∨
      ((∃ command answer d d', c.Commits store command answer d d' ∧ ¬ d'.IsReadable) ∧
        Store.IsShut path (c.after store)) := by
  obtain ⟨files, d, rfl, hr⟩ := h
  rcases c.commits_or_idle (.file path files) with ⟨command, answer, d₁, d', hc⟩ | ⟨hs, hidle⟩
  · rcases hc.after_file with ⟨-, hopen⟩ | ⟨hd', hshut⟩
    · refine .inl ⟨fun command' answer' d₂ d₃ hc' => ?_, hopen.isLegible⟩
      rcases hc'.after_file with ⟨hd₃, -⟩ | ⟨-, hshut⟩
      · exact hd₃
      · exact absurd hshut hopen.isLegible.not_isShut
    · exact .inr ⟨⟨_, _, _, _, hc, hd'⟩, hshut⟩
  · rw [hs]
    refine .inl ⟨fun command answer d₁ d' hc => ?_, files, d, rfl, hr⟩
    have hsucceeds := hc.succeeds fun _ => true
    rw [hidle] at hsucceeds
    cases hsucceeds

theorem after_shut (h : Store.IsShut path store) :
    c.after store = store ∧ (c.exchange store).stamps = [] := by
  obtain ⟨mismatch, hr⟩ := h
  rcases c.commits_or_idle store with ⟨_, _, _, _, hc⟩ | ⟨hs, hidle⟩
  · cases hr.symm.trans hc.read
  · exact ⟨hs, idle_stamps (hidle _)⟩

end Call

theorem Run.open_or_shut {path : Files.Path} {start store : DocumentStore} {log : List Exchange}
    (h : Run start log store) (ho : Store.IsOpen path start) :
    ((∀ x ∈ log, ∀ t ∈ x.stamps, t.IsReadable) ∧ Store.IsOpen path store) ∨
      ((∃ x ∈ log, ∃ t ∈ x.stamps, ¬ t.IsReadable) ∧ Store.IsShut path store) := by
  induction h with
  | nil => exact .inl ⟨List.forall_mem_nil _, ho⟩
  | @snoc log store c h ih =>
    rcases ih with ⟨hlog, hopen⟩ | ⟨⟨x, hx, ht⟩, hshut⟩
    · rcases c.after_open hopen with ⟨hc, hopen⟩ | ⟨hc, hshut⟩
      · exact .inl ⟨List.forall_mem_append.mpr ⟨hlog, by simpa using hc⟩, hopen⟩
      · exact .inr ⟨⟨_, by simp, hc⟩, hshut⟩
    · rw [(c.after_shut hshut).1]
      exact .inr ⟨⟨x, by simp [hx], ht⟩, hshut⟩

theorem Run.eq_of_shut {path : Files.Path} {start store : DocumentStore} {log : List Exchange}
    (h : Run start log store) (hs : Store.IsShut path start) : store = start := by
  induction h with
  | nil => rfl
  | snoc c h ih =>
    subst ih
    exact (c.after_shut hs).1

/-- The first document that is not read again shuts the file for good. -/
theorem Run.legible_or_shut {path : Files.Path} {start store : DocumentStore} {log : List Exchange}
    (h : Run start log store) (hs : Store.IsLegible path start) :
    ((∀ d, Store.Puts start log d → d.IsReadable) ∧ Store.IsLegible path store) ∨
      ((∃ d, Store.Puts start log d ∧ ¬ d.IsReadable) ∧ Store.IsShut path store) := by
  induction log generalizing start with
  | nil =>
    obtain rfl := h.eq_of_nil
    exact .inl ⟨nofun, hs⟩
  | cons x log ih =>
    obtain ⟨_, hnone, -, hrest⟩ := h.split_exchange (List.nil_append _).symm
    obtain rfl := hnone.eq_of_nil
    rcases x.call.after_legible hs with ⟨hcommits, hafter⟩ | ⟨⟨_, _, _, d', hc, hd'⟩, hshut⟩
    · rcases ih hrest hafter with ⟨hputs, hlegible⟩ | ⟨⟨d, hput, hd⟩, hshut⟩
      · refine .inl ⟨fun d hput => ?_, hlegible⟩
        cases hput with
        | now hc => exact hcommits _ _ _ _ hc
        | later hput => exact hputs d hput
      · exact .inr ⟨⟨d, .later hput, hd⟩, hshut⟩
    · rw [hrest.eq_of_shut hshut]
      exact .inr ⟨⟨d', .now hc, hd'⟩, hshut⟩

/-- A file stays readable along a run exactly as long as every document that is put into it can be
read again. If the document at the start can, only the times that successful commands put in
matter. A file that is not readable any more is so because of what is in it. -/
theorem file_readable_iff_stamps {path : Files.Path} {files : Files.FileSystem}
    {store : DocumentStore} {log : List Exchange} {d : Document}
    (hrun : Run (.file path files) log store)
    (hread : Store.read Document.format (.file path files) = .ok d) :
    ((∃ e, store.read Document.format = .ok e) ↔
        ∀ d', Store.Puts (.file path files) log d' → d'.IsReadable) ∧
      (d.IsReadable → ((∃ e, store.read Document.format = .ok e) ↔
        ∀ x ∈ log, ∀ t ∈ x.stamps, t.IsReadable)) ∧
      ∀ cause, store.read Document.format = .error cause →
        ∃ mismatch, cause = .parse path mismatch := by
  rcases hrun.legible_or_shut ⟨files, d, rfl, hread⟩ with
    ⟨hputs, files', e, -, hr⟩ | ⟨⟨d', hput, hd'⟩, hshut⟩
  · refine ⟨iff_of_true ⟨e, hr⟩ hputs, fun hd => ?_, fun cause hcause => ?_⟩
    · rcases hrun.open_or_shut ⟨files, d, rfl, hread, hd⟩ with ⟨hlog, -⟩ | ⟨-, mismatch, hshut⟩
      · exact iff_of_true ⟨e, hr⟩ hlog
      · cases hr.symm.trans hshut
    · cases hr.symm.trans hcause
  · have hnone : ¬ ∃ e, store.read Document.format = .ok e := by
      rintro ⟨e, he⟩
      obtain ⟨mismatch, hr⟩ := hshut
      cases he.symm.trans hr
    refine ⟨iff_of_false hnone fun h => hd' (h d' hput), fun hd => ?_, fun cause hcause => ?_⟩
    · rcases hrun.open_or_shut ⟨files, d, rfl, hread, hd⟩ with ⟨-, hopen⟩ | ⟨⟨x, hx, t, ht, hn⟩, -⟩
      · exact absurd hshut hopen.isLegible.not_isShut
      · exact iff_of_false hnone fun h => hn (h x hx t ht)
    · obtain ⟨mismatch, hr⟩ := hshut
      rw [hr] at hcause
      exact ⟨mismatch, (Except.error.inj hcause).symm⟩

/-- A file that is not there yet, in an empty directory. -/
def newFile : DocumentStore := .file "d".toList (Store.prepare "d".toList (.bare [])).1

theorem newFile_read : newFile.read Document.format = .ok .empty := ok_of_toOption (by decide +kernel)

theorem newFile_takes : newFile.Takes Document.format := fun _ => ⟨_, rfl⟩

/-- Five minutes before the year 10000 a new pairing secret, which lives for ten, shuts the file;
ten minutes before it does not. -/
theorem file_readable_iff_stamps_newYear :
    let early := Call.plain 253402300199 [bytes32 1] .generatePairing
    let late := Call.plain 253402300500 [bytes32 1] .generatePairing
    (∃ e, (early.after newFile).read Document.format = .ok e) ∧
      ¬ ∃ e, (late.after newFile).read Document.format = .ok e := by
  intro early late
  have hd : Document.empty.IsReadable := ⟨by simp [Document.empty], nofun, nofun⟩
  have hearly : Run newFile [early.exchange newFile] (early.after newFile) := .snoc early .nil
  have hlate : Run newFile [late.exchange newFile] (late.after newFile) := .snoc late .nil
  have hstamps : (early.exchange newFile).stamps = [⟨253402300199, 0⟩, ⟨253402300799, 0⟩] := by
    decide +kernel
  have hstamps' : (late.exchange newFile).stamps = [⟨253402300500, 0⟩, ⟨253402301100, 0⟩] := by
    decide +kernel
  refine ⟨((file_readable_iff_stamps hearly newFile_read).2.1 hd).mpr ?_, ?_⟩
  · rw [List.forall_mem_singleton, hstamps]
    decide +kernel
  · rw [(file_readable_iff_stamps hlate newFile_read).2.1 hd, List.forall_mem_singleton, hstamps']
    decide +kernel

/-- A recovery phrase that is asked to last until 9999-12-31 23:59:59 an hour west of UTC is given
out, and the file is shut by it. -/
theorem generateRecovery_shuts :
    let expiry : Instant := ⟨253402304399, 0⟩
    let generate := Call.plain 0 [List.replicate 24 0] (.generateRecovery (some expiry) none)
    newFile.read Document.format = .ok .empty ∧
      (∃ phrase, generate.answer newFile = .ok (.phrase phrase)) ∧
      ∃ mismatch, (generate.after newFile).read Document.format =
        .error (.parse "d".toList mismatch) := by
  intro expiry generate
  obtain ⟨phrase, hphrase⟩ : ∃ phrase, Mnemonic.Scheme.published.encode .english
      (List.replicate 24 0) = .ok phrase := ⟨_, rfl⟩
  have hcommits : generate.Commits newFile _ (.phrase phrase) .empty _ :=
    Call.commits_of_effect rfl newFile_read newFile_takes (.generateRecovery rfl rfl hphrase)
  have hunreadable : ¬ expiry.IsReadable := by decide +kernel
  refine ⟨newFile_read, ⟨phrase, hcommits.answered⟩, ?_⟩
  rcases hcommits.after_file with ⟨hd, -⟩ | ⟨-, hshut⟩
  · exact absurd ((hd.recovery _ rfl).2 expiry rfl) hunreadable
  · exact hshut

end Credentials
