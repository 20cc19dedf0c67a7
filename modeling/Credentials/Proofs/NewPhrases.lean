import Credentials.Proofs.Predictions
import Credentials.Proofs.RecoveryRuns
import Credentials.Proofs.Revocation

/-! A recovery phrase at the time it is given out. The expiry is accepted as it was asked for, but
what counts afterwards is what the store gives back of it. -/

namespace Credentials

open Time (Instant)

namespace Recovery

variable {now : Instant} {expiresAt : Option Instant} {uses : Option Int} {usesLeft : Option UInt64}

theorem isValidAt_of_checkTerms (h : checkTerms now expiresAt uses = .ok usesLeft) :
    (∀ t ∈ expiresAt, now.before t = true) ∧ ∀ n ∈ usesLeft, 0 < n := by
  unfold checkTerms at h
  split at h
  · cases h
  · next hpast =>
    constructor
    · simpa [Option.any_eq_true] using hpast
    · rintro n hn
      have hlimit := toNat_limit h
      rw [Option.mem_def.mp hn, Option.map_some] at hlimit
      rw [← hlimit, limit?] at h
      split at h
      · next hpos => exact UInt64.lt_iff_toNat_lt.mpr (by simpa using hpos.1)
      · cases h

end Recovery

theorem Document.eachTime_withRecovery_iff {p : Instant → Prop} {d : Document} {slot : Recovery} :
    { d with recovery := some slot }.EachTime p ↔ { d with recovery := none }.EachTime p ∧
      ∀ t ∈ slot.createdAt :: slot.expiresAt.toList, p t := by
  simp [eachTime_iff, and_comm, and_left_comm, and_assoc]

/-- Whether a store gives back a document with a new recovery credential, and the expiry no earlier
than it takes to be valid at once. -/
structure Store.KeepsPhrase (store : DocumentStore) (d : Document) (now : Instant)
    (expiresAt : Option Instant) : Prop where
  rest : { d with recovery := none }.EachTime store.Retains
  stamps : ∀ t ∈ now :: expiresAt.toList, store.Retains t
  ahead : ∀ t ∈ expiresAt, now.before (store.keptTime t) = true

namespace Call

variable {c later : Call} {store : DocumentStore} {d : Document} {expiresAt : Option Instant}
  {uses : Option Int} {phrase : String}

theorem commits_generateRecovery
    (hdraws : ∀ draw ∈ c.randomness.draws, Recovery.secretLength ≤ draw.length)
    (hop : c.operation = .command (.generateRecovery expiresAt uses))
    (hok : c.answer store = .ok (.phrase phrase)) (hr : store.read Document.format = .ok d) :
    ∃ secret usesLeft, secret.length = Recovery.secretLength ∧
      c.settings.scheme.encode c.settings.language secret = .ok phrase ∧
      Recovery.checkTerms c.now expiresAt uses = .ok usesLeft ∧
      c.Commits store (.generateRecovery expiresAt uses) (.phrase phrase) d
        { d with recovery := some ⟨secret, c.now, expiresAt, usesLeft⟩ } := by
  obtain ⟨d₁, d', hc⟩ := commits_of_ok hop hok
  obtain rfl := Except.ok.inj (hr.symm.trans hc.read)
  have heffect := hc.effect
  cases heffect with
  | @generateRecovery _ _ usesLeft draw rest _ ht hd he =>
    have hlength : Recovery.secretLength ≤ draw.length := hdraws draw (hd ▸ List.mem_cons_self)
    exact ⟨_, usesLeft, List.length_take_of_le hlength, he, ht, hc⟩

end Call

section

variable {c later : Call} {store : DocumentStore} {d : Document} {expiresAt : Option Instant}
  {uses : Option Int} {phrase : String}

theorem Store.keepsPhrase_memory {now : Instant} {usesLeft : Option UInt64}
    (h : Recovery.checkTerms now expiresAt uses = .ok usesLeft) (v : Document) :
    (Store.memory v).KeepsPhrase d now expiresAt where
  rest := Store.retains_memory v _
  stamps _ _ := trivial
  ahead := (Recovery.isValidAt_of_checkTerms h).1

/-- A recovery phrase that was given out is reported as valid at the same clock reading, and traded
for a device under any name, if and only if the store gives back the document with an expiry that is
still ahead. In memory it always does. A file cuts the expiry to microseconds and does not read
every year, which the check of the expiry does not look at. -/
theorem newPhrase_redeemable_iff (hscheme : c.settings.scheme = .published)
    (hdraws : ∀ draw ∈ c.randomness.draws, Recovery.secretLength ≤ draw.length)
    (hop : c.operation = .command (.generateRecovery expiresAt uses))
    (hok : c.answer store = .ok (.phrase phrase)) (hread : store.read Document.format = .ok d)
    (hnow : later.now = c.now) (hsettings : later.settings = c.settings)
    (hfree : ∃ draw ∈ later.randomness.draws, d.holds (secretOf draw) = false) :
    (later.ReportsValid (c.after store) ↔ store.KeepsPhrase d c.now expiresAt) ∧
      (∀ name, (later.redeeming phrase name).Admits (c.after store) ↔
        store.KeepsPhrase d c.now expiresAt) ∧
      ∀ v, store = .memory v → store.KeepsPhrase d c.now expiresAt := by
  obtain ⟨secret, usesLeft, hlength, hencode, hterms, hc⟩ :=
    Call.commits_generateRecovery hdraws hop hok hread
  obtain ⟨-, hpositive⟩ := Recovery.isValidAt_of_checkTerms hterms
  have hdecode : later.settings.scheme.decodeExact later.settings.language phrase
      Recovery.secretLength = .ok secret := by
    rw [hsettings, ← hlength]
    rw [hscheme] at hencode ⊢
    exact Mnemonic.Scheme.decodeExact_of_encode hencode
  have hreports : later.ReportsValid (c.after store) ↔ store.KeepsPhrase d c.now expiresAt := by
    rw [Call.reportsValid_iff, hnow]
    constructor
    · rintro ⟨e, slot, he, hslot, hvalid⟩
      obtain ⟨htimes, rfl⟩ := hc.read_after_iff.mp he
      obtain rfl := Option.some.inj hslot
      obtain ⟨hrest, hstamps⟩ := Document.eachTime_withRecovery_iff.mp htimes
      refine ⟨hrest, hstamps, fun t ht => (Recovery.isValidAt_iff.mp hvalid).1 _ ?_⟩
      exact Option.mem_map_of_mem store.keptTime ht
    · intro h
      have htimes : { d with
          recovery := some ⟨secret, c.now, expiresAt, usesLeft⟩ }.EachTime store.Retains :=
        Document.eachTime_withRecovery_iff.mpr ⟨h.rest, h.stamps⟩
      refine ⟨_, _, hc.read_after_iff.mpr ⟨htimes, rfl⟩, rfl, ?_⟩
      refine Recovery.isValidAt_iff.mpr ⟨fun t ht => ?_, hpositive⟩
      obtain ⟨u, hu, rfl⟩ := Option.map_eq_some_iff.mp ht
      exact h.ahead u hu
  refine ⟨hreports, fun name => ?_, ?_⟩
  · rw [← hreports, Call.reportsValid_iff]
    constructor
    · intro ha
      obtain ⟨e, slot, he, hslot, -, hvalid, -⟩ := (Call.admits_redeeming_iff hc.takes_after).mp ha
      exact ⟨e, slot, he, hslot, hvalid⟩
    · rintro ⟨e, slot, he, hslot, hvalid⟩
      obtain ⟨-, rfl⟩ := hc.read_after_iff.mp he
      obtain rfl := Option.some.inj hslot
      obtain ⟨draw, hdraw, hunheld⟩ := hfree
      -- what is held is a matter of devices and of the pairing secret
      have hfree' : ∃ draw ∈ later.randomness.draws, (Document.mapTimes store.keptTime
          { d with recovery := some ⟨secret, c.now, expiresAt, usesLeft⟩ }).holds (secretOf draw) =
            false := ⟨draw, hdraw, (Document.holds_mapTimes _ _ _).trans hunheld⟩
      exact (Call.admits_redeeming_iff_of_read he hc.takes_after hfree' rfl hdecode).mpr hvalid
  · rintro v rfl
    exact Store.keepsPhrase_memory hterms v

end

/-- In a file, ten seconds are enough. -/
theorem newPhrase_redeemable_iff_seconds :
    let generate := Call.plain 0 [List.replicate 24 0] (.generateRecovery (some ⟨10, 0⟩) (some 1))
    let later := Call.plain 0 [bytes32 1] .invalidatePairing
    ∃ phrase, generate.answer newFile = .ok (.phrase phrase) ∧
      later.ReportsValid (generate.after newFile) ∧
      (later.redeeming phrase "tv").Admits (generate.after newFile) := by
  intro generate later
  obtain ⟨phrase, hphrase⟩ := Mnemonic.Scheme.exists_encode .published .english
    (show (List.replicate 24 (0 : UInt8)).length = _ from rfl)
  have hok : generate.answer newFile = .ok (.phrase phrase) :=
    (Call.commits_of_effect rfl newFile_read newFile_takes
      (.generateRecovery rfl rfl hphrase)).answered
  have hdraws : ∀ draw ∈ generate.randomness.draws, Recovery.secretLength ≤ draw.length := by decide
  have hkeeps : newFile.KeepsPhrase .empty generate.now (some ⟨10, 0⟩) := by
    refine ⟨⟨nofun, nofun, nofun⟩, ?_, ?_⟩
    · show ∀ t ∈ [⟨0, 0⟩, ⟨10, 0⟩], Instant.IsReadable t
      decide +kernel
    · rintro _ ⟨⟩
      show Instant.before ⟨0, 0⟩ (Instant.reread ⟨10, 0⟩) = true
      decide +kernel
  obtain ⟨hreports, hredeems, -⟩ := newPhrase_redeemable_iff rfl hdraws rfl hok newFile_read
    (show later.now = _ from rfl) rfl ⟨bytes32 1, by decide +kernel⟩
  exact ⟨phrase, hok, hreports.mpr hkeeps, (hredeems "tv").mpr hkeeps⟩

/-- A phrase that was asked for until eight hundred nanoseconds later is given out, and is dead. -/
theorem generateRecovery_dead :
    let generate := { Call.plain 0 [List.replicate 24 0]
      (.generateRecovery (some ⟨0, 900⟩) none) with now := ⟨0, 100⟩ }
    let later := { Call.plain 0 [bytes32 1] .invalidatePairing with now := ⟨0, 100⟩ }
    ∃ phrase, generate.answer newFile = .ok (.phrase phrase) ∧
      ¬ later.ReportsValid (generate.after newFile) ∧
      ¬ (later.redeeming phrase "tv").Admits (generate.after newFile) := by
  intro generate later
  obtain ⟨phrase, hphrase⟩ := Mnemonic.Scheme.exists_encode .published .english
    (show (List.replicate 24 (0 : UInt8)).length = _ from rfl)
  have hc : generate.Commits newFile _ (.phrase phrase) .empty _ :=
    Call.commits_of_effect rfl newFile_read newFile_takes (.generateRecovery rfl rfl hphrase)
  have hdead : ∀ e slot, (generate.after newFile).read Document.format = .ok e →
      e.recovery = some slot → slot.isValidAt later.now = false := by
    intro e slot he hslot
    obtain ⟨-, rfl⟩ := hc.read_after_iff.mp he
    obtain rfl := Option.some.inj hslot
    show Recovery.isValidAt ⟨_, _, some (Instant.reread ⟨0, 900⟩), none⟩ ⟨0, 100⟩ = false
    decide +kernel
  refine ⟨phrase, hc.answered, ?_, ?_⟩
  · rw [Call.reportsValid_iff]
    rintro ⟨e, slot, he, hslot, hvalid⟩
    rw [hdead e slot he hslot] at hvalid
    cases hvalid
  · rw [Call.admits_redeeming_iff hc.takes_after]
    rintro ⟨e, slot, he, hslot, -, hvalid, -⟩
    rw [hdead e slot he hslot] at hvalid
    cases hvalid

end Credentials
