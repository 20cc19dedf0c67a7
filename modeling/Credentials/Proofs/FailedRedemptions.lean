import Credentials.Proofs.PairingRuns
import Credentials.Proofs.Predictions
import Credentials.Proofs.Retyping

/-! What is learnt from a redemption that fails. A phrase that does not stand for the bytes of a
credential is refused before any document is looked at; every other failure has the same words, so
it does not tell a credential that is not there from one that is different, expired or used up. -/

namespace Credentials

open Mnemonic (Language Scheme)
open Time (Instant)

namespace Mnemonic.Scheme

variable {scheme : Scheme} {language : Language} {phrase : String} {bytes : List UInt8}

/-- Whether a phrase stands for bytes, and for as many as a recovery credential has. -/
def Reads (scheme : Scheme) (language : Language) (phrase : String) (bytes : List UInt8) : Prop :=
  scheme.decode language phrase = .ok bytes ∧ bytes.length = Recovery.secretLength

theorem reads_iff : scheme.Reads language phrase bytes ↔
    scheme.decodeExact language phrase Recovery.secretLength = .ok bytes := by
  rw [Reads, decodeExact, bind_ok_iff]
  constructor
  · rintro ⟨hdecode, hlength⟩
    exact ⟨bytes, hdecode, if_pos hlength⟩
  · rintro ⟨read, hdecode, hchecked⟩
    split at hchecked
    · next hlength =>
      cases hchecked
      exact ⟨hdecode, hlength⟩
    · cases hchecked

theorem exists_error (h : ¬ ∃ bytes, scheme.Reads language phrase bytes) :
    ∃ cause, scheme.decodeExact language phrase Recovery.secretLength = .error cause := by
  cases hw : scheme.decodeExact language phrase Recovery.secretLength with
  | error cause => exact ⟨cause, rfl⟩
  | ok bytes => exact absurd ⟨bytes, reads_iff.mpr hw⟩ h

end Mnemonic.Scheme

namespace Document

/-- Whether a recovery credential of these bytes is held and good at a time. -/
def Honours (d : Document) (secret : List UInt8) (now : Instant) : Prop :=
  ∃ slot, d.recovery = some slot ∧ slot.secret = secret ∧ slot.isValidAt now = true

/-- Whether this pairing secret is pending at a time. -/
def Awaits (d : Document) (secret : String) (now : Instant) : Prop :=
  ∃ pending, d.pairing = some pending ∧ pending.secret = secret ∧ pending.isLiveAt now = true

variable {d : Document} {now : Instant} {r : Randomness} {name : String}

theorem redeemRecovery_notFound {presented : List UInt8} (h : ¬ d.Honours presented now) :
    redeemRecovery presented name now r d = .error .notFound := by
  unfold redeemRecovery
  cases hslot : d.recovery with
  | none => rfl
  | some slot =>
    have hno : ¬ (secretsMatch slot.secret presented && slot.isValidAt now) = true := by
      rw [Bool.and_eq_true, secretsMatch, beq_iff_eq]
      exact fun hgood => h ⟨slot, hslot, hgood.1, hgood.2⟩
    simp only [if_neg hno]

end Document

namespace Store

theorem takes_of_held {store : DocumentStore} {d : Document}
    (hr : store.read Document.format = .ok d) (hne : d ≠ .empty) : store.Takes Document.format := by
  cases store with
  | memory value => exact takes_memory value
  | poisoned => cases hr
  | file path files =>
    obtain ⟨-, hholds⟩ := read_file_ok_iff.mp hr
    cases hholds with
    | missing => exact absurd rfl hne
    | blank => exact absurd rfl hne
    | written htext =>
      obtain ⟨place, hplace, hslash, hentry⟩ := Files.FileSystem.find_file_iff.mp
        (Files.FileSystem.read_ok_iff.mp (Files.FileSystem.readText_ok_iff.mp htext))
      intro copy
      exact ⟨_, put_file_ok_iff.mpr ⟨_, Files.FileSystem.replace_ok_iff.mpr
        ⟨place, hplace, hslash, by simp [hentry], rfl⟩, rfl⟩⟩

end Store

namespace Call

structure Finds (c : Call) (store : DocumentStore) (d : Document) : Prop where
  read : store.read Document.format = .ok d
  free : ∃ draw ∈ c.randomness.draws, d.holds (secretOf draw) = false

variable {c : Call} {store : DocumentStore} {d : Document} {phrase name secret : String}
  {bytes : List UInt8} {cause : Mnemonic.Error}

theorem redeeming_malformed (hw : c.settings.scheme.decodeExact c.settings.language phrase
      Recovery.secretLength = .error cause) (store : DocumentStore) (name : String) :
    (c.redeeming phrase name).answer store = .error (.refused (.invalidMnemonic cause)) := by
  refine (unprepared (r := c.randomness) store rfl ?_).1
  simp only [redeeming, asking, Command.prepare, hw]

section
variable (hw : c.settings.scheme.decodeExact c.settings.language phrase Recovery.secretLength =
  .ok bytes)
include hw

theorem redeeming_notFound (hr : store.read Document.format = .ok d)
    (hno : ¬ d.Honours bytes c.now) :
    (c.redeeming phrase name).answer store = .error (.refused .notFound) := by
  have hp : (Command.redeemRecovery phrase name).prepare c.settings c.now c.randomness =
      (.ok ((Document.redeemRecovery bytes name c.now).map .device), c.randomness) := by
    simp only [Command.prepare, hw]
  refine (refused (c := c.redeeming phrase name) rfl hr hp ?_).1
  rw [Transaction.map, Document.redeemRecovery_notFound hno]
  rfl

theorem redeeming_admits (hd : c.Finds store d) (h : d.Honours bytes c.now) :
    (c.redeeming phrase name).Admits store := by
  obtain ⟨slot, hslot, rfl, hvalid⟩ := h
  have hne : d ≠ .empty := by
    rintro rfl
    cases hslot
  exact (admits_redeeming_iff_of_read hd.read (Store.takes_of_held hd.read hne) hd.free hslot
    hw).mpr hvalid

end

theorem pairing_notFound (hr : store.read Document.format = .ok d) (hno : ¬ d.Awaits secret c.now) :
    (c.pairing secret name).answer store = .error (.refused .notFound) := by
  refine (refused rfl hr rfl ?_).1
  rw [Transaction.map, Document.redeemPairing_notFound]
  · rfl
  · exact fun pending hp hl hsame => hno ⟨pending, hp, hsame, hl⟩

theorem pairing_admits (hd : c.Finds store d) (h : d.Awaits secret c.now) :
    (c.pairing secret name).Admits store := by
  obtain ⟨pending, hp, rfl, hlive⟩ := h
  have hne : d ≠ .empty := by
    rintro rfl
    cases hp
  exact (admits_pairing_iff_of_read hd.read (Store.takes_of_held hd.read hne) hd.free hp).mpr hlive

theorem exists_failure (scheme : Scheme) (language : Language) (phrase : String) :
    ∃ failure, ∀ (c : Call) (store : DocumentStore) (d : Document) (name : String),
      c.settings.scheme = scheme → c.settings.language = language → c.Finds store d →
        ¬ (c.redeeming phrase name).Admits store →
          (c.redeeming phrase name).answer store = .error failure := by
  by_cases hreads : ∃ bytes, scheme.Reads language phrase bytes
  · obtain ⟨bytes, hreads⟩ := hreads
    refine ⟨.refused .notFound, ?_⟩
    rintro c store d name rfl rfl hd hno
    have hw := Scheme.reads_iff.mp hreads
    exact redeeming_notFound hw hd.read fun h => hno (redeeming_admits hw hd h)
  · obtain ⟨cause, hw⟩ := Scheme.exists_error hreads
    refine ⟨.refused (.invalidMnemonic cause), ?_⟩
    rintro c store d name rfl rfl - -
    exact redeeming_malformed hw store name

end Call

/-- A phrase that does not stand for the bytes of a recovery credential is refused for the same
reason whatever the store is like. One that does is traded for a device if a credential of these
bytes is held and valid, and refused in the same words if not. So all redemptions of a phrase that
fail, on documents that can be read, fail alike. Likewise a pairing secret is traded for a device if
it is pending, and refused in the same words if not. -/
theorem failed_redemption_reveals (scheme : Scheme) (language : Language) (phrase : String) :
    ((¬ ∃ bytes, scheme.Reads language phrase bytes) →
      ∃ cause, ∀ (c : Call) (store : DocumentStore) (name : String),
        c.settings.scheme = scheme → c.settings.language = language →
          (c.redeeming phrase name).answer store = .error (.refused (.invalidMnemonic cause))) ∧
    (∀ bytes, scheme.Reads language phrase bytes →
      ∀ (c : Call) (store : DocumentStore) (d : Document) (name : String),
        c.settings.scheme = scheme → c.settings.language = language →
          (d.Honours bytes c.now → c.Finds store d → (c.redeeming phrase name).Admits store) ∧
          (¬ d.Honours bytes c.now → store.read Document.format = .ok d →
            (c.redeeming phrase name).answer store = .error (.refused .notFound))) ∧
    (∃ failure, ∀ (c : Call) (store : DocumentStore) (d : Document) (name : String),
      c.settings.scheme = scheme → c.settings.language = language → c.Finds store d →
        ¬ (c.redeeming phrase name).Admits store →
          (c.redeeming phrase name).answer store = .error failure) ∧
    ∀ (c : Call) (store : DocumentStore) (d : Document) (secret name : String),
      (d.Awaits secret c.now → c.Finds store d → (c.pairing secret name).Admits store) ∧
      (¬ d.Awaits secret c.now → store.read Document.format = .ok d →
        (c.pairing secret name).answer store = .error (.refused .notFound)) := by
  refine ⟨fun hreads => ?_, fun bytes hreads => ?_, Call.exists_failure scheme language phrase,
    fun c store d secret name => ⟨?_, ?_⟩⟩
  · obtain ⟨cause, hw⟩ := Scheme.exists_error hreads
    refine ⟨cause, ?_⟩
    rintro c store name rfl rfl
    exact Call.redeeming_malformed hw store name
  · rintro c store d name rfl rfl
    have hw := Scheme.reads_iff.mp hreads
    exact ⟨fun h hd => Call.redeeming_admits hw hd h, fun h hr => Call.redeeming_notFound hw hr h⟩
  · exact fun h hd => Call.pairing_admits hd h
  · exact fun h hr => Call.pairing_notFound hr h

/-- The credentials of `lent` once the recovery credential is expired and used up, and the pairing
secret expired. -/
def lapsed : Document where
  recovery := some ⟨List.replicate 24 0, ⟨0, 0⟩, some ⟨3, 0⟩, some 0⟩
  pairing := some ⟨secret32 1, ⟨0, 0⟩, ⟨3, 0⟩⟩

/-- A phrase of sixteen bytes on a store that crashed and on one that did not, and a phrase of the
right length on credentials that are good, lapsed and missing. -/
theorem failed_redemption_reveals_lapsed :
    let c : Call := { Call.plain 0 [bytes32 2] .invalidatePairing with now := ⟨4, 0⟩ }
    (c.redeeming Scheme.abandon "tv").answer .poisoned =
        (c.redeeming Scheme.abandon "tv").answer (.memory lent) ∧
      (∃ phrase, Scheme.published.encode .english (List.replicate 24 0) = .ok phrase ∧
        (c.redeeming phrase "tv").Admits (.memory lent) ∧
        (c.redeeming phrase "tv").answer (.memory lapsed) = .error (.refused .notFound) ∧
        (c.redeeming phrase "tv").answer (.memory lapsed) =
          (c.redeeming phrase "tv").answer (.memory .empty)) ∧
      (c.pairing (secret32 1) "tv").Admits (.memory lent) ∧
      (c.pairing (secret32 1) "tv").answer (.memory lapsed) = .error (.refused .notFound) := by
  intro c
  have hlent : c.Finds (.memory lent) lent := ⟨rfl, bytes32 2, by decide +kernel, by decide +kernel⟩
  have hlapsed : ¬ lapsed.Honours (List.replicate 24 0) c.now := by
    rintro ⟨slot, ⟨⟩, -, hvalid⟩
    cases hvalid
  have hempty : ¬ Document.empty.Honours (List.replicate 24 0) c.now := by
    rintro ⟨slot, hslot, -⟩
    cases hslot
  refine ⟨?_, ?_, ?_⟩
  · have hshort : ¬ ∃ bytes, Scheme.published.Reads .english Scheme.abandon bytes := by
      rintro ⟨bytes, hdecode, hlength⟩
      obtain rfl := Except.ok.inj (Scheme.decode_abandon.symm.trans hdecode)
      cases hlength
    obtain ⟨cause, h⟩ := (failed_redemption_reveals .published .english Scheme.abandon).1 hshort
    rw [h c _ _ rfl rfl, h c _ _ rfl rfl]
  · obtain ⟨phrase, hphrase⟩ := Scheme.exists_encode .published .english
      (show (List.replicate 24 (0 : UInt8)).length = Recovery.secretLength from rfl)
    have hreads : Scheme.published.Reads .english phrase (List.replicate 24 0) :=
      Scheme.reads_iff.mpr (Scheme.decodeExact_of_encode hphrase)
    have htold := (failed_redemption_reveals .published .english phrase).2.1 _ hreads c
    have hgood : lent.Honours (List.replicate 24 0) c.now := ⟨_, rfl, rfl, by decide⟩
    have hrefused := (htold (.memory lapsed) lapsed "tv" rfl rfl).2 hlapsed rfl
    have hmissing := (htold (.memory .empty) .empty "tv" rfl rfl).2 hempty rfl
    have hadmits := (htold (.memory lent) lent "tv" rfl rfl).1 hgood hlent
    exact ⟨phrase, hphrase, hadmits, hrefused, hrefused.trans hmissing.symm⟩
  · have htold := (failed_redemption_reveals .published .english "").2.2.2 c
    have hgood : lent.Awaits (secret32 1) c.now := ⟨_, rfl, rfl, by decide⟩
    have hpast : ¬ lapsed.Awaits (secret32 1) c.now := by
      rintro ⟨pending, ⟨⟩, -, hlive⟩
      cases hlive
    exact ⟨(htold _ _ _ _).1 hgood hlent, (htold _ _ _ _).2 hpast rfl⟩

end Credentials
