import Credentials.Proofs.Failures
import Credentials.Proofs.PublishedPhrases
import Credentials.Proofs.Retention

/-! What a status tells of a redemption. A credential that is reported as valid can be redeemed at
the same time, and the other way round: both go by the times and the uses that the store gives
back. -/

namespace Credentials

open Mnemonic (Scheme)
open Time (Instant)

theorem Mnemonic.Scheme.decodeExact_of_encode {language : Mnemonic.Language} {bytes : List UInt8}
    {phrase : String} (h : published.encode language bytes = .ok phrase) :
    published.decodeExact language phrase bytes.length = .ok bytes := by
  have hlist := isWordList_wordList language
  have hdigest := published_digest_length bytes
  have hdecode : published.decode language phrase = .ok bytes :=
    decodeWords_encodeWords hlist hdigest (encodeWords_of_encode hlist hdigest h)
  rw [decodeExact, hdecode]
  exact if_pos rfl

theorem Mnemonic.Scheme.exists_encode (scheme : Scheme) (language : Mnemonic.Language)
    {bytes : List UInt8} (h : bytes.length = Recovery.secretLength) :
    ∃ phrase, scheme.encode language bytes = .ok phrase := by
  have hlength : isEncodable bytes.length = true := by
    rw [h]
    decide
  exact ⟨_, encode_ok_iff.mpr ⟨_, encodeWords_ok_iff.mpr ⟨hlength, rfl⟩, rfl⟩⟩

namespace Recovery

variable {slot : Recovery} {now : Instant}

theorem isValidAt_iff : slot.isValidAt now = true ↔
    (∀ t ∈ slot.expiresAt, now.before t = true) ∧ ∀ n ∈ slot.usesLeft, 0 < n := by
  simp only [isValidAt, Bool.and_eq_true, Option.all_eq_true, decide_eq_true_eq]
  rfl

theorem isValidAt_spend_iff (f : Instant → Instant) : (slot.spend.mapTimes f).isValidAt now = true ↔
    (∀ t ∈ slot.expiresAt, now.before (f t) = true) ∧ ∀ n ∈ slot.usesLeft, 1 < n := by
  have hone (n : UInt64) : (0 < if n = 0 then 0 else n - 1) ↔ 1 < n := by
    split
    · next h => simp [h]
    · next h =>
      have hle : (1 : UInt64) ≤ n := by
        rw [UInt64.le_iff_toNat_le]
        have hne : n.toNat ≠ 0 := fun h0 => h (UInt64.toNat_inj.mp h0)
        exact Nat.one_le_iff_ne_zero.mpr hne
      rw [UInt64.lt_iff_toNat_lt, UInt64.lt_iff_toNat_lt, UInt64.toNat_sub_of_le _ _ hle]
      exact Nat.sub_pos_iff_lt
  simp only [isValidAt_iff, mapTimes, spend, Option.mem_def, Option.map_eq_some_iff,
    forall_exists_index, and_imp, forall_apply_eq_imp_iff₂, hone]

end Recovery

namespace Call

variable {c : Call} {store : DocumentStore} {d : Document} {q : Query} {command : Command}
  {answer : Answer} {phrase name secret : String}

theorem answer_query_ok_iff (hop : c.operation = .query q) : c.answer store = .ok answer ↔
    ∃ d, store.read Document.format = .ok d ∧ q.answer c.now d = answer := by
  cases hr : store.read Document.format with
  | error cause =>
    obtain ⟨failure, hf⟩ := error_of_unreadable (c := c) hr
    simp [hf]
  | ok d => simp [answer_query hop hr]

theorem answer_command_ok_iff (hop : c.operation = .command command)
    (ht : store.Takes Document.format) : c.answer store = .ok answer ↔
      ∃ d d', store.read Document.format = .ok d ∧
        command.Effect c.settings c.now c.randomness d answer d' := by
  constructor
  · intro ha
    obtain ⟨d, d', hc⟩ := commits_of_ok hop ha
    exact ⟨d, d', hc.read, hc.effect⟩
  · rintro ⟨d, d', hr, heffect⟩
    exact (commits_of_effect hop hr ht heffect).answered

/-- The same settings, clock and draws for another operation. -/
def asking (c : Call) (operation : Operation) : Call := { c with operation }

def redeeming (c : Call) (phrase name : String) : Call :=
  c.asking (.command (.redeemRecovery phrase name))

def pairing (c : Call) (secret name : String) : Call :=
  c.asking (.command (.redeemPairing secret name))

def ReportsValid (c : Call) (store : DocumentStore) : Prop :=
  ∃ status, (c.asking (.query .recoveryStatus)).answer store = .ok (.recovery status) ∧
    status.isPresent = true ∧ status.isValid = true

def ReportsExpiry (c : Call) (store : DocumentStore) : Prop :=
  ∃ t, (c.asking (.query .pairingStatus)).answer store = .ok (.expiry (some t))

def Admits (c : Call) (store : DocumentStore) : Prop :=
  ∃ device, c.answer store = .ok (.device device)

theorem reportsValid_iff : c.ReportsValid store ↔ ∃ d slot,
    store.read Document.format = .ok d ∧ d.recovery = some slot ∧ slot.isValidAt c.now = true := by
  simp only [ReportsValid, answer_query_ok_iff (c := c.asking _) rfl]
  constructor
  · rintro ⟨status, ⟨d, hr, hs⟩, hpresent, hvalid⟩
    cases hs
    cases hslot : d.recovery with
    | none =>
      rw [hslot] at hpresent
      cases hpresent
    | some slot =>
      rw [hslot] at hvalid
      exact ⟨d, slot, hr, hslot, hvalid⟩
  · rintro ⟨d, slot, hr, hslot, hvalid⟩
    refine ⟨_, ⟨d, hr, rfl⟩, ?_⟩
    rw [hslot]
    exact ⟨rfl, hvalid⟩

theorem reportsExpiry_iff : c.ReportsExpiry store ↔ ∃ d pending,
    store.read Document.format = .ok d ∧ d.pairing = some pending ∧
      pending.isLiveAt c.now = true := by
  simp only [ReportsExpiry, answer_query_ok_iff (c := c.asking _) rfl, Query.answer,
    Answer.expiry.injEq, Document.pairingExpiry, Option.map_eq_some_iff, Option.filter_eq_some_iff]
  constructor
  · rintro ⟨t, d, hr, pending, ⟨hp, hl⟩, -⟩
    exact ⟨d, pending, hr, hp, hl⟩
  · rintro ⟨d, pending, hr, hp, hl⟩
    exact ⟨_, d, hr, pending, ⟨hp, hl⟩, rfl⟩

theorem admits_redeeming_iff (ht : store.Takes Document.format) :
    (c.redeeming phrase name).Admits store ↔ ∃ d slot,
      store.read Document.format = .ok d ∧ d.recovery = some slot ∧
        c.settings.scheme.decodeExact c.settings.language phrase Recovery.secretLength =
          .ok slot.secret ∧
        slot.isValidAt c.now = true ∧
        ∃ draw ∈ c.randomness.draws, d.holds (secretOf draw) = false := by
  simp only [Admits, answer_command_ok_iff (c := c.redeeming phrase name) rfl ht,
    ← @exists_freshSecret_iff _ []]
  constructor
  · rintro ⟨device, d, d', hr, heffect⟩
    cases heffect with
    | redeemRecovery hw hslot hv hf => exact ⟨d, _, hr, hslot, hw, hv, _, hf⟩
  · rintro ⟨d, slot, hr, hslot, hw, hv, fresh, hf⟩
    exact ⟨_, d, _, hr, .redeemRecovery hw hslot hv hf⟩

theorem admits_pairing_iff (ht : store.Takes Document.format) :
    (c.pairing secret name).Admits store ↔ ∃ d pending,
      store.read Document.format = .ok d ∧ d.pairing = some pending ∧ pending.secret = secret ∧
        pending.isLiveAt c.now = true ∧
        ∃ draw ∈ c.randomness.draws, d.hasDevice (secretOf draw) = false := by
  simp only [Admits, answer_command_ok_iff (c := c.pairing secret name) rfl ht,
    ← @exists_freshSecret_iff _ []]
  constructor
  · rintro ⟨device, d, d', hr, heffect⟩
    cases heffect with
    | redeemPairing hp hl hf => exact ⟨d, _, hr, hp, rfl, hl, _, hf⟩
  · rintro ⟨d, pending, hr, hp, rfl, hl, fresh, hf⟩
    exact ⟨_, d, _, hr, .redeemPairing hp hl hf⟩

section
variable (hr : store.read Document.format = .ok d) (ht : store.Takes Document.format)
  (hfree : ∃ draw ∈ c.randomness.draws, d.holds (secretOf draw) = false)
include hr

theorem reportsValid_iff_of_read {slot : Recovery} (hslot : d.recovery = some slot) :
    c.ReportsValid store ↔ slot.isValidAt c.now = true := by
  simp [reportsValid_iff, hr, hslot]

theorem reportsExpiry_iff_of_read {pending : Pairing} (hp : d.pairing = some pending) :
    c.ReportsExpiry store ↔ pending.isLiveAt c.now = true := by
  simp [reportsExpiry_iff, hr, hp]

include ht hfree

theorem admits_redeeming_iff_of_read {slot : Recovery} (hslot : d.recovery = some slot)
    (hw : c.settings.scheme.decodeExact c.settings.language phrase Recovery.secretLength =
      .ok slot.secret) :
    (c.redeeming phrase name).Admits store ↔ slot.isValidAt c.now = true := by
  simp only [admits_redeeming_iff ht, hr, Except.ok.injEq, exists_eq_left', ↓existsAndEq, hslot, hw,
    Option.some.injEq, hfree, and_true, true_and]

theorem admits_pairing_iff_of_read {pending : Pairing} (hp : d.pairing = some pending) :
    (c.pairing pending.secret name).Admits store ↔ pending.isLiveAt c.now = true := by
  obtain ⟨draw, hdraw, hd⟩ := hfree
  have hdevices : ∃ draw ∈ c.randomness.draws, d.hasDevice (secretOf draw) = false :=
    ⟨draw, hdraw, (Bool.or_eq_false_iff.mp hd).1⟩
  simp only [admits_pairing_iff ht, hr, Except.ok.injEq, ↓existsAndEq, hp, Option.some.injEq,
    hdevices, and_true, true_and]

end

/-- Of a phrase that was just traded in, the status goes by the uses that are left and by the expiry
as the store gave it back. -/
theorem reportsValid_redeemed_iff (hr : store.read Document.format = .ok d) {slot : Recovery}
    (hslot : d.recovery = some slot) (ha : (c.redeeming phrase name).Admits store)
    (hd : d.EachTime store.Retains) (hnow : store.Retains c.now) :
    c.ReportsValid ((c.redeeming phrase name).after store) ↔
      (∀ n ∈ slot.usesLeft, 1 < n) ∧
        ∀ t ∈ slot.expiresAt, c.now.before (store.keptTime t) = true := by
  obtain ⟨device, ha⟩ := ha
  obtain ⟨d₁, d', hc⟩ := commits_of_ok rfl ha
  obtain rfl := Except.ok.inj (hr.symm.trans hc.read)
  have htimes : d'.EachTime store.Retains :=
    (hc.effect.eachTime_iff hd).mpr (List.forall_mem_singleton.mpr hnow)
  have hafter := hc.read_after_iff.mpr ⟨htimes, rfl⟩
  have heffect := hc.effect
  cases heffect with
  | redeemRecovery hw hslot' hv hf =>
    obtain rfl := Option.some.inj (hslot.symm.trans hslot')
    rw [reportsValid_iff_of_read hafter rfl, Recovery.isValidAt_spend_iff, and_comm]

theorem pairingStatus_paired (hr : store.read Document.format = .ok d)
    (ha : (c.pairing secret name).Admits store) (hd : d.EachTime store.Retains)
    (hnow : store.Retains c.now) :
    (c.asking (.query .pairingStatus)).answer ((c.pairing secret name).after store) =
      .ok (.expiry none) := by
  obtain ⟨device, ha⟩ := ha
  obtain ⟨d₁, d', hc⟩ := commits_of_ok rfl ha
  obtain rfl := Except.ok.inj (hr.symm.trans hc.read)
  have htimes : d'.EachTime store.Retains :=
    (hc.effect.eachTime_iff hd).mpr (List.forall_mem_singleton.mpr hnow)
  have hafter := hc.read_after_iff.mpr ⟨htimes, rfl⟩
  have heffect := hc.effect
  cases heffect with
  | redeemPairing => exact answer_query (q := .pairingStatus) rfl hafter

end Call

section

variable {c : Call} {store : DocumentStore} {d : Document}

/-- With a recovery credential of the right length, the status says valid at a time if and only if
its phrase is traded for a device at that time, under any name. After that it says so as long as a
use is left, and the expiry is still to come as the store gives it back: a file keeps no more than
whole microseconds. Likewise a pairing credential is reported with an expiry if and only if its
secret is traded in, and nothing is pending after that. Without a credential nothing is reported and
nothing traded in. What is said of afterwards needs a store that reads its times again. -/
theorem status_predicts_redemption (hname : store.HasName)
    (hread : store.read Document.format = .ok d) (hscheme : c.settings.scheme = .published)
    (hfree : ∃ draw ∈ c.randomness.draws, d.holds (secretOf draw) = false)
    (hlength : ∀ slot ∈ d.recovery, slot.secret.length = Recovery.secretLength) :
    (∀ slot ∈ d.recovery, ∃ phrase,
      c.settings.scheme.encode c.settings.language slot.secret = .ok phrase ∧ ∀ name,
        (c.ReportsValid store ↔ (c.redeeming phrase name).Admits store) ∧
        ((c.redeeming phrase name).Admits store → d.EachTime store.Retains → store.Retains c.now →
          (c.ReportsValid ((c.redeeming phrase name).after store) ↔
            (∀ n ∈ slot.usesLeft, 1 < n) ∧
              ∀ t ∈ slot.expiresAt, c.now.before (store.keptTime t) = true))) ∧
    (d.recovery = none →
      ¬ c.ReportsValid store ∧ ∀ phrase name, ¬ (c.redeeming phrase name).Admits store) ∧
    (∀ pending ∈ d.pairing, ∀ name,
      (c.ReportsExpiry store ↔ (c.pairing pending.secret name).Admits store) ∧
      ((c.pairing pending.secret name).Admits store → d.EachTime store.Retains →
        store.Retains c.now → (c.asking (.query .pairingStatus)).answer
          ((c.pairing pending.secret name).after store) = .ok (.expiry none))) ∧
    (d.pairing = none → (c.asking (.query .pairingStatus)).answer store = .ok (.expiry none) ∧
      ∀ secret name, ¬ (c.pairing secret name).Admits store) := by
  have htakes := (Store.ready_of_read hname hread).takes
  refine ⟨fun slot hslot => ?_, fun hnone => ⟨?_, fun phrase name => ?_⟩, fun pending hp name => ?_,
    fun hnone => ⟨?_, fun secret name => ?_⟩⟩
  · obtain ⟨phrase, hphrase⟩ := Mnemonic.Scheme.exists_encode c.settings.scheme c.settings.language
      (hlength slot hslot)
    have hdecode : c.settings.scheme.decodeExact c.settings.language phrase Recovery.secretLength =
        .ok slot.secret := by
      rw [← hlength slot hslot]
      rw [hscheme] at hphrase ⊢
      exact Mnemonic.Scheme.decodeExact_of_encode hphrase
    refine ⟨phrase, hphrase, fun name => ⟨?_, Call.reportsValid_redeemed_iff hread hslot⟩⟩
    rw [Call.reportsValid_iff_of_read hread hslot,
      Call.admits_redeeming_iff_of_read hread htakes hfree hslot hdecode]
  · rw [Call.reportsValid_iff]
    rintro ⟨e, slot, he, hslot, -⟩
    obtain rfl := Except.ok.inj (hread.symm.trans he)
    cases hnone.symm.trans hslot
  · rw [Call.admits_redeeming_iff htakes]
    rintro ⟨e, slot, he, hslot, -⟩
    obtain rfl := Except.ok.inj (hread.symm.trans he)
    cases hnone.symm.trans hslot
  · refine ⟨?_, Call.pairingStatus_paired hread⟩
    rw [Call.reportsExpiry_iff_of_read hread hp,
      Call.admits_pairing_iff_of_read hread htakes hfree hp]
  · rw [Call.answer_query rfl hread, Query.answer, Document.pairingExpiry, hnone]
    rfl
  · rw [Call.admits_pairing_iff htakes]
    rintro ⟨e, pending, he, hp, -⟩
    obtain rfl := Except.ok.inj (hread.symm.trans he)
    cases hnone.symm.trans hp

end

/-- A credential that is good for two devices, and a pairing secret beside it. -/
def lent : Document where
  recovery := some ⟨List.replicate 24 0, ⟨0, 0⟩, some ⟨10, 0⟩, some 2⟩
  pairing := some ⟨secret32 1, ⟨0, 0⟩, ⟨5, 0⟩⟩

/-- Half a second before the pairing secret expires, either can be traded in, and the recovery
credential once more after that. -/
theorem status_predicts_redemption_lent :
    let c : Call := { Call.plain 0 [bytes32 2] .invalidatePairing with now := ⟨4, 500000000⟩ }
    (c.pairing (secret32 1) "tv").Admits (.memory lent) ∧
      ∃ phrase, (c.redeeming phrase "tv").Admits (.memory lent) ∧
        c.ReportsValid ((c.redeeming phrase "tv").after (.memory lent)) := by
  intro c
  have hpairing : c.ReportsExpiry (.memory lent) := ⟨⟨5, 0⟩, ok_of_toOption (by decide +kernel)⟩
  have hvalid : c.ReportsValid (.memory lent) :=
    (Call.reportsValid_iff_of_read rfl rfl).mpr (by decide)
  have hlength : ∀ slot ∈ lent.recovery, slot.secret.length = Recovery.secretLength := by
    rintro _ ⟨⟩
    rfl
  obtain ⟨hrecovery, -, hpending, -⟩ :=
    @status_predicts_redemption c (.memory lent) lent trivial rfl rfl ⟨bytes32 2, by decide +kernel⟩
      hlength
  obtain ⟨phrase, -, hphrase⟩ := hrecovery _ rfl
  have hadmits := (hphrase "tv").1.mp hvalid
  refine ⟨(hpending _ rfl "tv").1.mp hpairing, phrase, hadmits, ?_⟩
  refine ((hphrase "tv").2 hadmits (Store.retains_memory lent lent) trivial).mpr ⟨?_, ?_⟩
  · rintro _ ⟨⟩
    decide
  · rintro _ ⟨⟩
    decide

/-- A file with a recovery credential whose expiry is finer than a microsecond. -/
def fineExpiry : DocumentStore :=
  .file "d".toList <| (Store.prepare "d".toList (.bare [])).1.setEntry ["d".toList] <| .file <|
    .text "\x7b\"recovery_token\": \x7b\"token\": \"000000000000000000000000000000000000000000000000\",
      \"date\": \"1970-01-01T00:00:00Z\", \"expiration\": \"1970-01-01T00:00:00.000000900Z\",
      \"uses_left\": null\x7d, \"tokens\": []\x7d"

def fineSlot : Recovery := ⟨List.replicate 24 0, ⟨0, 0⟩, some ⟨0, 900⟩, none⟩

theorem fineExpiry_ready : fineExpiry.Ready { recovery := some fineSlot } := by
  have hname : fineExpiry.HasName := by
    rw [fineExpiry, Store.HasName]
    decide
  exact Store.ready_of_read hname (ok_of_toOption (by decide +kernel))

theorem fineExpiry_retains :
    ({ recovery := some fineSlot } : Document).EachTime fineExpiry.Retains := by
  rw [Document.eachTime_iff, fineExpiry, Store.Retains]
  refine ⟨nofun, ?_, nofun⟩
  rintro _ ⟨⟩
  refine ⟨by decide +kernel, ?_⟩
  rintro _ ⟨⟩
  decide +kernel

/-- A use without limit, and yet the credential is gone after it: the redemption writes the expiry
back without its nanoseconds, which puts it before the time of the redemption. -/
theorem fineExpiry_spent :
    let c : Call := { Call.plain 0 [bytes32 1] .invalidatePairing with now := ⟨0, 100⟩ }
    fineExpiry.read Document.format = .ok { recovery := some fineSlot } ∧
      ∃ phrase, Mnemonic.Scheme.published.encode .english fineSlot.secret = .ok phrase ∧
        c.ReportsValid fineExpiry ∧ (c.redeeming phrase "tv").Admits fineExpiry ∧
        fineSlot.usesLeft = none ∧
        ¬ c.ReportsValid ((c.redeeming phrase "tv").after fineExpiry) := by
  intro c
  obtain ⟨hread, htakes⟩ := fineExpiry_ready
  have hvalid : fineSlot.isValidAt c.now = true := by decide
  obtain ⟨phrase, hphrase⟩ := Mnemonic.Scheme.exists_encode .published .english
    (show fineSlot.secret.length = _ from rfl)
  have hdecode : c.settings.scheme.decodeExact c.settings.language phrase Recovery.secretLength =
      .ok fineSlot.secret := Mnemonic.Scheme.decodeExact_of_encode hphrase
  have hadmits : (c.redeeming phrase "tv").Admits fineExpiry :=
    (Call.admits_redeeming_iff_of_read hread htakes ⟨bytes32 1, by decide +kernel⟩ rfl
      hdecode).mpr hvalid
  have hnow : fineExpiry.Retains c.now := by
    rw [fineExpiry, Store.Retains]
    decide +kernel
  refine ⟨hread, phrase, hphrase, (Call.reportsValid_iff_of_read hread rfl).mpr hvalid, hadmits,
    rfl, ?_⟩
  rw [Call.reportsValid_redeemed_iff hread rfl hadmits fineExpiry_retains hnow]
  rintro ⟨-, hexpiry⟩
  have hkept : c.now.before (Instant.reread ⟨0, 900⟩) = false := by decide +kernel
  exact absurd ((hexpiry _ rfl).symm.trans hkept) (by decide)

end Credentials
