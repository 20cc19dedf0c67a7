import Credentials.Operation
import Credentials.Proofs.Draws

/-! What a successful command does to a document, one constructor a command, with everything the
command demands beforehand. `apply_ok_iff` says that this is exactly when a command succeeds and
exactly what it leaves, so nothing after this module opens a transaction again. -/

namespace Credentials

open Time (Instant)

namespace Document

/-- The device that a request for a name is answered with once its secret is drawn. -/
def minted (d : Document) (requested : String) (now : Instant) (r : Randomness)
    (fresh : FreshSecret) : Device :=
  ⟨fresh.secret, (d.nameFor requested r.digits).1, now⟩

def withDevice (d : Document) (device : Device) : Document :=
  { d with devices := d.devices ++ [device] }

def withSecret (d : Document) (secret renewed : String) : Document :=
  { d with
    devices := modifyFirst (·.secret == secret) (fun x => { x with secret := renewed }) d.devices }

def withoutName (d : Document) (name : String) : Document :=
  { d with devices := d.devices.eraseP (·.name == name) }

end Document

inductive Command.Effect (settings : Settings) (now : Instant) (r : Randomness) (d : Document) :
    Command → Answer → Document → Prop
  | createDevice {name : String} {fresh : FreshSecret} :
      freshSecret d.holds [] r.draws = some fresh →
      Effect settings now r d (.createDevice name) (.device (d.minted name now r fresh))
        (d.withDevice (d.minted name now r fresh))
  | deleteDevice {name caller : String} {device : Device} :
      d.byName? name = some device → device.secret ≠ caller →
      Effect settings now r d (.deleteDevice name caller) .done (d.withoutName name)
  | rotateDevice {secret : String} {device : Device} {fresh : FreshSecret} :
      d.bySecret? secret = some device → freshSecret d.holds [] r.draws = some fresh →
      Effect settings now r d (.rotateDevice secret) (.secret fresh.secret)
        (d.withSecret secret fresh.secret)
  | generateRecovery {expiresAt : Option Instant} {uses : Option Int} {usesLeft : Option UInt64}
      {draw : List UInt8} {rest : Draws} {phrase : String} :
      Recovery.checkTerms now expiresAt uses = .ok usesLeft → r.draws = draw :: rest →
      settings.scheme.encode settings.language (draw.take Recovery.secretLength) = .ok phrase →
      Effect settings now r d (.generateRecovery expiresAt uses) (.phrase phrase)
        { d with recovery := some ⟨draw.take Recovery.secretLength, now, expiresAt, usesLeft⟩ }
  | redeemRecovery {phrase name : String} {credential : Recovery} {fresh : FreshSecret} :
      settings.scheme.decodeExact settings.language phrase Recovery.secretLength =
        .ok credential.secret →
      d.recovery = some credential → credential.isValidAt now = true →
      freshSecret d.holds [] r.draws = some fresh →
      Effect settings now r d (.redeemRecovery phrase name) (.device (d.minted name now r fresh))
        { d.withDevice (d.minted name now r fresh) with recovery := some credential.spend }
  | generatePairing {fresh : FreshSecret} :
      freshSecret d.hasDevice [] r.draws = some fresh →
      Effect settings now r d .generatePairing (.secret fresh.secret)
        { d with pairing := some ⟨fresh.secret, now, now.shiftWithin settings.pairingLife⟩ }
  | invalidatePairing :
      Effect settings now r d .invalidatePairing .done { d with pairing := none }
  | redeemPairing {name : String} {pending : Pairing} {fresh : FreshSecret} :
      d.pairing = some pending → pending.isLiveAt now = true →
      freshSecret d.hasDevice [] r.draws = some fresh →
      Effect settings now r d (.redeemPairing pending.secret name)
        (.device (d.minted name now r fresh))
        { d.withDevice (d.minted name now r fresh) with pairing := none }

namespace Document

theorem issueDevice_ok_iff {d d' : Document} {requested : String} {now : Instant}
    {r r' : Randomness} {device : Device} :
    issueDevice requested now r d = .ok (device, d', r') ↔
      ∃ fresh, freshSecret d.holds [] r.draws = some fresh ∧
        device = d.minted requested now r fresh ∧ d' = d.withDevice device ∧
        r' = ⟨fresh.rest, fun i => r.digits (i + (d.nameFor requested r.digits).2)⟩ := by
  unfold issueDevice
  cases h : freshSecret d.holds [] r.draws with
  | none => simp
  | some fresh =>
    simp only [Except.ok.injEq, Prod.mk.injEq, Option.some.injEq, exists_eq_left']
    constructor
    · rintro ⟨rfl, rfl, rfl⟩
      exact ⟨rfl, rfl, rfl⟩
    · rintro ⟨rfl, rfl, rfl⟩
      exact ⟨rfl, rfl, rfl⟩

theorem deleteDevice_ok_iff {d d' : Document} {name caller : String} {r r' : Randomness} {u : Unit} :
    deleteDevice name caller r d = .ok (u, d', r') ↔
      ∃ device, d.byName? name = some device ∧ device.secret ≠ caller ∧ d' = d.withoutName name ∧
        r' = r := by
  unfold deleteDevice
  cases d.byName? name with
  | none => simp
  | some device =>
    by_cases h : device.secret = caller
    · simp [h]
    · simp only [beq_iff_eq, h, if_false, Except.ok.injEq, Prod.mk.injEq, true_and,
        Option.some.injEq, exists_eq_left', ne_eq, not_false_eq_true, withoutName]
      exact and_congr eq_comm eq_comm

theorem rotateDevice_ok_iff {d d' : Document} {secret answer : String} {r r' : Randomness} :
    rotateDevice secret r d = .ok (answer, d', r') ↔
      ∃ device fresh, d.bySecret? secret = some device ∧
        freshSecret d.holds [] r.draws = some fresh ∧ answer = fresh.secret ∧
        d' = d.withSecret secret fresh.secret ∧ r' = { r with draws := fresh.rest } := by
  unfold rotateDevice
  cases d.bySecret? secret with
  | none => simp
  | some device =>
    cases freshSecret d.holds [] r.draws with
    | none => simp
    | some fresh => simp [withSecret, eq_comm]

/-- The secrets a new device may not have do not depend on the recovery credential. -/
theorem redeemRecovery_ok_iff {d d' : Document} {presented : List UInt8} {name : String}
    {now : Instant} {r r' : Randomness} {device : Device} :
    redeemRecovery presented name now r d = .ok (device, d', r') ↔
      ∃ credential fresh, d.recovery = some credential ∧ credential.secret = presented ∧
        credential.isValidAt now = true ∧ freshSecret d.holds [] r.draws = some fresh ∧
        device = d.minted name now r fresh ∧
        d' = { d.withDevice device with recovery := some credential.spend } ∧
        r' = ⟨fresh.rest, fun i => r.digits (i + (d.nameFor name r.digits).2)⟩ := by
  unfold redeemRecovery
  cases d.recovery with
  | none => simp
  | some credential =>
    by_cases h : credential.secret = presented ∧ credential.isValidAt now = true
    · simp only [secretsMatch, h.1, h.2, beq_self_eq_true, Bool.and_self, if_true,
        issueDevice_ok_iff, Option.some.injEq, exists_and_left, exists_eq_left', true_and]
      exact Iff.rfl
    · have : (secretsMatch credential.secret presented && credential.isValidAt now) = false := by
        simpa [secretsMatch] using h
      simp only [this, Bool.false_eq_true, if_false, reduceCtorEq, Option.some.injEq, false_iff]
      rintro ⟨_, _, rfl, hs, hv, -⟩
      exact h ⟨hs, hv⟩

/-- The slot is empty by the time the new secret is drawn, so only devices stand in its way. -/
theorem redeemPairing_ok_iff {d d' : Document} {secret name : String} {now : Instant}
    {r r' : Randomness} {device : Device} :
    redeemPairing secret name now r d = .ok (device, d', r') ↔
      ∃ pending fresh, d.pairing = some pending ∧ pending.isLiveAt now = true ∧
        pending.secret = secret ∧ freshSecret d.hasDevice [] r.draws = some fresh ∧
        device = d.minted name now r fresh ∧
        d' = { d.withDevice device with pairing := none } ∧
        r' = ⟨fresh.rest, fun i => r.digits (i + (d.nameFor name r.digits).2)⟩ := by
  unfold redeemPairing
  cases d.pairing with
  | none => simp
  | some pending =>
    by_cases h : pending.isLiveAt now = true ∧ pending.secret = secret
    · have holds : ({ d with pairing := none } : Document).holds = d.hasDevice := by
        funext s
        simp [Document.holds, Document.hasDevice, Document.bySecret?]
      simp only [h.1, h.2, beq_self_eq_true, Bool.and_self, if_true, issueDevice_ok_iff, holds,
        Option.some.injEq, exists_and_left, exists_eq_left', true_and]
      exact Iff.rfl
    · have : (pending.isLiveAt now && pending.secret == secret) = false := by simpa using h
      simp only [this, Bool.false_eq_true, if_false, reduceCtorEq, Option.some.injEq, false_iff]
      rintro ⟨_, _, rfl, hl, hs, -⟩
      exact h ⟨hl, hs⟩

theorem generatePairing_ok_iff {d d' : Document} {now expiresAt : Instant} {r r' : Randomness}
    {answer : String} :
    generatePairing now expiresAt r d = .ok (answer, d', r') ↔
      ∃ fresh, freshSecret d.hasDevice [] r.draws = some fresh ∧ answer = fresh.secret ∧
        d' = { d with pairing := some ⟨fresh.secret, now, expiresAt⟩ } ∧
        r' = { r with draws := fresh.rest } := by
  unfold generatePairing
  cases freshSecret d.hasDevice [] r.draws with
  | none => simp
  | some fresh => simp [eq_comm]

end Document

theorem Transaction.map_ok_iff {α β : Type} {f : α → β} {t : Transaction α} {r r' : Randomness}
    {d d' : Document} {b : β} :
    t.map f r d = .ok (b, d', r') ↔ ∃ a, t r d = .ok (a, d', r') ∧ b = f a := by
  unfold Transaction.map
  cases t r d with
  | error => simp [Except.map]
  | ok out =>
    obtain ⟨a, e, q⟩ := out
    simp only [Except.map, Except.ok.injEq, Prod.mk.injEq]
    constructor
    · rintro ⟨rfl, rfl, rfl⟩
      exact ⟨a, ⟨rfl, rfl, rfl⟩, rfl⟩
    · rintro ⟨_, ⟨rfl, rfl, rfl⟩, rfl⟩
      exact ⟨rfl, rfl, rfl⟩

namespace Command

variable {settings : Settings} {now : Instant} {r : Randomness} {d d' : Document} {c : Command}
  {answer : Answer}

theorem effect_of_prepare {t : Transaction Answer} {r₁ r₂ : Randomness}
    (hp : c.prepare settings now r = (.ok t, r₁)) (ht : t r₁ d = .ok (answer, d', r₂)) :
    c.Effect settings now r d answer d' := by
  cases c with
  | createDevice name =>
    cases hp
    obtain ⟨_, h, rfl⟩ := Transaction.map_ok_iff.mp ht
    obtain ⟨fresh, hf, rfl, rfl, -⟩ := Document.issueDevice_ok_iff.mp h
    exact .createDevice hf
  | deleteDevice name caller =>
    cases hp
    obtain ⟨_, h, rfl⟩ := Transaction.map_ok_iff.mp ht
    obtain ⟨device, hn, hs, rfl, -⟩ := Document.deleteDevice_ok_iff.mp h
    exact .deleteDevice hn hs
  | rotateDevice secret =>
    cases hp
    obtain ⟨_, h, rfl⟩ := Transaction.map_ok_iff.mp ht
    obtain ⟨device, fresh, hs, hf, rfl, rfl, -⟩ := Document.rotateDevice_ok_iff.mp h
    exact .rotateDevice hs hf
  | generateRecovery expiresAt uses =>
    simp only [prepare] at hp
    split at hp
    · cases hp
    · split at hp
      · cases hp
      · split at hp
        · cases hp
        · cases hp
          obtain ⟨_, h, rfl⟩ := Transaction.map_ok_iff.mp ht
          cases h
          exact .generateRecovery ‹_› ‹_› ‹_›
  | redeemRecovery phrase name =>
    simp only [prepare] at hp
    split at hp
    · cases hp
    · cases hp
      obtain ⟨_, h, rfl⟩ := Transaction.map_ok_iff.mp ht
      obtain ⟨credential, fresh, hd, rfl, hv, hf, rfl, rfl, -⟩ :=
        Document.redeemRecovery_ok_iff.mp h
      exact .redeemRecovery ‹_› hd hv hf
  | generatePairing =>
    cases hp
    obtain ⟨_, h, rfl⟩ := Transaction.map_ok_iff.mp ht
    obtain ⟨fresh, hf, rfl, rfl, -⟩ := Document.generatePairing_ok_iff.mp h
    exact .generatePairing hf
  | invalidatePairing =>
    cases hp
    obtain ⟨_, h, rfl⟩ := Transaction.map_ok_iff.mp ht
    cases h
    exact .invalidatePairing
  | redeemPairing secret name =>
    cases hp
    obtain ⟨_, h, rfl⟩ := Transaction.map_ok_iff.mp ht
    obtain ⟨pending, fresh, hd, hl, rfl, hf, rfl, rfl, -⟩ := Document.redeemPairing_ok_iff.mp h
    exact .redeemPairing hd hl hf

theorem Effect.prepared (h : c.Effect settings now r d answer d') :
    ∃ t r₁ r₂, c.prepare settings now r = (.ok t, r₁) ∧ t r₁ d = .ok (answer, d', r₂) := by
  cases h with
  | createDevice hf =>
    exact ⟨_, _, _, rfl, Transaction.map_ok_iff.mpr
      ⟨_, Document.issueDevice_ok_iff.mpr ⟨_, hf, rfl, rfl, rfl⟩, rfl⟩⟩
  | deleteDevice hn hs =>
    exact ⟨_, _, _, rfl, Transaction.map_ok_iff.mpr
      ⟨(), Document.deleteDevice_ok_iff.mpr ⟨_, hn, hs, rfl, rfl⟩, rfl⟩⟩
  | rotateDevice hs hf =>
    exact ⟨_, _, _, rfl, Transaction.map_ok_iff.mpr
      ⟨_, Document.rotateDevice_ok_iff.mpr ⟨_, _, hs, hf, rfl, rfl, rfl⟩, rfl⟩⟩
  | generateRecovery ht hd he =>
    simp only [prepare, ht, hd, he]
    exact ⟨_, _, _, rfl, rfl⟩
  | redeemRecovery hw hd hv hf =>
    simp only [prepare, hw]
    exact ⟨_, _, _, rfl, Transaction.map_ok_iff.mpr
      ⟨_, Document.redeemRecovery_ok_iff.mpr ⟨_, _, hd, rfl, hv, hf, rfl, rfl, rfl⟩, rfl⟩⟩
  | generatePairing hf =>
    exact ⟨_, _, _, rfl, Transaction.map_ok_iff.mpr
      ⟨_, Document.generatePairing_ok_iff.mpr ⟨_, hf, rfl, rfl, rfl⟩, rfl⟩⟩
  | invalidatePairing => exact ⟨_, _, _, rfl, rfl⟩
  | redeemPairing hd hl hf =>
    exact ⟨_, _, _, rfl, Transaction.map_ok_iff.mpr
      ⟨_, Document.redeemPairing_ok_iff.mpr ⟨_, _, hd, hl, rfl, hf, rfl, rfl, rfl⟩, rfl⟩⟩

theorem apply_ok_iff :
    (c.apply settings now r d).1 = .ok (answer, d') ↔ c.Effect settings now r d answer d' := by
  constructor
  · intro h
    unfold apply at h
    split at h
    · cases h
    · split at h
      · cases h
      · cases h
        exact effect_of_prepare ‹_› ‹_›
  · intro h
    obtain ⟨t, r₁, r₂, hp, ht⟩ := h.prepared
    simp [apply, hp, ht]

end Command

end Credentials
