import Credentials.Proofs.DeviceChanges
import Credentials.Proofs.PairingRuns

/-! Which secrets are handed out. None that a device has. Creating, renewing and recovering also look
at the pairing secret that is pending; the two pairing commands do not, so that secret comes again
where it is drawn again, as the next pairing secret or as that of the new device. -/

namespace Credentials

open Time (Instant)

def Answer.secret? : Answer → Option String
  | device x => some x.secret
  | secret s => some s
  | _ => none

/-- Whether a command draws its secret without a look at the one that is pending for pairing. -/
def Command.overlooksPairing : Command → Bool
  | generatePairing => true
  | redeemPairing .. => true
  | _ => false

def firstFree (taken : String → Bool) (draws : Draws) : Option String :=
  (draws.map secretOf).find? fun s => !taken s

theorem firstFree_of_freshSecret {taken : String → Bool} {refused : List String} {draws : Draws}
    {fresh : FreshSecret} (h : freshSecret taken refused draws = some fresh) :
    firstFree taken draws = some fresh.secret := by
  obtain ⟨skipped, draw, rest, rfl, hskipped, hdraw, rfl⟩ := freshSecret_eq_some_iff.mp h
  have hnone : (skipped.map secretOf).find? (fun s => !taken s) = none := by
    rw [List.find?_eq_none]
    intro s hs
    obtain ⟨x, hx, rfl⟩ := List.mem_map.mp hs
    simp [hskipped x hx]
  simp [firstFree, List.find?_append, hnone, hdraw]

theorem firstFree_spec {taken : String → Bool} {draws : Draws} {secret : String}
    (h : firstFree taken draws = some secret) : taken secret = false := by
  simpa using List.find?_some h

section

variable {settings : Settings} {now : Instant} {r : Randomness} {d d' : Document} {c : Command}
  {answer : Answer} {secret : String}

theorem Command.Effect.firstFree_eq (h : c.Effect settings now r d answer d')
    (hs : answer.secret? = some secret) :
    firstFree (if c.overlooksPairing then d.hasDevice else d.holds) r.draws =
      some secret := by
  cases h with
  | createDevice hf | rotateDevice _ hf | redeemRecovery _ _ _ hf | generatePairing hf
  | redeemPairing _ _ hf =>
    obtain rfl := Option.some.inj hs
    exact firstFree_of_freshSecret hf
  | deleteDevice | generateRecovery | invalidatePairing => cases hs

theorem Document.hasDevice_of_holds (h : d.holds secret = false) : d.hasDevice secret = false :=
  (Bool.or_eq_false_iff.mp h).1

theorem Document.holds_iff (h : d.hasDevice secret = false) :
    d.holds secret = true ↔ ∃ pending, d.pairing = some pending ∧ pending.secret = secret := by
  rw [Document.holds, h, Bool.false_or, Option.any_eq_true]
  simp only [beq_iff_eq]

/-- A pairing secret is accepted where it is the one that was made last. -/
theorem Command.Effect.redeemed_iff (h : Command.generatePairing.Effect settings now r d answer d')
    {settings' : Settings} {now' : Instant} {r' : Randomness} {presented name : String} :
    ((∃ out, ((Command.redeemPairing presented name).apply settings' now' r' d').1 = .ok out) ↔
      firstFree d.hasDevice r.draws = some presented ∧
        now'.before (now.shiftWithin settings.pairingLife) = true ∧
        ∃ draw ∈ r'.draws, d.hasDevice (secretOf draw) = false) ∧
    (firstFree d.hasDevice r.draws ≠ some presented →
      ((Command.redeemPairing presented name).apply settings' now' r' d').1 = .error .notFound) := by
  cases h with
  | @generatePairing fresh hf =>
    rw [firstFree_of_freshSecret hf, Option.some.injEq]
    constructor
    · constructor
      · rintro ⟨⟨answer, e⟩, hout⟩
        have heffect := apply_ok_iff.mp hout
        cases heffect with
        | redeemPairing hp hl hf' =>
          obtain rfl := Option.some.inj hp
          exact ⟨rfl, hl, exists_freshSecret_iff.mp ⟨_, hf'⟩⟩
      · rintro ⟨rfl, hl, hdraw⟩
        obtain ⟨fresh', hf'⟩ := exists_freshSecret_iff.mpr hdraw
        let pending : Pairing := ⟨fresh.secret, now, now.shiftWithin settings.pairingLife⟩
        have hlive : pending.isLiveAt now' = true := hl
        exact ⟨_, apply_ok_iff.mpr (.redeemPairing rfl hlive hf')⟩
    · intro hother
      have hne : fresh.secret ≠ presented := fun he => hother (congrArg some he)
      have hrefused : Document.redeemPairing presented name now' r'
          { d with pairing := some ⟨fresh.secret, now, now.shiftWithin settings.pairingLife⟩ } =
            .error .notFound := by
        refine Document.redeemPairing_notFound fun pending hp _ => ?_
        obtain rfl := Option.some.inj hp
        exact hne
      simp [apply, prepare, Transaction.map, hrefused, Except.map]

/-- What is handed out is the secret of no device. Creating, renewing and recovering do not hand out
the pending pairing secret either; the pairing commands do exactly where it is drawn before any other
secret that no device has. So a second pairing secret puts an end to the first one unless it is the
same again. -/
theorem handedOut_secret (h : (c.apply settings now r d).1 = .ok (answer, d'))
    (hs : answer.secret? = some secret) :
    d.hasDevice secret = false ∧
    (c.overlooksPairing = false → d.holds secret = false) ∧
    (c.overlooksPairing = true → (d.holds secret = true ↔
      ∃ pending, d.pairing = some pending ∧
        firstFree d.hasDevice r.draws = some pending.secret)) ∧
    (c = .generatePairing → ∀ pending, d.pairing = some pending →
      ∀ (settings' : Settings) (now' : Instant) (r' : Randomness) (name : String),
        ((∃ out, ((Command.redeemPairing pending.secret name).apply settings' now' r' d').1 =
            .ok out) ↔
          firstFree d.hasDevice r.draws = some pending.secret ∧
            now'.before (now.shiftWithin settings.pairingLife) = true ∧
            ∃ draw ∈ r'.draws, d.hasDevice (secretOf draw) = false) ∧
        (firstFree d.hasDevice r.draws ≠ some pending.secret →
          ((Command.redeemPairing pending.secret name).apply settings' now' r' d').1 =
            .error .notFound)) := by
  have heffect := Command.apply_ok_iff.mp h
  have hfirst := heffect.firstFree_eq hs
  have hfree := firstFree_spec hfirst
  have hdevice : d.hasDevice secret = false := by
    split at hfree
    · exact hfree
    · exact Document.hasDevice_of_holds hfree
  refine ⟨hdevice, fun ho => by simpa [ho] using hfree, fun ho => ?_, ?_⟩
  · rw [if_pos ho] at hfirst
    rw [Document.holds_iff hdevice, hfirst]
    simp only [Option.some.injEq, eq_comm]
  · rintro rfl pending - settings' now' r' name
    exact heffect.redeemed_iff

end

theorem handedOut_secret_repeatedDraws :
    let r := repeatedDraws.randomness
    (∃ device d', (Command.createDevice "radio" |>.apply {} ⟨5, 0⟩ r paired).1 =
        .ok (.device device, d') ∧ device.secret = secret32 3 ∧
          paired.holds device.secret = false) ∧
      ∃ d', (Command.generatePairing.apply {} ⟨5, 0⟩ r paired).1 = .ok (.secret (secret32 2), d') ∧
        paired.holds (secret32 2) = true := by
  intro r
  have hcreate : (Command.createDevice "radio" |>.apply {} ⟨5, 0⟩ r paired).1 =
      .ok (.device ⟨secret32 3, "radio", ⟨5, 0⟩⟩, _) := rfl
  have hgenerate : (Command.generatePairing.apply {} ⟨5, 0⟩ r paired).1 =
      .ok (.secret (secret32 2), _) := rfl
  have hdrawn : firstFree paired.hasDevice r.draws = some (secret32 2) := by decide +kernel
  exact ⟨⟨_, _, hcreate, rfl, (handedOut_secret hcreate rfl).2.1 rfl⟩, _, hgenerate,
    ((handedOut_secret hgenerate rfl).2.2.1 rfl).mpr ⟨_, rfl, hdrawn⟩⟩

/-- The same bytes drawn for two pairing secrets make the first one valid again, and drawn once more
they make it the secret of the device that it admits. -/
theorem generatePairing_repeats :
    let repeated : Randomness := ⟨[bytes32 1, bytes32 2], fun _ => 0⟩
    ∃ first second third device,
      (Command.generatePairing.apply {} ⟨0, 0⟩ repeated .empty).1 =
        .ok (.secret (secret32 1), first) ∧
      (Command.generatePairing.apply {} ⟨5, 0⟩ repeated first).1 =
        .ok (.secret (secret32 1), second) ∧
      ((Command.redeemPairing (secret32 1) "tv").apply {} ⟨6, 0⟩ repeated second).1 =
        .ok (.device device, third) ∧ device.secret = secret32 1 :=
  ⟨_, _, _, _, rfl, rfl, rfl, rfl⟩

end Credentials
