import Credentials.Proofs.Distinct

/-! What a command does to the devices: it adds one at the end, takes one away, gives one a new
secret, or leaves them alone. What is said of devices follows from these four cases and need not go
through the commands one by one. -/

namespace Credentials

open Time (Instant)

namespace Command

/-- The name that is asked for a new device, by the commands that make one. -/
def requestedName? : Command → Option String
  | createDevice name => some name
  | redeemRecovery _ name => some name
  | redeemPairing _ name => some name
  | _ => none

/-- Whether a command leaves every device as it is. -/
def keepsDevices : Command → Bool
  | generateRecovery .. => true
  | generatePairing => true
  | invalidatePairing => true
  | _ => false

inductive DeviceEffect (now : Instant) (r : Randomness) (d d' : Document) : Command → Answer → Prop
  | added {c : Command} {requested : String} {device : Device} :
      c.requestedName? = some requested → device.secret ∉ d.secrets →
      device.name = (d.nameFor requested r.digits).1 → device.createdAt = now →
      d'.devices = d.devices ++ [device] → DeviceEffect now r d d' c (.device device)
  | removed {name caller : String} {device : Device} :
      d.byName? name = some device → device.secret ≠ caller →
      d'.devices = (d.withoutName name).devices →
      DeviceEffect now r d d' (.deleteDevice name caller) .done
  | renewed {secret fresh : String} {device : Device} :
      d.bySecret? secret = some device → fresh ∉ d.secrets →
      d'.devices = (d.withSecret secret fresh).devices →
      DeviceEffect now r d d' (.rotateDevice secret) (.secret fresh)
  | kept {c : Command} {answer : Answer} :
      c.keepsDevices = true → d'.devices = d.devices → DeviceEffect now r d d' c answer

variable {settings : Settings} {now : Instant} {r : Randomness} {d d' : Document} {c : Command}
  {answer : Answer}

theorem Effect.exists_requestedName {device : Device}
    (h : c.Effect settings now r d (.device device) d') :
    ∃ requested, c.requestedName? = some requested := by
  cases h <;> exact ⟨_, rfl⟩

theorem Effect.devices (h : c.Effect settings now r d answer d') :
    c.DeviceEffect now r d d' answer := by
  cases h with
  | createDevice hf =>
    exact .added rfl (Document.holds_eq_false_iff.mp (freshSecret_free hf)).1 rfl rfl rfl
  | deleteDevice hn hs => exact .removed hn hs rfl
  | rotateDevice hs hf =>
    exact .renewed hs (Document.holds_eq_false_iff.mp (freshSecret_free hf)).1 rfl
  | generateRecovery => exact .kept rfl rfl
  | redeemRecovery _ _ _ hf =>
    exact .added rfl (Document.holds_eq_false_iff.mp (freshSecret_free hf)).1 rfl rfl rfl
  | generatePairing => exact .kept rfl rfl
  | invalidatePairing => exact .kept rfl rfl
  | redeemPairing _ _ hf =>
    exact .added rfl (Document.hasDevice_eq_false_iff.mp (freshSecret_free hf)) rfl rfl rfl

end Command

end Credentials
