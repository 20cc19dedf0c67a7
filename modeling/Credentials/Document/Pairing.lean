import Credentials.Document.Devices

/-!
The pairing credential: making one, which replaces the last, dropping it, and trading its secret for
a device, which uses it up.
-/

namespace Credentials

open Time (Instant)

namespace Document

/-- A new pairing secret. The one it replaces may come again, the secret of a device may not. -/
def generatePairing (now expiresAt : Instant) : Transaction String := fun r d =>
  match freshSecret d.hasDevice [] r.draws with
  | none => .error .outOfDraws
  | some fresh =>
    .ok (fresh.secret, { d with pairing := some ⟨fresh.secret, now, expiresAt⟩ },
      { r with draws := fresh.rest })

def invalidatePairing : Transaction Unit := fun r d => .ok ((), { d with pairing := none }, r)

def pairingExpiry (d : Document) (now : Instant) : Option Instant :=
  (d.pairing.filter (·.isLiveAt now)).map (·.expiresAt)

/-- Trades the pairing secret for a device. A secret that is missing, different or expired is
refused in the same words. -/
def redeemPairing (secret name : String) (now : Instant) : Transaction Device := fun r d =>
  match d.pairing with
  | none => .error .notFound
  | some pending =>
    if pending.isLiveAt now && pending.secret == secret then
      issueDevice name now r { d with pairing := none }
    else .error .notFound

end Document

end Credentials
