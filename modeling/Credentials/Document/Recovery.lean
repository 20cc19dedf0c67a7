import Credentials.Document.Devices
import Credentials.Mnemonic.Phrase

/-!
The recovery credential: making one, telling its state, and trading its phrase for a device.
-/

namespace Credentials

open Time (Instant)

namespace Recovery

def secretLength : Nat := 24

def limit? : Option Int → Except Refusal (Option UInt64)
  | none => .ok none
  | some n =>
    if 0 < n ∧ n.toNat < UInt64.size then .ok (some (UInt64.ofNat n.toNat))
    else .error .invalidUsesLeft

/-- An expiry has to lie in the future, a limit has to be positive; the expiry is looked at
first. -/
def checkTerms (now : Instant) (expiresAt : Option Instant) (uses : Option Int) :
    Except Refusal (Option UInt64) :=
  if expiresAt.any fun t => !now.before t then .error .invalidExpirationDate else limit? uses

structure Status where
  isPresent : Bool
  isValid : Bool
  createdAt : Option Instant
  expiresAt : Option Instant
  usesLeft : Option UInt64
  deriving DecidableEq, Repr

def status (now : Instant) : Option Recovery → Status
  | none => ⟨false, false, none, none, none⟩
  | some r => ⟨true, r.isValidAt now, some r.createdAt, r.expiresAt, r.usesLeft⟩

def spend (r : Recovery) : Recovery :=
  { r with usesLeft := r.usesLeft.map fun n => if n = 0 then 0 else n - 1 }

end Recovery

namespace Document

def setRecovery (credential : Recovery) : Transaction Unit := fun r d =>
  .ok ((), { d with recovery := some credential }, r)

/-- Trades the bytes behind a phrase for a device. A credential that is missing, different, expired
or used up is refused in the same words. -/
def redeemRecovery (presented : List UInt8) (name : String) (now : Instant) : Transaction Device :=
  fun r d =>
    match d.recovery with
    | none => .error .notFound
    | some credential =>
      if secretsMatch credential.secret presented && credential.isValidAt now then
        issueDevice name now r { d with recovery := some credential.spend }
      else .error .notFound

end Document

end Credentials
