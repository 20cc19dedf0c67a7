import Credentials.DeviceName
import Credentials.Document.Basic
import Credentials.Refusal
import Credentials.Secret

/-!
Changes to the devices of a document: adding one under a free name with a free secret, taking one
away, and giving one a new secret.
-/

namespace Credentials

open Time (Instant)

/-- A change of a document that may be refused. It uses up randomness only when it succeeds. -/
abbrev Transaction (α : Type) := Randomness → Document → Except Refusal (α × Document × Randomness)

def freeName (taken : String → Bool) (digits : Nat → Fin 10) (used : Nat) (name : String) :
    Nat → String × Nat
  | 0 => (name, used)
  | fuel + 1 =>
    if taken name then
      freeName taken digits (used + 1) (name.push (Char.ofNat (48 + digits used))) fuel
    else (name, used)

namespace Document

def hasName (d : Document) (name : String) : Bool := (d.byName? name).isSome

/-- The name a new device gets. Each device can stand in the way of one candidate. -/
def nameFor (d : Document) (requested : String) (digits : Nat → Fin 10) : String × Nat :=
  freeName d.hasName digits 0 (DeviceName.sanitize requested) d.devices.length

/-- Adds a device, last, under a free name and with a secret that nothing holds. -/
def issueDevice (requested : String) (now : Instant) : Transaction Device := fun r d =>
  let (name, used) := d.nameFor requested r.digits
  match freshSecret d.holds [] r.draws with
  | none => .error .outOfDraws
  | some fresh =>
    let device : Device := ⟨fresh.secret, name, now⟩
    .ok (device, { d with devices := d.devices ++ [device] },
      ⟨fresh.rest, fun i => r.digits (i + used)⟩)

/-- Takes away the first device of a name, unless it has the caller's secret. -/
def deleteDevice (name caller : String) : Transaction Unit := fun r d =>
  match d.byName? name with
  | none => .error .notFound
  | some device =>
    if device.secret == caller then .error .cannotDeleteCaller
    else .ok ((), { d with devices := d.devices.eraseP (·.name == name) }, r)

def modifyFirst {α : Type} (p : α → Bool) (f : α → α) : List α → List α
  | [] => []
  | a :: as => if p a then f a :: as else a :: modifyFirst p f as

def rotateDevice (secret : String) : Transaction String := fun r d =>
  match d.bySecret? secret with
  | none => .error .notFound
  | some _ =>
    match freshSecret d.holds [] r.draws with
    | none => .error .outOfDraws
    | some fresh =>
      let renewed (device : Device) : Device := { device with secret := fresh.secret }
      .ok (fresh.secret, { d with devices := modifyFirst (·.secret == secret) renewed d.devices },
        { r with draws := fresh.rest })

end Document

structure DeviceInfo where
  name : String
  createdAt : Instant
  isCaller : Bool
  deriving DecidableEq, Repr

namespace Document

def deviceInfos (d : Document) (caller : Option String) : List DeviceInfo :=
  d.devices.map fun x => ⟨x.name, x.createdAt, caller.any (x.secret == ·)⟩

def deviceInfo? (d : Document) (name : String) : Option DeviceInfo :=
  (d.byName? name).map fun x => ⟨x.name, x.createdAt, false⟩

end Document

end Credentials
