import Credentials.Document.Basic
import Credentials.Json.Reader
import Credentials.Json.Value
import Credentials.Time.Reader

/-!
The document as JSON. Reading takes members in any order and fills in what is absent; writing gives
one form: absent credentials are left out, an absent expiry or limit is null.
-/

namespace Credentials

open Time (Instant)
open Decoding

namespace Document

def instant : Decode Instant := fun node => do
  let s ← text node
  match Instant.ofText? s.toList with
  | some t => return t
  | none => throw (.invalidTimestamp s)

/-- Bytes as hexadecimal digits, with white space around them. -/
def secretBytes : Decode (List UInt8) := fun node => do
  let s ← text node
  match Text.Hex.decode (Text.utf8 (Text.trim s.toList)) with
  | .ok bytes => return bytes
  | .error cause => throw (.invalidSecret cause)

end Document

open Document (instant secretBytes)

structure Device.Fields where
  secret : Option String := none
  name : Option String := none
  createdAt : Option Instant := none

def Device.shape : Shape Device.Fields Device where
  name := "DeviceToken"
  start := {}
  size := 3
  member s key node :=
    match key with
    | "token" => return { s with secret := ← once key s.secret text node }
    | "name" => return { s with name := ← once key s.name text node }
    | "date" => return { s with createdAt := ← once key s.createdAt instant node }
    | _ => skip s node
  place s i node :=
    match i with
    | 0 => return { s with secret := some (← text node) }
    | 1 => return { s with name := some (← text node) }
    | _ => return { s with createdAt := some (← instant node) }
  hasDefault _ := false
  finish s := do
    let secret ← required "token" s.secret
    let name ← required "name" s.name
    let createdAt ← required "date" s.createdAt
    return ⟨secret, name, createdAt⟩

structure Recovery.Fields where
  secret : Option (List UInt8) := none
  createdAt : Option Instant := none
  expiresAt : Option (Option Instant) := none
  usesLeft : Option (Option UInt64) := none

def Recovery.shape : Shape Recovery.Fields Recovery where
  name := "RecoveryCredential"
  start := {}
  size := 4
  member s key node :=
    match key with
    | "token" => return { s with secret := ← once key s.secret secretBytes node }
    | "date" => return { s with createdAt := ← once key s.createdAt instant node }
    | "expiration" => return { s with expiresAt := ← once key s.expiresAt (optional instant) node }
    | "uses_left" => return { s with usesLeft := ← once key s.usesLeft (optional natural64) node }
    | _ => skip s node
  place s i node :=
    match i with
    | 0 => return { s with secret := some (← secretBytes node) }
    | 1 => return { s with createdAt := some (← instant node) }
    | 2 => return { s with expiresAt := some (← optional instant node) }
    | _ => return { s with usesLeft := some (← optional natural64 node) }
  hasDefault i := 2 ≤ i
  finish s := do
    let secret ← required "token" s.secret
    let createdAt ← required "date" s.createdAt
    return ⟨secret, createdAt, s.expiresAt.join, s.usesLeft.join⟩

structure Pairing.Fields where
  secret : Option String := none
  createdAt : Option Instant := none
  expiresAt : Option Instant := none

def Pairing.shape : Shape Pairing.Fields Pairing where
  name := "PairingCredential"
  start := {}
  size := 3
  member s key node :=
    match key with
    | "token" => return { s with secret := ← once key s.secret text node }
    | "date" => return { s with createdAt := ← once key s.createdAt instant node }
    | "expiration" => return { s with expiresAt := ← once key s.expiresAt instant node }
    | _ => skip s node
  place s i node :=
    match i with
    | 0 => return { s with secret := some (← text node) }
    | 1 => return { s with createdAt := some (← instant node) }
    | _ => return { s with expiresAt := some (← instant node) }
  hasDefault _ := false
  finish s := do
    let secret ← required "token" s.secret
    let createdAt ← required "date" s.createdAt
    let expiresAt ← required "expiration" s.expiresAt
    return ⟨secret, createdAt, expiresAt⟩

namespace Document

structure Fields where
  devices : Option (List Device) := none
  recovery : Option (Option Recovery) := none
  pairing : Option (Option Pairing) := none

def shape : Shape Fields Document where
  name := "TokenDocument"
  start := {}
  size := 3
  member s key node :=
    match key with
    | "tokens" =>
      return { s with devices := ← once key s.devices (sequence Device.shape.decode) node }
    | "recovery_token" =>
      return { s with recovery := ← once key s.recovery (optional Recovery.shape.decode) node }
    | "new_device" =>
      return { s with pairing := ← once key s.pairing (optional Pairing.shape.decode) node }
    | _ => skip s node
  place s i node :=
    match i with
    | 0 => return { s with devices := some (← sequence Device.shape.decode node) }
    | 1 => return { s with recovery := some (← optional Recovery.shape.decode node) }
    | _ => return { s with pairing := some (← optional Pairing.shape.decode node) }
  hasDefault _ := true
  finish s := return ⟨s.devices.getD [], s.recovery.join, s.pairing.join⟩

def ofJson (text : String) : Except Mismatch Document := Json.decodeText shape.decode text

end Document

def instantValue (t : Instant) : Json.Value := .text (String.ofList t.text)

def Device.toValue (d : Device) : Json.Value :=
  .object [("token", .text d.secret), ("name", .text d.name), ("date", instantValue d.createdAt)]

def nullable {α : Type} (write : α → Json.Value) : Option α → Json.Value
  | none => .null
  | some a => write a

def Recovery.toValue (r : Recovery) : Json.Value :=
  .object
    [("token", .text (String.ofList (Text.Hex.encode r.secret))),
     ("date", instantValue r.createdAt),
     ("expiration", nullable instantValue r.expiresAt),
     ("uses_left", nullable (fun n => .natural n.toNat) r.usesLeft)]

def Pairing.toValue (p : Pairing) : Json.Value :=
  .object
    [("token", .text p.secret),
     ("date", instantValue p.createdAt),
     ("expiration", instantValue p.expiresAt)]

def memberIfAny {α : Type} (key : String) (write : α → Json.Value) :
    Option α → List (String × Json.Value)
  | none => []
  | some a => [(key, write a)]

def Document.toValue (d : Document) : Json.Value :=
  .object
    (("tokens", .array (d.devices.map Device.toValue)) ::
      memberIfAny "recovery_token" Recovery.toValue d.recovery ++
      memberIfAny "new_device" Pairing.toValue d.pairing)

end Credentials
