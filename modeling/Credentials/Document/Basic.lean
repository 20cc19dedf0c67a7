import Credentials.Time.Instant

/-!
The document: the devices that hold a token, and at most one recovery credential and one pairing
credential beside them.
-/

namespace Credentials

open Time (Instant)

structure Device where
  secret : String
  name : String
  createdAt : Instant
  deriving DecidableEq, Repr

/-- The credential behind a recovery phrase; without a limit or an expiry where those are absent. -/
structure Recovery where
  secret : List UInt8
  createdAt : Instant
  expiresAt : Option Instant
  usesLeft : Option UInt64
  deriving DecidableEq, Repr

structure Pairing where
  secret : String
  createdAt : Instant
  expiresAt : Instant
  deriving DecidableEq, Repr

/-- Devices are in the order in which they were added. -/
structure Document where
  devices : List Device := []
  recovery : Option Recovery := none
  pairing : Option Pairing := none
  deriving DecidableEq, Repr

def Recovery.isValidAt (r : Recovery) (now : Instant) : Bool :=
  r.expiresAt.all now.before && r.usesLeft.all (0 < ·)

def Pairing.isLiveAt (p : Pairing) (now : Instant) : Bool := now.before p.expiresAt

namespace Document

def empty : Document := {}

def bySecret? (d : Document) (secret : String) : Option Device :=
  d.devices.find? (·.secret == secret)

def byName? (d : Document) (name : String) : Option Device := d.devices.find? (·.name == name)

def hasDevice (d : Document) (secret : String) : Bool := (d.bySecret? secret).isSome

/-- Whether a device or the pairing credential has this secret. -/
def holds (d : Document) (secret : String) : Bool :=
  d.hasDevice secret || d.pairing.any (·.secret == secret)

def toMicros (d : Document) : Document where
  devices := d.devices.map fun x => { x with createdAt := x.createdAt.toMicros }
  recovery := d.recovery.map fun r =>
    { r with createdAt := r.createdAt.toMicros, expiresAt := r.expiresAt.map (·.toMicros) }
  pairing := d.pairing.map fun p =>
    { p with createdAt := p.createdAt.toMicros, expiresAt := p.expiresAt.toMicros }

end Document

end Credentials
