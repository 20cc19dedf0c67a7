import Credentials.Decoding.Shape

/-!
The configuration: where the document is kept, how credentials behave, what is logged. What a tree
leaves out has its default value.
-/

namespace Credentials

open Decoding (Decode Shape once sequence skip)

namespace Config

structure StoreSection where
  path : String := "/var/lib/hearth/tokens.json"
  lockTimeoutMillis : UInt64 := 10000
  deriving DecidableEq, Repr

structure AuthSection where
  pairingLifeSeconds : UInt64 := 600
  /-- The name of the language of new phrases. -/
  language : String := "english"
  deriving DecidableEq, Repr

structure LoggingSection where
  level : String := "info"
  format : String := "compact"
  directives : List String := []
  deriving DecidableEq, Repr

end Config

structure Config where
  store : Config.StoreSection := {}
  auth : Config.AuthSection := {}
  logging : Config.LoggingSection := {}
  deriving DecidableEq, Repr

namespace Config

def defaults : Config := {}

structure StoreSection.Fields where
  path : Option String := none
  lockTimeoutMillis : Option UInt64 := none

def StoreSection.shape : Shape StoreSection.Fields StoreSection where
  name := "StoreSection"
  start := {}
  size := 2
  member s key node :=
    match key with
    | "path" => return { s with path := ← once key s.path Decoding.path node }
    | "lock_timeout_ms" =>
      return { s with lockTimeoutMillis := ← once key s.lockTimeoutMillis Decoding.natural64 node }
    | _ => skip s node
  place s i node :=
    match i with
    | 0 => return { s with path := some (← Decoding.path node) }
    | _ => return { s with lockTimeoutMillis := some (← Decoding.natural64 node) }
  hasDefault _ := true
  finish s :=
    let d : StoreSection := {}
    return ⟨s.path.getD d.path, s.lockTimeoutMillis.getD d.lockTimeoutMillis⟩

structure AuthSection.Fields where
  pairingLifeSeconds : Option UInt64 := none
  language : Option String := none

def AuthSection.shape : Shape AuthSection.Fields AuthSection where
  name := "AuthSection"
  start := {}
  size := 2
  member s key node :=
    match key with
    | "pairing_ttl_secs" => do
      let seconds ← once key s.pairingLifeSeconds Decoding.natural64 node
      return { s with pairingLifeSeconds := seconds }
    | "mnemonic_language" => return { s with language := ← once key s.language Decoding.text node }
    | _ => skip s node
  place s i node :=
    match i with
    | 0 => return { s with pairingLifeSeconds := some (← Decoding.natural64 node) }
    | _ => return { s with language := some (← Decoding.text node) }
  hasDefault _ := true
  finish s :=
    let d : AuthSection := {}
    return ⟨s.pairingLifeSeconds.getD d.pairingLifeSeconds, s.language.getD d.language⟩

structure LoggingSection.Fields where
  level : Option String := none
  format : Option String := none
  directives : Option (List String) := none

def LoggingSection.shape : Shape LoggingSection.Fields LoggingSection where
  name := "LoggingSection"
  start := {}
  size := 3
  member s key node :=
    match key with
    | "level" => return { s with level := ← once key s.level Decoding.text node }
    | "format" => return { s with format := ← once key s.format Decoding.text node }
    | "directives" =>
      return { s with directives := ← once key s.directives (sequence Decoding.text) node }
    | _ => skip s node
  place s i node :=
    match i with
    | 0 => return { s with level := some (← Decoding.text node) }
    | 1 => return { s with format := some (← Decoding.text node) }
    | _ => return { s with directives := some (← sequence Decoding.text node) }
  hasDefault _ := true
  finish s :=
    let d : LoggingSection := {}
    return ⟨s.level.getD d.level, s.format.getD d.format, s.directives.getD d.directives⟩

structure Fields where
  store : Option StoreSection := none
  auth : Option AuthSection := none
  logging : Option LoggingSection := none

def shape : Shape Fields Config where
  name := "Config"
  start := {}
  size := 3
  member s key node :=
    match key with
    | "store" => return { s with store := ← once key s.store StoreSection.shape.decode node }
    | "auth" => return { s with auth := ← once key s.auth AuthSection.shape.decode node }
    | "logging" =>
      return { s with logging := ← once key s.logging LoggingSection.shape.decode node }
    | _ => skip s node
  place s i node :=
    match i with
    | 0 => return { s with store := some (← StoreSection.shape.decode node) }
    | 1 => return { s with auth := some (← AuthSection.shape.decode node) }
    | _ => return { s with logging := some (← LoggingSection.shape.decode node) }
  hasDefault _ := true
  finish s := return ⟨s.store.getD {}, s.auth.getD {}, s.logging.getD {}⟩

def decode : Decode Config := shape.decode

end Config

end Credentials
