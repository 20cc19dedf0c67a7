import Credentials.Config.Basic
import Credentials.Files.Path
import Credentials.Mnemonic.Language
import Credentials.Text.LowerCase

/-!
What a configuration has to satisfy. The first fault is reported, in the order of the fields.
-/

namespace Credentials.Config

structure Invalid where
  field : String
  message : String
  deriving DecidableEq, Repr

def mostLockTimeoutMillis : UInt64 := 600000

def mostPairingLifeSeconds : UInt64 := 86400

def levels : List String := ["trace", "debug", "info", "warn", "error"]

def formats : List String := ["pretty", "compact", "json"]

def languages : List String := Mnemonic.Language.all.map (·.name)

def inRange (field : String) (most n : UInt64) : Except Invalid Unit :=
  if 1 ≤ n ∧ n ≤ most then .ok ()
  else .error ⟨field, "must be between 1 and " ++ toString most⟩

def StoreSection.check (s : StoreSection) : Except Invalid Unit :=
  if s.path.isEmpty then .error ⟨"store.path", "must not be empty"⟩
  else if (Files.Path.fileName? s.path.toList).isNone then
    .error ⟨"store.path", "'" ++ s.path ++ "' does not name a file"⟩
  else inRange "store.lock_timeout_ms" mostLockTimeoutMillis s.lockTimeoutMillis

def AuthSection.check (a : AuthSection) : Except Invalid Unit := do
  inRange "auth.pairing_ttl_secs" mostPairingLifeSeconds a.pairingLifeSeconds
  if languages.contains a.language then return ()
  else throw ⟨"auth.mnemonic_language", "unsupported language '" ++ a.language ++
    "'; expected one of: " ++ String.intercalate ", " languages⟩

/-- Levels may be written in any case, formats may not. -/
def LoggingSection.check (l : LoggingSection) : Except Invalid Unit :=
  if !levels.contains (String.ofList (Text.lowerCase l.level.toList)) then
    .error ⟨"logging.level", "unknown level '" ++ l.level ++ "'"⟩
  else if !formats.contains l.format then
    .error ⟨"logging.format", "unknown format '" ++ l.format ++ "'; expected one of: " ++
      String.intercalate ", " formats⟩
  else .ok ()

def check (c : Config) : Except Invalid Unit := do
  c.store.check
  c.auth.check
  c.logging.check

end Credentials.Config
