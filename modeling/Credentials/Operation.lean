import Credentials.Document.Json
import Credentials.Document.Pairing
import Credentials.Document.Recovery

/-!
The operations on a stored document: queries, which only read it, and commands, which change it in
one transaction each.
-/

namespace Credentials

open Time (Instant)
open Mnemonic (Language Scheme)

structure Settings where
  language : Language := .english
  /-- How long a pairing secret lives. -/
  pairingLife : Time.Duration := .ofSeconds 600
  scheme : Scheme := .published

inductive Query where
  | isValid (secret : String)
  | nameOf (secret : String)
  | deviceByName (name : String)
  | devices (caller : Option String)
  | recoveryStatus
  | pairingStatus
  deriving DecidableEq, Repr

inductive Command where
  | createDevice (name : String)
  | deleteDevice (name caller : String)
  | rotateDevice (secret : String)
  | generateRecovery (expiresAt : Option Instant) (uses : Option Int)
  | redeemRecovery (phrase name : String)
  | generatePairing
  | invalidatePairing
  | redeemPairing (secret name : String)
  deriving DecidableEq, Repr

inductive Operation where
  | query (q : Query)
  | command (c : Command)
  deriving DecidableEq, Repr

inductive Answer where
  | done
  | device (d : Device)
  | secret (s : String)
  | phrase (s : String)
  | truth (b : Bool)
  | name (s : Option String)
  | info (i : Option DeviceInfo)
  | infos (is : List DeviceInfo)
  | recovery (status : Recovery.Status)
  | expiry (t : Option Instant)
  deriving DecidableEq, Repr

def Query.answer (now : Instant) (d : Document) : Query → Answer
  | isValid secret => .truth (d.hasDevice secret)
  | nameOf secret => .name ((d.bySecret? secret).map (·.name))
  | deviceByName name => .info (d.deviceInfo? name)
  | devices caller => .infos (d.deviceInfos caller)
  | recoveryStatus => .recovery (Recovery.status now d.recovery)
  | pairingStatus => .expiry (d.pairingExpiry now)

def Transaction.map {α β : Type} (f : α → β) (t : Transaction α) : Transaction β := fun r d =>
  (t r d).map fun (a, d, r) => (f a, d, r)

/-- What a command comes to before the document is looked at: its arguments are checked, and the
bytes of a recovery phrase are drawn. The transaction that is left changes the document. -/
def Command.prepare (settings : Settings) (now : Instant) (r : Randomness) :
    Command → Except Refusal (Transaction Answer) × Randomness
  | createDevice name => (.ok ((Document.issueDevice name now).map .device), r)
  | deleteDevice name caller => (.ok ((Document.deleteDevice name caller).map fun _ => .done), r)
  | rotateDevice secret => (.ok ((Document.rotateDevice secret).map .secret), r)
  | generateRecovery expiresAt uses =>
    match Recovery.checkTerms now expiresAt uses with
    | .error refusal => (.error refusal, r)
    | .ok usesLeft =>
      match r.draws with
      | [] => (.error .outOfDraws, r)
      | draw :: draws =>
        let secret := draw.take Recovery.secretLength
        let r := { r with draws := draws }
        match settings.scheme.encode settings.language secret with
        | .error cause => (.error (.invalidMnemonic cause), r)
        | .ok phrase =>
          let credential : Recovery := ⟨secret, now, expiresAt, usesLeft⟩
          (.ok ((Document.setRecovery credential).map fun _ => .phrase phrase), r)
  | redeemRecovery phrase name =>
    match settings.scheme.decodeExact settings.language phrase Recovery.secretLength with
    | .error cause => (.error (.invalidMnemonic cause), r)
    | .ok presented => (.ok ((Document.redeemRecovery presented name now).map .device), r)
  | generatePairing =>
    (.ok ((Document.generatePairing now (now.shiftWithin settings.pairingLife)).map .secret), r)
  | invalidatePairing => (.ok (Document.invalidatePairing.map fun _ => .done), r)
  | redeemPairing secret name => (.ok ((Document.redeemPairing secret name now).map .device), r)

def Command.apply (settings : Settings) (now : Instant) (command : Command) (r : Randomness)
    (d : Document) : Except Refusal (Answer × Document) × Randomness :=
  match command.prepare settings now r with
  | (.error refusal, r) => (.error refusal, r)
  | (.ok transaction, r) =>
    match transaction r d with
    | .error refusal => (.error refusal, r)
    | .ok (answer, d, r) => (.ok (answer, d), r)

/-- A transaction as a writer: a refusal leaves the copy as it was. -/
def Transaction.writer {α : Type} (t : Transaction α) :
    Store.Writer Randomness Refusal α Document := fun r d =>
  match t r d with
  | .error refusal => (.refuse refusal, d, r)
  | .ok (a, d, r) => (.commit a, d, r)

abbrev Failure := Store.Failure Refusal

def Document.format : Format Document where
  empty := .empty
  ofText := Document.ofJson
  toText d := d.toValue.prettyText

abbrev DocumentStore := Store Document

def Query.run (now : Instant) (store : DocumentStore) (q : Query) : Except Failure Answer :=
  match store.read Document.format with
  | .error cause => .error (.store cause)
  | .ok d => .ok (q.answer now d)

def Command.run (settings : Settings) (now : Instant) (store : DocumentStore) (r : Randomness)
    (command : Command) : Except Failure Answer × DocumentStore × Randomness :=
  match command.prepare settings now r with
  | (.error refusal, r) => (.error (.refused refusal), store, r)
  | (.ok transaction, r) => store.update Document.format transaction.writer r

def Operation.run (settings : Settings) (now : Instant) (store : DocumentStore) (r : Randomness) :
    Operation → Except Failure Answer × DocumentStore × Randomness
  | query q => (q.run now store, store, r)
  | command c => c.run settings now store r

end Credentials
