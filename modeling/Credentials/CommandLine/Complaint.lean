import Credentials.CommandLine.Styled
import Credentials.Config.Loading
import Credentials.Operation

/-!
Why a command failed, as its user is told: a message, and the causes behind it.
-/

namespace Credentials.CommandLine

/-- The causes come in order, each the reason of the one before it. -/
structure Complaint where
  message : String
  causes : List String := []
  deriving DecidableEq, Repr

namespace Complaint

def behind (message : String) (c : Complaint) : Complaint := ⟨message, c.message :: c.causes⟩

def indented (width : Nat) (s : String) : String :=
  let blanks := List.replicate width ' '
  String.ofList (['\n'].intercalate (match Text.fields '\n' s.toList with
    | [] => []
    | first :: rest => first :: rest.map (blanks ++ ·)))

def numbered (i : Nat) : List String → List String
  | [] => []
  | cause :: rest =>
    let number := toString i
    let lead := String.ofList (List.replicate (5 - number.length) ' ') ++ number ++ ": "
    (lead ++ indented 7 cause) :: numbered (i + 1) rest

/-- A single cause has no number. -/
def causeLines : List String → List String
  | [] => []
  | [cause] => ["    " ++ indented 4 cause]
  | causes => numbered 0 causes

def text (c : Complaint) : String :=
  "Error: " ++ c.message ++
    (if c.causes.isEmpty then ""
      else "\n\nCaused by:" ++ String.join ((causeLines c.causes).map ("\n" ++ ·)))

def ofStore (e : Store.Error) : Complaint :=
  ⟨e.message, match e with
    | .io _ fault => [fault.message]
    | _ => []⟩

def mismatchText (cause : Decoding.Mismatch) : String :=
  cause.message ++ "\n" ++
    (if cause.keys.isEmpty then "" else "in `" ++ String.intercalate "." cause.keys ++ "`\n")

def ofConfig (e : Config.Error) : Complaint :=
  match e with
  | .unreadable _ fault => ⟨e.message, [fault.message]⟩
  | .missing _ => ⟨e.message, ["entity not found"]⟩
  | .malformed _ => ⟨e.message, ["syntax"]⟩
  | .mismatch cause =>
    ⟨"failed to parse " ++ Config.mergedName ++ ": " ++ mismatchText cause, [mismatchText cause]⟩
  | .invalid _ => ⟨e.message, []⟩

def ofRefusal (r : Refusal) : Complaint :=
  ⟨r.message, match r with
    | .invalidMnemonic cause => [cause.message]
    | _ => []⟩

def ofRefusedCommand : Command → Refusal → Complaint
  | .deleteDevice name _, .notFound => ⟨"no device named '" ++ name ++ "'", []⟩
  | .deleteDevice name _, .cannotDeleteCaller =>
    ⟨"refusing to delete '" ++ name ++ "': it holds the token you authenticated with", []⟩
  | .rotateDevice _, .notFound => ⟨"the supplied token does not belong to any device", []⟩
  | .generateRecovery _ _, .invalidExpirationDate => ⟨"--expires-at must be in the future", []⟩
  | .generateRecovery _ _, .invalidUsesLeft => ⟨"--uses must be at least 1", []⟩
  | .redeemRecovery _ _, .invalidMnemonic cause =>
    ⟨"not a valid recovery phrase: " ++ cause.message, []⟩
  | .redeemRecovery _ _, .notFound => ⟨"recovery phrase rejected", []⟩
  | .redeemPairing _ _, .notFound => ⟨"pairing secret rejected", []⟩
  | _, refusal => ofRefusal refusal

def ofFailure (operation : Operation) : Failure → Complaint
  | .store cause => ofStore cause
  | .crashed => ⟨"the operation crashed", []⟩
  | .refused refusal =>
    match operation with
    | .command command => ofRefusedCommand command refusal
    | .query _ => ofRefusal refusal

end Complaint

end Credentials.CommandLine
