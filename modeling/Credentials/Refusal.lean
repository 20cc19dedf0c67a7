import Credentials.Mnemonic.Error
import Credentials.Store.Basic

/-!
Why an operation gives no answer: it was refused, or the store failed.
-/

namespace Credentials

inductive Refusal where
  /-- There is no such device or credential, or it does not match, or is no longer valid. -/
  | notFound
  | cannotDeleteCaller
  | invalidExpirationDate
  | invalidUsesLeft
  | invalidMnemonic (cause : Mnemonic.Error)
  /-- The supply of randomness ended before a free secret was drawn. -/
  | outOfDraws
  deriving DecidableEq, Repr

def Refusal.message : Refusal → String
  | notFound => "not found"
  | cannotDeleteCaller => "cannot delete the token used to authenticate this request"
  | invalidExpirationDate => "expiration date must be in the future"
  | invalidUsesLeft => "uses left must be greater than zero"
  | invalidMnemonic cause => "invalid mnemonic: " ++ cause.message
  | outOfDraws => "no randomness left"

end Credentials
