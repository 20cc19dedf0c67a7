import Credentials.Text.Base64

/-!
Opaque secrets and the randomness they are made of. Random bytes are an input: a list of draws,
each standing for as many bytes as are asked of it.
-/

namespace Credentials

abbrev Draws := List (List UInt8)

def secretOf (draw : List UInt8) : String := String.ofList (Text.Base64.encode (draw.take 32))

/-- A secret that was drawn, those refused before it because they were taken, newest first, and the
draws that are left. -/
structure FreshSecret where
  secret : String
  refused : List String
  rest : Draws

/-- Draws until a secret is free. There is no answer if the draws run out before that. -/
def freshSecret (taken : String → Bool) (refused : List String := []) : Draws → Option FreshSecret
  | [] => none
  | draw :: rest =>
    let secret := secretOf draw
    if taken secret then freshSecret taken (secret :: refused) rest
    else some ⟨secret, refused, rest⟩

structure Randomness where
  draws : Draws
  digits : Nat → Fin 10

def secretsMatch (a b : List UInt8) : Bool := a == b

end Credentials
