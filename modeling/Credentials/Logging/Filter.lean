import Credentials.Text.Alphanumeric

/-!
Which texts can say what is logged. A directive names a target, a span with fields, and a level; a
filter is a list of directives with commas between them.
-/

namespace Credentials.Logging

inductive DirectiveError where
  | malformed
  | unknownLevel
  deriving DecidableEq, Repr

def DirectiveError.message : DirectiveError → String
  | malformed => "invalid filter directive"
  | unknownLevel =>
    "error parsing level filter: expected one of \"off\", \"error\", \"warn\", \"info\", \"debug\", \"trace\", or a number 0-5"

def lowerAscii (s : List Char) : List Char := s.map Char.toLower

def isLevel (s : List Char) : Bool :=
  ["off", "error", "warn", "info", "debug", "trace"].contains (String.ofList (lowerAscii s)) ||
    ["0", "1", "2", "3", "4", "5"].contains (String.ofList s)

/-- Where the reader of a directive is. A count says how many characters came before the part that
is being read. -/
inductive Stage where
  | start
  | levelOrTarget
  | span
  | field (first : Nat)
  | fields
  | target
  | level (first : Nat)
  | complete
  deriving DecidableEq, Repr

def checkLevel (s : List Char) : Except DirectiveError Unit :=
  if s.isEmpty || isLevel s then .ok () else .error .unknownLevel

def slice (s : List Char) (first past : Nat) : List Char := (s.take past).drop first

/-- Takes in one character. `whole` is the directive, and `i` the number of characters before this
one. -/
def advance (whole : List Char) (i : Nat) (c : Char) : Stage → Except DirectiveError Stage
  | .start =>
    if c = '[' then .ok .span
    else if c = '-' ∨ c = ':' ∨ c = '_' ∨ Text.isAlphanumeric c then .ok .levelOrTarget
    else .error .malformed
  | .levelOrTarget =>
    if c = '=' then .ok (.level (i + 1))
    else if c = '[' then .ok .span
    else if c = ',' then .ok .complete
    else .ok .levelOrTarget
  | .span =>
    if c = ']' then .ok .target else if c = '\x7b' then .ok (.field (i + 1)) else .ok .span
  | .field first =>
    if c = '\x7d' ∨ c = ',' then
      if (slice whole first i).isEmpty then .error .malformed
      else .ok (if c = '\x7d' then .fields else .field (i + 1))
    else .ok (.field first)
  | .fields => if c = ']' then .ok .target else .error .malformed
  | .target => if c = '=' then .ok (.level (i + 1)) else .error .malformed
  | .level first =>
    if c = ',' then do
      checkLevel (slice whole first i)
      return .complete
    else .ok (.level first)
  | .complete => .error .malformed

def run (whole : List Char) (i : Nat) (stage : Stage) : List Char → Except DirectiveError Stage
  | [] => .ok stage
  | c :: s => do
    let stage ← advance whole i c stage
    run whole (i + 1) stage s

/-- Whether a text is one directive. White space around it is passed over, but places in it are
counted from its very start. -/
def checkDirective (whole : List Char) : Except DirectiveError Unit := do
  match ← run whole 0 .start (Text.trim whole) with
  | .levelOrTarget => return ()
  | .target => return ()
  | .complete => return ()
  | .level first => checkLevel (whole.drop first)
  | _ => throw .malformed

/-- Whether a text is a list of directives, empty ones left out. -/
def checkFilter (whole : List Char) : Except DirectiveError Unit :=
  ((Text.fields ',' whole).filter (!·.isEmpty)).forM checkDirective

end Credentials.Logging
