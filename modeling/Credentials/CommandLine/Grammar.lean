/-!
How arguments are read. A command is a group of commands, or a leaf that takes words; options may
stand anywhere after the command that has them. Reading goes through the arguments one by one and
ends early when help or the version is asked for.
-/

namespace Credentials.CommandLine

structure ValueRule where
  name : String
  accepts : String → Bool := fun _ => true
  mayBeginWithDash : Bool := false
  fallback : Option String := none

structure OptionRule where
  long : String
  short : Option Char := none
  value : Option ValueRule := none
  summary : String

structure WordRule where
  name : String
  summary : String

/-- The options that were given, by their long names, with their values; a flag has an empty one. -/
abbrev Given := List (String × String)

def Given.has (given : Given) (long : String) : Bool := (given.lookup long).isSome

/-- Commands that come to an `α`. The options of a group hold for all commands below it. -/
inductive CommandRule (α : Type) where
  | group (name summary : String) (options : List OptionRule) (commands : List (CommandRule α))
  | leaf (name summary : String) (options : List OptionRule) (words : List WordRule)
    (make : Given → List String → Option α)

namespace CommandRule

variable {α : Type}

def name : CommandRule α → String
  | group name .. => name
  | leaf name .. => name

def summary : CommandRule α → String
  | group _ summary .. => summary
  | leaf _ summary .. => summary

def options : CommandRule α → List OptionRule
  | group _ _ options _ => options
  | leaf _ _ options .. => options

def commands : CommandRule α → List (CommandRule α)
  | group _ _ _ commands => commands
  | leaf .. => []

def words : CommandRule α → List WordRule
  | group .. => []
  | leaf _ _ _ words _ => words

end CommandRule

inductive Stop where
  | usage
  | help (path : List String)
  | version
  deriving DecidableEq, Repr

structure Scan (α : Type) where
  rule : CommandRule α
  path : List String
  scope : List OptionRule
  /-- The options given to this command, and those given to commands above it. -/
  here : Given := []
  above : Given := []
  words : List String := []
  waiting : Option (OptionRule × ValueRule) := none
  escaped : Bool := false
  /-- Whether the arguments name the command that help is wanted for. -/
  asking : Bool := false

namespace Scan

variable {α : Type}

def start (rule : CommandRule α) : Scan α where
  rule := rule
  path := [rule.name]
  scope := rule.options

def isTop (s : Scan α) : Bool := s.path.length == 1

/-- An option can be given once to each command. -/
def give (s : Scan α) (option : OptionRule) (value : String) : Except Stop (Scan α) :=
  if s.here.has option.long then .error .usage
  else .ok { s with here := (option.long, value) :: s.here, waiting := none }

def giveValue (s : Scan α) (option : OptionRule) (rule : ValueRule) (value : String) :
    Except Stop (Scan α) :=
  if rule.accepts value then s.give option value else .error .usage

def giveLong (s : Scan α) (option : OptionRule) (attached : Option String) :
    Except Stop (Scan α) :=
  match option.value, attached with
  | none, none => s.give option ""
  | none, some _ => .error .usage
  | some rule, none => .ok { s with waiting := some (option, rule) }
  | some rule, some value => s.giveValue option rule value

def long (s : Scan α) (body : List Char) : Except Stop (Scan α) :=
  let name := String.ofList (body.takeWhile (· != '='))
  let attached := match body.dropWhile (· != '=') with
    | [] => none
    | _ :: value => some (String.ofList value)
  match s.scope.find? (·.long == name) with
  | some option => s.giveLong option attached
  | none =>
    if attached.isSome then .error .usage
    else if name = "help" then .error (.help s.path)
    else if name = "version" ∧ s.isTop then .error .version
    else .error .usage

/-- An argument that began with one dash, without it: flags, and at its end perhaps an option with
its value. -/
def short (s : Scan α) : List Char → Except Stop (Scan α)
  | [] => .ok s
  | c :: rest =>
    match s.scope.find? (·.short == some c) with
    | some option =>
      match option.value with
      | none =>
        match s.give option "" with
        | .ok s => s.short rest
        | .error stop => .error stop
      | some rule =>
        -- whatever else there is of the argument is the value
        match rest with
        | [] => .ok { s with waiting := some (option, rule) }
        | '=' :: value => s.giveValue option rule (String.ofList value)
        | value => s.giveValue option rule (String.ofList value)
    | none =>
      if c = 'h' then .error (.help s.path)
      else if c = 'V' ∧ s.isTop then .error .version
      else .error .usage

def enter (s : Scan α) (rule : CommandRule α) : Scan α :=
  { s with
    rule := rule
    path := s.path ++ [rule.name]
    scope := s.scope ++ rule.options
    here := []
    above := s.here ++ s.above }

def word (s : Scan α) (arg : String) : Except Stop (Scan α) :=
  match s.rule with
  | .leaf _ _ _ words _ =>
    if s.words.length < words.length then .ok { s with words := s.words ++ [arg] }
    else .error .usage
  | .group _ _ _ commands =>
    if s.escaped then .error .usage
    else match commands.find? (·.name == arg) with
      | some rule => .ok (s.enter rule)
      | none =>
        if arg = "help" ∧ s.asking = false then .ok { s with asking := true } else .error .usage

def take (s : Scan α) (arg : String) : Except Stop (Scan α) :=
  if s.asking then
    match s.rule with
    | .group .. => s.word arg
    | .leaf .. => .error .usage
  -- a dash alone is a word
  else match s.waiting, arg.toList with
    | some (option, rule), '-' :: _ :: _ =>
      if rule.mayBeginWithDash then s.giveValue option rule arg else .error .usage
    | some (option, rule), _ => s.giveValue option rule arg
    | none, '-' :: c :: rest =>
      if s.escaped then s.word arg
      else if c ≠ '-' then s.short (c :: rest)
      else if rest.isEmpty then .ok { s with escaped := true }
      else s.long rest
    | none, _ => s.word arg

/-- The options with those that variables give; what was given to the innermost command counts. -/
def given (s : Scan α) (env : List (String × String)) : Given :=
  let written := s.here ++ s.above
  let fromVariables := s.scope.filterMap fun option => do
    let rule ← option.value
    let value ← env.lookup (← rule.fallback)
    if written.has option.long then none else some (option.long, value)
  written ++ fromVariables

def finish (s : Scan α) (env : List (String × String)) : Except Stop (Given × α) :=
  if s.asking then .error (.help s.path)
  else if s.waiting.isSome then .error .usage
  else match s.rule with
    | .group .. => .error .usage
    | .leaf _ _ _ words make =>
      if s.words.length < words.length then .error .usage
      else
        let given := s.given env
        match make given s.words with
        | some a => .ok (given, a)
        | none => .error .usage

end Scan

def CommandRule.read {α : Type} (rule : CommandRule α) (env : List (String × String))
    (args : List String) : Except Stop (Given × α) := do
  let s ← args.foldlM Scan.take (Scan.start rule)
  s.finish env

end Credentials.CommandLine
