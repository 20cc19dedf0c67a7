import Credentials.CommandLine.Grammar
import Credentials.CommandLine.Styled

/-!
The help for a command: what it does, how it is written, its commands, words and options.
-/

namespace Credentials.CommandLine

structure Found (α : Type) where
  rule : CommandRule α
  scope : List OptionRule

variable {α : Type}

def find? (found : Found α) : List String → Option (Found α)
  | [] => some found
  | name :: path =>
    match found.rule.commands.find? (·.name == name) with
    | some rule => find? ⟨rule, found.scope ++ rule.options⟩ path
    | none => none

abbrev Row := String × String

def table (title : String) (rows : List Row) : List String :=
  let width := rows.foldl (fun w row => max w row.1.length) 0
  if rows.isEmpty then []
  else "" :: (title ++ ":") :: rows.map fun row => "  " ++ Line.padded width row.1 ++ "  " ++ row.2

def CommandRule.row (rule : CommandRule α) : Row := (rule.name, rule.summary)

def WordRule.shown (word : WordRule) : String := "<" ++ word.name ++ ">"

def OptionRule.row (option : OptionRule) : Row :=
  let short := match option.short with
    | some c => String.ofList ['-', c, ',', ' ']
    | none => "    "
  let value := match option.value with
    | some rule => " <" ++ rule.name ++ ">"
    | none => ""
  let fallback := match option.value.bind (·.fallback) with
    | some name => " [env: " ++ name ++ "]"
    | none => ""
  (short ++ "--" ++ option.long ++ value, option.summary ++ fallback)

def helpOption : OptionRule where
  long := "help"
  short := some 'h'
  summary := "Print help"

def versionOption : OptionRule where
  long := "version"
  short := some 'V'
  summary := "Print version"

def usage (path : List String) (rule : CommandRule α) : String :=
  let parts := "Usage:" :: path ++ ["[OPTIONS]"] ++ rule.words.map WordRule.shown ++
    (if rule.commands.isEmpty then [] else ["<COMMAND>"])
  String.intercalate " " parts

/-- The help for the command at the end of a path that begins with the program. -/
def help (program : CommandRule α) (path : List String) : String :=
  match find? ⟨program, program.options⟩ path.tail with
  | none => ""
  | some ⟨rule, scope⟩ =>
    let commands :=
      if rule.commands.isEmpty then []
      else rule.commands.map CommandRule.row ++
        [("help", "Print this message or the help of the given subcommand(s)")]
    let options := scope ++ [helpOption] ++ (if path.length = 1 then [versionOption] else [])
    let lines := [rule.summary, "", usage path rule] ++ table "Commands" commands ++
      table "Arguments" (rule.words.map fun word => (word.shown, word.summary)) ++
      table "Options" (options.map OptionRule.row)
    String.join (lines.map (· ++ "\n"))

end Credentials.CommandLine
