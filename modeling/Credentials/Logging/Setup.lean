import Credentials.Logging.Settings
import Credentials.Time.Printer

/-!
Getting ready to write logs: the filter is checked first, and then a directory is made for a target
that needs one, with a file for the day in it.
-/

namespace Credentials.Logging

open Files (FileSystem Path)
open Time (Instant)

namespace Settings

/-- The first fault of the level and then of the directives. -/
def checkFilters (s : Settings) : Except Error Unit := do
  match checkFilter s.level.toList with
  | .error cause => throw (.filter cause)
  | .ok () => pure ()
  s.directives.forM fun directive =>
    match checkDirective directive.toList with
    | .error cause => .error (.directive directive cause)
    | .ok () => .ok ()

def fileName (now : Instant) : Path := "hearth.".toList ++ Time.dateText now.date

def prepare (s : Settings) (now : Instant) (files : FileSystem) : FileSystem × Option Error :=
  match s.checkFilters with
  | .error cause => (files, some cause)
  | .ok () =>
    match s.target with
    | .file directory =>
      match files.ensureDirectory directory.toList with
      | (files, some fault) => (files, some (.directory directory fault))
      | (files, none) =>
        match files.touch (Path.join directory.toList (fileName now)) with
        | .ok files => (files, none)
        | .error _ => (files, none)
    | _ => (files, none)

end Settings

end Credentials.Logging
